import Retype.Node.Datum
import Retype.Node.Operator

/-!
# Forms

A *form* is one layer of a tree: the kind of a node with the values that kind
has.  The children of the layer are of a type `α` that is left open, so a form
of nodes, a form of texts and a form of results all have the same shape.

Forms come in four groups, one type each.  `FlowForm` and `TsForm` hold what
only one dialect has.  `ExprForm` and `StmtForm` hold what both share.  The
groups do not say which child may stand where: a tree may be half converted, and
it may be given from outside.  A layer whose kind or layout is none of the four
groups is `Form.foreign`, with its values as plain parts.  A part is a child, a list
with children among its items, or data.  There are no children deeper than that.
-/

namespace Retype

/-- What a node of the Flow dialect holds. -/
inductive FlowForm (α : Type) where
  /-- A type that is one word. -/
  | primitive (type : FlowPrimitive)
  /-- A string literal type, with its quotes. -/
  | stringLit (raw : String)
  /-- A number literal type. -/
  | numberLit (raw : String)
  /-- `true` or `false` as a type. -/
  | booleanLit (raw : String)
  /-- `?T`. -/
  | nullable (inner : α)
  /-- `T[]`. -/
  | array (elem : α)
  /-- `[S, T]`. -/
  | tuple (types : List α)
  /-- `S | T`. -/
  | union (types : List α)
  /-- `S & T`. -/
  | intersection (types : List α)
  /-- An object type, `exact` if written between bars. -/
  | object (members : List α) (exact : Bool)
  /-- A name with type arguments. -/
  | generic (id : α) (targs : Option α)
  /-- `<T>(S, ...R) => U`. -/
  | function (tparams : Option α) (params : List α) (rest : Option α) (ret : α)
  /-- `typeof T`. -/
  | typeOf (arg : α)
  /-- A field or a method of an object type. -/
  | prop (key : String) (value : α) (optional : Bool) (variance : Option Variance) (method : Bool)
  /-- `[K]: V` or `[id: K]: V`. -/
  | indexer (id : Option String) (key : α) (value : α) (variance : Option Variance)
  /-- `...T` in an object type. -/
  | spread (type : α)
  /-- A parameter of a function type. -/
  | param (name : Option String) (type : α) (optional : Bool)
  /-- The type parameters of a declaration. -/
  | tparams (params : List α)
  /-- One type parameter. -/
  | tparam (name : String) (bound : Option α) (default : Option α) (variance : Option Variance)
  /-- The type arguments of a reference. -/
  | targs (types : List α)
  /-- `: T` behind a binding. -/
  | annot (type : α)
  /-- An entry of an `extends` or `implements` list. -/
  | ifaceExt (id : α) (targs : Option α)
  /-- `a.b` in type position. -/
  | qualified (left : α) (name : String)
  /-- `(e: T)`. -/
  | typecast (expr : α) (annot : α)
  /-- `type A = T`. -/
  | typeAlias (name : String) (tparams : Option α) (type : α) (declare : Bool)
  /-- An alias whose right side is hidden. -/
  | opaqueType (name : String) (tparams : Option α) (supertype : Option α) (type : Option α) (declare : Bool)
  /-- An interface declaration. -/
  | interface (name : String) (tparams : Option α) (parents : List α) (body : α) (declare : Bool)
  /-- `declare var x: T`. -/
  | declareVar (kind : VarKind) (name : String) (annot : Option α)
  /-- `declare function f(S): T`. -/
  | declareFunction (name : String) (annot : Option α)
  /-- `declare class C { ... }`. -/
  | declareClass (name : String) (tparams : Option α) (parents : List α) (body : α)
  /-- `declare export ...`. -/
  | declareExport (decl : α) (isDefault : Bool)

/-- What a node of the TypeScript dialect holds. -/
inductive TsForm (α : Type) where
  /-- A type that is a keyword. -/
  | keyword (type : TsKeyword)
  /-- A literal type as it was written. -/
  | literal (raw : String)
  /-- `T[]`. -/
  | array (elem : α)
  /-- `[S, T]`. -/
  | tuple (types : List α)
  /-- `S | T`. -/
  | union (types : List α)
  /-- `S & T`. -/
  | intersection (types : List α)
  /-- An object type. -/
  | typeLiteral (members : List α)
  /-- A field. -/
  | propSig (key : String) (type : α) (optional : Bool) (readonly : Bool)
  /-- A method. -/
  | methodSig (key : String) (fn : α) (optional : Bool)
  /-- `[name: K]: V`. -/
  | indexSig (name : String) (key : α) (value : α) (readonly : Bool)
  /-- `{ [name in K]: V }`. -/
  | mapped (name : String) (constraint : α) (value : α) (readonly : Bool)
  /-- `<T>(x: S, ...r: R) => U`. -/
  | function (tparams : Option α) (params : List α) (rest : Option α) (ret : α)
  /-- A parameter of a function type. -/
  | param (name : String) (type : α) (optional : Bool)
  /-- A name with type arguments. -/
  | ref (entity : α) (targs : Option α)
  /-- `typeof a.b`. -/
  | typeOf (entity : α)
  /-- `keyof T`. -/
  | keyOf (type : α)
  /-- `T[K]`. -/
  | indexed (object : α) (index : α)
  /-- The type parameters of a declaration. -/
  | tparams (params : List α)
  /-- One type parameter. -/
  | tparam (name : String) (constraint : Option α) (default : Option α)
  /-- The type arguments of a reference. -/
  | targs (types : List α)
  /-- `: T` behind a binding. -/
  | annot (type : α)
  /-- An entry of an `extends` or `implements` list. -/
  | heritage (entity : α) (targs : Option α)
  /-- `a.b` in type position. -/
  | qualified (left : α) (name : String)
  /-- `e as T`. -/
  | cast (expr : α) (type : α)
  /-- `type A = T`. -/
  | typeAlias (name : String) (tparams : Option α) (type : α) (declare : Bool)
  /-- An interface declaration. -/
  | interface (name : String) (tparams : Option α) (heritage : List α) (members : List α) (declare : Bool)
  /-- `declare var x: T`. -/
  | declareVar (kind : VarKind) (name : String) (annot : Option α)
  /-- `declare function f(x: S): T`. -/
  | declareFunction (name : String) (tparams : Option α) (params : List α) (rest : Option α) (ret : α)
  /-- `declare class C extends S`. -/
  | declareClass (name : String) (tparams : Option α) (super : Option α) (superArgs : Option α)

/-- What an expression, or a part of one, holds in both dialects. -/
inductive ExprForm (α : Type) where
  /-- An identifier. -/
  | ident (name : String)
  /-- `this`. -/
  | this
  /-- A number as it was written. -/
  | num (raw : String)
  /-- A string with its quotes. -/
  | str (raw : String)
  /-- A template literal: the texts around its substitutions. -/
  | template (quasis : List String) (exprs : List α)
  /-- `true` or `false`. -/
  | bool (value : Bool)
  /-- `null`. -/
  | null
  /-- `[a, b]`. -/
  | array (elems : List α)
  /-- `...e`. -/
  | spread (expr : α)
  /-- `{ a: 1 }`. -/
  | object (props : List α)
  /-- A property with a fixed key. -/
  | prop (key : String) (value : α) (shorthand : Bool)
  /-- A property with a computed key. -/
  | computedProp (key : α) (value : α)
  /-- A method of an object literal. -/
  | method (key : String) (fn : α)
  /-- A function, declared or used as an expression. -/
  | function (name : Option String) (tparams : Option α) (params : List α) (ret : Option α) (body : α) (isAsync : Bool) (isExpr : Bool)
  /-- An arrow function. -/
  | arrow (tparams : Option α) (params : List α) (ret : Option α) (body : α) (isAsync : Bool)
  /-- A parameter of a function. -/
  | param (binding : α) (annot : Option α) (optional : Bool) (default : Option α) (rest : Bool)
  /-- A destructuring pattern. -/
  | pattern (props : List α)
  /-- One entry of a pattern. -/
  | patternProp (key : String) (binding : Option α) (default : Option α) (rest : Bool)
  /-- `f(a)` or `f?.(a)`. -/
  | call (callee : α) (args : List α) (optional : Bool)
  /-- `new C<T>(a)`. -/
  | construct (callee : α) (targs : Option α) (args : List α)
  /-- `new C` without an argument list. -/
  | constructBare (callee : α) (targs : Option α)
  /-- `o.p` or `o?.p`. -/
  | member (object : α) (property : String) (optional : Bool)
  /-- `o[p]` or `o?.[p]`. -/
  | index (object : α) (property : α) (optional : Bool)
  /-- An operator in front of its operand. -/
  | unary (op : UnaryOp) (arg : α)
  /-- `++x` or `x++`. -/
  | update (op : UpdateOp) (arg : α) (isPrefix : Bool)
  /-- An operator between two operands. -/
  | binary (op : BinaryOp) (left : α) (right : α)
  /-- `t ? a : b`. -/
  | cond (test : α) (cons : α) (alt : α)
  /-- An assignment. -/
  | assign (op : AssignOp) (target : α) (value : α)
  /-- Parentheses that end an optional chain. -/
  | paren (expr : α)

/-- What a statement, or a part of one, holds in both dialects. -/
inductive StmtForm (α : Type) where
  /-- A whole file. -/
  | program (stmts : List α)
  /-- Statements between braces. -/
  | block (stmts : List α)
  /-- An expression as a statement. -/
  | exprStmt (expr : α)
  /-- A variable declaration. -/
  | varDecl (kind : VarKind) (declarators : List α)
  /-- One variable of a declaration. -/
  | declarator (binding : α) (annot : Option α) (init : Option α)
  /-- `return e`. -/
  | ret (expr : Option α)
  /-- `throw e`. -/
  | throw (expr : α)
  /-- `if`; an absent branch is an empty statement. -/
  | cond (test : α) (cons : Option α) (alt : Option α)
  /-- `while`; an absent body is an empty statement. -/
  | loop (test : α) (body : Option α)
  /-- A class declaration. -/
  | classDecl (name : String) (tparams : Option α) (super : Option α) (superArgs : Option α) (implements : List α) (members : List α)
  /-- A field of a class. -/
  | classProp (key : String) (annot : Option α) (value : Option α) (isStatic : Bool) (variance : Option Variance) (optional : Bool)
  /-- A method of a class. -/
  | classMethod (key : String) (fn : α) (isStatic : Bool)
  /-- An import. -/
  | importDecl (kind : Option ImportKind) (specs : List α) (source : String)
  /-- The default binding of an import. -/
  | importDefault (name : String)
  /-- `* as ns`. -/
  | importAll (name : String)
  /-- A named binding of an import. -/
  | importSpec (imported : String) (name : String) (kind : Option ImportKind)
  /-- An exported declaration or list of names. -/
  | exportNamed (decl : Option α) (specs : List α) (source : Option String) (kind : Option ImportKind)
  /-- One name of an export list. -/
  | exportSpec (name : String) (exported : String)
  /-- `export default ...`. -/
  | exportDefault (decl : α)
  /-- `export * from ...`. -/
  | exportAll (rename : Option String) (source : String)

/-- A value in a list, seen without its meaning. -/
inductive Item (α : Type) where
  | node (n : α)
  | datum (d : Datum)

/-- A value of a layer, seen without its meaning. -/
inductive Part (α : Type) where
  | node (n : α)
  | list (items : List (Item α))
  | text (s : String)
  | flag (b : Bool)
  | absent

/-- One layer of a tree. -/
inductive Form (α : Type) where
  | flow (f : FlowForm α)
  | ts (f : TsForm α)
  | expr (f : ExprForm α)
  | stmt (f : StmtForm α)
  /-- A layer of no known kind or layout. -/
  | foreign (kind : String) (parts : List (Part α))

/-! ## Effectful maps over one layer -/

variable {m : Type → Type} [Monad m] {α β : Type}

/-- Acts on the child that may be missing. -/
def mapChild? (f : α → m β) : Option α → m (Option β)
  | none => pure none
  | some a => do return some (← f a)

/-- Acts on the values of a list from the left. -/
def mapChildren (f : α → m β) : List α → m (List β)
  | [] => pure []
  | a :: as => do return (← f a) :: (← mapChildren f as)

/-- Acts on the child that an item may be. -/
def Item.mapM (f : α → m β) : Item α → m (Item β)
  | .node n => do return .node (← f n)
  | .datum d => pure (.datum d)

/-- Acts on the children inside a part. -/
def Part.mapM (f : α → m β) : Part α → m (Part β)
  | .node n => do return .node (← f n)
  | .list items => do return .list (← mapChildren (·.mapM f) items)
  | .text s => pure (.text s)
  | .flag b => pure (.flag b)
  | .absent => pure .absent

/-- Acts on the children of a layer from left to right. -/
def FlowForm.mapM (f : α → m β) : FlowForm α → m (FlowForm β)
  | .primitive a => pure (.primitive a)
  | .stringLit a => pure (.stringLit a)
  | .numberLit a => pure (.numberLit a)
  | .booleanLit a => pure (.booleanLit a)
  | .nullable a => do return .nullable (← f a)
  | .array a => do return .array (← f a)
  | .tuple a => do return .tuple (← mapChildren f a)
  | .union a => do return .union (← mapChildren f a)
  | .intersection a => do return .intersection (← mapChildren f a)
  | .object a b => do return .object (← mapChildren f a) b
  | .generic a b => do return .generic (← f a) (← mapChild? f b)
  | .function a b c d =>
    do return .function (← mapChild? f a) (← mapChildren f b) (← mapChild? f c) (← f d)
  | .typeOf a => do return .typeOf (← f a)
  | .prop a b c d e => do return .prop a (← f b) c d e
  | .indexer a b c d => do return .indexer a (← f b) (← f c) d
  | .spread a => do return .spread (← f a)
  | .param a b c => do return .param a (← f b) c
  | .tparams a => do return .tparams (← mapChildren f a)
  | .tparam a b c d => do return .tparam a (← mapChild? f b) (← mapChild? f c) d
  | .targs a => do return .targs (← mapChildren f a)
  | .annot a => do return .annot (← f a)
  | .ifaceExt a b => do return .ifaceExt (← f a) (← mapChild? f b)
  | .qualified a b => do return .qualified (← f a) b
  | .typecast a b => do return .typecast (← f a) (← f b)
  | .typeAlias a b c d => do return .typeAlias a (← mapChild? f b) (← f c) d
  | .opaqueType a b c d e =>
    do return .opaqueType a (← mapChild? f b) (← mapChild? f c) (← mapChild? f d) e
  | .interface a b c d e => do return .interface a (← mapChild? f b) (← mapChildren f c) (← f d) e
  | .declareVar a b c => do return .declareVar a b (← mapChild? f c)
  | .declareFunction a b => do return .declareFunction a (← mapChild? f b)
  | .declareClass a b c d => do return .declareClass a (← mapChild? f b) (← mapChildren f c) (← f d)
  | .declareExport a b => do return .declareExport (← f a) b

/-- Acts on the children of a layer from left to right. -/
def TsForm.mapM (f : α → m β) : TsForm α → m (TsForm β)
  | .keyword a => pure (.keyword a)
  | .literal a => pure (.literal a)
  | .array a => do return .array (← f a)
  | .tuple a => do return .tuple (← mapChildren f a)
  | .union a => do return .union (← mapChildren f a)
  | .intersection a => do return .intersection (← mapChildren f a)
  | .typeLiteral a => do return .typeLiteral (← mapChildren f a)
  | .propSig a b c d => do return .propSig a (← f b) c d
  | .methodSig a b c => do return .methodSig a (← f b) c
  | .indexSig a b c d => do return .indexSig a (← f b) (← f c) d
  | .mapped a b c d => do return .mapped a (← f b) (← f c) d
  | .function a b c d =>
    do return .function (← mapChild? f a) (← mapChildren f b) (← mapChild? f c) (← f d)
  | .param a b c => do return .param a (← f b) c
  | .ref a b => do return .ref (← f a) (← mapChild? f b)
  | .typeOf a => do return .typeOf (← f a)
  | .keyOf a => do return .keyOf (← f a)
  | .indexed a b => do return .indexed (← f a) (← f b)
  | .tparams a => do return .tparams (← mapChildren f a)
  | .tparam a b c => do return .tparam a (← mapChild? f b) (← mapChild? f c)
  | .targs a => do return .targs (← mapChildren f a)
  | .annot a => do return .annot (← f a)
  | .heritage a b => do return .heritage (← f a) (← mapChild? f b)
  | .qualified a b => do return .qualified (← f a) b
  | .cast a b => do return .cast (← f a) (← f b)
  | .typeAlias a b c d => do return .typeAlias a (← mapChild? f b) (← f c) d
  | .interface a b c d e =>
    do return .interface a (← mapChild? f b) (← mapChildren f c) (← mapChildren f d) e
  | .declareVar a b c => do return .declareVar a b (← mapChild? f c)
  | .declareFunction a b c d e =>
    do return .declareFunction a (← mapChild? f b) (← mapChildren f c) (← mapChild? f d) (← f e)
  | .declareClass a b c d =>
    do return .declareClass a (← mapChild? f b) (← mapChild? f c) (← mapChild? f d)

/-- Acts on the children of a layer from left to right. -/
def ExprForm.mapM (f : α → m β) : ExprForm α → m (ExprForm β)
  | .ident a => pure (.ident a)
  | .this => pure .this
  | .num a => pure (.num a)
  | .str a => pure (.str a)
  | .template a b => do return .template a (← mapChildren f b)
  | .bool a => pure (.bool a)
  | .null => pure .null
  | .array a => do return .array (← mapChildren f a)
  | .spread a => do return .spread (← f a)
  | .object a => do return .object (← mapChildren f a)
  | .prop a b c => do return .prop a (← f b) c
  | .computedProp a b => do return .computedProp (← f a) (← f b)
  | .method a b => do return .method a (← f b)
  | .function a b c d e h i =>
    do return .function a (← mapChild? f b) (← mapChildren f c) (← mapChild? f d) (← f e) h i
  | .arrow a b c d e =>
    do return .arrow (← mapChild? f a) (← mapChildren f b) (← mapChild? f c) (← f d) e
  | .param a b c d e => do return .param (← f a) (← mapChild? f b) c (← mapChild? f d) e
  | .pattern a => do return .pattern (← mapChildren f a)
  | .patternProp a b c d => do return .patternProp a (← mapChild? f b) (← mapChild? f c) d
  | .call a b c => do return .call (← f a) (← mapChildren f b) c
  | .construct a b c => do return .construct (← f a) (← mapChild? f b) (← mapChildren f c)
  | .constructBare a b => do return .constructBare (← f a) (← mapChild? f b)
  | .member a b c => do return .member (← f a) b c
  | .index a b c => do return .index (← f a) (← f b) c
  | .unary a b => do return .unary a (← f b)
  | .update a b c => do return .update a (← f b) c
  | .binary a b c => do return .binary a (← f b) (← f c)
  | .cond a b c => do return .cond (← f a) (← f b) (← f c)
  | .assign a b c => do return .assign a (← f b) (← f c)
  | .paren a => do return .paren (← f a)

/-- Acts on the children of a layer from left to right. -/
def StmtForm.mapM (f : α → m β) : StmtForm α → m (StmtForm β)
  | .program a => do return .program (← mapChildren f a)
  | .block a => do return .block (← mapChildren f a)
  | .exprStmt a => do return .exprStmt (← f a)
  | .varDecl a b => do return .varDecl a (← mapChildren f b)
  | .declarator a b c => do return .declarator (← f a) (← mapChild? f b) (← mapChild? f c)
  | .ret a => do return .ret (← mapChild? f a)
  | .throw a => do return .throw (← f a)
  | .cond a b c => do return .cond (← f a) (← mapChild? f b) (← mapChild? f c)
  | .loop a b => do return .loop (← f a) (← mapChild? f b)
  | .classDecl a b c d e h =>
    do return .classDecl a (← mapChild? f b) (← mapChild? f c) (← mapChild? f d) (← mapChildren f e) (← mapChildren f h)
  | .classProp a b c d e h => do return .classProp a (← mapChild? f b) (← mapChild? f c) d e h
  | .classMethod a b c => do return .classMethod a (← f b) c
  | .importDecl a b c => do return .importDecl a (← mapChildren f b) c
  | .importDefault a => pure (.importDefault a)
  | .importAll a => pure (.importAll a)
  | .importSpec a b c => pure (.importSpec a b c)
  | .exportNamed a b c d => do return .exportNamed (← mapChild? f a) (← mapChildren f b) c d
  | .exportSpec a b => pure (.exportSpec a b)
  | .exportDefault a => do return .exportDefault (← f a)
  | .exportAll a b => pure (.exportAll a b)

/-- Acts on the children of a layer from left to right. -/
def Form.mapM (f : α → m β) : Form α → m (Form β)
  | .flow g => do return .flow (← g.mapM f)
  | .ts g => do return .ts (← g.mapM f)
  | .expr g => do return .expr (← g.mapM f)
  | .stmt g => do return .stmt (← g.mapM f)
  | .foreign k ps => do return .foreign k (← mapChildren (·.mapM f) ps)

/-- Changes the children of a layer. -/
def Form.map (f : α → β) (g : Form α) : Form β := Id.run (g.mapM fun a => pure (f a))

end Retype
