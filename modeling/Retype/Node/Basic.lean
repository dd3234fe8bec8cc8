import Retype.Node.Parts

/-!
# Nodes

A *node* is a layer whose children are nodes, with what is known about its place
in the text: the offset where it starts, the comments in front of it and behind
it on its line, and whether a blank line precedes it.

All recursion over trees goes through `Node.fold`, which gives a layer of
results to a function that also sees the node itself.  `Node.preorder` lists the
nodes of a tree, every node before its children and the children from the left.
`Node.visitM` runs an action on every node in that order and rebuilds the tree on
the way back.
-/

namespace Retype

/-- A tree: a layer of trees with its place in the text. -/
structure Node where
  /-- The place in the text. -/
  info : Info
  /-- The layer. -/
  form : Form Node

namespace Node

/-- The offset where a node starts. -/
def pos (n : Node) : Int := n.info.pos

/-- The kind of a node. -/
def kind (n : Node) : String := n.form.kind

/-- The comments in front of a node. -/
def comments (n : Node) : List String := n.info.comments

/-- The comments behind a node on its line. -/
def trailing (n : Node) : List String := n.info.trailing

/-- The children of a node. -/
def children (n : Node) : List Node := n.form.children

/-- A node at an offset, without comments. -/
def plain (pos : Int) (form : Form Node) : Node := ⟨{ pos := pos }, form⟩

/-- A Flow node at an offset. -/
def flow (pos : Int) (f : FlowForm Node) : Node := .plain pos (.flow f)

/-- A TypeScript node at an offset. -/
def ts (pos : Int) (f : TsForm Node) : Node := .plain pos (.ts f)

/-- An expression at an offset. -/
def expr (pos : Int) (f : ExprForm Node) : Node := .plain pos (.expr f)

/-- A statement at an offset. -/
def stmt (pos : Int) (f : StmtForm Node) : Node := .plain pos (.stmt f)

/-- An identifier at an offset. -/
def ident (pos : Int) (name : String) : Node := .expr pos (.ident name)

/-- The same node at another offset. -/
def moveTo (n : Node) (pos : Int) : Node := { n with info := { n.info with pos := pos } }

/-- The same place with another layer. -/
def withForm (n : Node) (form : Form Node) : Node := { n with form := form }

/-- The same node with one more comment behind those in front of it. -/
def addComment (n : Node) (c : String) : Node :=
  { n with info := { n.info with comments := n.info.comments ++ [c] } }

/-- Takes over the layer of `other` and the comments of it that are new, and stays
at its own place. -/
def become (n other : Node) : Node where
  info := { n.info with
    comments := n.comments ++ other.comments.filter (· ∉ n.comments)
    trailing := n.trailing ++ other.trailing.filter (· ∉ n.trailing) }
  form := other.form

/-- The node with the comments of `old` in front of its own. -/
def keepComments (old new : Node) : Node :=
  { new with info := { new.info with
    comments := old.comments ++ new.comments
    trailing := old.trailing ++ new.trailing } }

/-- Whether a node already belongs to the TypeScript dialect. -/
def isTs (n : Node) : Bool :=
  match n.form with
  | .ts _ => true
  | .foreign k _ => k.startsWith "ts_"
  | _ => false

end Node

/-! ## Recursion over trees -/

variable {β : Type}

mutual

/-- Replaces every node by a result, the children first. -/
def Node.fold (g : Node → Form β → β) : Node → β
  | ⟨i, f⟩ => g ⟨i, f⟩ (foldForm g f)

/-- Folds the children of a layer. -/
def foldForm (g : Node → Form β → β) : Form Node → Form β
  | .flow f => .flow (foldFlowForm g f)
  | .ts f => .ts (foldTsForm g f)
  | .expr f => .expr (foldExprForm g f)
  | .stmt f => .stmt (foldStmtForm g f)
  | .foreign k ps => .foreign k (foldParts g ps)

/-- Folds a child that may be missing. -/
def foldChild? (g : Node → Form β → β) : Option Node → Option β
  | none => none
  | some n => some (n.fold g)

/-- Folds a list of children. -/
def foldChildren (g : Node → Form β → β) : List Node → List β
  | [] => []
  | n :: ns => n.fold g :: foldChildren g ns

/-- Folds the children inside a part. -/
def foldPart (g : Node → Form β → β) : Part Node → Part β
  | .node n => .node (n.fold g)
  | .list items => .list (foldItems g items)
  | .text s => .text s
  | .flag b => .flag b
  | .absent => .absent

/-- Folds the child that an item may be. -/
def foldItem (g : Node → Form β → β) : Item Node → Item β
  | .node n => .node (n.fold g)
  | .datum d => .datum d

/-- Folds the children among items. -/
def foldItems (g : Node → Form β → β) : List (Item Node) → List (Item β)
  | [] => []
  | i :: is => foldItem g i :: foldItems g is

/-- Folds the children inside a list of parts. -/
def foldParts (g : Node → Form β → β) : List (Part Node) → List (Part β)
  | [] => []
  | p :: ps => foldPart g p :: foldParts g ps

/-- Folds the children of a layer. -/
def foldFlowForm (g : Node → Form β → β) : FlowForm Node → FlowForm β
  | .primitive a => .primitive a
  | .stringLit a => .stringLit a
  | .numberLit a => .numberLit a
  | .booleanLit a => .booleanLit a
  | .nullable a => .nullable (a.fold g)
  | .array a => .array (a.fold g)
  | .tuple a => .tuple (foldChildren g a)
  | .union a => .union (foldChildren g a)
  | .intersection a => .intersection (foldChildren g a)
  | .object a b => .object (foldChildren g a) b
  | .generic a b => .generic (a.fold g) (foldChild? g b)
  | .function a b c d => .function (foldChild? g a) (foldChildren g b) (foldChild? g c) (d.fold g)
  | .typeOf a => .typeOf (a.fold g)
  | .prop a b c d e => .prop a (b.fold g) c d e
  | .indexer a b c d => .indexer a (b.fold g) (c.fold g) d
  | .spread a => .spread (a.fold g)
  | .param a b c => .param a (b.fold g) c
  | .tparams a => .tparams (foldChildren g a)
  | .tparam a b c d => .tparam a (foldChild? g b) (foldChild? g c) d
  | .targs a => .targs (foldChildren g a)
  | .annot a => .annot (a.fold g)
  | .ifaceExt a b => .ifaceExt (a.fold g) (foldChild? g b)
  | .qualified a b => .qualified (a.fold g) b
  | .typecast a b => .typecast (a.fold g) (b.fold g)
  | .typeAlias a b c d => .typeAlias a (foldChild? g b) (c.fold g) d
  | .opaqueType a b c d e => .opaqueType a (foldChild? g b) (foldChild? g c) (foldChild? g d) e
  | .interface a b c d e => .interface a (foldChild? g b) (foldChildren g c) (d.fold g) e
  | .declareVar a b c => .declareVar a b (foldChild? g c)
  | .declareFunction a b => .declareFunction a (foldChild? g b)
  | .declareClass a b c d => .declareClass a (foldChild? g b) (foldChildren g c) (d.fold g)
  | .declareExport a b => .declareExport (a.fold g) b

/-- Folds the children of a layer. -/
def foldTsForm (g : Node → Form β → β) : TsForm Node → TsForm β
  | .keyword a => .keyword a
  | .literal a => .literal a
  | .array a => .array (a.fold g)
  | .tuple a => .tuple (foldChildren g a)
  | .union a => .union (foldChildren g a)
  | .intersection a => .intersection (foldChildren g a)
  | .typeLiteral a => .typeLiteral (foldChildren g a)
  | .propSig a b c d => .propSig a (b.fold g) c d
  | .methodSig a b c => .methodSig a (b.fold g) c
  | .indexSig a b c d => .indexSig a (b.fold g) (c.fold g) d
  | .mapped a b c d => .mapped a (b.fold g) (c.fold g) d
  | .function a b c d => .function (foldChild? g a) (foldChildren g b) (foldChild? g c) (d.fold g)
  | .param a b c => .param a (b.fold g) c
  | .ref a b => .ref (a.fold g) (foldChild? g b)
  | .typeOf a => .typeOf (a.fold g)
  | .keyOf a => .keyOf (a.fold g)
  | .indexed a b => .indexed (a.fold g) (b.fold g)
  | .tparams a => .tparams (foldChildren g a)
  | .tparam a b c => .tparam a (foldChild? g b) (foldChild? g c)
  | .targs a => .targs (foldChildren g a)
  | .annot a => .annot (a.fold g)
  | .heritage a b => .heritage (a.fold g) (foldChild? g b)
  | .qualified a b => .qualified (a.fold g) b
  | .cast a b => .cast (a.fold g) (b.fold g)
  | .typeAlias a b c d => .typeAlias a (foldChild? g b) (c.fold g) d
  | .interface a b c d e => .interface a (foldChild? g b) (foldChildren g c) (foldChildren g d) e
  | .declareVar a b c => .declareVar a b (foldChild? g c)
  | .declareFunction a b c d e =>
    .declareFunction a (foldChild? g b) (foldChildren g c) (foldChild? g d) (e.fold g)
  | .declareClass a b c d => .declareClass a (foldChild? g b) (foldChild? g c) (foldChild? g d)

/-- Folds the children of a layer. -/
def foldExprForm (g : Node → Form β → β) : ExprForm Node → ExprForm β
  | .ident a => .ident a
  | .this => .this
  | .num a => .num a
  | .str a => .str a
  | .template a b => .template a (foldChildren g b)
  | .bool a => .bool a
  | .null => .null
  | .array a => .array (foldChildren g a)
  | .spread a => .spread (a.fold g)
  | .object a => .object (foldChildren g a)
  | .prop a b c => .prop a (b.fold g) c
  | .computedProp a b => .computedProp (a.fold g) (b.fold g)
  | .method a b => .method a (b.fold g)
  | .function a b c d e h i =>
    .function a (foldChild? g b) (foldChildren g c) (foldChild? g d) (e.fold g) h i
  | .arrow a b c d e => .arrow (foldChild? g a) (foldChildren g b) (foldChild? g c) (d.fold g) e
  | .param a b c d e => .param (a.fold g) (foldChild? g b) c (foldChild? g d) e
  | .pattern a => .pattern (foldChildren g a)
  | .patternProp a b c d => .patternProp a (foldChild? g b) (foldChild? g c) d
  | .call a b c => .call (a.fold g) (foldChildren g b) c
  | .construct a b c => .construct (a.fold g) (foldChild? g b) (foldChildren g c)
  | .constructBare a b => .constructBare (a.fold g) (foldChild? g b)
  | .member a b c => .member (a.fold g) b c
  | .index a b c => .index (a.fold g) (b.fold g) c
  | .unary a b => .unary a (b.fold g)
  | .update a b c => .update a (b.fold g) c
  | .binary a b c => .binary a (b.fold g) (c.fold g)
  | .cond a b c => .cond (a.fold g) (b.fold g) (c.fold g)
  | .assign a b c => .assign a (b.fold g) (c.fold g)
  | .paren a => .paren (a.fold g)

/-- Folds the children of a layer. -/
def foldStmtForm (g : Node → Form β → β) : StmtForm Node → StmtForm β
  | .program a => .program (foldChildren g a)
  | .block a => .block (foldChildren g a)
  | .exprStmt a => .exprStmt (a.fold g)
  | .varDecl a b => .varDecl a (foldChildren g b)
  | .declarator a b c => .declarator (a.fold g) (foldChild? g b) (foldChild? g c)
  | .ret a => .ret (foldChild? g a)
  | .throw a => .throw (a.fold g)
  | .cond a b c => .cond (a.fold g) (foldChild? g b) (foldChild? g c)
  | .loop a b => .loop (a.fold g) (foldChild? g b)
  | .classDecl a b c d e h =>
    .classDecl a (foldChild? g b) (foldChild? g c) (foldChild? g d) (foldChildren g e) (foldChildren g h)
  | .classProp a b c d e h => .classProp a (foldChild? g b) (foldChild? g c) d e h
  | .classMethod a b c => .classMethod a (b.fold g) c
  | .importDecl a b c => .importDecl a (foldChildren g b) c
  | .importDefault a => .importDefault a
  | .importAll a => .importAll a
  | .importSpec a b c => .importSpec a b c
  | .exportNamed a b c d => .exportNamed (foldChild? g a) (foldChildren g b) c d
  | .exportSpec a b => .exportSpec a b
  | .exportDefault a => .exportDefault (a.fold g)
  | .exportAll a b => .exportAll a b
end

/-- The nodes of a tree, every node before its children. -/
def Node.preorder (n : Node) : List Node :=
  n.fold fun n results => n :: results.children.flatten

/-- Acts on every node of a tree, every node before its children.  The action
says how to finish the node once its children are done. -/
def Node.visitM {m : Type → Type} [Monad m] (act : Node → m (Node → Node)) (n : Node) : m Node :=
  n.fold fun n (results : Form (m Node)) => do
    let finish ← act n
    return finish (n.withForm (← results.mapM id))

end Retype
