import Retype.Failure
import Retype.Printer.Layout

/-!
# Printing trees

A converted tree is printed as TypeScript text.  Every function here prints a
node in one role: as a type, as an expression, as a statement, as a member and so
on.  The indentation `ind` is that of the line the node starts on.  A node that
has no text in the role asked for fails, and the first such node from the left is
the one named.

The functions call each other on children only, so they are one structural
recursion.  What a function needs of a child besides its text, its level and its
comments, is read off the child by `typeText` and `exprText`.
-/

namespace Retype.Printer

/-- The failure of a node that has no text. -/
def unprintable {α : Type} (n : Node) : Except Failure α := .error (.unprintable n.kind n.pos)

/-- The text of a type where one of at least a level is asked for. -/
def typeText (least : Nat) (t : Node) (text : String) : String := guarded (typeLevel t) least text

/-- The text of an expression, with its comments, where one of at least a level is
asked for. -/
def exprText (least : Nat) (e : Node) (text : String) : String :=
  guarded (exprLevel e) least (leadingText e ++ text)

/-- The text of statements between braces, from the texts of the statements. -/
def blockText (ind : String) (stmts : List Node) (texts : List String) : String :=
  if stmts.isEmpty then "\x7b\x7d"
  else braces ind (statementLines (ind ++ indent) true (stmts.zip texts))

/-- The text of members between braces, or of none. -/
def membersText (ind sep last : String) (members : List Node) (texts : List String) : String :=
  if members.isEmpty then "\x7b\x7d" else memberBlock ind sep last (members.zip texts)

/-- The head of a function from its parts. -/
def signatureText (tparams : String) (params : List String) (ret : String) : String :=
  tparams ++ "(" ++ commas params ++ ")" ++ ret

/-- An expression that would be read as something else at the start of a
statement. -/
def looksLikeStatement (text : String) : Bool :=
  text.startsWith "\x7b" || text.startsWith "function" || text.startsWith "async function"

/-- An operator in front of its operand.  A word is set off by a blank, and so is
a sign from an operand that starts with the same one. -/
def unaryText (op : UnaryOp) (text : String) : String :=
  if op.isWord || (op.isSign && text.startsWith op.text) then op.text ++ " " ++ text
  else op.text ++ text

/-- What is printed for a parameter that has no name. -/
def noName : String := "None"

/-- Whether a node is a call. -/
def isCall (n : Node) : Bool :=
  match n.form with
  | .expr (.call ..) => true
  | _ => false

mutual

/-- A type. -/
def ty (ind : String) : Node → Except Failure String
  | ⟨_, .ts (.keyword k)⟩ => .ok k.text
  | ⟨_, .ts (.literal raw)⟩ => .ok (doubleQuoted raw)
  | ⟨_, .ts (.union types)⟩ => do return " | ".intercalate (← tys 2 ind types)
  | ⟨_, .ts (.intersection types)⟩ => do return " & ".intercalate (← tys 3 ind types)
  | ⟨_, .ts (.array elem)⟩ => do return typeText 4 elem (← ty ind elem) ++ "[]"
  | ⟨_, .ts (.tuple types)⟩ => do return "[" ++ commas (← tys 0 ind types) ++ "]"
  | ⟨_, .ts (.keyOf type)⟩ => do return "keyof " ++ typeText 3 type (← ty ind type)
  | ⟨_, .ts (.indexed object index)⟩ => do
    return typeText 4 object (← ty ind object) ++ "[" ++ (← ty ind index) ++ "]"
  | ⟨_, .ts (.typeOf entity)⟩ => do return "typeof " ++ (← ty ind entity)
  | ⟨_, .ts (.ref entity args)⟩ => do return (← ty ind entity) ++ (← targs ind args)
  | ⟨_, .expr (.ident name)⟩ => .ok name
  | ⟨_, .ts (.qualified left name)⟩ => do return (← ty ind left) ++ "." ++ name
  | ⟨_, .ts (.function tps ps rest ret)⟩ => do
    return (← tparams ind tps) ++ "(" ++ commas ((← sigParams ind ps) ++ (← sigRest ind rest))
      ++ ") => " ++ (← ty ind ret)
  | ⟨_, .ts (.typeLiteral members)⟩ => do
    return membersText ind "," "" members (← typeMembers (ind ++ indent) members)
  | ⟨_, .ts (.mapped name constraint value readonly)⟩ => do
    return "\x7b " ++ when readonly "readonly " ++ "[" ++ name ++ " in " ++ (← ty ind constraint)
      ++ "]: " ++ (← ty ind value) ++ " \x7d"
  | n => unprintable n

/-- Types in a row, where types of at least a level are asked for. -/
def tys (least : Nat) (ind : String) : List Node → Except Failure (List String)
  | [] => .ok []
  | t :: ts => do return typeText least t (← ty ind t) :: (← tys least ind ts)

/-- A type that may be missing. -/
def ty? (ind : String) : Option Node → Except Failure (Option String)
  | none => .ok none
  | some t => do return some (← ty ind t)

/-- A member of an object type or an interface. -/
def typeMember (ind : String) : Node → Except Failure String
  | ⟨_, .ts (.propSig key type optional readonly)⟩ => do
    return when readonly "readonly " ++ key ++ when optional "?" ++ ": " ++ (← ty ind type)
  | ⟨_, .ts (.methodSig key ⟨_, .ts (.function tps ps rest ret)⟩ optional)⟩ => do
    return key ++ when optional "?" ++ (← tparams ind tps) ++ "("
      ++ commas ((← sigParams ind ps) ++ (← sigRest ind rest)) ++ "): " ++ (← ty ind ret)
  | ⟨_, .ts (.methodSig key ⟨_, .flow (.function tps ps rest ret)⟩ optional)⟩ => do
    return key ++ when optional "?" ++ (← tparams ind tps) ++ "("
      ++ commas ((← sigParams ind ps) ++ (← sigRest ind rest)) ++ "): " ++ (← ty ind ret)
  | ⟨_, .ts (.indexSig name key value readonly)⟩ => do
    return when readonly "readonly " ++ "[" ++ name ++ ": " ++ (← ty ind key) ++ "]: "
      ++ (← ty ind value)
  | n => unprintable n

/-- The members of an object type or an interface. -/
def typeMembers (ind : String) : List Node → Except Failure (List String)
  | [] => .ok []
  | m :: ms => do return (← typeMember ind m) :: (← typeMembers ind ms)

/-- The parameters of a function type. -/
def sigParams (ind : String) : List Node → Except Failure (List String)
  | [] => .ok []
  | ⟨_, .ts (.param name type optional)⟩ :: ps => do
    return (name ++ when optional "?" ++ ": " ++ (← ty ind type)) :: (← sigParams ind ps)
  | ⟨_, .flow (.param name type optional)⟩ :: ps => do
    return (name.getD noName ++ when optional "?" ++ ": " ++ (← ty ind type))
      :: (← sigParams ind ps)
  | n :: _ => unprintable n

/-- The parameter of a function type that takes the rest. -/
def sigRest (ind : String) : Option Node → Except Failure (List String)
  | none => .ok []
  | some ⟨_, .ts (.param name type _)⟩ => do return ["..." ++ name ++ ": " ++ (← ty ind type)]
  | some ⟨_, .flow (.param name type _)⟩ => do
    return ["..." ++ name.getD noName ++ ": " ++ (← ty ind type)]
  | some n => unprintable n

/-- Type parameters in a row. -/
def tparamList (ind : String) : List Node → Except Failure (List String)
  | [] => .ok []
  | ⟨_, .ts (.tparam name constraint default)⟩ :: ps => do
    return (name ++ ifSome " extends " (← ty? ind constraint) ++ ifSome " = " (← ty? ind default))
      :: (← tparamList ind ps)
  | n :: _ => unprintable n

/-- The type parameters of a declaration, which may be missing. -/
def tparams (ind : String) : Option Node → Except Failure String
  | none => .ok ""
  | some ⟨_, .ts (.tparams ps)⟩ => do return "<" ++ commas (← tparamList ind ps) ++ ">"
  | some n => unprintable n

/-- The type arguments of a reference, which may be missing or empty. -/
def targs (ind : String) : Option Node → Except Failure String
  | none => .ok ""
  | some ⟨_, .ts (.targs types)⟩ => do
    let texts ← tys 0 ind types
    return if types.isEmpty then "" else "<" ++ commas texts ++ ">"
  | some n => unprintable n

/-- The type of a binding, which may be missing. -/
def annot (ind : String) : Option Node → Except Failure String
  | none => .ok ""
  | some ⟨_, .ts (.annot type)⟩ => do return ": " ++ (← ty ind type)
  | some n => unprintable n

/-- An entry of an `extends` or `implements` list. -/
def heritage (ind : String) : Node → Except Failure String
  | ⟨_, .ts (.heritage entity args)⟩ => do return (← ty ind entity) ++ (← targs ind args)
  | n => unprintable n

/-- The entries of an `extends` or `implements` list. -/
def heritages (ind : String) : List Node → Except Failure (List String)
  | [] => .ok []
  | h :: hs => do return (← heritage ind h) :: (← heritages ind hs)

/-- What a variable or a parameter binds. -/
def binding (ind : String) : Node → Except Failure String
  | ⟨_, .expr (.ident name)⟩ => .ok name
  | ⟨_, .expr (.pattern props)⟩ => do return nameList (← patternProps ind props)
  | n => if holdsNothing n then .ok (nameList []) else unprintable n

/-- A binding that may be missing. -/
def binding? (ind : String) : Option Node → Except Failure (Option String)
  | none => .ok none
  | some b => do return some (← binding ind b)

/-- The entries of a pattern. -/
def patternProps (ind : String) : List Node → Except Failure (List String)
  | [] => .ok []
  | ⟨_, .expr (.patternProp key target default rest)⟩ :: ps => do
    let text ←
      if rest then pure ("..." ++ key)
      else pure (key ++ ifSome ": " (← binding? ind target) ++ ifSome " = " (← init? ind default))
    return text :: (← patternProps ind ps)
  | n :: _ => unprintable n

/-- A value behind an equals sign, which may be missing. -/
def init? (ind : String) : Option Node → Except Failure (Option String)
  | none => .ok none
  | some e => do return some (exprText 1 e (← bare ind e))

/-- The parameters of a function. -/
def params (ind : String) : List Node → Except Failure (List String)
  | [] => .ok []
  | ⟨_, .expr (.param target type optional default rest)⟩ :: ps => do
    let text := when rest "..." ++ (← binding ind target) ++ when optional "?"
      ++ (← annot ind type) ++ ifSome " = " (← init? ind default)
    return text :: (← params ind ps)
  | n :: _ => unprintable n

/-- An expression without the comments in front of it. -/
def bare (ind : String) : Node → Except Failure String
  | ⟨_, .expr (.ident name)⟩ => .ok name
  | ⟨_, .expr (.num raw)⟩ => .ok raw
  | ⟨_, .expr (.str raw)⟩ => .ok raw
  | ⟨_, .expr (.template quasis substitutions)⟩ => do
    return templateText (quasis.headD "") (← holes ind substitutions quasis.tail)
  | ⟨_, .expr .this⟩ => .ok "this"
  | ⟨_, .expr .null⟩ => .ok "null"
  | ⟨_, .expr (.bool value)⟩ => .ok (if value then "true" else "false")
  | ⟨_, .expr (.paren e)⟩ => do return parenthesized (exprText 0 e (← bare ind e))
  | ⟨_, .expr (.binary op left right)⟩ => do
    return exprText op.level left (← bare ind left) ++ " " ++ op.text ++ " "
      ++ exprText (op.level + 1) right (← bare ind right)
  | ⟨_, .expr (.cond test cons alt)⟩ => do
    return exprText 3 test (← bare ind test) ++ " ? " ++ exprText 1 cons (← bare ind cons) ++ " : "
      ++ exprText 1 alt (← bare ind alt)
  | ⟨_, .expr (.assign op target value)⟩ => do
    return exprText 3 target (← bare ind target) ++ " " ++ op.text ++ " "
      ++ exprText 1 value (← bare ind value)
  | ⟨_, .expr (.unary op arg)⟩ => do return unaryText op (exprText 15 arg (← bare ind arg))
  | ⟨_, .expr (.update op arg isPrefix)⟩ => do
    let text ← bare ind arg
    return if isPrefix then op.text ++ exprText 15 arg text else exprText 17 arg text ++ op.text
  | ⟨_, .expr (.member object property optional)⟩ => do
    return exprText 17 object (← bare ind object) ++ (if optional then "?." else ".") ++ property
  | ⟨_, .expr (.index object property optional)⟩ => do
    return exprText 17 object (← bare ind object) ++ when optional "?." ++ "["
      ++ exprText 0 property (← bare ind property) ++ "]"
  | ⟨_, .expr (.call callee args optional)⟩ => do
    return exprText 17 callee (← bare ind callee) ++ when optional "?." ++ "("
      ++ commas (← exprs 1 ind args) ++ ")"
  | ⟨_, .expr (.construct callee types args)⟩ => do
    let text := exprText 17 callee (← bare ind callee)
    let text := if isCall callee then parenthesized text else text
    return "new " ++ text ++ (← targs ind types) ++ "(" ++ commas (← exprs 1 ind args) ++ ")"
  | ⟨_, .expr (.constructBare callee types)⟩ => do
    let text := exprText 17 callee (← bare ind callee)
    let text := if isCall callee then parenthesized text else text
    return "new " ++ text ++ (← targs ind types)
  | ⟨_, .expr (.spread e)⟩ => do return "..." ++ exprText 1 e (← bare ind e)
  | ⟨_, .expr (.array elems)⟩ => do return "[" ++ commas (← exprs 1 ind elems) ++ "]"
  | ⟨_, .expr (.object props)⟩ => do
    return membersText ind "," "" props (← objectProps (ind ++ indent) props)
  | ⟨_, .expr (.function name tps ps ret content isAsync _)⟩ => do
    return when isAsync "async " ++ "function" ++ ifSome " " (name.filter (· ≠ ""))
      ++ signatureText (← tparams ind tps) (← params ind ps) (← annot ind ret) ++ " "
      ++ (← body ind content)
  | ⟨_, .expr (.arrow tps ps ret ⟨_, .stmt (.block ss)⟩ isAsync)⟩ => do
    return when isAsync "async "
      ++ signatureText (← tparams ind tps) (← params ind ps) (← annot ind ret) ++ " => "
      ++ blockText ind ss (← stmts (ind ++ indent) ss)
  | ⟨_, .expr (.arrow tps ps ret value isAsync)⟩ => do
    let head := when isAsync "async "
      ++ signatureText (← tparams ind tps) (← params ind ps) (← annot ind ret) ++ " => "
    let text := exprText 1 value (← bare ind value)
    return head ++ if text.startsWith "\x7b" then parenthesized text else text
  | ⟨_, .ts (.cast e type)⟩ => do
    return exprText 11 e (← bare ind e) ++ " as " ++ (← ty ind type)
  | n => unprintable n

/-- The substitutions of a template literal, each with the text behind it.  One with
no text behind it is left out. -/
def holes (ind : String) : List Node → List String → Except Failure (List String)
  | e :: es, q :: qs => do
    return holeText (exprText 0 e (← bare ind e)) q :: (← holes ind es qs)
  | _, _ => .ok []

/-- The body of a function. -/
def body (ind : String) : Node → Except Failure String
  | ⟨_, .stmt (.block ss)⟩ => do return blockText ind ss (← stmts (ind ++ indent) ss)
  | ⟨_, .stmt (.program ss)⟩ => do return blockText ind ss (← stmts (ind ++ indent) ss)
  | n => if holdsNothing n then .ok (blockText ind [] []) else unprintable n

/-- Expressions in a row, where expressions of at least a level are asked for. -/
def exprs (least : Nat) (ind : String) : List Node → Except Failure (List String)
  | [] => .ok []
  | e :: es => do return exprText least e (← bare ind e) :: (← exprs least ind es)

/-- A property of an object literal. -/
def objectProp (ind : String) : Node → Except Failure String
  | ⟨i, .expr (.spread e)⟩ => do
    return leadingText ⟨i, .expr (.spread e)⟩ ++ "..." ++ exprText 1 e (← bare ind e)
  | ⟨_, .expr (.method key ⟨_, .expr (.function _ tps ps ret content isAsync _)⟩)⟩ => do
    return when isAsync "async " ++ key
      ++ signatureText (← tparams ind tps) (← params ind ps) (← annot ind ret) ++ " "
      ++ (← body ind content)
  | ⟨_, .expr (.prop key value shorthand)⟩ =>
    if shorthand then .ok key
    else do return key ++ ": " ++ exprText 1 value (← bare ind value)
  | ⟨_, .expr (.computedProp key value)⟩ => do
    return "[" ++ exprText 0 key (← bare ind key) ++ "]: " ++ exprText 1 value (← bare ind value)
  | n => unprintable n

/-- The properties of an object literal. -/
def objectProps (ind : String) : List Node → Except Failure (List String)
  | [] => .ok []
  | p :: ps => do return (← objectProp ind p) :: (← objectProps ind ps)

/-- The variables of a declaration. -/
def declarators (ind : String) : List Node → Except Failure (List String)
  | [] => .ok []
  | ⟨_, .stmt (.declarator target type init)⟩ :: ds => do
    let text := (← binding ind target) ++ (← annot ind type) ++ ifSome " = " (← init? ind init)
    return text :: (← declarators ind ds)
  | n :: _ => unprintable n

/-- A member of a class. -/
def classMember (ind : String) : Node → Except Failure String
  | ⟨_, .stmt (.classProp key type value isStatic variance optional)⟩ => do
    return when isStatic "static " ++ when (variance = some .covariant) "readonly " ++ key
      ++ when optional "?" ++ (← annot ind type) ++ ifSome " = " (← init? ind value) ++ ";"
  | ⟨_, .stmt (.classMethod key ⟨_, .expr (.function _ tps ps ret content isAsync _)⟩
      isStatic)⟩ => do
    return when isStatic "static " ++ when isAsync "async " ++ key
      ++ signatureText (← tparams ind tps) (← params ind ps) (← annot ind ret) ++ " "
      ++ (← body ind content)
  | n => unprintable n

/-- The members of a class. -/
def classMembers (ind : String) : List Node → Except Failure (List String)
  | [] => .ok []
  | m :: ms => do return (← classMember ind m) :: (← classMembers ind ms)

/-- The class that a class extends, which may be missing. -/
def superclass (least : Nat) (ind : String) : Option Node → Except Failure (Option String)
  | none => .ok none
  | some e => do return some (exprText least e (← bare ind e))

/-- A statement. -/
def stmt (ind : String) : Node → Except Failure String
  | ⟨_, .stmt (.exprStmt e)⟩ => do
    let text := exprText 0 e (← bare ind e)
    return (if looksLikeStatement text then parenthesized text else text) ++ ";"
  | ⟨_, .stmt (.varDecl kind ds)⟩ => do
    return kind.text ++ " " ++ commas (← declarators ind ds) ++ ";"
  | ⟨_, .expr (.function name tps ps ret content isAsync _)⟩ => do
    return when isAsync "async " ++ "function" ++ ifSome " " (name.filter (· ≠ ""))
      ++ signatureText (← tparams ind tps) (← params ind ps) (← annot ind ret) ++ " "
      ++ (← body ind content)
  | ⟨_, .stmt (.classDecl name tps parent parentArgs implements members)⟩ => do
    let tps ← tparams ind tps
    let parent ← superclass 17 ind parent
    let args ← if parent.isSome then targs ind parentArgs else pure ""
    let parents ← heritages ind implements
    let texts ← classMembers (ind ++ indent) members
    return "class " ++ name ++ tps ++ ifSome " extends " parent ++ args
      ++ (if parents.isEmpty then "" else " implements " ++ commas parents) ++ " "
      ++ blockText ind members texts
  | ⟨_, .stmt (.ret none)⟩ => .ok "return;"
  | ⟨_, .stmt (.ret (some e))⟩ => do return "return " ++ exprText 0 e (← bare ind e) ++ ";"
  | ⟨_, .stmt (.throw e)⟩ => do return "throw " ++ exprText 0 e (← bare ind e) ++ ";"
  | ⟨_, .stmt (.cond test cons none)⟩ => do
    return "if (" ++ exprText 0 test (← bare ind test) ++ ") " ++ (← branch ind cons)
  | ⟨_, .stmt (.cond test cons (some alt))⟩ => do
    return "if (" ++ exprText 0 test (← bare ind test) ++ ") " ++ (← branch ind cons) ++ " else "
      ++ ((← stmt ind alt) ++ trailingText alt)
  | ⟨_, .stmt (.loop test content)⟩ => do
    return "while (" ++ exprText 0 test (← bare ind test) ++ ") " ++ (← branch ind content)
  | ⟨_, .stmt (.block ss)⟩ => do return blockText ind ss (← stmts (ind ++ indent) ss)
  | ⟨_, .stmt (.importDecl kind specs source)⟩ => .ok (importText kind specs source)
  | ⟨_, .stmt (.exportNamed (some decl) _ _ _)⟩ => do return "export " ++ (← stmt ind decl)
  | ⟨_, .stmt (.exportNamed none specs source kind)⟩ => .ok (exportText specs source kind)
  | ⟨_, .stmt (.exportDefault ⟨i, .expr (.function name tps ps ret content isAsync isExpr)⟩)⟩ => do
    return "export default "
      ++ (← stmt ind ⟨i, .expr (.function name tps ps ret content isAsync isExpr)⟩)
  | ⟨_, .stmt (.exportDefault
      ⟨i, .stmt (.classDecl name tps parent parentArgs implements members)⟩)⟩ => do
    return "export default "
      ++ (← stmt ind ⟨i, .stmt (.classDecl name tps parent parentArgs implements members)⟩)
  | ⟨_, .stmt (.exportDefault e)⟩ => do
    return "export default " ++ exprText 0 e (← bare ind e) ++ ";"
  | ⟨_, .stmt (.exportAll rename source)⟩ =>
    .ok ("export *" ++ ifSome " as " (rename.filter (· ≠ "")) ++ " from " ++ source ++ ";")
  | ⟨_, .ts (.typeAlias name tps type declare)⟩ => do
    return when declare "declare " ++ "type " ++ name ++ (← tparams ind tps) ++ " = "
      ++ (← ty ind type) ++ ";"
  | ⟨_, .ts (.interface name tps parents members declare)⟩ => do
    let head := when declare "declare " ++ "interface " ++ name ++ (← tparams ind tps)
    let parents ← heritages ind parents
    let texts ← typeMembers (ind ++ indent) members
    return head ++ (if parents.isEmpty then "" else " extends " ++ commas parents) ++ " "
      ++ membersText ind ";" ";" members texts
  | ⟨_, .ts (.declareVar kind name type)⟩ => do
    return "declare " ++ kind.text ++ " " ++ name ++ (← annot ind type) ++ ";"
  | ⟨_, .ts (.declareFunction name tps ps rest ret)⟩ => do
    return "declare function " ++ name ++ (← tparams ind tps) ++ "("
      ++ commas ((← sigParams ind ps) ++ (← sigRest ind rest)) ++ "): " ++ (← ty ind ret) ++ ";"
  | ⟨_, .ts (.declareClass name tps parent parentArgs)⟩ => do
    let head := "declare class " ++ name ++ (← tparams ind tps)
    let parent ← superclass 0 ind parent
    let args ← if parent.isSome then targs ind parentArgs else pure ""
    return head ++ ifSome " extends " parent ++ args ++ " \x7b\x7d"
  | n => unprintable n

/-- A statement that is a branch or a body.  A missing one is empty. -/
def branch (ind : String) : Option Node → Except Failure String
  | none => .ok ";"
  | some s => do return (← stmt ind s) ++ trailingText s

/-- Statements in a row. -/
def stmts (ind : String) : List Node → Except Failure (List String)
  | [] => .ok []
  | s :: ss => do return (← stmt ind s) :: (← stmts ind ss)

end

end Retype.Printer
