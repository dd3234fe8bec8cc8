import Retype.Node.Basic
import Retype.Token.Basic

/-!
# Grammars with values

A *production* takes a nonterminal apart into symbols and says how to build the
value of the left side from the values of the right side.  Every nonterminal
has a type of values.  The value of a terminal is its token.  Every value comes
with the offset of the first token of its symbol.

The action of a production is a function of the values of its right side, so a
production that builds the wrong kind of value cannot be written down.
-/

namespace Retype.Grammar

/-- The nonterminals. -/
inductive Nonterminal where
  | program | stmtList | empty | stmt | simpleStmt | ident | propName | importDecl | importClause
  | namedImports | importSpecs | importSpec | specName | exportDecl | declaration | fromOpt
  | namedExports | exportSpecs | exportSpec | typeAlias | opaqueType | supertypeOpt
  | interfaceDecl | ifaceExtendsOpt | ifaceRefList | ifaceRef | declareStmt | declareFn
  | declareClass | type | unionType | intersectionType | prefixType | postfixType | primaryType
  | typeId | typeList | objectType | lbrace | objectTypeBody | objectTypeMembers | memberSeparator
  | memberKey | variance | objectTypeMember | optionalMark | fnTypeParams | fnTypeParamList
  | fnTypeParam | fnTypeRest | typeParamsOpt | typeParams | typeParamList | typeParam | boundOpt
  | typeDefaultOpt | typeArgsOpt | typeArgs | annotOpt | varDecl | varKind | declarators
  | declarator | initOpt | binding | patternProps | patternProp | functionDecl | functionExpr
  | fnRest | lparen | params | paramList | param | restParam | returnOpt | fnBody | classDecl
  | extendsOpt | implementsOpt | classBody | classMember | memberDef | propRest | ifStmt
  | whileStmt | block | returnStmt | throwStmt | exprStmt | expr | arrow | arrowReturn | arrowBody
  | postfixExpr | member | call | args | argList | arg | primary | templateSpans | objectProps
  | objectProp
  deriving DecidableEq, Repr

/-- A terminal or a nonterminal. -/
inductive Symbol where
  | t (kind : TokenKind)
  | n (nonterminal : Nonterminal)
  deriving DecidableEq, Repr

/-! ## Values -/

/-- The parameters of a function type. -/
structure FnTypeParams where
  /-- The parameters before the rest. -/
  params : List Node := []
  /-- The parameter that takes the rest. -/
  rest : Option Node := none

/-- A function without its keywords. -/
structure FnRest where
  /-- The name. -/
  name : Option String
  /-- The type parameters. -/
  tparams : Option Node
  /-- The parameters. -/
  params : List Node
  /-- The return type. -/
  ret : Option Node
  /-- The body. -/
  body : Node

/-- The function with its keywords at an offset. -/
def FnRest.node (f : FnRest) (pos : Int) (isAsync isExpr : Bool) : Node :=
  .expr pos (.function f.name f.tparams f.params f.ret f.body isAsync isExpr)

/-- A field of a class without its name. -/
structure PropRest where
  /-- Whether a question mark follows the name. -/
  optional : Bool
  /-- The type. -/
  annot : Option Node
  /-- The initial value. -/
  init : Option Node

/-- The type of the values of a nonterminal. -/
@[reducible]
def Nonterminal.Value : Nonterminal → Type
  | .stmtList | .importClause | .namedImports | .importSpecs | .namedExports
  | .exportSpecs | .ifaceExtendsOpt | .ifaceRefList | .typeList | .objectTypeBody
  | .objectTypeMembers | .fnTypeParamList | .typeParamList | .declarators | .patternProps
  | .params | .paramList | .implementsOpt | .classBody | .args | .argList | .objectProps => List Node
  | .empty | .lbrace | .memberSeparator | .lparen => Unit
  | .stmt | .supertypeOpt | .objectTypeMember | .typeParamsOpt | .boundOpt
  | .typeDefaultOpt | .typeArgsOpt | .annotOpt | .initOpt | .returnOpt | .classMember
  | .arrowReturn => Option Node
  | .ident | .propName | .specName | .memberKey => String
  | .fromOpt => Option String
  | .variance => Variance
  | .optionalMark => Bool
  | .fnTypeParams => FnTypeParams
  | .varKind => VarKind
  | .fnRest => FnRest
  | .extendsOpt => Option Node × Option Node
  | .propRest => PropRest
  | .templateSpans => List String × List Node
  | _ => Node

/-- The type of the values of a symbol. -/
@[reducible]
def Symbol.Value : Symbol → Type
  | .t _ => Token
  | .n x => x.Value

/-- A value with the offset of the first token of its symbol. -/
structure Located (α : Type) where
  /-- The offset. -/
  pos : Int
  /-- The value. -/
  val : α

/-- The functions from the values of symbols to a type. -/
@[reducible]
def Action : List Symbol → Type → Type
  | [], β => β
  | s :: ss, β => Located s.Value → Action ss β

/-- A production with its action. -/
structure Production where
  /-- The left side. -/
  lhs : Nonterminal
  /-- The right side. -/
  rhs : List Symbol
  /-- The value of the left side. -/
  action : Action rhs lhs.Value

end Retype.Grammar
