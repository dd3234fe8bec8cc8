import Retype.Text.Letter

/-!
# Operators and keywords

The words that a node can carry: operators of expressions, the keywords of variable
declarations and imports, variance markers, and the types that are a single word.
Every set has a `text`, the way a word is spelled.

Where nothing but its text counts, a tree given from outside may hold any word.
Such a set has a member `other` for the words without a name of their own, and
`ofText` reads every spelling.  The sets of binary operators and of types are
closed, and `find?` reads a spelling that is in them.
-/

namespace Retype

/-! ## Expressions -/

/-- An operator between two operands. -/
inductive BinaryOp where
  | nullish | or | and | bitOr | bitXor | bitAnd
  | eq | ne | strictEq | strictNe
  | lt | gt | le | ge | instanceOf | isIn
  | add | sub | mul | div | rem
  deriving DecidableEq, Repr

namespace BinaryOp

/-- The spelling of a binary operator. -/
def text : BinaryOp → String
  | nullish => "??" | or => "||" | and => "&&" | bitOr => "|" | bitXor => "^" | bitAnd => "&"
  | eq => "==" | ne => "!=" | strictEq => "===" | strictNe => "!=="
  | lt => "<" | gt => ">" | le => "<=" | ge => ">=" | instanceOf => "instanceof" | isIn => "in"
  | add => "+" | sub => "-" | mul => "*" | div => "/" | rem => "%"

/-- Every binary operator. -/
def all : List BinaryOp :=
  [nullish, or, and, bitOr, bitXor, bitAnd, eq, ne, strictEq, strictNe, lt, gt, le, ge,
    instanceOf, isIn, add, sub, mul, div, rem]

/-- The operator with a given spelling. -/
def find? (s : String) : Option BinaryOp := all.find? (·.text == s)

/-- How tightly an operator binds.  A larger number binds tighter. -/
def level : BinaryOp → Nat
  | nullish => 3
  | or => 4
  | and => 5
  | bitOr => 6
  | bitXor => 7
  | bitAnd => 8
  | eq | ne | strictEq | strictNe => 9
  | lt | gt | le | ge | instanceOf | isIn => 10
  | add | sub => 12
  | mul | div | rem => 13

end BinaryOp

/-- An operator in front of one operand. -/
inductive UnaryOp where
  | not | minus | plus | complement | typeOf | void | delete | await
  | other (word : String)
  deriving DecidableEq, Repr

namespace UnaryOp

/-- The spelling of a unary operator. -/
def text : UnaryOp → String
  | not => "!" | minus => "-" | plus => "+" | complement => "~"
  | typeOf => "typeof" | void => "void" | delete => "delete" | await => "await"
  | other word => word

/-- The unary operators with a name. -/
def named : List UnaryOp := [not, minus, plus, complement, typeOf, void, delete, await]

/-- The operator with a given spelling. -/
def ofText (s : String) : UnaryOp := (named.find? (·.text == s)).getD (other s)

/-- The operators that are words and need a blank before their operand: those
spelled with letters only, of whatever script. -/
def isWord : UnaryOp → Bool
  | typeOf | void | delete | await => true
  | not | minus | plus | complement => false
  | other word => !word.isEmpty && word.toList.all Text.isLetter

/-- The operators that would fuse with an operand starting with the same sign: those
spelled by a piece of `+-`. -/
def isSign : UnaryOp → Bool
  | minus | plus => true
  | not | complement | typeOf | void | delete | await => false
  | other word => word = "" || word = "+-"

end UnaryOp

/-- Increment and decrement. -/
inductive UpdateOp where
  | increment | decrement
  | other (word : String)
  deriving DecidableEq, Repr

namespace UpdateOp

/-- The spelling of an update operator. -/
def text : UpdateOp → String
  | increment => "++"
  | decrement => "--"
  | other word => word

/-- The update operators with a name. -/
def named : List UpdateOp := [increment, decrement]

/-- The operator with a given spelling. -/
def ofText (s : String) : UpdateOp := (named.find? (·.text == s)).getD (other s)

end UpdateOp

/-- Assignment, plain or combined with an operation. -/
inductive AssignOp where
  | set | add | sub | mul | div | rem | and | or | nullish | bitAnd | bitOr | bitXor
  | other (word : String)
  deriving DecidableEq, Repr

namespace AssignOp

/-- The spelling of an assignment operator. -/
def text : AssignOp → String
  | set => "=" | add => "+=" | sub => "-=" | mul => "*=" | div => "/=" | rem => "%="
  | and => "&&=" | or => "||=" | nullish => "??=" | bitAnd => "&=" | bitOr => "|=" | bitXor => "^="
  | other word => word

/-- The assignment operators with a name. -/
def named : List AssignOp :=
  [set, add, sub, mul, div, rem, and, or, nullish, bitAnd, bitOr, bitXor]

/-- The operator with a given spelling. -/
def ofText (s : String) : AssignOp := (named.find? (·.text == s)).getD (other s)

end AssignOp

/-! ## Declarations -/

/-- The keyword of a variable declaration. -/
inductive VarKind where
  | plain | letBound | constant
  | other (word : String)
  deriving DecidableEq, Repr

namespace VarKind

/-- The keyword itself. -/
def text : VarKind → String
  | plain => "var"
  | letBound => "let"
  | constant => "const"
  | other word => word

/-- The keywords with a name. -/
def named : List VarKind := [plain, letBound, constant]

/-- The keyword with a given spelling. -/
def ofText (s : String) : VarKind := (named.find? (·.text == s)).getD (other s)

end VarKind

/-- What an import brings in, or an export gives out, when it is not a value. -/
inductive ImportKind where
  | type | typeOf
  | other (word : String)
  deriving DecidableEq, Repr

namespace ImportKind

/-- The keyword itself. -/
def text : ImportKind → String
  | type => "type"
  | typeOf => "typeof"
  | other word => word

/-- The import keywords with a name. -/
def named : List ImportKind := [type, typeOf]

/-- The keyword with a given spelling. -/
def ofText (s : String) : ImportKind := (named.find? (·.text == s)).getD (other s)

end ImportKind

/-- A variance marker on a field, an indexer or a type parameter. -/
inductive Variance where
  | covariant | contravariant
  | other (word : String)
  deriving DecidableEq, Repr

namespace Variance

/-- The marker itself. -/
def text : Variance → String
  | covariant => "+"
  | contravariant => "-"
  | other word => word

/-- The markers with a name. -/
def named : List Variance := [covariant, contravariant]

/-- The marker with a given spelling. -/
def ofText (s : String) : Variance := (named.find? (·.text == s)).getD (other s)

end Variance

/-! ## Types of one word -/

/-- A Flow type that has no parts. -/
inductive FlowPrimitive where
  | any | existential | mixed | empty | void | null
  | string | number | boolean | bigint | symbol
  deriving DecidableEq, Repr

namespace FlowPrimitive

/-- The name of a primitive type among the kinds of nodes. -/
def text : FlowPrimitive → String
  | any => "any" | existential => "exists" | mixed => "mixed" | empty => "empty"
  | void => "void" | null => "null" | string => "string" | number => "number"
  | boolean => "boolean" | bigint => "bigint" | symbol => "symbol"

/-- Every Flow primitive. -/
def all : List FlowPrimitive :=
  [any, existential, mixed, empty, void, null, string, number, boolean, bigint, symbol]

/-- The primitive with a given name. -/
def find? (s : String) : Option FlowPrimitive := all.find? (·.text == s)

/-- The primitive that an identifier stands for when it is used as a type. -/
def ofIdentifier? : String → Option FlowPrimitive
  | "any" => some any
  | "mixed" => some mixed
  | "empty" => some empty
  | "string" => some string
  | "number" => some number
  | "boolean" => some boolean
  | "bool" => some boolean
  | "bigint" => some bigint
  | "symbol" => some symbol
  | _ => none

end FlowPrimitive

/-- A TypeScript type that is a keyword. -/
inductive TsKeyword where
  | any | unknown | never | void | null | undefined
  | string | number | boolean | bigint | symbol
  deriving DecidableEq, Repr

namespace TsKeyword

/-- The keyword itself. -/
def text : TsKeyword → String
  | any => "any" | unknown => "unknown" | never => "never" | void => "void" | null => "null"
  | undefined => "undefined" | string => "string" | number => "number" | boolean => "boolean"
  | bigint => "bigint" | symbol => "symbol"

/-- Every keyword type. -/
def all : List TsKeyword :=
  [any, unknown, never, void, null, undefined, string, number, boolean, bigint, symbol]

/-- The keyword type with a given spelling. -/
def find? (s : String) : Option TsKeyword := all.find? (·.text == s)

end TsKeyword

/-- The keyword type that a Flow primitive becomes. -/
def FlowPrimitive.toTs : FlowPrimitive → TsKeyword
  | .any => .any
  | .existential => .any
  | .mixed => .unknown
  | .empty => .never
  | .void => .void
  | .null => .null
  | .string => .string
  | .number => .number
  | .boolean => .boolean
  | .bigint => .bigint
  | .symbol => .symbol

end Retype
