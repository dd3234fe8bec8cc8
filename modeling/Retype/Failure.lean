import Retype.Diagnostic
import Retype.Text.Quoted

/-!
# Failures and losses

A *failure* ends the conversion of a file.  It is a cause, and the wording, the
offset and the hint are read off it.  A failure arises while a text is read or
while a tree is converted or printed.

A *loss* does not end the conversion.  It says what the TypeScript output does
not express.  A loss about an offset is a *warning*.
-/

namespace Retype

/-! ## Failures -/

/-- Why a file cannot be converted. -/
inductive Failure where
  /-- No token starts with this character. -/
  | unexpectedCharacter (c : Char) (pos : Int)
  /-- A template literal has no end. -/
  | unterminatedTemplate (pos : Int)
  /-- A substitution of a template literal has no end. -/
  | unterminatedSubstitution (pos : Int)
  /-- The text ends inside a sentence of the grammar. -/
  | unexpectedEnd
  /-- A token cannot follow those before it. -/
  | unexpectedToken (text : String) (closing : Bool) (pos : Int)
  /-- A node stands where a name is needed. -/
  | notAName (kind : String) (pos : Int)
  /-- A node stands where a type is needed. -/
  | unsupportedType (kind : String) (pos : Int)
  /-- A node stands where a member of an object type is needed. -/
  | unsupportedMember (kind : String) (pos : Int)
  /-- A node stands where a declaration is needed. -/
  | unsupportedDeclaration (kind : String) (pos : Int)
  /-- A declaration of this kind cannot be declared and exported. -/
  | unsupportedExport (kind : String) (pos : Int)
  /-- A declared function has an annotation that is no function type. -/
  | noFunctionType (name kind : String) (pos : Int)
  /-- A node has no TypeScript text. -/
  | unprintable (kind : String) (pos : Int)
  deriving DecidableEq, Repr

namespace Failure

/-- The wording of a failure. -/
def message : Failure → String
  | unexpectedCharacter c _ => "unexpected character " ++ Text.quoted (String.singleton c)
  | unterminatedTemplate _ => "unterminated template literal"
  | unterminatedSubstitution _ => "unterminated template substitution"
  | unexpectedEnd => "unexpected end of file"
  | unexpectedToken text _ _ => "unexpected token " ++ Text.quoted text
  | notAName kind _ => "'" ++ kind ++ "' is not a name"
  | unsupportedType kind _ => "unsupported type node '" ++ kind ++ "'"
  | unsupportedMember kind _ => "unsupported object member '" ++ kind ++ "'"
  | unsupportedDeclaration kind _ => "unsupported declaration '" ++ kind ++ "'"
  | unsupportedExport kind _ => "unsupported declaration '" ++ kind ++ "' in declare export"
  | noFunctionType name _ _ =>
    "declared function '" ++ name ++ "' must be annotated with a function type"
  | unprintable kind _ => "cannot print untransformed node '" ++ kind ++ "'"

/-- The offset a failure is about. -/
def pos : Failure → Int
  | unexpectedCharacter _ p | unterminatedTemplate p | unterminatedSubstitution p => p
  | unexpectedEnd => 0
  | unexpectedToken _ _ p | notAName _ p | unsupportedType _ p | unsupportedMember _ p
  | unsupportedDeclaration _ p | unsupportedExport _ p | noFunctionType _ _ p
  | unprintable _ p => p

/-- The area of a failure: the kind of the node it is about, or the step of
reading that failed. -/
def area : Failure → String
  | unexpectedCharacter .. | unterminatedTemplate _ | unterminatedSubstitution _ => "lex"
  | unexpectedEnd | unexpectedToken .. => "syntax"
  | notAName kind _ | unsupportedType kind _ | unsupportedMember kind _
  | unsupportedDeclaration kind _ | unsupportedExport kind _ | noFunctionType _ kind _
  | unprintable kind _ => kind

/-- What may help against a failure. -/
def hint : Failure → Option String
  | unexpectedEnd => some "check for unclosed braces, parentheses, or brackets"
  | unexpectedToken _ true _ =>
    some "check for a missing separator or an unsupported construct before this token"
  | unsupportedExport .. =>
    some "only functions, classes and variables can be declared and exported"
  | _ => none

/-- Whether a failure arose while the text was read. -/
def isReading : Failure → Bool
  | unexpectedCharacter .. | unterminatedTemplate _ | unterminatedSubstitution _
  | unexpectedEnd | unexpectedToken .. => true
  | _ => false

/-- The failure as an error of a report. -/
def diagnostic (f : Failure) : Diagnostic where
  severity := .error
  message := f.message
  pos := f.pos
  hint := f.hint

end Failure

/-! ## Losses -/

/-- What the output does not express. -/
inductive Loss where
  /-- `typeof` of something other than a name. -/
  | typeOfType
  /-- A second indexer. -/
  | extraIndexer
  /-- A member next to a named indexer. -/
  | besideIndexer
  /-- A write-only indexer. -/
  | contravariantIndexer
  /-- A write-only field. -/
  | contravariantField (key : String)
  /-- A spread in the body of an interface. -/
  | interfaceSpread
  /-- A variance marker on a type parameter. -/
  | parameterVariance (name : String)
  /-- A type argument that cannot be converted. -/
  | typeArgument (cause : Failure)
  /-- A second supertype of a declared class. -/
  | extraSupertypes (name : String) (count : Nat)
  /-- The members of a declared class. -/
  | classMembers (name : String)
  /-- The hidden right side of an alias. -/
  | transparentAlias (name : String)
  /-- An import of the types of values. -/
  | importTypeOf
  /-- An import of the type of a value. -/
  | importSpecTypeOf (name : String)
  deriving DecidableEq, Repr

namespace Loss

/-- The wording of a loss. -/
def message : Loss → String
  | typeOfType => "typeof over a non-reference type cannot be expressed; using the type itself"
  | extraIndexer => "only the first indexer of an object type is kept"
  | besideIndexer => "members next to an indexer are dropped"
  | contravariantIndexer =>
    "contravariant indexer has no TypeScript equivalent; marker dropped"
  | contravariantField key =>
    "contravariant field '" ++ key ++ "' has no TypeScript equivalent; marker dropped"
  | interfaceSpread => "spread inside an interface body is dropped"
  | parameterVariance name =>
    "variance on type parameter '" ++ name ++ "' has no TypeScript equivalent; dropped"
  | typeArgument cause => "type argument dropped: " ++ cause.message
  | extraSupertypes name count =>
    "declared class '" ++ name ++ "' has " ++ toString count
      ++ " supertypes; only the first is kept"
  | classMembers name => "members of declared class '" ++ name ++ "' are dropped"
  | transparentAlias name => "opaque type '" ++ name ++ "' becomes a transparent alias"
  | importTypeOf => "`import typeof` has no TypeScript equivalent; imported as a value"
  | importSpecTypeOf name =>
    "`typeof " ++ name ++ "` import has no TypeScript equivalent; imported as a value"

/-- What may help against a loss. -/
def hint : Loss → Option String
  | besideIndexer => some "move the named fields into a separate type and intersect it"
  | interfaceSpread => some "list the spread type in the `extends` clause instead"
  | _ => none

end Loss

/-- A loss about an offset. -/
structure Warning where
  /-- What is lost. -/
  loss : Loss
  /-- The offset it is about. -/
  pos : Int
  deriving DecidableEq, Repr

/-- The warning as an entry of a report. -/
def Warning.diagnostic (w : Warning) : Diagnostic where
  severity := .warning
  message := w.loss.message
  pos := w.pos
  hint := w.loss.hint

end Retype
