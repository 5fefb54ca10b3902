/-!
# Why a data document cannot be read

A fault is a cause and the place where it was noticed: a line, counted from one, and the number of
bytes of that line already seen.  Causes fall into three kinds: the document ends too early, it is
not well formed, or it is well formed but not of the shape that was asked for.
-/

namespace LocalizedMail.Json

/-- The kinds of cause. -/
inductive FaultKind where
  | ended
  | malformed
  | misshapen
  deriving DecidableEq, Repr

/-- Why reading stopped. -/
inductive Cause where
  | endInList
  | endInObject
  | endInText
  | endInValue
  | expectedColon
  | expectedCommaOrBracket
  | expectedCommaOrBrace
  | expectedLiteral
  | expectedValue
  | invalidEscape
  | invalidNumber
  | numberOutOfRange
  | controlCharacter
  | nameMustBeText
  | loneSurrogate
  | unfinishedSurrogate
  | trailingComma
  | trailingCharacters
  | tooDeep
  /-- one kind of value stands where another was asked for -/
  | wrongType (found expected : String)
  /-- the value has the right type but does not fit for another reason -/
  | unfit (reason : String)
  deriving DecidableEq, Repr

namespace Cause

/-- The kind of a cause. -/
def kind : Cause → FaultKind
  | endInList | endInObject | endInText | endInValue => .ended
  | wrongType _ _ | unfit _ => .misshapen
  | _ => .malformed

/-- A cause in words. -/
def message : Cause → String
  | endInList => "EOF while parsing a list"
  | endInObject => "EOF while parsing an object"
  | endInText => "EOF while parsing a string"
  | endInValue => "EOF while parsing a value"
  | expectedColon => "expected `:`"
  | expectedCommaOrBracket => "expected `,` or `]`"
  | expectedCommaOrBrace => "expected `,` or `\x7d`"
  | expectedLiteral => "expected ident"
  | expectedValue => "expected value"
  | invalidEscape => "invalid escape"
  | invalidNumber => "invalid number"
  | numberOutOfRange => "number out of range"
  | controlCharacter => "control character (\\u0000-\\u001F) found while parsing a string"
  | nameMustBeText => "key must be a string"
  | loneSurrogate => "lone leading surrogate in hex escape"
  | unfinishedSurrogate => "unexpected end of hex escape"
  | trailingComma => "trailing comma"
  | trailingCharacters => "trailing characters"
  | tooDeep => "recursion limit exceeded"
  | wrongType found expected => "invalid type: " ++ found ++ ", expected " ++ expected
  | unfit reason => reason

end Cause

/-- A cause and the place where it was noticed. -/
structure Fault where
  cause : Cause
  line : Nat
  column : Nat
  deriving DecidableEq, Repr

/-- A fault in words. -/
def Fault.message (f : Fault) : String :=
  f.cause.message ++ " at line " ++ toString f.line ++ " column " ++ toString f.column

end LocalizedMail.Json
