import AuthProxy.Binary64
import AuthProxy.Text.Base64
import AuthProxy.Text.Place
import AuthProxy.Text.Quoted

/-! # Why JSON is not read

What may be wrong with a text as JSON and with a value as data of some type. An error about a text
says where.
-/

namespace AuthProxy

/-- What breaks the grammar of a JSON text. -/
inductive Flaw where
  | endInList
  | endInObject
  | endInString
  | endInValue
  | noColon
  | noListSeparator
  | noObjectSeparator
  /-- The start of `null`, `true` or `false` goes on in another way. -/
  | noWord
  | noValue
  | badEscape
  | badNumber
  /-- A number beyond the greatest double. -/
  | hugeNumber
  | controlCharacter
  | noKey
  /-- The escape of the second half of a character without its first half, or the other way. -/
  | halfCharacter
  /-- The first half of a character is not followed by an escape. -/
  | brokenPair
  | trailingComma
  | trailingText
  | deepNesting
deriving DecidableEq, Repr

namespace Flaw

def message : Flaw → String
  | endInList => "EOF while parsing a list"
  | endInObject => "EOF while parsing an object"
  | endInString => "EOF while parsing a string"
  | endInValue => "EOF while parsing a value"
  | noColon => "expected `:`"
  | noListSeparator => "expected `,` or `]`"
  | noObjectSeparator => "expected `,` or `\x7d`"
  | noWord => "expected ident"
  | noValue => "expected value"
  | badEscape => "invalid escape"
  | badNumber => "invalid number"
  | hugeNumber => "number out of range"
  | controlCharacter => "control character (\\u0000-\\u001F) found while parsing a string"
  | noKey => "key must be a string"
  | halfCharacter => "lone leading surrogate in hex escape"
  | brokenPair => "unexpected end of hex escape"
  | trailingComma => "trailing comma"
  | trailingText => "trailing characters"
  | deepNesting => "recursion limit exceeded"

end Flaw

/-- What a reader met, as far as an error tells it. -/
inductive Found where
  | null
  | bool (b : Bool)
  | int (n : Int)
  | float (x : Binary64)
  | str (s : String)
  | sequence
  | map
deriving DecidableEq, Repr

namespace Found

def text : Found → String
  | null => "null"
  | bool b => if b then "boolean `true`" else "boolean `false`"
  | int n => "integer `" ++ toString n ++ "`"
  | float x => "floating point `" ++ x.text ++ "`"
  | str s => "string " ++ Text.quote s
  | sequence => "sequence"
  | map => "map"

end Found

/-- Why data was not read. -/
inductive ReadError where
  | wrongType (found : Found) (expected : String)
  | wrongValue (found : Found) (expected : String)
  | wrongLength (length : Nat) (expected : String)
  | missingField (name : String)
  | duplicateField (name : String)
  | unknownVariant (given : String) (known : List String)
  | notBase64 (error : Base64Error)
  /-- There is no JSON to read from. -/
  | malformed (flaw : Flaw)
  /-- An error that was noticed at a place in a text. -/
  | located (error : ReadError) (place : Place)
deriving DecidableEq, Repr

namespace ReadError

/-- The known variants, each in backticks. -/
def variants : List String → String
  | [] => "there are no variants"
  | [a] => "`" ++ a ++ "`"
  | [a, b] => "`" ++ a ++ "` or `" ++ b ++ "`"
  | more => "one of " ++ ", ".intercalate (more.map fun v => "`" ++ v ++ "`")

def message : ReadError → String
  | wrongType f e => "invalid type: " ++ f.text ++ ", expected " ++ e
  | wrongValue f e => "invalid value: " ++ f.text ++ ", expected " ++ e
  | wrongLength n e => s!"invalid length {n}, expected {e}"
  | missingField f => "missing field `" ++ f ++ "`"
  | duplicateField f => "duplicate field `" ++ f ++ "`"
  | unknownVariant v known => "unknown variant `" ++ v ++ "`, expected " ++ variants known
  | notBase64 e => e.message
  | malformed f => f.message
  | located e p => e.message ++ p.suffix

/-- The error at a place, unless it has one already or there is none to give. -/
def locate (place : Option Place) : ReadError → ReadError
  | located e p => located e p
  | e =>
    match place with
    | some p => located e p
    | none => e

@[simp] theorem locate_none (e : ReadError) : e.locate none = e := by
  cases e <;> rfl

end ReadError

/-- Reading data. -/
abbrev Read (α : Type) := Except ReadError α

end AuthProxy
