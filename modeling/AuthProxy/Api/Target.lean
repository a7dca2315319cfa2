import AuthProxy.Text.Hex
import AuthProxy.Text.Pieces
import AuthProxy.Text.Utf8

/-! # Request targets

What a request is about: a path, and behind a question mark a query of keys and values. A target is
read as every server reads it. A question mark in the name of an object therefore ends the path, and
a number sign ends the target.
-/

namespace AuthProxy

namespace Query

/-- Whether a byte stands for itself. -/
def isPlain (b : Nat) : Bool :=
  (0x30 ≤ b && b ≤ 0x39) || (0x41 ≤ b && b ≤ 0x5A) || (0x61 ≤ b && b ≤ 0x7A) ||
    [0x2A, 0x2D, 0x2E, 0x5F].contains b

/-- A byte as a plus sign if it is a blank, as itself, or as a percent sign and two digits. -/
def encodeByte (b : Nat) : List Char :=
  if b = 0x20 then ['+']
  else if isPlain b then [Char.ofNat b]
  else ['%', (Nat.digitChar (b / 16)).toUpper, (Nat.digitChar (b % 16)).toUpper]

def encode (s : String) : String :=
  String.ofList ((Bytes.ofString s).flatMap fun b => encodeByte b.toNat)

/-- The text of a query, in which an ampersand stands before every key. -/
def text (pairs : List (String × String)) : String :=
  String.join (pairs.map fun p => "&" ++ encode p.1 ++ "=" ++ encode p.2)

/-- The bytes of an encoded text. A percent sign that no two digits follow stands for itself. -/
def decodeBytes : List Char → Bytes
  | [] => []
  | '%' :: a :: b :: rest =>
    match Text.hexDigit? a, Text.hexDigit? b with
    | some x, some y => UInt8.ofNat (x * 16 + y) :: decodeBytes rest
    | _, _ => String.utf8EncodeChar '%' ++ decodeBytes (a :: b :: rest)
  | '+' :: rest => String.utf8EncodeChar ' ' ++ decodeBytes rest
  | c :: rest => String.utf8EncodeChar c ++ decodeBytes rest

def decode (cs : List Char) : String := Utf8.decode (decodeBytes cs)

/-- The key and the value of a piece; without an equals sign, all of it is the key. -/
def pair (piece : List Char) : String × String :=
  (decode (piece.takeWhile (· ≠ '=')), decode ((piece.dropWhile (· ≠ '=')).drop 1))

/-- The keys and values of the text of a query. Empty pieces give none. -/
def ofText (cs : List Char) : List (String × String) :=
  ((Text.pieces '&' cs).filter fun piece => !piece.isEmpty).map pair

example : text [("labelSelector", "a in (b,c)")] = "&labelSelector=a+in+%28b%2Cc%29" := by
  decide +kernel
example : ofText "b/c?&x=1+2&%41%zz".toList = [("b/c?", ""), ("x", "1 2"), ("A%zz", "")] := by
  decide +kernel

end Query

/-- Why a text is no request target. -/
inductive TargetError where
  | tooLong
  | badCharacter
deriving DecidableEq, Repr, Inhabited

def TargetError.message : TargetError → String
  | tooLong => "uri too long"
  | badCharacter => "invalid uri character"

/-- A request target. -/
structure Target where
  path : String
  query : List (String × String) := []
deriving DecidableEq, Repr, Inhabited

namespace Target

/-- How many bytes a target may have. -/
def greatestSize : Nat := 65_534

/-- Blanks, control characters and a few marks have no place in a target. -/
def isTargetChar (c : Char) : Bool := ' ' < c && c ≠ '<' && c ≠ '>' && c ≠ '\x7f'

/-- Nor has a backquote in the path. -/
def isPathChar (c : Char) : Bool := isTargetChar c && c.toNat ≠ 0x60

/-- Nor has a double quote in the query. -/
def isQueryChar (c : Char) : Bool := isTargetChar c && c ≠ '"'

/-- The target that a text gives. -/
def ofText (s : String) : Except TargetError Target :=
  let cs := s.toList.takeWhile (· ≠ '#')
  let path := cs.takeWhile (· ≠ '?')
  let query := (cs.dropWhile (· ≠ '?')).drop 1
  if greatestSize < s.utf8ByteSize then .error .tooLong
  else if path.all isPathChar && query.all isQueryChar then
    .ok { path := String.ofList path, query := Query.ofText query }
  else .error .badCharacter

/-- What follows `directory` and a slash in the path. -/
def below? (t : Target) (directory : String) : Option String :=
  let start := (directory ++ "/").toList
  if start.isPrefixOf t.path.toList then some (String.ofList (t.path.toList.drop start.length))
  else none

/-- The value of a key of the query. -/
def value? (t : Target) (key : String) : Option String :=
  (t.query.find? fun q => q.1 = key).map (·.2)

end Target

end AuthProxy
