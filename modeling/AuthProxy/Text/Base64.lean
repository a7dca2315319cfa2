/-! # Base 64

Bytes as text of 64 symbols, three bytes to four symbols, with `=` filling up the last group.
Reading accepts exactly what writing produces: the filling is required and the unused bits of the
last symbol are zero. An error names the offending byte and its offset.
-/

namespace AuthProxy

/-- A list of bytes. -/
abbrev Bytes := List UInt8

namespace Bytes

/-- The UTF-8 bytes of a text. -/
def ofString (s : String) : Bytes := s.toList.flatMap String.utf8EncodeChar

/-- The text with the given UTF-8 bytes, if they are one. -/
def toString? (b : Bytes) : Option String := String.fromUTF8? ⟨b.toArray⟩

end Bytes

/-- Why a text is not base 64. -/
inductive Base64Error where
  | badSymbol (byte : UInt8) (offset : Nat)
  | badLastSymbol (byte : UInt8) (offset : Nat)
  | badLength (length : Nat)
  | badPadding
deriving DecidableEq, Repr

namespace Base64Error

def message : Base64Error → String
  | badSymbol b o => s!"Invalid symbol {b}, offset {o}."
  | badLastSymbol b o => s!"Invalid last symbol {b}, offset {o}."
  | badLength n => s!"Invalid input length: {n}"
  | badPadding => "Invalid padding"

end Base64Error

namespace Base64

/-- The symbol of a value below 64. -/
def symbol (n : Nat) : Char :=
  if n < 26 then Char.ofNat (65 + n)
  else if n < 52 then Char.ofNat (97 + (n - 26))
  else if n < 62 then Char.ofNat (48 + (n - 52))
  else if n = 62 then '+' else '/'

/-- The value of a symbol, given as its byte. -/
def value? (b : UInt8) : Option Nat :=
  let n := b.toNat
  if 65 ≤ n ∧ n ≤ 90 then some (n - 65)
  else if 97 ≤ n ∧ n ≤ 122 then some (n - 97 + 26)
  else if 48 ≤ n ∧ n ≤ 57 then some (n - 48 + 52)
  else if n = 43 then some 62
  else if n = 47 then some 63
  else none

/-- The byte of `=`. -/
def pad : UInt8 := 61

/-- Writes three bytes at a time. -/
def encodeChars : Bytes → List Char
  | [] => []
  | [a] => [symbol (a.toNat / 4), symbol (a.toNat % 4 * 16), '=', '=']
  | [a, b] =>
    [symbol (a.toNat / 4), symbol (a.toNat % 4 * 16 + b.toNat / 16), symbol (b.toNat % 16 * 4), '=']
  | a :: b :: c :: rest =>
    symbol (a.toNat / 4) :: symbol (a.toNat % 4 * 16 + b.toNat / 16)
      :: symbol (b.toNat % 16 * 4 + c.toNat / 64) :: symbol (c.toNat % 64) :: encodeChars rest

def encode (b : Bytes) : String := String.ofList (encodeChars b)

/-- The symbols of the last group before its filling, with the number of `=` after them. `seen`
holds the values read so far, `fill` the count of `=` and the offset of the first. -/
def lastGroup (offset : Nat) (seen : List Nat) (fill : Nat) (firstFill : Nat) :
    Bytes → Except Base64Error (List Nat × Nat)
  | [] => .ok (seen, fill)
  | b :: rest =>
    if b = pad then
      if seen.length + fill < 2 then .error (.badSymbol b offset)
      else lastGroup (offset + 1) seen (fill + 1) (if fill = 0 then offset else firstFill) rest
    else if 0 < fill then .error (.badSymbol pad firstFill)
    else match value? b with
      | none => .error (.badSymbol b offset)
      | some v => lastGroup (offset + 1) (seen ++ [v]) fill firstFill rest

/-- The bytes of the last group. -/
def finish (offset : Nat) (group : Bytes) : Except Base64Error Bytes := do
  let (seen, fill) ← lastGroup offset [] 0 0 group
  if group.isEmpty then return []
  if seen.length < 2 then throw (.badLength (offset + seen.length))
  if (seen.length + fill) % 4 ≠ 0 then throw .badPadding
  let last := group.getD (seen.length - 1) 0
  match seen with
  | [a, b] =>
    if b % 16 ≠ 0 then throw (.badLastSymbol last (offset + 1))
    return [UInt8.ofNat (a * 4 + b / 16)]
  | [a, b, c] =>
    if c % 4 ≠ 0 then throw (.badLastSymbol last (offset + 2))
    return [UInt8.ofNat (a * 4 + b / 16), UInt8.ofNat (b % 16 * 16 + c / 4)]
  | [a, b, c, d] =>
    return [UInt8.ofNat (a * 4 + b / 16), UInt8.ofNat (b % 16 * 16 + c / 4),
      UInt8.ofNat (c % 4 * 64 + d)]
  | _ => return []

/-- The value of the symbol at `offset`. -/
def valueAt (offset : Nat) (b : UInt8) : Except Base64Error Nat :=
  match value? b with
  | some v => .ok v
  | none => .error (.badSymbol b offset)

/-- Reads four symbols at a time; the last group, even a full one, may hold filling. -/
def groups (offset : Nat) : Bytes → Except Base64Error Bytes
  | a :: b :: c :: d :: e :: rest => do
    let va ← valueAt offset a
    let vb ← valueAt (offset + 1) b
    let vc ← valueAt (offset + 2) c
    let vd ← valueAt (offset + 3) d
    let more ← groups (offset + 4) (e :: rest)
    return UInt8.ofNat (va * 4 + vb / 16) :: UInt8.ofNat (vb % 16 * 16 + vc / 4)
      :: UInt8.ofNat (vc % 4 * 64 + vd) :: more
  | group => finish offset group

/-- Reads base 64. A single byte left over at the end that is no symbol is reported before anything
else. -/
def decodeBytes (input : Bytes) : Except Base64Error Bytes :=
  match input.getLast? with
  | some last =>
    if input.length % 4 = 1 ∧ last ≠ pad ∧ value? last = none then
      .error (.badSymbol last (input.length - 1))
    else groups 0 input
  | none => .ok []

def decode (s : String) : Except Base64Error Bytes := decodeBytes (Bytes.ofString s)

end Base64

example : Base64.encode (Bytes.ofString "bob") = "Ym9i" := by decide
example : Base64.decode "YQ==" = .ok [97] := by rfl
example : Base64.decode "!!" = .error (.badSymbol 33 0) := by rfl

end AuthProxy
