import AuthProxy.Json.Cursor
import AuthProxy.Json.Layer

/-! # Numbers in JSON texts

What numerals stand for. Whole numbers of 64 bits are kept exact; all others become doubles, from as
many leading digits as 64 bits hold. A number beyond the greatest double is an error.
-/

namespace AuthProxy.Json.Cursor

namespace Numeral

/-- The greatest significand. -/
def greatestDigits : Nat := 18_446_744_073_709_551_615

def digitOf (c : Char) : Nat := c.toNat - '0'.toNat

/-- The number that a run of digits writes. -/
def digitsValue (ds : List Char) : Nat := ds.foldl (fun n c => n * 10 + digitOf c) 0

/-- Takes digits into the significand while it stays in 64 bits. Returns the significand, the number
of digits taken, and the digits left over. -/
def takeDigits (digits taken : Nat) : List Char → Nat × Nat × List Char
  | [] => (digits, taken, [])
  | c :: rest =>
    if digits * 10 + digitOf c ≤ greatestDigits then
      takeDigits (digits * 10 + digitOf c) (taken + 1) rest
    else (digits, taken, c :: rest)

/-- An exponent of more than 31 bits leaves a zero at zero, makes a small number zero and is no
number otherwise. -/
def hugeExponent : Nat := 2_147_483_648

/-- The significand and its power of ten, the exponent left out. -/
def significand (m : Numeral) : Nat × Int :=
  let (n, _, dropped) := takeDigits 0 0 m.whole
  let (n, after, _) := takeDigits n 0 m.fraction
  (n, (dropped.length : Int) - after)

/-- The double that the numeral stands for. -/
def double? (m : Numeral) (negative : Bool) : Option Binary64 :=
  let (n, power) := m.significand
  match m.exponent with
  | none => Binary64.ofDecimal? negative n power
  | some e =>
    let size := digitsValue e.digits
    if size < hugeExponent then
      Binary64.ofDecimal? negative n (if e.negative then power - size else power + size)
    else if n = 0 || e.negative then Binary64.ofDecimal? negative 0 0
    else none

/-- The whole number of 64 bits that the numeral stands for. A minus and zero are a double. -/
def int? (m : Numeral) (negative : Bool) : Option Int :=
  let n := digitsValue m.whole
  if !m.fraction.isEmpty || m.exponent.isSome then none
  else if !negative then if n ≤ greatestDigits then some n else none
  else if n ≠ 0 ∧ n ≤ 9_223_372_036_854_775_808 then some (-n)
  else none

/-- How many digits of the exponent come after the one that makes it too large. -/
def excess (m : Numeral) : Nat :=
  match m.exponent with
  | none => 0
  | some e =>
    let lengths := List.range e.digits.length
    match lengths.find? fun k => hugeExponent ≤ digitsValue (e.digits.take (k + 1)) with
    | some k => e.digits.length - (k + 1)
    | none => 0

end Numeral

/-- Reads a number behind its sign. -/
def number {ν : Type} (negative : Bool) (c : Cursor) : Read (Layer ν × Cursor) := do
  let (m, c) ← c.numeral .endInValue
  match m.int? negative with
  | some n => return (.int n, c)
  | none =>
    match m.double? negative with
    | some x => return (.float x, c)
    | none =>
      flawAt { c.place with column := c.place.column - m.excess } .hugeNumber

end AuthProxy.Json.Cursor
