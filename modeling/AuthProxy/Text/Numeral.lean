/-! # Numerals in a range

Whole numbers written in decimal, as environment variables hold them: an optional sign and one or
more ASCII digits, any number of leading zeros. Reading goes from left to right and stops at the
first character that is not a digit or that takes the value out of the range.
-/

namespace AuthProxy

/-- A range of whole numbers; `signed` ranges also read a leading minus. -/
structure NumeralRange where
  signed : Bool
  least : Int
  greatest : Int
deriving DecidableEq, Repr

namespace NumeralRange

/-- Signed numbers of 32 bits. -/
def int32 : NumeralRange := ⟨true, -2_147_483_648, 2_147_483_647⟩

/-- Unsigned numbers of 64 bits. -/
def uint64 : NumeralRange := ⟨false, 0, 18_446_744_073_709_551_615⟩

end NumeralRange

/-- Why a text is no numeral of the range. -/
inductive NumeralError where
  | empty
  | invalidDigit
  | tooLarge
  | tooSmall
deriving DecidableEq, Repr

namespace NumeralError

def message : NumeralError → String
  | empty => "cannot parse integer from empty string"
  | invalidDigit => "invalid digit found in string"
  | tooLarge => "number too large to fit in target type"
  | tooSmall => "number too small to fit in target type"

end NumeralError

namespace Numeral

/-- The value of an ASCII digit. -/
def digit? (c : Char) : Option Nat :=
  if c.isDigit then some (c.toNat - '0'.toNat) else none

/-- Reads the digits of a number that is not negative, after `acc`. -/
def readUp (greatest : Int) (acc : Int) : List Char → Except NumeralError Int
  | [] => .ok acc
  | c :: rest =>
    match digit? c with
    | none => .error .invalidDigit
    | some d =>
      if acc * 10 + d ≤ greatest then readUp greatest (acc * 10 + d) rest else .error .tooLarge

/-- Reads the digits of a number that is not positive, after `acc`. -/
def readDown (least : Int) (acc : Int) : List Char → Except NumeralError Int
  | [] => .ok acc
  | c :: rest =>
    match digit? c with
    | none => .error .invalidDigit
    | some d =>
      if least ≤ acc * 10 - d then readDown least (acc * 10 - d) rest else .error .tooSmall

/-- Reads the characters of a numeral. A sign alone is not one. -/
def readChars (r : NumeralRange) : List Char → Except NumeralError Int
  | [] => .error .empty
  | ['+'] => .error .invalidDigit
  | ['-'] => .error .invalidDigit
  | '+' :: digits => readUp r.greatest 0 digits
  | '-' :: digits => if r.signed then readDown r.least 0 digits else .error .invalidDigit
  | digits => readUp r.greatest 0 digits

end Numeral

/-- The number that `s` writes, if it is a numeral of the range. -/
def NumeralRange.read (r : NumeralRange) (s : String) : Except NumeralError Int :=
  Numeral.readChars r s.toList

example : NumeralRange.int32.read "-2147483648" = .ok (-2147483648) := rfl
example : NumeralRange.int32.read "2147483648" = .error .tooLarge := rfl
example : NumeralRange.uint64.read "-1" = .error .invalidDigit := rfl

end AuthProxy
