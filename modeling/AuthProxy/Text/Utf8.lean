import AuthProxy.Text.Base64

/-! # Bytes as text

UTF-8 from any bytes. Where they are no UTF-8, a replacement character stands for the longest start
of a character, or for the one byte that starts none.
-/

namespace AuthProxy.Utf8

/-- A character of which bytes are still to come: what its bytes so far give, how many come, and the
bounds of the next one. -/
structure Pending where
  code : Nat
  left : Nat
  least : Nat := 0x80
  greatest : Nat := 0xBF
deriving DecidableEq, Repr

/-- The character that a first byte announces. -/
def announced? (b : Nat) : Option Pending :=
  if b < 0xC2 ∨ 0xF4 < b then none
  else if b < 0xE0 then some { code := b - 0xC0, left := 1 }
  else if b = 0xE0 then some { code := 0, left := 2, least := 0xA0 }
  else if b = 0xED then some { code := 0xD, left := 2, greatest := 0x9F }
  else if b < 0xF0 then some { code := b - 0xE0, left := 2 }
  else if b = 0xF0 then some { code := 0, left := 3, least := 0x90 }
  else if b = 0xF4 then some { code := 4, left := 3, greatest := 0x8F }
  else some { code := b - 0xF0, left := 3 }

/-- What stands for bytes that are no character. -/
def replacement : Char := Char.ofNat 0xFFFD

/-- The characters that a first byte completes, and the one that it starts. -/
def first (b : Nat) : List Char × Option Pending :=
  if b < 0x80 then ([Char.ofNat b], none)
  else
    match announced? b with
    | some p => ([], some p)
    | none => ([replacement], none)

/-- The characters that a byte completes, and the one that is pending afterwards. -/
def next (pending : Option Pending) (b : Nat) : List Char × Option Pending :=
  match pending with
  | none => first b
  | some p =>
    if p.least ≤ b ∧ b ≤ p.greatest then
      let code := p.code * 0x40 + (b - 0x80)
      if p.left = 1 then ([Char.ofNat code], none)
      else ([], some { code, left := p.left - 1 })
    else
      let (cs, p) := first b
      (replacement :: cs, p)

def decodeFrom (pending : Option Pending) : Bytes → List Char
  | [] => if pending.isSome then [replacement] else []
  | b :: rest =>
    let (cs, pending) := next pending b.toNat
    cs ++ decodeFrom pending rest

/-- The text that the bytes give. -/
def decode (b : Bytes) : String := String.ofList (decodeFrom none b)

example : decode [0x61, 0xC3, 0xA4, 0xF0, 0x9F, 0x98, 0x80] = "aä😀" := by decide +kernel
example : decode [0xE2, 0x82, 0x41, 0xFF, 0xC3] = "\ufffdA\ufffd\ufffd" := by decide +kernel

end AuthProxy.Utf8
