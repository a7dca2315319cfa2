import AuthProxy.Json.ReadError
import AuthProxy.Text.Hex

/-! # Places in JSON texts

What follows at a place of a text, and the words, strings and numerals that may follow. An error is
reported at the byte at which it is noticed. Text may also be passed over, and then a string may
hold halves of characters, which have no value, and a numeral may be as large as it likes.
-/

namespace AuthProxy.Json

/-- A place in a text with all that follows. -/
structure Cursor where
  rest : List Char
  place : Place
deriving DecidableEq, Repr, Inhabited

/-- The error of a flaw that is noticed at a place. -/
def flawAt {α : Type} (p : Place) (f : Flaw) : Read α := .error (.located (.malformed f) p)

namespace Cursor

def ofText (s : String) : Cursor := ⟨s.toList, .start⟩

/-- The place behind the first byte of what follows. -/
def behind (c : Cursor) : Place :=
  match c.rest with
  | [] => c.place
  | ch :: _ => c.place.inside ch

/-- Past one character. -/
def next (c : Cursor) : Cursor :=
  match c.rest with
  | [] => c
  | ch :: rest => ⟨rest, c.place.after ch⟩

def isBlank (c : Char) : Bool := c = ' ' || c = '\n' || c = '\t' || c = '\r'

/-- Past the blanks at the start of a text. -/
def blanksFrom (p : Place) : List Char → Cursor
  | [] => ⟨[], p⟩
  | c :: rest => if isBlank c then blanksFrom (p.after c) rest else ⟨c :: rest, p⟩

/-- Past blanks. -/
def skipBlanks (c : Cursor) : Cursor := blanksFrom c.place c.rest

/-- Past a word that has to follow. -/
def word : List Char → Cursor → Read Cursor
  | [], c => .ok c
  | w :: word', c =>
    match c.rest with
    | [] => flawAt c.place .endInValue
    | ch :: _ => if w = ch then word word' c.next else flawAt c.behind .noWord

/-! ## Strings -/

/-- The number that four hexadecimal digits write. -/
def hex4? (a b c d : Char) : Option Nat := do
  let high := (← Text.hexDigit? a) * 16 + (← Text.hexDigit? b)
  return (high * 16 + (← Text.hexDigit? c)) * 16 + (← Text.hexDigit? d)

/-- The character of a short escape. -/
def shortEscape? (c : Char) : Option Char :=
  if c = '"' then some '"'
  else if c = '\\' then some '\\'
  else if c = '/' then some '/'
  else if c = 'b' then some '\x08'
  else if c = 'f' then some '\x0c'
  else if c = 'n' then some '\n'
  else if c = 'r' then some '\r'
  else if c = 't' then some '\t'
  else none

/-- Whether a code unit is the first half of a character. -/
def isFirstHalf (u : Nat) : Bool := 0xD800 ≤ u && u ≤ 0xDBFF

/-- Whether a code unit is the second half of a character. -/
def isSecondHalf (u : Nat) : Bool := 0xDC00 ≤ u && u ≤ 0xDFFF

/-- The error of an escape by number, the digits of which would have to be four bytes. -/
def hexFlaw {α : Type} (p : Place) (digits : List Char) : Read α :=
  let bytes := digits.foldl (fun n c => n + c.utf8Size) 0
  if bytes < 4 then flawAt (p.afterBytes bytes digits) .endInString
  else flawAt (p.afterBytes 4 digits) .badEscape

/-- The error of a backslash at `p` that starts no escape. -/
def escapeFlaw {α : Type} (p : Place) : List Char → Read α
  | [] => flawAt (p.right 1) .endInString
  | 'u' :: digits => hexFlaw (p.right 2) digits
  | c :: _ => flawAt ((p.right 1).inside c) .badEscape

/-- The error of what follows the first half of a character, where the other half would be. -/
def pairFlaw {α : Type} (p : Place) : List Char → Read α
  | [] => flawAt p .endInString
  | ['\\'] => flawAt (p.right 1) .endInString
  | '\\' :: 'u' :: digits => hexFlaw (p.right 2) digits
  | '\\' :: c :: _ => flawAt ((p.right 1).inside c) .brokenPair
  | c :: _ => flawAt (p.inside c) .brokenPair

/-- Reads a string up to its closing quote; `acc` holds the characters so far, last one first.
Characters beyond the basic plane are escaped in two halves. -/
def stringFrom (acc : List Char) (p : Place) : List Char → Read (String × Cursor)
  | [] => flawAt p .endInString
  | '"' :: rest => .ok (String.ofList acc.reverse, ⟨rest, p.right 1⟩)
  | '\\' :: 'u' :: a :: b :: c :: d :: rest =>
    match hex4? a b c d with
    | none => hexFlaw (p.right 2) (a :: b :: c :: d :: rest)
    | some u =>
      if isSecondHalf u then flawAt (p.right 6) .halfCharacter
      else if isFirstHalf u then
        match rest with
        | '\\' :: 'u' :: a' :: b' :: c' :: d' :: rest' =>
          match hex4? a' b' c' d' with
          | none => hexFlaw (p.right 8) (a' :: b' :: c' :: d' :: rest')
          | some v =>
            if isSecondHalf v then
              let code := 0x10000 + (u - 0xD800) * 0x400 + (v - 0xDC00)
              stringFrom (Char.ofNat code :: acc) (p.right 12) rest'
            else flawAt (p.right 12) .halfCharacter
        | rest => pairFlaw (p.right 6) rest
      else stringFrom (Char.ofNat u :: acc) (p.right 6) rest
  | '\\' :: rest =>
    match rest with
    | c :: rest' =>
      match shortEscape? c with
      | some e => stringFrom (e :: acc) (p.right 2) rest'
      | none => escapeFlaw p rest
    | [] => escapeFlaw p rest
  | c :: rest =>
    if c.toNat < 0x20 then flawAt (p.after c) .controlCharacter
    else stringFrom (c :: acc) (p.after c) rest

/-- Reads the string that starts behind a quote. -/
def string (c : Cursor) : Read (String × Cursor) := stringFrom [] c.place c.rest

/-- Passes over a string up to its closing quote. -/
def passStringFrom (p : Place) : List Char → Read Cursor
  | [] => flawAt p .endInString
  | '"' :: rest => .ok ⟨rest, p.right 1⟩
  | '\\' :: 'u' :: a :: b :: c :: d :: rest =>
    match hex4? a b c d with
    | none => hexFlaw (p.right 2) (a :: b :: c :: d :: rest)
    | some _ => passStringFrom (p.right 6) rest
  | '\\' :: rest =>
    match rest with
    | c :: rest' => if (shortEscape? c).isSome then passStringFrom (p.right 2) rest'
      else escapeFlaw p rest
    | [] => escapeFlaw p rest
  | c :: rest =>
    if c.toNat < 0x20 then flawAt p .controlCharacter else passStringFrom (p.after c) rest

/-- Passes over the string that starts behind a quote. -/
def passString (c : Cursor) : Read Cursor := passStringFrom c.place c.rest

/-! ## Numerals -/

/-- The exponent of a numeral: its digits, and whether it is negative. -/
structure Exponent where
  negative : Bool
  digits : List Char
deriving DecidableEq, Repr

/-- A numeral without its sign: digits, those of a fraction if there is one, and an exponent. -/
structure Numeral where
  whole : List Char
  fraction : List Char := []
  exponent : Option Exponent := none
deriving DecidableEq, Repr

/-- Past characters of one byte each. -/
def right (c : Cursor) (n : Nat) : Cursor := ⟨c.rest.drop n, c.place.right n⟩

/-- The digits that follow. -/
def digits (c : Cursor) : List Char × Cursor :=
  let ds := c.rest.takeWhile Char.isDigit
  (ds, c.right ds.length)

/-- The digits before the point. A zero stands alone. -/
def wholePart (atEnd : Flaw) (c : Cursor) : Read (List Char × Cursor) :=
  match c.rest with
  | [] => flawAt c.place atEnd
  | '0' :: _ =>
    let c := c.right 1
    if (c.rest.head?.map Char.isDigit).getD false then flawAt c.behind .badNumber
    else .ok (['0'], c)
  | ch :: _ => if ch.isDigit then .ok c.digits else flawAt c.behind .badNumber

/-- The digits behind a point, if one follows. -/
def fractionPart (atEnd : Flaw) (c : Cursor) : Read (List Char × Cursor) :=
  match c.rest with
  | '.' :: _ =>
    let (ds, c) := (c.right 1).digits
    if !ds.isEmpty then .ok (ds, c)
    else if c.rest.isEmpty then flawAt c.place atEnd
    else flawAt c.behind .badNumber
  | _ => .ok ([], c)

/-- The exponent, if its mark follows. -/
def exponentPart (atEnd : Flaw) (c : Cursor) : Read (Option Exponent × Cursor) :=
  match c.rest with
  | m :: rest =>
    if m = 'e' ∨ m = 'E' then
      let (negative, c) := match rest with
        | '+' :: _ => (false, c.right 2)
        | '-' :: _ => (true, c.right 2)
        | _ => (false, c.right 1)
      let (ds, c) := c.digits
      if !ds.isEmpty then .ok (some ⟨negative, ds⟩, c)
      else if c.rest.isEmpty then flawAt c.place atEnd
      else flawAt c.behind .badNumber
    else .ok (none, c)
  | [] => .ok (none, c)

/-- Reads a numeral behind its sign. A text that ends in the middle of it has the flaw `atEnd`. -/
def numeral (atEnd : Flaw) (c : Cursor) : Read (Numeral × Cursor) := do
  let (whole, c) ← wholePart atEnd c
  let (fraction, c) ← fractionPart atEnd c
  let (exponent, c) ← exponentPart atEnd c
  return (⟨whole, fraction, exponent⟩, c)

end Cursor

end AuthProxy.Json
