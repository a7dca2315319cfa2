import AuthProxy.Text.Numeral

/-! # Places in texts

Where something is in a text: the line, counted from one, and the number of bytes before it on that
line. A message about a text may end in its place; `Place.ofReport?` takes such a message apart
again.
-/

namespace AuthProxy

/-- A place in a text. -/
structure Place where
  line : Nat
  column : Nat
deriving DecidableEq, Repr, Inhabited

namespace Place

/-- Where a text starts. -/
def start : Place := ⟨1, 0⟩

/-- The place behind a character. -/
def after (p : Place) (c : Char) : Place :=
  if c = '\n' then ⟨p.line + 1, 0⟩ else { p with column := p.column + c.utf8Size }

/-- The place behind the first byte of a character. -/
def inside (p : Place) (c : Char) : Place :=
  if c = '\n' then ⟨p.line + 1, 0⟩ else { p with column := p.column + 1 }

/-- The place `n` bytes further on the line. -/
def right (p : Place) (n : Nat) : Place := { p with column := p.column + n }

/-- The place behind the first `n` bytes of a text, or behind all of it. -/
def afterBytes (p : Place) : Nat → List Char → Place
  | _, [] => p
  | n, c :: rest =>
    if n = 0 then p
    else if c.utf8Size ≤ n then afterBytes (p.after c) (n - c.utf8Size) rest
    else p.right n

/-- The place as messages end in it. -/
def suffix (p : Place) : String :=
  " at line " ++ toString p.line ++ " column " ++ toString p.column

/-! ## Messages with a place -/

/-- What stands before and behind the last occurrence of `word`. -/
def splitLast? (word : List Char) : List Char → Option (List Char × List Char)
  | [] => none
  | c :: rest =>
    match splitLast? word rest with
    | some (before, behind) => some (c :: before, behind)
    | none =>
      if word.isPrefixOf (c :: rest) then some ([], (c :: rest).drop word.length) else none

/-- The place that a text of the form `7 column 3` gives; its numbers have 64 bits. -/
def ofNumbers? (s : List Char) : Option Place := do
  let line := s.takeWhile Char.isDigit
  let rest := s.dropWhile Char.isDigit
  let word := " column ".toList
  let column := rest.drop word.length
  guard (word.isPrefixOf rest && column.all Char.isDigit)
  let number (digits : List Char) : Option Nat :=
    ((Numeral.readChars .uint64 digits).map Int.toNat).toOption
  return ⟨← number line, ← number column⟩

/-- The message and the place of a report that ends in one. -/
def ofReport? (report : String) : Option (String × Place) := do
  let (message, numbers) ← splitLast? " at line ".toList report.toList
  return (String.ofList message, ← ofNumbers? numbers)

/-- A report with its place in plain numbers. At line zero there is no place to tell. -/
def normalReport (report : String) : String :=
  match ofReport? report with
  | some (message, p) => if p.line = 0 then message else message ++ p.suffix
  | none => report

example : normalReport "x at line 007 column 03" = "x at line 7 column 3" := by decide +kernel
example : normalReport "x at line 7" = "x at line 7" := by decide +kernel

end Place

end AuthProxy
