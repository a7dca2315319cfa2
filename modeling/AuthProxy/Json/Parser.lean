import AuthProxy.Json.Number
import AuthProxy.Json.Skip

/-! # Reading JSON text

A value that is written in a text, as a source of data: layers are read one by one, and what a
reader does not look at is passed over. `parse?` looks at everything, and there arrays and objects
may be nested 127 deep.
-/

namespace AuthProxy.Json

/-- How deep arrays and objects may be nested. -/
def greatestDepth : Nat := 127

namespace Cursor

/-- The items of a list up to its end. Each is passed over within `steps`. -/
def items (steps : Nat) (first : Bool) (c : Cursor) :
    (fuel : Nat) → List Cursor × Option ReadError
  | 0 => ([], none)
  | fuel + 1 =>
    let item (c : Cursor) : List Cursor × Option ReadError :=
      match c.skipWithin steps with
      | .error e => ([c], some e)
      | .ok after =>
        let (more, broken) := items steps false after fuel
        (c :: more, broken)
    let stop (p : Place) (f : Flaw) := ([], some (.located (.malformed f) p))
    let c := c.skipBlanks
    match c.rest with
    | [] => stop c.place .endInList
    | ch :: _ =>
      if ch = ']' then ([], none)
      else if first then item c
      else if ch = ',' then
        let c := c.next.skipBlanks
        match c.rest with
        | [] => stop c.place .endInValue
        | ']' :: _ => stop c.behind .trailingComma
        | _ => item c
      else stop c.behind .noListSeparator

/-- The key of a member and the place behind its colon. -/
def key (c : Cursor) : Read (String × Cursor) := do
  let (k, c) ← c.next.string
  let c := c.skipBlanks
  match c.rest with
  | [] => flawAt c.place .endInObject
  | ':' :: _ => return (k, c.next)
  | _ => flawAt c.behind .noColon

/-- The members of an object up to its end. The value of each is passed over within `steps`. -/
def members (steps : Nat) (first : Bool) (c : Cursor) :
    (fuel : Nat) → List (String × Cursor) × Option ReadError
  | 0 => ([], none)
  | fuel + 1 =>
    let member (c : Cursor) : List (String × Cursor) × Option ReadError :=
      match c.key with
      | .error e => ([], some e)
      | .ok (k, value) =>
        match value.skipWithin steps with
        | .error e => ([(k, value)], some e)
        | .ok after =>
          let (more, broken) := members steps false after fuel
          ((k, value) :: more, broken)
    let stop (p : Place) (f : Flaw) := ([], some (.located (.malformed f) p))
    let c := c.skipBlanks
    match c.rest with
    | [] => stop c.place .endInObject
    | ch :: _ =>
      if ch = '\x7d' then ([], none)
      else if first then if ch = '"' then member c else stop c.behind .noKey
      else if ch = ',' then
        let c := c.next.skipBlanks
        match c.rest with
        | [] => stop c.place .endInValue
        | '"' :: _ => member c
        | '\x7d' :: _ => stop c.behind .trailingComma
        | _ => stop c.behind .noKey
      else stop c.behind .noObjectSeparator

/-- Reads a word, a string or a number; `none` at an opening bracket. -/
def scalar? {ν : Type} (c : Cursor) : Read (Option (Layer ν × Cursor)) :=
  match c.rest with
  | [] => flawAt c.place .endInValue
  | ch :: _ =>
    if ch = '[' ∨ ch = '\x7b' then .ok none
    else if ch = 'n' then (fun c => some (.null, c)) <$> word "ull".toList c.next
    else if ch = 't' then (fun c => some (.bool true, c)) <$> word "rue".toList c.next
    else if ch = 'f' then (fun c => some (.bool false, c)) <$> word "alse".toList c.next
    else if ch = '"' then (fun (s, c) => some (.str s, c)) <$> c.next.string
    else if ch = '-' then some <$> c.next.number true
    else if ch.isDigit then some <$> c.number false
    else flawAt c.behind .noValue

/-- Where a reader stands that went into a sequence and looked for its end. -/
def placeEntered (c : Cursor) : Place :=
  let c := c.skipBlanks.next.skipBlanks
  match c.rest with
  | ']' :: _ => c.next.place
  | ',' :: _ => c.next.skipBlanks.place
  | _ => c.place

end Cursor

/-- A value in a text: where it starts, and in how many steps any value of the text is passed
over. -/
structure Written where
  start : Cursor
  steps : Nat
deriving Inhabited

namespace Written

/-- The value that a text starts with. -/
def ofText (text : String) : Written :=
  let c := Cursor.ofText text
  ⟨c, c.steps⟩

/-- The outside of the value. -/
def layer (v : Written) : Read (Layer Written) := do
  let c := v.start.skipBlanks
  match ← c.scalar? with
  | some (scalar, _) => return scalar
  | none =>
    if c.rest.head? = some '[' then
      let (items, broken) := Cursor.items v.steps true c.next v.steps
      return .arr (items.map fun c => ⟨c, v.steps⟩) broken
    else
      let (members, broken) := Cursor.members v.steps true c.next v.steps
      return .obj (members.map fun m => (m.1, ⟨m.2, v.steps⟩)) broken

/-- The value with all its parts. -/
def value : (depth : Nat) → Written → Read Json
  | depth, v => do
    match ← v.layer with
    | .null => return .null
    | .bool b => return .bool b
    | .int n => return .int n
    | .float x => return .float x
    | .str s => return .str s
    | .arr items broken =>
      match depth with
      | 0 => flawAt v.start.skipBlanks.behind .deepNesting
      | depth + 1 =>
        let values ← items.mapM (value depth)
        match broken with
        | none => return .arr values
        | some e => .error e
    | .obj members broken =>
      match depth with
      | 0 => flawAt v.start.skipBlanks.behind .deepNesting
      | depth + 1 =>
        let values ← members.mapM fun (k, v) => return (k, ← value depth v)
        match broken with
        | none => return .obj values
        | some e => .error e

/-- Where a reader stands that met the value: behind a scalar, in front of a bracket. -/
def placeMet (v : Written) : Option Place :=
  let c := v.start.skipBlanks
  match (c.scalar? : Read (Option (Layer Written × Cursor))) with
  | .ok (some (_, after)) => some after.place
  | .ok none => some c.place
  | .error _ => none

/-- Where a reader stands that read the value of a member and looked for the end of the object. -/
def placeLeft (v : Written) : Option Place :=
  match v.start.skipWithin v.steps with
  | .ok after =>
    let after := after.skipBlanks
    if after.rest.head? = some '\x7d' then some after.next.place else some after.place
  | .error _ => none

instance : Source Written where
  layer := layer
  placeMet := placeMet
  placeEntered v := some v.start.placeEntered
  placeLeft := placeLeft
  inspect depth v := discard (v.value depth)

/-- Nothing but blanks may follow behind the value. -/
def finish (v : Written) : Read Unit := do
  let after := (← v.start.skipWithin v.steps).skipBlanks
  if after.rest.isEmpty then return () else flawAt after.behind .trailingText

end Written

/-- Reads a text that holds one document. -/
def readText {α : Type} (read : Written → Read α) (text : String) : Read α := do
  let v := Written.ofText text
  let a ← read v
  v.finish
  return a

/-- The value that a JSON text writes, its members in the order of the text. -/
def parse? (text : String) : Option Json :=
  (readText (Written.value greatestDepth) text).toOption

end AuthProxy.Json
