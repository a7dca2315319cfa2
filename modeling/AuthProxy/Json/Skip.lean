import AuthProxy.Json.Cursor

/-! # Passing over values

Where a value of a JSON text ends, found without looking at what it stands for. Values that nobody
reads are passed over: they have to follow the grammar, but no limit holds for their numbers and
their nesting.
-/

namespace AuthProxy.Json.Cursor

/-- What encloses a value. -/
inductive Bracket where
  | list
  | object
deriving DecidableEq, Repr

namespace Bracket

def close : Bracket → Char
  | list => ']'
  | object => '\x7d'

/-- The flaw of a text that ends inside. -/
def endFlaw : Bracket → Flaw
  | list => .endInList
  | object => .endInObject

/-- The flaw of two parts that nothing separates. -/
def separatorFlaw : Bracket → Flaw
  | list => .noListSeparator
  | object => .noObjectSeparator

end Bracket

/-- Passes over the key of a member and its colon. -/
def passKey (c : Cursor) : Read Cursor := do
  let c := c.skipBlanks
  match c.rest with
  | [] => flawAt c.place .endInObject
  | '"' :: _ =>
    let c ← c.next.passString
    let c := c.skipBlanks
    match c.rest with
    | [] => flawAt c.place .endInObject
    | ':' :: _ => return c.next
    | _ => flawAt c.behind .noColon
  | _ => flawAt c.behind .noKey

/-- Passes over what has to come before a value between brackets. -/
def passLead (b : Bracket) (c : Cursor) : Read Cursor :=
  match b with
  | .list => .ok c
  | .object => c.passKey

/-- Passes over a word, a string or a numeral; `none` at an opening bracket. -/
def passScalar? (c : Cursor) : Read (Option Cursor) :=
  match c.rest with
  | [] => flawAt c.place .endInValue
  | ch :: _ =>
    if ch = '[' ∨ ch = '\x7b' then .ok none
    else if ch = 'n' then some <$> word "ull".toList c.next
    else if ch = 't' then some <$> word "rue".toList c.next
    else if ch = 'f' then some <$> word "alse".toList c.next
    else if ch = '"' then some <$> c.next.passString
    else if ch = '-' then (fun r => some r.2) <$> c.next.numeral .badNumber
    else if ch.isDigit then (fun r => some r.2) <$> c.numeral .badNumber
    else flawAt c.behind .noValue

mutual

/-- Passes over a value and out of the brackets around it, the innermost first. -/
def passValue (outer : List Bracket) (c : Cursor) : (fuel : Nat) → Read Cursor
  | 0 => flawAt c.place .endInValue
  | fuel + 1 => do
    let c := c.skipBlanks
    match ← c.passScalar? with
    | some c => passOut outer true c fuel
    | none =>
      let b : Bracket := if c.rest.head? = some '[' then .list else .object
      passOut (b :: outer) false c.next fuel

/-- Goes on behind a value, or behind an opening bracket if there was no value yet. -/
def passOut (outer : List Bracket) (value : Bool) (c : Cursor) : (fuel : Nat) → Read Cursor
  | 0 => flawAt c.place .endInValue
  | fuel + 1 =>
    match outer with
    | [] => .ok c
    | b :: more => do
      let c := c.skipBlanks
      match c.rest with
      | [] => flawAt c.place b.endFlaw
      | ch :: _ =>
        if value ∧ ch = ',' then passValue outer (← passLead b c.next) fuel
        else if ch = b.close then passOut more true c.next fuel
        else if value then flawAt c.behind b.separatorFlaw
        else passValue outer (← passLead b c) fuel

end

/-- More steps than passing over a value at the place can take. -/
def steps (c : Cursor) : Nat := 2 * c.rest.length + 2

/-- The place behind the value that follows, found in a number of steps. -/
def skipWithin (steps : Nat) (c : Cursor) : Read Cursor := passValue [] c steps

end AuthProxy.Json.Cursor
