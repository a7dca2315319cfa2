import AuthProxy.Notice

/-! # Waiting for the definition

The operator checks again and again whether the server serves authenticators, at intervals that
double up to a greatest one. A check that fails is one that did not find them.
-/

namespace AuthProxy

namespace Wait

/-- The first interval, in seconds. -/
def firstInterval : Nat := 10

/-- The greatest interval, in seconds. -/
def greatestInterval : Nat := 60

/-- The interval after another one. -/
def nextInterval (seconds : Nat) : Nat := Nat.min (seconds * 2) greatestInterval

/-- Whether a check found that authenticators are served. -/
def found : Except Error Bool → Bool
  | .ok b => b
  | .error _ => false

/-- What is told about a check, `seconds` before the next one. -/
def notice (seconds : Nat) : Except Error Bool → Notice
  | .ok true => .definitionServed Authenticator.apiVersion
  | .ok false => .definitionNotServed Authenticator.apiVersion seconds
  | .error e => .definitionCheckFailed e seconds

end Wait

/-- How far waiting has come. -/
structure Wait where
  /-- Whether authenticators are served. -/
  finished : Bool := false
  /-- How many checks were made. -/
  checks : Nat := 0
  /-- The pauses between them, in seconds. -/
  pauses : List Nat := []
  notices : List Notice := []
deriving Repr, Inhabited

namespace Wait

/-- Waiting before one more pause. -/
def addFirst (n : Notice) (pause : Nat) (w : Wait) : Wait :=
  { w with checks := w.checks + 1, pauses := pause :: w.pauses, notices := n :: w.notices }

/-- What waiting comes to if the checks come to `results`; it goes on where they end. -/
def through (interval : Nat) : List (Except Error Bool) → Wait
  | [] => {}
  | r :: rest =>
    if found r then { finished := true, checks := 1, notices := [notice interval r] }
    else (through (nextInterval interval) rest).addFirst (notice interval r) interval

/-- What waiting comes to until `deadline`, where `check` is made at a time. At most `fuel` checks
are made, and none at the deadline. -/
def untilWith {σ : Type} (check : Nat → σ → Except Error Bool × σ) (deadline : Nat) :
    (fuel now interval : Nat) → σ → Wait × σ
  | 0, _, _, s => ({}, s)
  | fuel + 1, now, interval, s =>
    if deadline ≤ now then ({}, s)
    else
      let (r, s) := check now s
      let n := notice interval r
      if found r then ({ finished := true, checks := 1, notices := [n] }, s)
      else
        let (w, s) := untilWith check deadline fuel (now + interval) (nextInterval interval) s
        (w.addFirst n interval, s)

/-- What waiting comes to until `deadline`. Every pause takes time, so there are no more checks than
seconds. -/
def untilTime {σ : Type} (check : Nat → σ → Except Error Bool × σ) (deadline : Nat) (s : σ) :
    Wait × σ :=
  untilWith check deadline (deadline + 1) 0 firstInterval s

/-- How long the pauses took. -/
def elapsed (w : Wait) : Nat := w.pauses.foldl (· + ·) 0

end Wait

end AuthProxy
