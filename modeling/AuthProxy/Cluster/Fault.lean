import AuthProxy.Program

/-! # Faults

Calls that fail without reaching the store. A fault waits for calls of one operation and kind, lets
some through and then fails some; after that it has no effect.
-/

namespace AuthProxy

/-- How a call fails. -/
inductive Failure where
  /-- A read finds nothing. -/
  | absent
  | error (e : Error)
deriving DecidableEq, Repr, Inhabited

namespace Failure

/-- The failure of an API without anything said about it. -/
def unspecified : Error := .api (.refused { status := "", code := 500 })

/-- How the call ends. Only a read of one object can find nothing. -/
def result : Failure → (c : Call) → c.Result
  | absent, .get .. => .ok none
  | absent, _ => .error unspecified
  | error e, _ => .error e

end Failure

/-- Calls that are to fail. -/
structure Fault where
  operation : Operation
  kind : Kind
  failure : Failure
  /-- How many calls still go through. -/
  skip : Nat := 0
  /-- How many calls fail after that. -/
  count : Nat := 1
deriving DecidableEq, Repr, Inhabited

namespace Fault

/-- Whether the fault waits for such calls. -/
def awaits (f : Fault) (operation : Operation) (kind : Kind) : Bool :=
  f.operation = operation && f.kind = kind && (0 < f.skip || 0 < f.count)

/-- What the first fault that waits for a call does to it, and the faults afterwards. -/
def take (operation : Operation) (kind : Kind) : List Fault → Option Failure × List Fault
  | [] => (none, [])
  | f :: rest =>
    if f.awaits operation kind then
      if 0 < f.skip then (none, { f with skip := f.skip - 1 } :: rest)
      else (some f.failure, { f with count := f.count - 1 } :: rest)
    else
      let (failure, rest) := take operation kind rest
      (failure, f :: rest)

end Fault

end AuthProxy
