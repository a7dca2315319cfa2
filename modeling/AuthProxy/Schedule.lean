import AuthProxy.Backoff
import AuthProxy.Pass.Converge

/-! # Schedule

When an authenticator is looked at again after a pass. A pass that had nothing left to do, or whose
authenticator is gone, ends a row of failures; a requeue that the pass caused by its own writes
leaves them as they are; everything else is one more failure and waits for the backoff.
-/

namespace AuthProxy

/-- What happens next. -/
inductive Action where
  /-- Nothing, until something changes. -/
  | awaitChange
  /-- Another pass after some time. -/
  | passAfter (delay : Duration)
deriving DecidableEq, Repr, Inhabited

/-- What follows from a pass. There is no action if the delay is no span of time. -/
structure Decision where
  action : Option Action
  notices : List Notice := []
  backoff : Backoff

namespace Schedule

/-- Until the next pass when something was created that may not be visible yet. -/
def afterCreation : Duration := .ofSeconds 1

/-- Until the next pass when nothing was left to do; injected workloads are not watched. -/
def resync : Duration := .ofSeconds 300

/-- Counts a failure and waits for the backoff. -/
def retry (b : Backoff) (fullName : String) (jitter : Rat) (notice : Duration → Notice) :
    Decision :=
  let (delay, backoff) := b.next fullName jitter
  { action := delay.map .passAfter, notices := (delay.map notice).toList, backoff }

/-- What follows from the way a pass ended. -/
def afterOutcome (b : Backoff) (fullName : String) (jitter : Rat) : Outcome → Decision
  | .deleted => { action := some .awaitChange, backoff := b.forget fullName }
  | .done _ => { action := some (.passAfter resync), backoff := b.forget fullName }
  | .requeue r =>
    if r.isSelfCaused then { action := some (.passAfter afterCreation), backoff := b }
    else retry b fullName jitter fun d => .retrying fullName d r

/-- What is told about a pass that failed. -/
def failureNotice (fullName : String) (e : Error) (delay : Duration) : Notice :=
  match e with
  | .invariantViolation _ => .needsIntervention fullName e delay
  | _ => .passFailed fullName e delay

/-- What follows from the failure of a pass. -/
def afterError (b : Backoff) (fullName : String) (jitter : Rat) (e : Error) : Decision :=
  retry b fullName jitter (failureNotice fullName e)

/-- What follows from a pass. -/
def after (b : Backoff) (fullName : String) (jitter : Rat) : Except Error Outcome → Decision
  | .ok o => afterOutcome b fullName jitter o
  | .error e => afterError b fullName jitter e

end Schedule

namespace Authenticator

/-- The pass that is due for an authenticator that was listed. -/
def duePass (a : Authenticator) (settings : Settings) (fresh : Credentials) : Program Outcome := do
  let ns ← a.ownNamespace
  Authenticator.pass settings ns a.nameAny fresh

end Authenticator

end AuthProxy
