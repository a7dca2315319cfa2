import AuthProxy.Kind

/-! # Progress of a pass

How a step of a pass ends, and how the pass does. A step either goes on with a value or stops the
pass, which then runs again later.
-/

namespace AuthProxy

/-- Why a pass stops early and runs again. -/
inductive Requeue where
  /-- A dependent was created and may not be visible yet. -/
  | created (kind : Kind)
  /-- An object created earlier was taken over. -/
  | adopted (kind : Kind)
  /-- A write was based on a stale read. -/
  | conflict
  /-- The referenced Secret does not exist yet. -/
  | credentialsPending
deriving DecidableEq, Repr, Inhabited

namespace Requeue

/-- Whether the pass caused the requeue by its own writes; the others count as failures. -/
def isSelfCaused : Requeue → Bool
  | created _ | adopted _ => true
  | conflict | credentialsPending => false

def name : Requeue → String
  | created _ => "Created"
  | adopted _ => "Adopted"
  | conflict => "Conflict"
  | credentialsPending => "CredentialsPending"

/-- The kind of the object that was created or adopted. -/
def kind? : Requeue → Option Kind
  | created k | adopted k => some k
  | conflict | credentialsPending => none

/-- The reason with its details, as notices give it. -/
def text (r : Requeue) : String :=
  match r.kind? with
  | some k => r.name ++ " \x7b kind: " ++ Text.quote k.name ++ " \x7d"
  | none => r.name

end Requeue

/-- How a step ends. -/
inductive Progress (α : Type) where
  /-- The step has nothing left to do; the value is for the next one. -/
  | proceed (value : α)
  | requeue (reason : Requeue)
deriving DecidableEq, Repr, Inhabited

/-- How a pass ends. -/
inductive Outcome where
  /-- The authenticator no longer exists. -/
  | deleted
  /-- Every step has nothing left to do. -/
  | done (readyReplicas : Int32)
  | requeue (reason : Requeue)
deriving DecidableEq, Repr, Inhabited

end AuthProxy
