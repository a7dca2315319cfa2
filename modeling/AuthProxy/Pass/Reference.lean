import AuthProxy.Credentials
import AuthProxy.Program

/-! # The credentials step

The authenticator ends up with a reference to a Secret that exists. A reference that is set is never
changed, and the Secret behind it is never written again. Without a reference a Secret is created
first and referenced then; one left over from a pass that stopped in between is taken over.
-/

namespace AuthProxy.Authenticator

open Program

/-- The error of a dependent that belongs to someone else. -/
def notOwned (a : Authenticator) (what : String) (object : ObjectName) : Error :=
  .invariantViolation (what ++ " " ++ object.text ++ " exists but is not owned by " ++ a.fullName)

/-- Sets the reference and makes sure that the Secret is there afterwards. -/
def setReference (a : Authenticator) (name : String) (reason : Requeue) :
    Program (Progress String) := do
  let ns ← a.ownNamespace
  let updated : Authenticator := { a with spec := { a.spec with credentialsSecretRef := name } }
  if ← attempt (.update .authenticator updated) then
    tell (.referenceSet a.fullName name)
    match ← ask (.get .secret ns name) with
    | some _ => return .requeue reason
    | none =>
      tell (.secretVanished ⟨ns, name⟩)
      return .requeue .conflict
  else return .requeue .conflict

/-- Goes on with the referenced Secret if it exists. -/
def useReferenced (ns name : String) : Program (Progress String) := do
  match ← ask (.get .secret ns name) with
  | some secret =>
    if !(secret.data.any (·.contains Credentials.htpasswdKey)) then
      tell (.passwordFileMissing ⟨ns, name⟩ Credentials.htpasswdKey)
    return .proceed name
  | none =>
    tell (.secretMissing ⟨ns, name⟩)
    return .requeue .credentialsPending

/-- Creates the Secret with the `fresh` credentials and references it. -/
def createCredentials (a : Authenticator) (ns name : String) (fresh : Credentials) :
    Program (Progress String) := do
  let secret ← a.makeSecret name fresh
  if ← attempt (.create .secret secret) then
    tell (.secretCreated ⟨ns, name⟩)
    a.setReference name (.created .secret)
  else return .requeue .conflict

/-- Ensures that a credentials Secret exists and is referenced; goes on with its name. -/
def credentialsStep (a : Authenticator) (fresh : Credentials) : Program (Progress String) := do
  let ns ← a.ownNamespace
  if a.hasReference then useReferenced ns a.spec.credentialsSecretRef
  else
    let name := a.ownSecretName
    match ← ask (.get .secret ns name) with
    | some secret =>
      if a.owns secret.metadata then
        tell (.secretAdopted ⟨ns, name⟩)
        a.setReference name (.adopted .secret)
      else Program.fail (a.notOwned "secret" ⟨ns, name⟩)
    | none => a.createCredentials ns name fresh

end AuthProxy.Authenticator
