import AuthProxy.Owners

/-! # Dependents

What the objects made for an authenticator have in common: its namespace, labels that name it, and a
reference to it as their owner.
-/

namespace AuthProxy

/-- How the operator calls itself, in labels and as the manager of the fields it writes. -/
def operatorName : String := "basic-authenticator"

namespace Authenticator

/-- Whether the object belongs to the authenticator. -/
def owns (a : Authenticator) (m : ObjectMeta) : Bool := m.belongsTo a.metadata

/-- The labels of every object made for the authenticator. -/
def dependentLabels (a : Authenticator) : Labels :=
  .ofList [
    ("app.kubernetes.io/name", operatorName),
    ("app.kubernetes.io/instance", a.nameAny),
    ("app.kubernetes.io/managed-by", operatorName)]

/-- The metadata of the dependent called `name`. -/
def dependentMeta (a : Authenticator) (name : String) : Except Error ObjectMeta := do
  let ns ← a.ownNamespace
  let m : ObjectMeta := { name := some name, ns := some ns, labels := some a.dependentLabels }
  m.declareOwner .authenticator a.metadata

end Authenticator

end AuthProxy
