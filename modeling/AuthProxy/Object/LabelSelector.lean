import AuthProxy.Object.Metadata

/-! # Label selectors as documents hold them

The selector of a resource before it is checked: pairs that the labels must contain, and
requirements whose operator is still a text.
-/

namespace AuthProxy

/-- A requirement on one label key. -/
structure LabelRequirement where
  key : String := ""
  operator : String := ""
  values : Option (List String) := none
deriving DecidableEq, Repr, Inhabited

/-- Required label pairs and requirements; both parts may be absent. -/
structure LabelSelector where
  matchExpressions : Option (List LabelRequirement) := none
  matchLabels : Option Labels := none
deriving DecidableEq, Repr, Inhabited

/-- A selector without pairs and requirements. The operator lets it select nothing. -/
def LabelSelector.isEmpty (s : LabelSelector) : Bool :=
  (s.matchLabels.getD .empty).isEmpty && (s.matchExpressions.getD []).isEmpty

end AuthProxy
