/-! # Object names

Namespace and name, under which an object of a kind is stored. Names are ordered by their namespaces
first.
-/

namespace AuthProxy

/-- A namespace and a name in it. -/
structure ObjectName where
  ns : String
  name : String
deriving DecidableEq, Repr, Inhabited

namespace ObjectName

instance : Ord ObjectName := ⟨compareLex (compareOn (·.ns)) (compareOn (·.name))⟩

instance : Std.TransOrd ObjectName :=
  inferInstanceAs (Std.TransCmp
    (compareLex (compareOn fun o : ObjectName => o.ns) (compareOn fun o : ObjectName => o.name)))

instance : Std.LawfulEqOrd ObjectName where
  eq_of_compare {a b} h := by
    obtain ⟨h₁, h₂⟩ := compareLex_eq_eq.1 (show compareLex _ _ a b = .eq from h)
    cases a
    cases b
    simp_all [compareOn]

/-- Namespace and name with a slash between them. -/
def text (o : ObjectName) : String := o.ns ++ "/" ++ o.name

end ObjectName

end AuthProxy
