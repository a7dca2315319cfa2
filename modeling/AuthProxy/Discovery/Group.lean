import AuthProxy.Discovery.Version
import AuthProxy.Object.Authenticator

/-! # API groups

What a server says about the versions of an API group and the resources of each version, and whether
it serves authenticators: the recommended version of the group is the one that counts.
-/

namespace AuthProxy

/-- A resource of a version. It may name a version of its own. -/
structure ApiResource where
  name : String := ""
  kind : String := ""
  version : Option String := none
deriving DecidableEq, Repr, Inhabited

/-- The resources that a server lists under one group and version. -/
structure ApiResourceList where
  groupVersion : String := ""
  resources : List ApiResource := []
deriving DecidableEq, Repr, Inhabited

namespace ApiResource

/-- Resources below others, such as a status, are not counted. -/
def isTop (r : ApiResource) : Bool := !r.name.toList.contains '/'

end ApiResource

namespace ApiResourceList

/-- The version in a text of group and version. -/
def versionOf (groupVersion : String) : String :=
  let s := groupVersion.toList
  if s.contains '/' then String.ofList ((s.dropWhile (· ≠ '/')).drop 1) else groupVersion

/-- The kinds of the resources, each with the version it is served under. -/
def served (l : ApiResourceList) : List (String × String) :=
  (l.resources.filter (·.isTop)).map fun r => (r.kind, r.version.getD (versionOf l.groupVersion))

end ApiResourceList

/-- The versions of a group, each with its resources, and the version that the server prefers. -/
structure ApiGroup where
  preferred : Option String
  versions : List (String × ApiResourceList)
deriving DecidableEq, Repr, Inhabited

namespace ApiGroup

/-- The first of the versions that no other precedes. -/
def highest? : List String → Option String
  | [] => none
  | v :: rest =>
    match highest? rest with
    | none => some v
    | some w => if (ApiVersion.ofName w).precedes (ApiVersion.ofName v) then some w else some v

/-- The version that the server prefers, or else the highest one. -/
def recommended? (g : ApiGroup) : Option String :=
  g.preferred.orElse fun _ => highest? (g.versions.map (·.1))

/-- The kinds that the recommended version serves. -/
def recommendedServed (g : ApiGroup) : List (String × String) :=
  match g.recommended? with
  | some v => ((g.versions.find? fun e => e.1 = v).map fun e => e.2.served).getD []
  | none => []

/-- Whether the recommended version serves authenticators in the version that the operator
writes. -/
def servesAuthenticators (g : ApiGroup) : Bool :=
  g.recommendedServed.contains (Authenticator.kindName, Authenticator.version)

end ApiGroup

end AuthProxy
