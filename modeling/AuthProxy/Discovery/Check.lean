import AuthProxy.Api.Client
import AuthProxy.Discovery.Group

/-! # Asking a server for an API group

The list of groups is fetched first, then the resources of each version of the operator's group, in
the order in which the server lists them. Any failure ends the check.
-/

namespace AuthProxy

open Json

variable {ν : Type} [Source ν]

/-- A version of a group as the server lists it. -/
structure ListedVersion where
  groupVersion : String := ""
  version : String := ""
deriving DecidableEq, Repr, Inhabited

/-- A group as the server lists it. -/
structure ListedGroup where
  name : String := ""
  preferredVersion : Option ListedVersion := none
  versions : List ListedVersion := []
deriving DecidableEq, Repr, Inhabited

namespace ListedVersion

def setMember (l : ListedVersion) (k : String) (v : ν) : Read ListedVersion :=
  match k with
  | "groupVersion" => return { l with groupVersion := (← readOption readString v).getD "" }
  | "version" => return { l with version := (← readOption readString v).getD "" }
  | _ => return l

def read : ν → Read ListedVersion := foldObject "GroupVersionForDiscovery" {} setMember

end ListedVersion

namespace ListedGroup

/-- Whether a member of a client address fits it. -/
def checkAddress (_ : Unit) (k : String) (v : ν) : Read Unit :=
  match k with
  | "clientCIDR" | "serverAddress" => discard (readOption readString v)
  | _ => return ()

def setMember (g : ListedGroup) (k : String) (v : ν) : Read ListedGroup :=
  match k with
  | "apiVersion" => do readFixed "v1" v; return g
  | "kind" => do readFixed "APIGroup" v; return g
  | "name" => return { g with name := (← readOption readString v).getD "" }
  | "preferredVersion" => return { g with preferredVersion := ← readOption ListedVersion.read v }
  | "serverAddressByClientCIDRs" => do
    let _ ← readOption (readList (foldObject "ServerAddressByClientCIDR" () checkAddress)) v
    return g
  | "versions" =>
    return { g with versions := (← readOption (readList ListedVersion.read) v).getD [] }
  | _ => return g

def read : ν → Read ListedGroup := foldObject "APIGroup" {} setMember

/-- The groups of a group list. -/
def setGroups (gs : List ListedGroup) (k : String) (v : ν) : Read (List ListedGroup) :=
  match k with
  | "apiVersion" => do readFixed "v1" v; return gs
  | "groups" => return (← readOption (readList read) v).getD []
  | "kind" => do readFixed "APIGroupList" v; return gs
  | _ => return gs

def readGroups : ν → Read (List ListedGroup) := foldObject "APIGroupList" [] setGroups

end ListedGroup

namespace ApiResource

def setMember (r : ApiResource) (k : String) (v : ν) : Read ApiResource :=
  match k with
  | "categories" | "shortNames" | "verbs" => do
    let _ ← readOption (readList readString) v
    return r
  | "group" | "singularName" | "storageVersionHash" => do
    let _ ← readOption readString v
    return r
  | "kind" => return { r with kind := (← readOption readString v).getD "" }
  | "name" => return { r with name := (← readOption readString v).getD "" }
  | "namespaced" => do
    let _ ← readOption readBool v
    return r
  | "version" => return { r with version := ← readOption readString v }
  | _ => return r

def read : ν → Read ApiResource := foldObject "APIResource" {} setMember

end ApiResource

namespace ApiResourceList

def setMember (l : ApiResourceList) (k : String) (v : ν) : Read ApiResourceList :=
  match k with
  | "apiVersion" => do readFixed "v1" v; return l
  | "groupVersion" => return { l with groupVersion := (← readOption readString v).getD "" }
  | "kind" => do readFixed "APIResourceList" v; return l
  | "resources" =>
    return { l with resources := (← readOption (readList ApiResource.read) v).getD [] }
  | _ => return l

def read : ν → Read ApiResourceList := foldObject "APIResourceList" {} setMember

end ApiResourceList

namespace Discovery

variable {σ : Type}

/-- Fetches a document. -/
def fetch {α : Type} (server : Server σ) (path : String) (read : Written → Read α) (s : σ) :
    Except ApiError α × σ :=
  match Target.ofText path with
  | .error e => (.error (.badLink e), s)
  | .ok target =>
    let (response, s) := server { method := .get, target } s
    (response.document read, s)

/-- Fetches the resources of each version, in order. -/
def fetchVersions (server : Server σ) :
    List ListedVersion → σ → Except ApiError (List (String × ApiResourceList)) × σ
  | [], s => (.ok [], s)
  | v :: rest, s =>
    match fetch server ("/apis/" ++ v.groupVersion) ApiResourceList.read s with
    | (.error e, s) => (.error e, s)
    | (.ok resources, s) =>
      match fetchVersions server rest s with
      | (.error e, s) => (.error e, s)
      | (.ok more, s) => (.ok ((v.version, resources) :: more), s)

/-- Fetches what a server says about a listed group, which has to have versions. -/
def fetchGroup (server : Server σ) (g : ListedGroup) (s : σ) : Except ApiError ApiGroup × σ :=
  if g.versions.isEmpty then (.error (.emptyGroup g.name), s)
  else
    let (versions, s) := fetchVersions server g.versions s
    (versions.map fun vs => ⟨g.preferredVersion.map (·.version), vs⟩, s)

/-- Fetches the groups called as the operator's. If there are several, the last one counts. -/
def fetchOwn (server : Server σ) (found : Option ApiGroup) :
    List ListedGroup → σ → Except ApiError (Option ApiGroup) × σ
  | [], s => (.ok found, s)
  | g :: rest, s =>
    if g.name = Authenticator.apiGroup then
      match fetchGroup server g s with
      | (.error e, s) => (.error e, s)
      | (.ok group, s) => fetchOwn server (some group) rest s
    else fetchOwn server found rest s

/-- Whether the server serves authenticators. -/
def check (server : Server σ) (s : σ) : Except ApiError Bool × σ :=
  match fetch server "/apis" ListedGroup.readGroups s with
  | (.error e, s) => (.error e, s)
  | (.ok groups, s) =>
    let (own, s) := fetchOwn server none groups s
    (own.map fun g => g.any (·.servesAuthenticators), s)

end Discovery

end AuthProxy
