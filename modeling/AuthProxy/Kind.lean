import AuthProxy.Object.Name
import AuthProxy.Wire.Authenticator
import AuthProxy.Wire.Workload

/-! # Kinds of objects

The four kinds of objects that are stored, the type of the objects of each kind, and what all kinds
have in common: metadata, a status that is written apart from the rest, and a form in documents.
-/

namespace AuthProxy

/-- A kind of stored objects. -/
inductive Kind where
  | authenticator
  | configMap
  | deployment
  | secret
deriving DecidableEq, Repr, Inhabited

namespace Kind

/-- All kinds, in the order of their names. -/
def all : List Kind := [authenticator, configMap, deployment, secret]

def name : Kind → String
  | authenticator => Authenticator.kindName
  | configMap => ConfigMap.kindName
  | deployment => Deployment.kindName
  | secret => Secret.kindName

def ofName? (s : String) : Option Kind := all.find? (fun k => k.name = s)

theorem ofName?_name (k : Kind) : ofName? k.name = some k := by
  cases k <;> decide +kernel

def apiVersion : Kind → String
  | authenticator => Authenticator.apiVersion
  | configMap => ConfigMap.apiVersion
  | deployment => Deployment.apiVersion
  | secret => Secret.apiVersion

/-- What a collection of the kind is called in paths. -/
def plural : Kind → String
  | authenticator => "basicauthenticators"
  | configMap => "configmaps"
  | deployment => "deployments"
  | secret => "secrets"

/-- Where the API serves the kind. The first API version has a root of its own. -/
def root (k : Kind) : String :=
  if k.apiVersion = "v1" then "/api/v1" else "/apis/" ++ k.apiVersion

/-- The objects of a kind. -/
abbrev Object : Kind → Type
  | authenticator => Authenticator
  | configMap => ConfigMap
  | deployment => Deployment
  | secret => Secret

def metadata : (k : Kind) → k.Object → ObjectMeta
  | authenticator, a => a.metadata
  | configMap, c => c.metadata
  | deployment, d => d.metadata
  | secret, s => s.metadata

def withMetadata : (k : Kind) → k.Object → ObjectMeta → k.Object
  | authenticator, a, m => { a with metadata := m }
  | configMap, c, m => { c with metadata := m }
  | deployment, d, m => { d with metadata := m }
  | secret, s, m => { s with metadata := m }

@[simp] theorem metadata_withMetadata (k : Kind) (o : k.Object) (m : ObjectMeta) :
    k.metadata (k.withMetadata o m) = m := by
  cases k <;> rfl

/-- The object without its status. -/
def withoutStatus : (k : Kind) → k.Object → k.Object
  | authenticator, a => { a with status := none }
  | configMap, c => c
  | deployment, d => { d with status := none }
  | secret, s => s

/-- The object `o` with the status that `source` has. -/
def withStatusOf : (k : Kind) → (source o : k.Object) → k.Object
  | authenticator, source, a => { a with status := source.status }
  | configMap, _, c => c
  | deployment, source, d => { d with status := source.status }
  | secret, _, s => s

@[simp] theorem metadata_withoutStatus (k : Kind) (o : k.Object) :
    k.metadata (k.withoutStatus o) = k.metadata o := by
  cases k <;> rfl

@[simp] theorem metadata_withStatusOf (k : Kind) (source o : k.Object) :
    k.metadata (k.withStatusOf source o) = k.metadata o := by
  cases k <;> rfl

def nameAny (k : Kind) (o : k.Object) : String := (k.metadata o).nameAny

/-- Where an object of the kind is stored. -/
def key (k : Kind) (o : k.Object) : ObjectName := ⟨(k.metadata o).namespaceAny, k.nameAny o⟩

/-- Reads an object from a document. -/
def read {ν : Type} [Json.Source ν] : (k : Kind) → ν → Read k.Object
  | authenticator => Authenticator.read
  | configMap => ConfigMap.read
  | deployment => Deployment.read
  | secret => Secret.read

/-- The document of an object. -/
def write : (k : Kind) → k.Object → Json
  | authenticator => Authenticator.write
  | configMap => ConfigMap.write
  | deployment => Deployment.write
  | secret => Secret.write

instance : (k : Kind) → DecidableEq k.Object
  | authenticator => inferInstanceAs (DecidableEq Authenticator)
  | configMap => inferInstanceAs (DecidableEq ConfigMap)
  | deployment => inferInstanceAs (DecidableEq Deployment)
  | secret => inferInstanceAs (DecidableEq Secret)

end Kind

end AuthProxy
