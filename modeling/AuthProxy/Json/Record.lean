import AuthProxy.Json.Read

/-! # Records

Objects of which every known member may occur once. A sequence gives the members of a record by
position.
-/

namespace AuthProxy.Json

variable {ν : Type}

/-- The members of a record, and the length of the sequence that gave them if one did. -/
structure Record (ν : Type) where
  members : List (String × ν)
  length? : Option Nat

namespace Record

/-- The member `field`, read, if it is there. -/
def get? {α : Type} (r : Record ν) (field : String) (read : ν → Read α) : Read (Option α) :=
  match member? field r.members with
  | none => .ok none
  | some v => (read v).map some

/-- The member `field`, or `default` where it is absent. -/
def getD {α : Type} (r : Record ν) (field : String) (read : ν → Read α) (default : α) : Read α :=
  (r.get? field read).map (·.getD default)

/-- Checks the members in order. -/
def checkMembers (check : String → ν → Read Unit) : List (String × ν) → Read Unit
  | [] => .ok ()
  | (k, v) :: rest => do
    check k v
    checkMembers check rest

end Record

/-- What a record type is called and its members in declaration order. -/
structure RecordType where
  name : String
  fields : List String
deriving DecidableEq, Repr

namespace RecordType

/-- The first known member that occurs a second time. -/
def duplicate? (fields : List String) : List (String × ν) → Option String
  | [] => none
  | (k, _) :: rest =>
    if fields.contains k && rest.any (fun m => m.1 = k) then some k else duplicate? fields rest

/-- What a sequence of the members is called. -/
def lengthText (t : RecordType) : String :=
  let unit := if t.fields.length = 1 then "element" else "elements"
  s!"struct {t.name} with {t.fields.length} {unit}"

/-- A member that must be there: an object lacks it by name, a sequence by its length. -/
def require {α : Type} (t : RecordType) (r : Record ν) (field : String) : Option α → Read α
  | some a => .ok a
  | none =>
    match r.length? with
    | none => .error (.missingField field)
    | some _ => .error (.wrongLength (t.fields.idxOf field) t.lengthText)

/-- A sequence may not be longer than the record. -/
def close (t : RecordType) (r : Record ν) : Read Unit :=
  match r.length? with
  | some n =>
    if t.fields.length < n then .error (.wrongLength n "fewer elements in array") else .ok ()
  | none => .ok ()

/-- The members of a value of the record type. -/
def read [Source ν] (t : RecordType) (v : ν) : Read (Record ν) := do
  match ← Source.layer v with
  | .obj ms broken =>
    match duplicate? t.fields ms with
    | some k => throw (.duplicateField k)
    | none =>
      whole broken
      return ⟨ms, none⟩
  | .arr items broken =>
    whole broken
    return ⟨t.fields.zip items, some items.length⟩
  | met => unfit v met ("struct " ++ t.name)

end RecordType

end AuthProxy.Json
