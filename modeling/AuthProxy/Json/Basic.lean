import AuthProxy.Binary64

/-! # JSON values

The values of JSON documents. The members of an object are kept in the order in which they were
written, repetitions included; `sortKeys` gives the canonical form, with increasing keys of which
the last writing counts. Numbers are whole numbers where they fit 64 bits, doubles otherwise.
-/

namespace AuthProxy

/-- A JSON value. -/
inductive Json where
  | null
  | bool (b : Bool)
  | int (n : Int)
  | float (x : Binary64)
  | str (s : String)
  | arr (items : List Json)
  | obj (members : List (String × Json))
deriving Repr, Inhabited

namespace Json

/-- Members under increasing keys; a key written again replaces what it had. -/
def insertMember (k : String) (v : Json) : List (String × Json) → List (String × Json)
  | [] => [(k, v)]
  | (k', v') :: rest =>
    match compare k k' with
    | .lt => (k, v) :: (k', v') :: rest
    | .eq => (k, v) :: rest
    | .gt => (k', v') :: insertMember k v rest

/-- The value of the first member named `k`. -/
def member? {α : Type} (k : String) : List (String × α) → Option α
  | [] => none
  | (k', v) :: rest => if k = k' then some v else member? k rest

/-- The members not named `k`. -/
def withoutMember (k : String) (ms : List (String × Json)) : List (String × Json) :=
  ms.filter (fun m => m.1 != k)

mutual

/-- The canonical form: keys increase, and of equal keys the last one counts. -/
def sortKeys : Json → Json
  | .arr items => .arr (sortItems items)
  | .obj ms => .obj (sortMembers [] ms)
  | v => v

def sortItems : List Json → List Json
  | [] => []
  | v :: rest => sortKeys v :: sortItems rest

def sortMembers (acc : List (String × Json)) : List (String × Json) → List (String × Json)
  | [] => acc
  | (k, v) :: rest => sortMembers (insertMember k (sortKeys v) acc) rest

end

/-- The member `k` of an object. -/
def get? (v : Json) (k : String) : Option Json :=
  match v with
  | .obj ms => member? k ms
  | _ => none

def isNull : Json → Bool
  | .null => true
  | _ => false

mutual

/-- The result of a merge patch on a value: an object patches members, a null removes one, and
anything else replaces the value. -/
def mergePatch (target : Json) : Json → Json
  | .obj patch =>
    .obj (mergeMembers (match target with | .obj ms => ms | _ => []) patch)
  | patch => patch

def mergeMembers (ms : List (String × Json)) : List (String × Json) → List (String × Json)
  | [] => ms
  | (k, p) :: rest =>
    if p.isNull then mergeMembers (withoutMember k ms) rest
    else mergeMembers (insertMember k (mergePatch ((member? k ms).getD .null) p) ms) rest

end

/-- An object of the given members, without the absent ones. -/
def ofMembers (ms : List (String × Option Json)) : Json :=
  .obj (ms.filterMap fun m => m.2.map fun v => (m.1, v))

end Json

end AuthProxy
