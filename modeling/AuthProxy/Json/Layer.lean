import AuthProxy.Json.Basic
import AuthProxy.Json.ReadError

/-! # Layers of values

A value as a reader meets it: what it is on the outside, with its parts still to be looked at.
Anything that can be looked at in this way is a source of data, JSON values among them.
-/

namespace AuthProxy.Json

/-- The outside of a value. The parts of a sequence or an object may break off with an error, which
comes after all of them. -/
inductive Layer (ν : Type) where
  | null
  | bool (b : Bool)
  | int (n : Int)
  | float (x : Binary64)
  | str (s : String)
  | arr (items : List ν) (broken : Option ReadError)
  | obj (members : List (String × ν)) (broken : Option ReadError)

namespace Layer

variable {ν : Type}

/-- What an error says about the value. -/
def found : Layer ν → Found
  | null => .null
  | bool b => .bool b
  | int n => .int n
  | float x => .float x
  | str s => .str s
  | arr .. => .sequence
  | obj .. => .map

end Layer

/-- What data is read from. Where errors are noticed is known of places in texts only. -/
class Source (ν : Type) where
  /-- The outside of a value. -/
  layer : ν → Read (Layer ν)
  /-- Where it is noticed that the value is not what is expected. -/
  placeMet : ν → Option Place
  /-- Where it is noticed that the value is a sequence and not an object. -/
  placeEntered : ν → Option Place
  /-- Where it is noticed that the value is wrong for the object that it is a member of. -/
  placeLeft : ν → Option Place
  /-- Looks at the value with all its parts, which may be nested so deep. -/
  inspect : (depth : Nat) → ν → Read Unit

/-- The outside of a JSON value. -/
def layer : Json → Layer Json
  | .null => .null
  | .bool b => .bool b
  | .int n => .int n
  | .float x => .float x
  | .str s => .str s
  | .arr items => .arr items none
  | .obj members => .obj members none

/-- A value is all there. -/
instance : Source Json where
  layer v := .ok v.layer
  placeMet _ := none
  placeEntered _ := none
  placeLeft _ := none
  inspect _ _ := .ok ()

end AuthProxy.Json
