import AuthProxy.Json.Layer
import AuthProxy.SortedMap
import AuthProxy.Text.Base64

/-! # Reading typed data

Readers for the basic types, for lists, maps and enumerations, and for objects in which a null
stands for an absent member and unknown members are dropped. They read from any source of data.
-/

namespace AuthProxy.Json

variable {ν : Type}

/-! ## Parts in order -/

/-- The parts of a value have to be all there. -/
def whole : (broken : Option ReadError) → Read Unit
  | none => .ok ()
  | some e => .error e

/-- Reads the items in order; the first bad one is the error. -/
def readItems {α : Type} (read : ν → Read α) : List ν → Read (List α)
  | [] => .ok []
  | v :: rest => do
    let a ← read v
    let more ← readItems read rest
    return a :: more

/-- Reads the members in order into a map; of equal keys the last one counts. -/
def readEntries {α : Type} (read : ν → Read α) (acc : StringMap α) :
    List (String × ν) → Read (StringMap α)
  | [] => .ok acc
  | (k, v) :: rest => do
    let a ← read v
    readEntries read (acc.insert k a) rest

variable [Source ν]

/-! ## Basic types -/

/-- The error of a value that is not an `expected`. -/
def unfit {α : Type} (v : ν) (met : Layer ν) (expected : String) : Read α :=
  .error ((ReadError.wrongType met.found expected).locate (Source.placeMet v))

def readString (v : ν) : Read String := do
  match ← Source.layer v with
  | .str s => return s
  | met => unfit v met "a string"

def readBool (v : ν) : Read Bool := do
  match ← Source.layer v with
  | .bool b => return b
  | met => unfit v met "a boolean"

/-- Whole numbers from `least` to `greatest`. -/
def readIntIn (least greatest : Int) (expected : String) (v : ν) : Read Int := do
  match ← Source.layer v with
  | .int n =>
    if least ≤ n ∧ n ≤ greatest then return n
    else throw ((ReadError.wrongValue (.int n) expected).locate (Source.placeMet v))
  | met => unfit v met expected

def readInt32 (v : ν) : Read Int32 :=
  (readIntIn (-2_147_483_648) 2_147_483_647 "i32" v).map Int32.ofInt

def readInt64 (v : ν) : Read Int64 :=
  (readIntIn (-9_223_372_036_854_775_808) 9_223_372_036_854_775_807 "i64" v).map Int64.ofInt

/-- Bytes as base 64; a null stands for no bytes. -/
def readBytes (v : ν) : Read Bytes := do
  match ← Source.layer v with
  | .str s =>
    (Base64.decode s).mapError fun e => (ReadError.notBase64 e).locate (Source.placeMet v)
  | .null => return []
  | met => unfit v met "a base64-encoded string"

/-- A null stands for an absent value. -/
def readOption {α : Type} (read : ν → Read α) (v : ν) : Read (Option α) := do
  match ← Source.layer v with
  | .null => return none
  | _ => (read v).map some

def readList {α : Type} (read : ν → Read α) (v : ν) : Read (List α) := do
  match ← Source.layer v with
  | .arr items broken =>
    let as ← readItems read items
    whole broken
    return as
  | met => unfit v met "a sequence"

def readMap {α : Type} (read : ν → Read α) (v : ν) : Read (StringMap α) := do
  match ← Source.layer v with
  | .obj ms broken =>
    let entries ← readEntries read .empty ms
    whole broken
    return entries
  | met => unfit v met "a map"

/-! ## Objects as structures -/

/-- Takes the members in order, each changing what was read so far. -/
def foldMembers {α : Type} (set : α → String → ν → Read α) (acc : α) :
    List (String × ν) → Read α
  | [] => .ok acc
  | (k, v) :: rest => do
    let acc ← (set acc k v).mapError fun e => e.locate (Source.placeLeft v)
    foldMembers set acc rest

/-- Reads an object by its members, starting from the structure in which all are absent. -/
def foldObject {α : Type} (expected : String) (start : α) (set : α → String → ν → Read α)
    (v : ν) : Read α := do
  match ← Source.layer v with
  | .obj ms broken =>
    let a ← foldMembers set start ms
    whole broken
    return a
  | .arr .. =>
    throw ((ReadError.wrongType .sequence expected).locate (Source.placeEntered v))
  | met => unfit v met expected

/-- A member that, when given, has to be this text. -/
def readFixed (text : String) (v : ν) : Read Unit := do
  let s ← readString v
  if s = text then return () else throw (.wrongValue (.str s) text)

/-- Reads an enumeration written as a text, or as an object whose only member is the name of the
variant with a null. -/
def readVariant {α : Type} (known : List String) (ofName? : String → Option α) (v : ν) :
    Read α := do
  match ← Source.layer v with
  | .str s => named s
  | .obj [(k, unit)] none =>
    let a ← named k
    match ← Source.layer unit with
    | .null => return a
    | met => unfit unit met "unit"
  | .obj .. => throw (.wrongValue .map "map with a single key")
  | met => unfit v met "string or map"
where
  named (s : String) : Read α :=
    match ofName? s with
    | some a => .ok a
    | none => .error (.unknownVariant s known)

end AuthProxy.Json
