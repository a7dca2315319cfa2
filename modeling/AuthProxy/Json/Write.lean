import AuthProxy.Json.Basic
import AuthProxy.SortedMap
import AuthProxy.Text.Base64

/-! # Writing typed data as JSON

Values of the basic types. Each has its reader in `AuthProxy.Json.Read`, which gives the written
value back.
-/

namespace AuthProxy.Json

def ofInt32 (n : Int32) : Json := .int n.toInt

def ofInt64 (n : Int64) : Json := .int n.toInt

/-- Bytes as base 64. -/
def ofBytes (b : Bytes) : Json := .str (Base64.encode b)

def ofList {α : Type} (write : α → Json) (l : List α) : Json := .arr (l.map write)

def ofMap {α : Type} (write : α → Json) (m : StringMap α) : Json :=
  .obj (m.entries.map fun e => (e.1, write e.2))

def ofStrings (l : List String) : Json := ofList .str l

/-- Labels and annotations as an object. -/
def ofTexts (m : StringMap String) : Json := ofMap .str m

end AuthProxy.Json
