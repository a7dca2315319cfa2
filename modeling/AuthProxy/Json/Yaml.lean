import AuthProxy.Json.Printer

/-! # JSON values as YAML

One line for each scalar and each empty collection; members and items that are collections follow in
lines of their own, members two columns in and items under their key. Texts stand on one line, in
quotes only where they would otherwise be read as something else.
-/

namespace AuthProxy.Json.Yaml

/-- Words that are read as something else than texts. -/
def reserved : List String :=
  ["", "~", "null", "Null", "NULL", "true", "True", "TRUE", "false", "False", "FALSE"]

/-- Characters that start something else than a plain text. -/
def indicators : List Char := "-?:,[]\x7b\x7d#&*!|>'\"%@`".toList

/-- Whether a text could be read as a number. -/
def looksNumeric (s : String) : Bool :=
  match s.toList with
  | c :: rest => c.isDigit || ((c = '+' || c = '-' || c = '.') && (rest.any Char.isDigit))
  | [] => false

/-- Whether `marker`, followed by `next`, occurs in a text. -/
def hasPair (marker next : Char) : List Char → Bool
  | c :: d :: rest => (c = marker && d = next) || hasPair marker next (d :: rest)
  | _ => false

/-- Whether a text can stand without quotes. -/
def isPlain (s : String) : Bool :=
  let cs := s.toList
  !reserved.contains s && !looksNumeric s && !(cs.head?.any indicators.contains) &&
    !(cs.head?.any (· = ' ')) && !(cs.getLast?.any fun c => c = ' ' || c = ':') &&
    !hasPair ':' ' ' cs && !hasPair ' ' '#' cs

/-- A text on its line. -/
def scalarText (s : String) : String :=
  if isPlain s then s
  else "'" ++ String.join (s.toList.map fun c => if c = '\'' then "''" else c.toString) ++ "'"

/-- A value that fits on the line of its key. -/
def inline? : Json → Option String
  | .null => some "null"
  | .bool b => some (if b then "true" else "false")
  | .int n => some (toString n)
  | .float x => some x.text
  | .str s => some (scalarText s)
  | .arr [] => some "[]"
  | .obj [] => some "\x7b\x7d"
  | .arr _ | .obj _ => none

def indent (lines : List String) : List String := lines.map ("  " ++ ·)

/-- The lines of an item, the first one after a dash. -/
def dashed : List String → List String
  | [] => []
  | first :: rest => ("- " ++ first) :: indent rest

mutual

/-- The lines of a value. -/
def lines : Json → List String
  | .arr items =>
    match items with
    | [] => ["[]"]
    | _ :: _ => itemLines items
  | .obj ms =>
    match ms with
    | [] => ["\x7b\x7d"]
    | _ :: _ => memberLines ms
  | v => (inline? v).toList

def itemLines : List Json → List String
  | [] => []
  | v :: rest => dashed (lines v) ++ itemLines rest

def memberLines : List (String × Json) → List String
  | [] => []
  | (k, v) :: rest =>
    let own :=
      match inline? v, v with
      | some s, _ => [scalarText k ++ ": " ++ s]
      | none, .arr _ => (scalarText k ++ ":") :: lines v
      | none, _ => (scalarText k ++ ":") :: indent (lines v)
    own ++ memberLines rest

end

end Yaml

/-- The value as a YAML document. -/
def yaml (v : Json) : String := String.join ((Yaml.lines v).map (· ++ "\n"))

end AuthProxy.Json
