import AuthProxy.Json.Basic
import AuthProxy.Text.Quoted

/-! # Writing JSON text

Values on one line without blanks. Quotes, backslashes and control characters are escaped, all
other characters are written as they are.
-/

namespace AuthProxy.Json

/-- How a character is written inside a string. -/
def escapeChar (c : Char) : String :=
  if c = '"' then "\\\""
  else if c = '\\' then "\\\\"
  else if c = '\x08' then "\\b"
  else if c = '\x0c' then "\\f"
  else if c = '\n' then "\\n"
  else if c = '\r' then "\\r"
  else if c = '\t' then "\\t"
  else if c.toNat < 0x20 then
    let h := Text.hex c.toNat
    "\\u" ++ String.ofList (List.replicate (4 - h.length) '0') ++ h
  else c.toString

/-- A string with its quotes. -/
def quoted (s : String) : String := "\"" ++ String.join (s.toList.map escapeChar) ++ "\""

mutual

/-- The text of a value. -/
def text : Json → String
  | .null => "null"
  | .bool b => if b then "true" else "false"
  | .int n => toString n
  | .float x => x.text
  | .str s => quoted s
  | .arr items => "[" ++ ",".intercalate (itemTexts items) ++ "]"
  | .obj ms => "\x7b" ++ ",".intercalate (memberTexts ms) ++ "\x7d"

def itemTexts : List Json → List String
  | [] => []
  | v :: rest => text v :: itemTexts rest

def memberTexts : List (String × Json) → List String
  | [] => []
  | (k, v) :: rest => (quoted k ++ ":" ++ text v) :: memberTexts rest

end

end AuthProxy.Json
