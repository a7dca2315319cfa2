import AuthProxy.Text.Hex
import AuthProxy.Text.Unprintable

/-! # Quoted text

Text between double quotes, in the form error messages use: the usual short escapes, `\u{…}` with
the hexadecimal code point for characters that are not shown as themselves, and everything else
kept.
-/

namespace AuthProxy.Text

/-- How a single character is written inside the quotes. -/
def quoteChar (c : Char) : String :=
  if c = '\x00' then "\\0"
  else if c = '\t' then "\\t"
  else if c = '\r' then "\\r"
  else if c = '\n' then "\\n"
  else if c = '\\' then "\\\\"
  else if c = '"' then "\\\""
  else if isUnprintable c then "\\u\x7b" ++ hex c.toNat ++ "\x7d"
  else c.toString

/-- The text in quotes. -/
def quote (s : String) : String := "\"" ++ String.join (s.toList.map quoteChar) ++ "\""

example : quote "a\"b\n" = "\"a\\\"b\\n\"" := by decide +kernel

end AuthProxy.Text
