import AuthProxy.Selector
import AuthProxy.Text.Pieces

/-! # Selectors in queries

What a server makes of the text of a selector. The text has no quotes: a list without values reads
as a list of one empty value, and a separator inside a key or a value is taken for one.
-/

namespace AuthProxy

namespace SelectorTerm

/-- The values between brackets, behind the opening one. -/
def valuesOfText (behind : List Char) : List String :=
  (Text.pieces ',' (behind.takeWhile (· ≠ ')'))).map String.ofList

/-- The term that a text writes; an empty one writes none. -/
def ofText? : List Char → Option SelectorTerm
  | [] => none
  | '!' :: key => some (.missing (String.ofList key))
  | text =>
    match Text.splitFirst? " notin (".toList text, Text.splitFirst? " in (".toList text,
      Text.splitFirst? "=".toList text with
    | some (key, behind), _, _ => some (.notIn (String.ofList key) (valuesOfText behind))
    | none, some (key, behind), _ => some (.isIn (String.ofList key) (valuesOfText behind))
    | none, none, some (key, value) =>
      some (.equals (String.ofList key) (String.ofList value))
    | none, none, none => some (.present (String.ofList text))

/-- The texts between commas, of which those between brackets do not count; `depth` brackets are
open. -/
def textsIn (depth : Nat) : List Char → List (List Char)
  | [] => [[]]
  | c :: rest =>
    if c = ',' ∧ depth = 0 then [] :: textsIn 0 rest
    else
      let depth := if c = '(' then depth + 1 else if c = ')' then depth - 1 else depth
      Text.extendFirst c (textsIn depth rest)

end SelectorTerm

namespace LabelSelector

/-- The selector with one more requirement. -/
def require (s : LabelSelector) (key operator : String) (values : Option (List String)) :
    LabelSelector :=
  { s with matchExpressions := some (s.matchExpressions.getD [] ++ [⟨key, operator, values⟩]) }

/-- The selector with one more term. -/
def addTerm (s : LabelSelector) : SelectorTerm → LabelSelector
  | .equals k v => { s with matchLabels := some ((s.matchLabels.getD .empty).insert k v) }
  | .isIn k vs => s.require k "In" (some vs)
  | .notIn k vs => s.require k "NotIn" (some vs)
  | .present k => s.require k "Exists" none
  | .missing k => s.require k "DoesNotExist" none

/-- The selector that the text of a query writes. -/
def ofQuery (text : String) : LabelSelector :=
  ((SelectorTerm.textsIn 0 text.toList).filterMap SelectorTerm.ofText?).foldl addTerm {}

example : ofQuery "tier in ()" = { matchExpressions := some [⟨"tier", "In", some [""]⟩] } := by
  decide +kernel
example :
    Selector.query <$> (Selector.check (ofQuery "a=b,!c,d notin (e,f),g")).toOption
      = some "a=b,!c,d notin (e,f),g" := by
  decide +kernel

end LabelSelector

end AuthProxy
