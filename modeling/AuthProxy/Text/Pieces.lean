/-! # Pieces of texts

Texts taken apart: at every separator, or at the first occurrence of a word.
-/

namespace AuthProxy.Text

/-- The pieces with a character put in front of the first. -/
def extendFirst (c : Char) : List (List Char) → List (List Char)
  | [] => [[c]]
  | piece :: more => (c :: piece) :: more

/-- The pieces between separators; a text without any is one piece. -/
def pieces (separator : Char) : List Char → List (List Char)
  | [] => [[]]
  | c :: rest =>
    if c = separator then [] :: pieces separator rest
    else extendFirst c (pieces separator rest)

/-- What stands before and behind the first occurrence of `word`. -/
def splitFirst? (word : List Char) : List Char → Option (List Char × List Char)
  | [] => none
  | c :: rest =>
    if word.isPrefixOf (c :: rest) then some ([], (c :: rest).drop word.length)
    else (splitFirst? word rest).map fun (before, behind) => (c :: before, behind)

example : pieces '/' "a//b".toList = ["a".toList, [], "b".toList] := by decide +kernel
example : splitFirst? "=".toList "a=b=c".toList = some ("a".toList, "b=c".toList) := by
  decide +kernel

end AuthProxy.Text
