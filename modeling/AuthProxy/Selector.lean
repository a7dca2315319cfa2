import AuthProxy.Error
import AuthProxy.Object.LabelSelector

/-! # Selectors

A label selector after it was checked: a list of terms, all of which the labels have to satisfy. A
requirement becomes a term if its operator is known and, where the operator compares values, it
lists them.
-/

namespace AuthProxy

/-- What a selector asks of one label. -/
inductive SelectorTerm where
  | equals (key value : String)
  | isIn (key : String) (values : List String)
  | notIn (key : String) (values : List String)
  | present (key : String)
  | missing (key : String)
deriving DecidableEq, Repr, Inhabited

namespace SelectorTerm

/-- Whether the labels satisfy the term. A missing label is not in any list of values. -/
def accepts (labels : Labels) : SelectorTerm → Bool
  | equals k v => labels.get? k = some v
  | isIn k vs => (labels.get? k).any vs.contains
  | notIn k vs => !(labels.get? k).any vs.contains
  | present k => labels.contains k
  | missing k => !labels.contains k

/-- The values of a list, each once and in order. -/
def distinct (vs : List String) : List String := (SortedMap.ofList (vs.map fun v => (v, ()))).keys

def valuesText (vs : List String) : String := "(" ++ ",".intercalate (distinct vs) ++ ")"

/-- The term as a list query writes it. -/
def text : SelectorTerm → String
  | equals k v => k ++ "=" ++ v
  | isIn k vs => k ++ " in " ++ valuesText vs
  | notIn k vs => k ++ " notin " ++ valuesText vs
  | present k => k
  | missing k => "!" ++ k

end SelectorTerm

/-- Why a requirement is no term. -/
inductive SelectorError where
  | noValues
  | unknownOperator
deriving DecidableEq, Repr

namespace SelectorError

def text : SelectorError → String
  | noValues => "failed to parse value as expression: Expected values for In operator, got none"
  | unknownOperator => "failed to parse value as expression: Invalid expression operator"

end SelectorError

namespace LabelRequirement

/-- The term of a requirement. -/
def term (r : LabelRequirement) : Except SelectorError SelectorTerm :=
  if r.operator = "In" then
    match r.values with
    | some vs => .ok (.isIn r.key vs)
    | none => .error .noValues
  else if r.operator = "NotIn" then
    match r.values with
    | some vs => .ok (.notIn r.key vs)
    | none => .error .noValues
  else if r.operator = "Exists" then .ok (.present r.key)
  else if r.operator = "DoesNotExist" then .ok (.missing r.key)
  else .error .unknownOperator

end LabelRequirement

/-- A checked selector. -/
structure Selector where
  terms : List SelectorTerm
deriving DecidableEq, Repr, Inhabited

namespace Selector

/-- The terms of the requirements, in order; the first that is none is the error. -/
def requirementTerms : List LabelRequirement → Except SelectorError (List SelectorTerm)
  | [] => .ok []
  | r :: rest => do
    let t ← r.term
    let more ← requirementTerms rest
    return t :: more

/-- The terms of the required pairs, in the order of their keys. -/
def pairTerms (labels : Labels) : List SelectorTerm :=
  labels.entries.map fun e => .equals e.1 e.2

/-- The checked form of a label selector: first its pairs, then its requirements. -/
def check (s : LabelSelector) : Except SelectorError Selector := do
  let more ← requirementTerms (s.matchExpressions.getD [])
  return ⟨pairTerms (s.matchLabels.getD .empty) ++ more⟩

/-- Whether the labels satisfy every term. -/
def selects (s : Selector) (labels : Labels) : Bool := s.terms.all (·.accepts labels)

/-- Whether the selector asks for nothing. -/
def selectsAll (s : Selector) : Bool := s.terms.isEmpty

/-- The selector as a list query writes it. -/
def query (s : Selector) : String := ",".intercalate (s.terms.map (·.text))

end Selector

/-- The checked form of a label selector, or the error of a call that needs it. -/
def LabelSelector.checked (s : LabelSelector) : Except Error Selector :=
  (Selector.check s).mapError fun e => .invalidSelector e.text

end AuthProxy
