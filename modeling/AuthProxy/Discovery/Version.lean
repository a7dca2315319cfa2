/-! # API versions

The order of preference among the versions of an API group: stable ones before betas before alphas,
and larger numbers first. Anything else comes last, in alphabetical order.
-/

namespace AuthProxy

/-- An API version by what its name says. -/
inductive ApiVersion where
  | stable (major : Nat)
  | beta (major : Nat) (minor : Option Nat)
  | alpha (major : Nat) (minor : Option Nat)
  | other (name : String)
deriving DecidableEq, Repr, Inhabited

namespace ApiVersion

/-- A number of 32 bits, written with digits only. -/
def number? (digits : List Char) : Option Nat :=
  let n := digits.foldl (fun n c => n * 10 + (c.toNat - '0'.toNat)) 0
  if !digits.isEmpty && digits.all Char.isDigit && n < 4_294_967_296 then some n else none

/-- The number after the name of a stage, which may be left out or have a plus sign. -/
def minor? : List Char → Option (Option Nat)
  | [] => some none
  | '+' :: digits => (number? digits).map some
  | digits => (number? digits).map some

/-- What follows `word` in a text. -/
def after? : List Char → List Char → Option (List Char)
  | [], s => some s
  | c :: word, d :: s => if c = d then after? word s else none
  | _ :: _, [] => none

/-- The version that a stage of a major number names. -/
def staged? (major : Nat) (rest : List Char) : Option ApiVersion :=
  if rest.isEmpty then some (.stable major)
  else
    match after? "alpha".toList rest, after? "beta".toList rest with
    | some suffix, _ => (minor? suffix).map (.alpha major)
    | none, some suffix => (minor? suffix).map (.beta major)
    | none, none => none

/-- The version of a name of the form `v1`, `v1beta1` or `v1alpha1`. -/
def conforming? (name : String) : Option ApiVersion :=
  match name.toList with
  | 'v' :: rest => do
    let major ← number? (rest.takeWhile Char.isDigit)
    staged? major (rest.dropWhile Char.isDigit)
  | _ => none

/-- The version that a name gives. -/
def ofName (name : String) : ApiVersion := (conforming? name).getD (.other name)

/-- How far a version has come. -/
def stage : ApiVersion → Nat
  | stable _ => 3
  | beta .. => 2
  | alpha .. => 1
  | other _ => 0

def major : ApiVersion → Nat
  | stable n | beta n _ | alpha n _ => n
  | other _ => 0

/-- The number after the stage, counted from one; zero if there is none. -/
def minor : ApiVersion → Nat
  | beta _ m | alpha _ m => (m.map (· + 1)).getD 0
  | stable _ | other _ => 0

/-- Whether `v` comes before `w`. -/
def precedes (v w : ApiVersion) : Bool :=
  if v.stage ≠ w.stage then w.stage < v.stage
  else if v.major ≠ w.major then w.major < v.major
  else if v.minor ≠ w.minor then w.minor < v.minor
  else
    match v, w with
    | other s, other t => s < t
    | _, _ => false

example : precedes (ofName "v1") (ofName "v2beta1") = true := by decide +kernel
example : precedes (ofName "v1alpha10") (ofName "v1alpha2") = true := by decide +kernel

end ApiVersion

end AuthProxy
