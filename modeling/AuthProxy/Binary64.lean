/-! # Double-precision numbers

Finite binary floating-point numbers of 53 bits, in exact whole-number arithmetic: a value is
`mantissa * 2 ^ exponent` with a sign. A decimal numeral is read by rounding its digits and then
scaling by a rounded power of ten; a value is written with the fewest digits that no other value is
nearer to, in positional notation unless it is very large or very small.
-/

namespace AuthProxy

/-- A finite double. Zero has mantissa zero; otherwise the mantissa has 53 bits, or fewer at the
least exponent. -/
structure Binary64 where
  negative : Bool
  mantissa : Nat
  exponent : Int
deriving DecidableEq, Repr, Inhabited

namespace Binary64

/-- The least exponent of a mantissa. -/
def leastExponent : Int := -1074

/-- The greatest exponent of a mantissa. -/
def greatestExponent : Int := 971

/-- The number of binary digits of `n`. -/
def bitLength (n : Nat) : Nat := if n = 0 then 0 else n.log2 + 1

/-- The whole number nearest to `num / den`, of two the even one. -/
def roundDiv (num den : Nat) : Nat :=
  let q := num / den
  let twice := 2 * (num % den)
  if twice < den ∨ (twice = den ∧ q % 2 = 0) then q else q + 1

/-- The whole number nearest to `num / den / 2 ^ e`. -/
def roundAt (num den : Nat) (e : Int) : Nat :=
  if 0 ≤ e then roundDiv num (den * Nat.pow 2 e.toNat)
  else roundDiv (num * Nat.pow 2 (-e).toNat) den

/-- The nearest double to `num / den`; none if it lies beyond the greatest. -/
def ofRatio? (negative : Bool) (num den : Nat) : Option Binary64 :=
  if num = 0 then some ⟨negative, 0, leastExponent⟩
  else
    let guess : Int := (bitLength num : Int) - (bitLength den : Int) - 53
    let e := max leastExponent guess
    let m := roundAt num den e
    -- the guess is exact or one too small
    let (m, e) := if 9_007_199_254_740_992 ≤ m then (roundAt num den (e + 1), e + 1) else (m, e)
    let (m, e) := if 9_007_199_254_740_992 ≤ m then (m / 2, e + 1) else (m, e)
    if greatestExponent < e then none else some ⟨negative, m, e⟩

/-- Whether the value is zero. -/
def isZero (x : Binary64) : Bool := x.mantissa = 0

/-- Numerator and denominator of the absolute value. -/
def ratio (x : Binary64) : Nat × Nat :=
  if 0 ≤ x.exponent then (x.mantissa * Nat.pow 2 x.exponent.toNat, 1)
  else (x.mantissa, Nat.pow 2 (-x.exponent).toNat)

/-- The greatest power of ten that is a double. -/
def greatestPower : Nat := 308

/-- The value times or over `10 ^ k`, with the power rounded first. -/
def scale? (x : Binary64) (up : Bool) (k : Nat) : Option Binary64 := do
  let p ← ofRatio? false (Nat.pow 10 k) 1
  let (a, b) := x.ratio
  let (c, d) := p.ratio
  if up then ofRatio? x.negative (a * c) (b * d) else ofRatio? x.negative (a * d) (b * c)

/-- Scales down in steps of the greatest power until the rest of the exponent is one. -/
def scaleDown? (x : Binary64) : Nat → Nat → Option Binary64
  | 0, k => x.scale? false k
  | steps + 1, k =>
    if k ≤ greatestPower then x.scale? false k
    else if x.isZero then some x
    else do
      let y ← x.scale? false greatestPower
      scaleDown? y steps (k - greatestPower)

/-- The double that `digits * 10 ^ exponent` is read as; none if it is too large. -/
def ofDecimal? (negative : Bool) (digits : Nat) (exponent : Int) : Option Binary64 := do
  let x ← ofRatio? negative digits 1
  if 0 ≤ exponent then
    if exponent.toNat ≤ greatestPower then x.scale? true exponent.toNat
    else if x.isZero then some x else none
  else
    -- after four steps even the greatest significand is zero
    x.scaleDown? 4 (min (-exponent).toNat (4 * greatestPower))

/-- The end points of the decimals that are read as `x`, as numerators over one denominator, with
the value itself in the middle. -/
def interval (x : Binary64) : Nat × Nat × Nat × Nat :=
  let (n, d) := x.ratio
  -- one unit of the last place is `unit / d`; below a power of two the gap is half as wide
  let unit := if 0 ≤ x.exponent then Nat.pow 2 x.exponent.toNat else 1
  let half :=
    if x.mantissa = 4_503_599_627_370_496 ∧ leastExponent < x.exponent then unit else 2 * unit
  (4 * n - half, 4 * n, 4 * n + 2 * unit, 4 * d)

/-- Whether `c * 10 ^ q` is read as `x`. -/
def reads (x : Binary64) (c : Nat) (q : Int) : Bool :=
  let (lo, _, hi, d) := x.interval
  let (a, b) := if 0 ≤ q then (c * Nat.pow 10 q.toNat, 1) else (c, Nat.pow 10 (-q).toNat)
  if x.mantissa % 2 = 0 then lo * b ≤ a * d && a * d ≤ hi * b else lo * b < a * d && a * d < hi * b

/-- The distance of `c * 10 ^ q` from the value, over a denominator fixed by `q`. -/
def distance (x : Binary64) (c : Nat) (q : Int) : Nat :=
  let (_, v, _, d) := x.interval
  let (a, b) := if 0 ≤ q then (c * Nat.pow 10 q.toNat, 1) else (c, Nat.pow 10 (-q).toNat)
  (a * d - v * b) + (v * b - a * d)

/-- The neighbours of the value on the grid of multiples of `10 ^ q`. -/
def neighbour (x : Binary64) (q : Int) : Nat :=
  let (n, d) := x.ratio
  if 0 ≤ q then n / (d * Nat.pow 10 q.toNat) else n * Nat.pow 10 (-q).toNat / d

/-- The one of `c` and `c + 1` that is nearer to the value on the grid of `10 ^ q`, the even one if
both are equally near. -/
def nearer (x : Binary64) (c : Nat) (q : Int) : Nat :=
  match compare (x.distance c q) (x.distance (c + 1) q) with
  | .lt => c
  | .gt => c + 1
  | .eq => if c % 2 = 0 then c else c + 1

/-- Looks for the coarsest grid with a point that is read as `x`, from `10 ^ q` down. -/
def shortestFrom (x : Binary64) : Nat → Int → Nat × Int
  | 0, q => (x.neighbour q, q)
  | fuel + 1, q =>
    let c := x.neighbour q
    match 0 < c && x.reads c q, x.reads (c + 1) q with
    | true, true => (x.nearer c q, q)
    | true, false => (c, q)
    | false, true => (c + 1, q)
    | false, false => shortestFrom x fuel (q - 1)

/-- The fewest decimal digits that are read as the absolute value, and their exponent. -/
def shortest (x : Binary64) : Nat × Int :=
  if x.isZero then (0, 0) else x.shortestFrom 700 310

/-- The first digit of a value that is written in positional notation stands for at least this power
of ten. -/
def leastPositional : Int := -5

/-- The first digit of a value that is written in positional notation stands for at most this power
of ten. -/
def greatestPositional : Int := 15

/-- Digits with a point and no exponent; a whole number keeps `.0`. -/
def positional (c : Nat) (q : Int) : String :=
  let digits := toString c
  if 0 ≤ q then digits ++ String.ofList (List.replicate q.toNat '0') ++ ".0"
  else
    let places := (-q).toNat
    let padded := List.replicate (places + 1 - digits.length) '0' ++ digits.toList
    let whole := padded.take (padded.length - places)
    String.ofList (whole ++ '.' :: padded.drop (padded.length - places))

/-- One digit before the point and the power of ten that it stands for, always with its sign. A
single digit has no point. -/
def scientific (c : Nat) (power : Int) : String :=
  let fraction := (toString c).toList.drop 1
  let point := if fraction.isEmpty then [] else ['.']
  String.ofList ((toString c).toList.take 1 ++ point ++ fraction) ++ "e"
    ++ (if power < 0 then "-" else "+") ++ toString power.natAbs

/-- The text of the value. -/
def text (x : Binary64) : String :=
  let (c, q) := x.shortest
  let power := q + (toString c).length - 1
  (if x.negative then "-" else "")
    ++ if leastPositional ≤ power ∧ power ≤ greatestPositional then positional c q
      else scientific c power

example : (text <$> ofDecimal? false 1 15) = some "1000000000000000.0" := by decide +kernel
example : (text <$> ofDecimal? false 25 15) = some "2.5e+16" := by decide +kernel
example : (text <$> ofDecimal? true 1 (-6)) = some "-1e-6" := by decide +kernel
example : (text <$> ofDecimal? false 93535413875501875 (-4)) = some "9353541387550.188" := by
  decide +kernel

end Binary64

end AuthProxy
