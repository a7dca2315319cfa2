import AuthProxy.Text.Numeral

/-! # What numerals spell

A numeral is an optional sign and one or more digits, and it spells their decimal value, however
many zeros lead. The reader gives up at the first digit that takes the value out of the range; since
more digits only take it further away, it accepts just the numerals whose value lies in the range
(`NumeralRange.read_eq_ok_iff`). Reading down is reading up with the signs turned.
-/

namespace AuthProxy

namespace Numeral

/-- One or more decimal digits. -/
def AllDigits (cs : List Char) : Prop := cs ≠ [] ∧ ∀ c ∈ cs, c.isDigit = true

/-- A numeral spells a whole number. A minus belongs to signed numerals only. -/
inductive Spells (signed : Bool) : List Char → Int → Prop
  | plain {cs : List Char} (digits : AllDigits cs) : Spells signed cs (Nat.ofDigitChars 10 cs 0)
  | plus {cs : List Char} (digits : AllDigits cs) :
    Spells signed ('+' :: cs) (Nat.ofDigitChars 10 cs 0)
  | minus {cs : List Char} (digits : AllDigits cs) (sign : signed = true) :
    Spells signed ('-' :: cs) (-Nat.ofDigitChars 10 cs 0)

theorem digit?_of_isDigit {c : Char} (h : c.isDigit = true) :
    digit? c = some (c.toNat - '0'.toNat) := by
  simp [digit?, h]

theorem digit?_of_not_isDigit {c : Char} (h : ¬c.isDigit = true) : digit? c = none := by
  simp [digit?, h]

/-- More digits never make a value less. -/
theorem le_ofDigitChars (cs : List Char) (acc : Nat) : acc ≤ Nat.ofDigitChars 10 cs acc := by
  induction cs generalizing acc with
  | nil => exact Nat.le_refl acc
  | cons c cs ih =>
    have htail := ih (10 * acc + (c.toNat - '0'.toNat))
    rw [Nat.ofDigitChars_cons]
    omega

/-- By induction on the digits, for every value in the range that was read before them. -/
theorem readUp_eq_ok_iff {greatest n : Int} {acc : Nat} {cs : List Char}
    (hacc : (acc : Int) ≤ greatest) : readUp greatest acc cs = .ok n ↔
      (∀ c ∈ cs, c.isDigit = true) ∧ n = Nat.ofDigitChars 10 cs acc ∧ n ≤ greatest := by
  induction cs generalizing acc with
  | nil =>
    simp only [readUp, Except.ok.injEq, List.not_mem_nil, false_implies, implies_true, true_and,
      Nat.ofDigitChars_nil]
    constructor
    · rintro rfl
      exact ⟨rfl, hacc⟩
    · rintro ⟨rfl, -⟩
      rfl
  | cons c cs ih =>
    by_cases hc : c.isDigit = true
    · have hcast : (acc : Int) * 10 + (c.toNat - '0'.toNat : Nat) =
          (10 * acc + (c.toNat - '0'.toNat) : Nat) := by
        omega
      simp only [readUp, digit?_of_isDigit hc, hcast, List.forall_mem_cons, hc, true_and,
        Nat.ofDigitChars_cons]
      split
      next hfits => exact ih hfits
      next hover =>
        -- the rest of the digits cannot bring the value back into the range
        have hmore := le_ofDigitChars cs (10 * acc + (c.toNat - '0'.toNat))
        constructor
        · intro h
          cases h
        · rintro ⟨-, rfl, hle⟩
          omega
    · simp [readUp, digit?_of_not_isDigit hc, hc]

/-- Reading down mirrors reading up. -/
theorem readDown_eq_ok_iff {greatest acc n : Int} {cs : List Char} :
    readDown (-greatest) (-acc) cs = .ok n ↔ readUp greatest acc cs = .ok (-n) := by
  induction cs generalizing acc with
  | nil =>
    simp only [readDown, readUp, Except.ok.injEq]
    omega
  | cons c cs ih =>
    simp only [readDown, readUp]
    cases digit? c with
    | none => simp
    | some d =>
      have hacc : -acc * 10 - (d : Int) = -(acc * 10 + d) := by omega
      have hfits : -greatest ≤ -(acc * 10 + (d : Int)) ↔ acc * 10 + d ≤ greatest := by omega
      simp only [hacc, hfits]
      split
      · exact ih
      · simp

variable {r : NumeralRange} {cs : List Char} {n : Int}

/-- Behind a plus, or where there is no sign. -/
theorem readUp_zero_eq_ok_iff (hgreatest : 0 ≤ r.greatest) (hne : cs ≠ []) :
    readUp r.greatest 0 cs = .ok n ↔
      AllDigits cs ∧ n = Nat.ofDigitChars 10 cs 0 ∧ n ≤ r.greatest := by
  rw [show (0 : Int) = ((0 : Nat) : Int) from rfl, readUp_eq_ok_iff hgreatest, AllDigits]
  simp only [ne_eq, hne, not_false_eq_true, true_and]

/-- Behind a minus. -/
theorem readDown_zero_eq_ok_iff (hleast : r.least ≤ 0) (hne : cs ≠ []) :
    readDown r.least 0 cs = .ok n ↔
      AllDigits cs ∧ n = -Nat.ofDigitChars 10 cs 0 ∧ r.least ≤ n := by
  have hmirror : readDown r.least 0 cs = .ok n ↔ readUp (-r.least) (0 : Nat) cs = .ok (-n) := by
    simpa using @readDown_eq_ok_iff (-r.least) 0 n cs
  rw [hmirror, readUp_eq_ok_iff (by omega), AllDigits]
  simp only [ne_eq, hne, not_false_eq_true, true_and]
  constructor
  · rintro ⟨hdigits, hvalue, hle⟩
    exact ⟨hdigits, by omega, by omega⟩
  · rintro ⟨hdigits, hvalue, hle⟩
    exact ⟨hdigits, by omega, by omega⟩

theorem readChars_plus (hne : cs ≠ []) : readChars r ('+' :: cs) = readUp r.greatest 0 cs := by
  cases cs with
  | nil => exact absurd rfl hne
  | cons c cs => rfl

theorem readChars_minus (hne : cs ≠ []) : readChars r ('-' :: cs) =
    if r.signed then readDown r.least 0 cs else .error .invalidDigit := by
  cases cs with
  | nil => exact absurd rfl hne
  | cons c cs => rfl

theorem readChars_plain {c : Char} (hplus : c ≠ '+') (hminus : c ≠ '-') :
    readChars r (c :: cs) = readUp r.greatest 0 (c :: cs) := by
  unfold readChars
  split <;> simp_all

/-- What is read is a numeral: by the sign, which is no digit and does not stand alone. -/
theorem spells_of_readChars (hleast : r.least ≤ 0) (hgreatest : 0 ≤ r.greatest)
    (h : readChars r cs = .ok n) : Spells r.signed cs n ∧ r.least ≤ n ∧ n ≤ r.greatest := by
  cases cs with
  | nil => cases h
  | cons c cs =>
    by_cases hplus : c = '+'
    · subst hplus
      have hne : cs ≠ [] := by
        rintro rfl
        cases h
      rw [readChars_plus hne, readUp_zero_eq_ok_iff hgreatest hne] at h
      obtain ⟨hdigits, rfl, hle⟩ := h
      exact ⟨.plus hdigits, by omega, hle⟩
    · by_cases hminus : c = '-'
      · subst hminus
        have hne : cs ≠ [] := by
          rintro rfl
          cases h
        rw [readChars_minus hne] at h
        split at h
        next hsigned =>
          rw [readDown_zero_eq_ok_iff hleast hne] at h
          obtain ⟨hdigits, rfl, hle⟩ := h
          exact ⟨.minus hdigits hsigned, hle, by omega⟩
        next => cases h
      · have hne : c :: cs ≠ [] := by simp
        rw [readChars_plain hplus hminus, readUp_zero_eq_ok_iff hgreatest hne] at h
        obtain ⟨hdigits, rfl, hle⟩ := h
        exact ⟨.plain hdigits, by omega, hle⟩

/-- A numeral of the range is read. -/
theorem readChars_of_spells (hleast : r.least ≤ 0) (hgreatest : 0 ≤ r.greatest)
    (h : Spells r.signed cs n) (hlow : r.least ≤ n) (hhigh : n ≤ r.greatest) :
    readChars r cs = .ok n := by
  cases h with
  | plain hdigits =>
    cases cs with
    | nil => exact absurd rfl hdigits.1
    | cons c cs =>
      have hc := hdigits.2 c List.mem_cons_self
      have hplus : c ≠ '+' := by
        rintro rfl
        cases hc
      have hminus : c ≠ '-' := by
        rintro rfl
        cases hc
      rw [readChars_plain hplus hminus, readUp_zero_eq_ok_iff hgreatest hdigits.1]
      exact ⟨hdigits, rfl, hhigh⟩
  | plus hdigits =>
    rw [readChars_plus hdigits.1, readUp_zero_eq_ok_iff hgreatest hdigits.1]
    exact ⟨hdigits, rfl, hhigh⟩
  | minus hdigits hsigned =>
    rw [readChars_minus hdigits.1, if_pos hsigned, readDown_zero_eq_ok_iff hleast hdigits.1]
    exact ⟨hdigits, rfl, hlow⟩

end Numeral

namespace NumeralRange

/-- A text is a numeral of a number in the range. -/
def Spelled (r : NumeralRange) (text : String) (n : Int) : Prop :=
  Numeral.Spells r.signed text.toList n ∧ r.least ≤ n ∧ n ≤ r.greatest

/-- **What is read is what is spelled**, in every range around zero. -/
theorem read_eq_ok_iff {r : NumeralRange} {text : String} {n : Int} (hleast : r.least ≤ 0)
    (hgreatest : 0 ≤ r.greatest) : r.read text = .ok n ↔ r.Spelled text n :=
  ⟨Numeral.spells_of_readChars hleast hgreatest,
    fun h => Numeral.readChars_of_spells hleast hgreatest h.1 h.2.1 h.2.2⟩

/-- A text spells one number. -/
theorem Spelled.unique {r : NumeralRange} {text : String} {m n : Int} (hleast : r.least ≤ 0)
    (hgreatest : 0 ≤ r.greatest) (hm : r.Spelled text m) (hn : r.Spelled text n) : m = n := by
  have hread := (read_eq_ok_iff hleast hgreatest).2 hm
  rw [(read_eq_ok_iff hleast hgreatest).2 hn] at hread
  exact (Except.ok.inj hread).symm

end NumeralRange

end AuthProxy
