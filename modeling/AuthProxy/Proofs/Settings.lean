import AuthProxy.Proofs.Duration
import AuthProxy.Proofs.Given
import AuthProxy.Proofs.Numeral
import AuthProxy.Settings

/-! # Which settings are loaded

Settings are loaded if and only if the three numbers among them are numerals in their ranges, and
they are then exactly what the variables spell (`Settings.GivenBy`). Otherwise the first bad number
is named, in the order port, backoff base, backoff maximum (`Settings.Complaint`).
-/

namespace AuthProxy

/-- What a text spells as a port. -/
def SpellsPort (text : String) (port : Int32) : Prop :=
  NumeralRange.int32.Spelled text port.toInt

/-- What a text spells as a number of some unit of time. -/
def SpellsSpan (Counts : Duration → Nat → Prop) (text : String) (d : Duration) : Prop :=
  ∃ n : Nat, NumeralRange.uint64.Spelled text n ∧ Counts d n

/-- A text is a numeral of the range. -/
def NumeralRange.Holds (r : NumeralRange) (text : String) : Prop := ∃ n, r.Spelled text n

namespace Settings

/-- The settings are those that the variables give. -/
structure GivenBy (lookup : String → Option String) (s : Settings) : Prop where
  image : Given Eq "nginx:1.25-alpine" (lookup "NGINX_IMAGE") s.image
  port : Given SpellsPort 8080 (lookup "DEFAULT_PROXY_PORT") s.defaultPort
  watchNamespace : ∀ ns, s.watchNamespace = some ns ↔ lookup "WATCH_NAMESPACE" = some ns ∧ ns ≠ ""
  base :
    Given (SpellsSpan Duration.IsMillis) (.ofMillis 500) (lookup "BACKOFF_BASE_MS") s.backoffBase
  max :
    Given (SpellsSpan Duration.IsSeconds) (.ofSeconds 300) (lookup "BACKOFF_MAX_SECS") s.backoffMax

/-- The number that a variable has to hold, if it is set, is one. -/
def Sound (range : NumeralRange) (given : Option String) : Prop :=
  ∀ text, given = some text → range.Holds text

/-- What is said about the first bad number. -/
inductive Complaint (lookup : String → Option String) : String → Prop
  | port {text : String} (given : lookup "DEFAULT_PROXY_PORT" = some text)
    (bad : ¬NumeralRange.int32.Holds text) :
    Complaint lookup ("DEFAULT_PROXY_PORT is not a port number: " ++ text)
  | base {text : String} (port : Sound .int32 (lookup "DEFAULT_PROXY_PORT"))
    (given : lookup "BACKOFF_BASE_MS" = some text) (bad : ¬NumeralRange.uint64.Holds text) :
    Complaint lookup ("BACKOFF_BASE_MS is not a number: " ++ text)
  | max {text : String} (port : Sound .int32 (lookup "DEFAULT_PROXY_PORT"))
    (base : Sound .uint64 (lookup "BACKOFF_BASE_MS"))
    (given : lookup "BACKOFF_MAX_SECS" = some text) (bad : ¬NumeralRange.uint64.Holds text) :
    Complaint lookup ("BACKOFF_MAX_SECS is not a number: " ++ text)

variable {lookup : String → Option String} {s : Settings} {range : NumeralRange}
  {failure : String → NumeralError → SettingsError} {given : Option String}

/-- A number is read if it is set to a numeral, or not at all. -/
theorem number_eq_ok_iff (hleast : range.least ≤ 0) (hgreatest : 0 ≤ range.greatest)
    {n : Option Int} : number range failure given = .ok n ↔
      Given (fun text n => ∃ i, n = some i ∧ range.Spelled text i) none given n := by
  cases given with
  | none =>
    rw [given_none_iff, number, Except.ok.injEq]
    exact eq_comm
  | some text =>
    rw [given_some_iff, number]
    constructor
    · intro h
      cases hread : range.read text with
      | error cause =>
        rw [hread] at h
        cases h
      | ok i =>
        rw [hread] at h
        exact ⟨i, (Except.ok.inj h).symm, (NumeralRange.read_eq_ok_iff hleast hgreatest).1 hread⟩
    · rintro ⟨i, rfl, hspelled⟩
      rw [(NumeralRange.read_eq_ok_iff hleast hgreatest).2 hspelled]

/-- What is wrong with a number that is not read. -/
theorem number_eq_error (hleast : range.least ≤ 0) (hgreatest : 0 ≤ range.greatest)
    {e : SettingsError} (h : number range failure given = .error e) :
    ∃ text cause, given = some text ∧ ¬range.Holds text ∧ e = failure text cause := by
  cases given with
  | none => cases h
  | some text =>
    rw [number] at h
    cases hread : range.read text with
    | ok i =>
      rw [hread] at h
      cases h
    | error cause =>
      rw [hread] at h
      refine ⟨text, cause, rfl, ?_, (Except.error.inj h).symm⟩
      rintro ⟨i, hspelled⟩
      rw [(NumeralRange.read_eq_ok_iff hleast hgreatest).2 hspelled] at hread
      cases hread

theorem sound_of_number (hleast : range.least ≤ 0) (hgreatest : 0 ≤ range.greatest)
    {n : Option Int} (h : number range failure given = .ok n) : Sound range given := by
  rintro text rfl
  rw [number_eq_ok_iff hleast hgreatest, given_some_iff] at h
  obtain ⟨i, -, hspelled⟩ := h
  exact ⟨i, hspelled⟩

/-- A setting that is made of a number that is read. -/
theorem given_iff_of_number {α : Type} {Spells : String → α → Prop} {default a : α}
    {make : Int → α} (hleast : range.least ≤ 0) (hgreatest : 0 ≤ range.greatest)
    (hmake : ∀ {text i a}, range.Spelled text i → (Spells text a ↔ a = make i))
    {n : Option Int} (h : number range failure given = .ok n) :
    Given Spells default given a ↔ a = (n.map make).getD default := by
  rw [number_eq_ok_iff hleast hgreatest] at h
  cases h with
  | absent => exact given_none_iff
  | present h =>
    obtain ⟨i, rfl, hspelled⟩ := h
    rw [given_some_iff]
    exact hmake hspelled

theorem spellsPort_iff {text : String} {i : Int} (h : NumeralRange.int32.Spelled text i)
    {port : Int32} : SpellsPort text port ↔ port = Int32.ofInt i := by
  have hi : (Int32.ofInt i).toInt = i := Int32.toInt_ofInt_of_le h.2.1 (by
    have := h.2.2
    simp only [NumeralRange.int32] at this
    omega)
  constructor
  · intro hport
    rw [← NumeralRange.Spelled.unique (by decide) (by decide) hport h, Int32.ofInt_toInt]
  · rintro rfl
    rw [SpellsPort, hi]
    exact h

theorem spellsSpan_iff {Counts : Duration → Nat → Prop} {make : Nat → Duration}
    (hmake : ∀ {d : Duration} {n : Nat}, n * Duration.nanosPerSecond < Duration.limit →
      (Counts d n ↔ d = make n))
    {text : String} {i : Int} (h : NumeralRange.uint64.Spelled text i) {d : Duration} :
    SpellsSpan Counts text d ↔ d = make i.toNat := by
  obtain ⟨n, rfl⟩ := Int.eq_ofNat_of_zero_le h.2.1
  have hn : n * Duration.nanosPerSecond < Duration.limit := by
    have hle := h.2.2
    simp only [NumeralRange.uint64] at hle
    simp only [Duration.limit, Duration.nanosPerSecond]
    omega
  constructor
  · rintro ⟨m, hm, hd⟩
    obtain rfl := Int.ofNat.inj (NumeralRange.Spelled.unique (by decide) (by decide) hm h)
    exact (hmake hn).1 hd
  · rintro rfl
    exact ⟨n, h, (hmake hn).2 rfl⟩

/-! ## Three numbers, one after the other -/

section Numbers

variable {port base max : Option Int}

/-- The settings that are made of three numbers that are read. -/
theorem ofLookup_of_numbers (hport : number .int32 .port (lookup "DEFAULT_PROXY_PORT") = .ok port)
    (hbase : number .uint64 .backoffBase (lookup "BACKOFF_BASE_MS") = .ok base)
    (hmax : number .uint64 .backoffMax (lookup "BACKOFF_MAX_SECS") = .ok max) :
    ofLookup lookup = .ok s ↔ GivenBy lookup s := by
  have hload : ofLookup lookup = .ok {
      image := (lookup "NGINX_IMAGE").getD "nginx:1.25-alpine"
      defaultPort := (port.map Int32.ofInt).getD 8080
      watchNamespace := (lookup "WATCH_NAMESPACE").filter (fun ns => !ns.isEmpty)
      backoffBase := (base.map fun n => .ofMillis n.toNat).getD (.ofMillis 500)
      backoffMax := (max.map fun n => .ofSeconds n.toNat).getD (.ofSeconds 300) } := by
    simp only [ofLookup, hport, hbase, hmax]
    rfl
  have hwatch : (∀ ns, s.watchNamespace = some ns ↔ lookup "WATCH_NAMESPACE" = some ns ∧ ns ≠ "") ↔
      s.watchNamespace = (lookup "WATCH_NAMESPACE").filter (fun ns => !ns.isEmpty) := by
    rw [Option.ext_iff]
    simp
  have hgivenPort {p : Int32} : Given SpellsPort 8080 (lookup "DEFAULT_PROXY_PORT") p ↔
      p = (port.map Int32.ofInt).getD 8080 :=
    given_iff_of_number (by decide) (by decide) (fun h => spellsPort_iff h) hport
  have hmillis {d : Duration} {n : Nat} (hn : n * Duration.nanosPerSecond < Duration.limit) :
      d.IsMillis n ↔ d = .ofMillis n :=
    Duration.isMillis_iff (Nat.lt_of_le_of_lt (Nat.mul_le_mul_left n (by decide)) hn)
  have hgivenBase {d : Duration} :
      Given (SpellsSpan Duration.IsMillis) (.ofMillis 500) (lookup "BACKOFF_BASE_MS") d ↔
        d = (base.map fun n => .ofMillis n.toNat).getD (.ofMillis 500) :=
    given_iff_of_number (by decide) (by decide) (fun h => spellsSpan_iff hmillis h) hbase
  have hgivenMax {d : Duration} :
      Given (SpellsSpan Duration.IsSeconds) (.ofSeconds 300) (lookup "BACKOFF_MAX_SECS") d ↔
        d = (max.map fun n => .ofSeconds n.toNat).getD (.ofSeconds 300) :=
    given_iff_of_number (by decide) (by decide)
      (fun h => spellsSpan_iff Duration.isSeconds_iff h) hmax
  rw [hload, Except.ok.injEq]
  constructor
  · rintro rfl
    exact {
      image := given_eq_iff.2 rfl
      port := hgivenPort.2 rfl
      watchNamespace := hwatch.2 rfl
      base := hgivenBase.2 rfl
      max := hgivenMax.2 rfl }
  · intro h
    rw [← given_eq_iff.1 h.image, ← hgivenPort.1 h.port, ← hwatch.1 h.watchNamespace,
      ← hgivenBase.1 h.base, ← hgivenMax.1 h.max]

end Numbers

/-- Settings that are loaded have three numbers that are read. -/
theorem exists_numbers (h : ofLookup lookup = .ok s) : ∃ port base max,
    number .int32 .port (lookup "DEFAULT_PROXY_PORT") = .ok port ∧
    number .uint64 .backoffBase (lookup "BACKOFF_BASE_MS") = .ok base ∧
    number .uint64 .backoffMax (lookup "BACKOFF_MAX_SECS") = .ok max := by
  unfold ofLookup at h
  cases hport : number .int32 .port (lookup "DEFAULT_PROXY_PORT") with
  | error e =>
    rw [hport] at h
    cases h
  | ok port =>
    cases hbase : number .uint64 .backoffBase (lookup "BACKOFF_BASE_MS") with
    | error e =>
      rw [hport, hbase] at h
      cases h
    | ok base =>
      cases hmax : number .uint64 .backoffMax (lookup "BACKOFF_MAX_SECS") with
      | error e =>
        rw [hport, hbase, hmax] at h
        cases h
      | ok max => exact ⟨port, base, max, rfl, rfl, rfl⟩

/-- What is complained about is the first number that is not read. -/
theorem complaint_of_error {e : SettingsError} (h : ofLookup lookup = .error e) :
    Complaint lookup e.message := by
  unfold ofLookup at h
  cases hport : number .int32 .port (lookup "DEFAULT_PROXY_PORT") with
  | error e' =>
    obtain ⟨text, cause, hgiven, hbad, rfl⟩ := number_eq_error (by decide) (by decide) hport
    rw [hport] at h
    cases h
    exact .port hgiven hbad
  | ok port =>
    have hportSound := sound_of_number (by decide) (by decide) hport
    cases hbase : number .uint64 .backoffBase (lookup "BACKOFF_BASE_MS") with
    | error e' =>
      obtain ⟨text, cause, hgiven, hbad, rfl⟩ := number_eq_error (by decide) (by decide) hbase
      rw [hport, hbase] at h
      cases h
      exact .base hportSound hgiven hbad
    | ok base =>
      have hbaseSound := sound_of_number (by decide) (by decide) hbase
      cases hmax : number .uint64 .backoffMax (lookup "BACKOFF_MAX_SECS") with
      | error e' =>
        obtain ⟨text, cause, hgiven, hbad, rfl⟩ := number_eq_error (by decide) (by decide) hmax
        rw [hport, hbase, hmax] at h
        cases h
        exact .max hportSound hbaseSound hgiven hbad
      | ok max =>
        rw [hport, hbase, hmax] at h
        cases h

/-- The three numbers are sound. -/
def NumbersSound (lookup : String → Option String) : Prop :=
  Sound .int32 (lookup "DEFAULT_PROXY_PORT") ∧ Sound .uint64 (lookup "BACKOFF_BASE_MS") ∧
    Sound .uint64 (lookup "BACKOFF_MAX_SECS")

theorem GivenBy.sound (h : GivenBy lookup s) : NumbersSound lookup := by
  refine ⟨fun text htext => ?_, fun text htext => ?_, fun text htext => ?_⟩
  · obtain ⟨port, hport⟩ := exists_given_iff.1 ⟨_, h.port⟩ text htext
    exact ⟨_, hport⟩
  · obtain ⟨-, n, hn, -⟩ := exists_given_iff.1 ⟨_, h.base⟩ text htext
    exact ⟨n, hn⟩
  · obtain ⟨-, n, hn, -⟩ := exists_given_iff.1 ⟨_, h.max⟩ text htext
    exact ⟨n, hn⟩

theorem Complaint.not_sound {text : String} (h : Complaint lookup text) :
    ¬NumbersSound lookup := by
  rintro ⟨hport, hbase, hmax⟩
  cases h with
  | port hgiven hbad => exact hbad (hport _ hgiven)
  | base _ hgiven hbad => exact hbad (hbase _ hgiven)
  | max _ _ hgiven hbad => exact hbad (hmax _ hgiven)

/-- Loading gives the settings that the variables give. -/
theorem ofLookup_eq_ok_iff : ofLookup lookup = .ok s ↔ GivenBy lookup s := by
  cases hload : ofLookup lookup with
  | ok loaded =>
    obtain ⟨port, base, max, hport, hbase, hmax⟩ := exists_numbers hload
    rw [← hload, ofLookup_of_numbers hport hbase hmax]
  | error e =>
    constructor
    · intro h
      cases h
    · intro h
      exact absurd h.sound (complaint_of_error hload).not_sound

theorem exists_ofLookup_iff : (∃ s, ofLookup lookup = .ok s) ↔ NumbersSound lookup := by
  constructor
  · rintro ⟨s, hs⟩
    exact (ofLookup_eq_ok_iff.1 hs).sound
  · intro hsound
    cases hload : ofLookup lookup with
    | ok s => exact ⟨s, rfl⟩
    | error e => exact absurd hsound (complaint_of_error hload).not_sound

/-- **Settings are loaded exactly where the numbers are numerals in their ranges**, and they are
then what the variables give. Otherwise the first number that is not one is named with its text. -/
theorem loaded_exactly (lookup : String → Option String) :
    ((∃ s, ofLookup lookup = .ok s) ↔
      (∀ text, lookup "DEFAULT_PROXY_PORT" = some text → NumeralRange.int32.Holds text) ∧
      (∀ text, lookup "BACKOFF_BASE_MS" = some text → NumeralRange.uint64.Holds text) ∧
      (∀ text, lookup "BACKOFF_MAX_SECS" = some text → NumeralRange.uint64.Holds text)) ∧
    (∀ s, ofLookup lookup = .ok s ↔ GivenBy lookup s) ∧
    ∀ e, ofLookup lookup = .error e → Complaint lookup e.message :=
  ⟨exists_ofLookup_iff, fun _ => ofLookup_eq_ok_iff, fun _ => complaint_of_error⟩

example : ofLookup (fun name => if name = "BACKOFF_BASE_MS" then some "+0250" else none) =
    .ok { backoffBase := .ofMillis 250 } := by
  decide +kernel

end Settings

end AuthProxy
