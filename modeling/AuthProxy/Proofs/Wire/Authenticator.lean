import AuthProxy.Proofs.Wire.Metadata
import AuthProxy.Proofs.Wire.Records
import AuthProxy.Wire.Authenticator

/-! # Authenticators, written and read

An object is a specification exactly if its members fit (`AuthenticatorSpec.Fits`): the application
port is there, and every other member is absent or stands for something. The specification is then
what they give (`AuthenticatorSpec.GivenBy`). What is written is read back, so writing and reading
keep every authenticator (`Authenticator.read_write`).
-/

namespace AuthProxy

open Json

/-- A mode by its name, or as an object with the name and a null. -/
inductive IsMode : Json → Mode → Prop
  | text (m : Mode) : IsMode (.str m.name) m
  | member (m : Mode) : IsMode (.obj [(m.name, .null)]) m

namespace Mode

theorem ofName?_eq_some_iff {s : String} {m : Mode} : ofName? s = some m ↔ s = m.name := by
  constructor
  · intro h
    have := List.find?_some h
    simpa [eq_comm] using this
  · rintro rfl
    cases m <;> rfl

theorem named_eq_ok_iff {s : String} {m : Mode} {known : List String} :
    readVariant.named known ofName? s = .ok m ↔ s = m.name := by
  rw [← ofName?_eq_some_iff, readVariant.named]
  cases ofName? s with
  | none => exact ⟨nofun, nofun⟩
  | some a => simp

theorem read_exactly : ReadsExactly read IsMode := by
  intro v m
  match v with
  | .str s =>
    show readVariant.named _ ofName? s = _ ↔ _
    rw [named_eq_ok_iff]
    constructor
    · rintro rfl
      exact .text m
    · rintro ⟨⟩
      rfl
  | .obj [(k, unit)] =>
    show (readVariant.named _ ofName? k >>= fun a => _) = _ ↔ _
    rw [bind_eq_ok_iff]
    constructor
    · rintro ⟨a, ha, h⟩
      obtain rfl := named_eq_ok_iff.1 ha
      cases unit with
      | null => cases h; exact .member m
      | _ => cases h
    · rintro ⟨⟩
      exact ⟨m, named_eq_ok_iff.2 rfl, rfl⟩
  | .obj [] => exact ⟨nofun, nofun⟩
  | .obj (_ :: _ :: _) => exact ⟨nofun, nofun⟩
  | .null => exact ⟨nofun, nofun⟩
  | .bool _ => exact ⟨nofun, nofun⟩
  | .int _ => exact ⟨nofun, nofun⟩
  | .float _ => exact ⟨nofun, nofun⟩
  | .arr _ => exact ⟨nofun, nofun⟩

end Mode

namespace AuthenticatorSpec

/-- The specification is what the members of an object give. -/
structure GivenBy (ms : List (String × Json)) (s : AuthenticatorSpec) : Prop where
  mode : Given IsMode .standalone (member? "type" ms) s.mode
  credentialsSecretRef :
    Given IsText "" (member? "credentialsSecretRef" ms) s.credentialsSecretRef
  selector : Given IsSelector {} (member? "selector" ms) s.selector
  appPort : ∃ v, member? "appPort" ms = some v ∧ IsInt32 v s.appPort
  appService : Given IsText "" (member? "appService" ms) s.appService
  replicas : Given IsInt32 1 (member? "replicas" ms) s.replicas
  adaptiveScale : Given IsFlag false (member? "adaptiveScale" ms) s.adaptiveScale
  proxyPort : Given (Nullable IsInt32) none (member? "proxyPort" ms) s.proxyPort

variable {ms : List (String × Json)} {s : AuthenticatorSpec}

theorem readPort_exactly : ReadsExactly (readOption readInt32) (Nullable IsInt32) :=
  readOption_exactly readInt32_exactly fun _ h => by cases h

/-- What is given fits. -/
theorem GivenBy.checkMembers (h : GivenBy ms s) (hrepeat : NoRepeat record.fields ms) :
    Record.checkMembers checkMember ms = .ok () := by
  rw [checkMembers_eq_ok_iff]
  rintro ⟨k, v⟩ hv
  dsimp only
  unfold checkMember
  split
  · exact discard_given Mode.read_exactly hrepeat (by decide) h.mode hv
  · exact discard_given readString_exactly hrepeat (by decide) h.credentialsSecretRef hv
  · exact discard_given LabelSelector.read_exactly hrepeat (by decide) h.selector hv
  · exact discard_given readInt32_exactly hrepeat (by decide) (given_of_required h.appPort) hv
  · exact discard_given readString_exactly hrepeat (by decide) h.appService hv
  · exact discard_given readInt32_exactly hrepeat (by decide) h.replicas hv
  · exact discard_given readBool_exactly hrepeat (by decide) h.adaptiveScale hv
  · exact discard_given readPort_exactly hrepeat (by decide) h.proxyPort hv
  · rfl

theorem read_obj_eq_ok_iff :
    read (Json.obj ms) = .ok s ↔ NoRepeat record.fields ms ∧ GivenBy ms s := by
  constructor
  · intro h
    obtain ⟨r, hr, h⟩ := bind_eq_ok_iff.1 h
    obtain ⟨hrepeat, rfl⟩ := RecordType.read_obj_eq_ok_iff.1 hr
    obtain ⟨⟨⟩, -, h⟩ := bind_eq_ok_iff.1 h
    obtain ⟨mode, hmode, h⟩ := bind_eq_ok_iff.1 h
    obtain ⟨ref, href, h⟩ := bind_eq_ok_iff.1 h
    obtain ⟨selector, hselector, h⟩ := bind_eq_ok_iff.1 h
    obtain ⟨found, hfound, h⟩ := bind_eq_ok_iff.1 h
    obtain ⟨port, hport, h⟩ := bind_eq_ok_iff.1 h
    obtain ⟨service, hservice, h⟩ := bind_eq_ok_iff.1 h
    obtain ⟨replicas, hreplicas, h⟩ := bind_eq_ok_iff.1 h
    obtain ⟨adaptive, hadaptive, h⟩ := bind_eq_ok_iff.1 h
    obtain ⟨proxyPort, hproxyPort, h⟩ := bind_eq_ok_iff.1 h
    obtain ⟨⟨⟩, -, ⟨⟩⟩ := bind_eq_ok_iff.1 h
    exact ⟨hrepeat, {
      mode := (getD_eq_ok_iff Mode.read_exactly).1 hmode
      credentialsSecretRef := (getD_eq_ok_iff readString_exactly).1 href
      selector := (getD_eq_ok_iff LabelSelector.read_exactly).1 hselector
      appPort := (require_eq_ok_iff readInt32_exactly).1 (bind_eq_ok_iff.2 ⟨found, hfound, hport⟩)
      appService := (getD_eq_ok_iff readString_exactly).1 hservice
      replicas := (getD_eq_ok_iff readInt32_exactly).1 hreplicas
      adaptiveScale := (getD_eq_ok_iff readBool_exactly).1 hadaptive
      proxyPort := (getD_eq_ok_iff readPort_exactly).1 hproxyPort }⟩
  · rintro ⟨hrepeat, h⟩
    obtain ⟨found, hfound, hport⟩ :=
      bind_eq_ok_iff.1 ((require_eq_ok_iff readInt32_exactly).2 h.appPort)
    refine bind_eq_ok_iff.2 ⟨_, RecordType.read_obj_eq_ok_iff.2 ⟨hrepeat, rfl⟩, ?_⟩
    refine bind_eq_ok_iff.2 ⟨(), h.checkMembers hrepeat, ?_⟩
    refine bind_eq_ok_iff.2 ⟨_, (getD_eq_ok_iff Mode.read_exactly).2 h.mode, ?_⟩
    refine bind_eq_ok_iff.2
      ⟨_, (getD_eq_ok_iff readString_exactly).2 h.credentialsSecretRef, ?_⟩
    refine bind_eq_ok_iff.2 ⟨_, (getD_eq_ok_iff LabelSelector.read_exactly).2 h.selector, ?_⟩
    refine bind_eq_ok_iff.2 ⟨found, hfound, bind_eq_ok_iff.2 ⟨_, hport, ?_⟩⟩
    refine bind_eq_ok_iff.2 ⟨_, (getD_eq_ok_iff readString_exactly).2 h.appService, ?_⟩
    refine bind_eq_ok_iff.2 ⟨_, (getD_eq_ok_iff readInt32_exactly).2 h.replicas, ?_⟩
    refine bind_eq_ok_iff.2 ⟨_, (getD_eq_ok_iff readBool_exactly).2 h.adaptiveScale, ?_⟩
    refine bind_eq_ok_iff.2 ⟨_, (getD_eq_ok_iff readPort_exactly).2 h.proxyPort, ?_⟩
    rfl

/-- Unknown members make no difference, not even to what is wrong. -/
theorem read_known : read (Json.obj (known record.fields ms)) = read (Json.obj ms) := by
  have hcheck : Record.checkMembers checkMember (known record.fields ms) =
      Record.checkMembers checkMember ms := by
    refine checkMembers_known fun k v hk => ?_
    simp only [record, List.mem_cons, List.not_mem_nil, or_false, not_or] at hk
    unfold checkMember
    split <;> grind
  rw [read, read, RecordType.read_obj, RecordType.read_obj, duplicate?_known]
  cases RecordType.duplicate? record.fields ms with
  | some k => rfl
  | none =>
    show (Record.checkMembers checkMember (known record.fields ms) >>= fun _ => _) =
      Record.checkMembers checkMember ms >>= fun _ => _
    rw [hcheck]
    congr 1
    funext _
    have hmember (k) (hk : k ∈ record.fields) :
        member? k (known record.fields ms) = member? k ms := member?_known hk
    simp only [Record.getD, Record.get?, hmember "type" (by decide),
      hmember "credentialsSecretRef" (by decide), hmember "selector" (by decide),
      hmember "appPort" (by decide), hmember "appService" (by decide),
      hmember "replicas" (by decide), hmember "adaptiveScale" (by decide),
      hmember "proxyPort" (by decide)]
    rfl

/-- A 32-bit number. -/
def InInt32 (v : Json) : Prop :=
  ∃ n : Int, v = .int n ∧ -2_147_483_648 ≤ n ∧ n ≤ 2_147_483_647

theorem exists_isInt32_iff {v : Json} : (∃ n, IsInt32 v n) ↔ InInt32 v := by
  constructor
  · rintro ⟨n, rfl⟩
    exact ⟨n.toInt, rfl, n.le_toInt, n.toInt_le⟩
  · rintro ⟨n, rfl, hleast, hgreatest⟩
    refine ⟨.ofInt n, ?_⟩
    rw [IsInt32, Int32.toInt_ofInt_of_le hleast (by omega)]

/-- The members of an object fit: the application port is there, and all others fit if they are. -/
structure Fits (ms : List (String × Json)) : Prop where
  mode : ∀ v, member? "type" ms = some v → ∃ m, IsMode v m
  credentialsSecretRef : ∀ v, member? "credentialsSecretRef" ms = some v → ∃ s, v = .str s
  selector : ∀ v, member? "selector" ms = some v → ∃ s, IsSelector v s
  appPort : ∃ v, member? "appPort" ms = some v ∧ InInt32 v
  appService : ∀ v, member? "appService" ms = some v → ∃ s, v = .str s
  replicas : ∀ v, member? "replicas" ms = some v → InInt32 v
  adaptiveScale : ∀ v, member? "adaptiveScale" ms = some v → ∃ b, v = .bool b
  proxyPort : ∀ v, member? "proxyPort" ms = some v → v = .null ∨ InInt32 v

theorem exists_isPort_iff {v : Json} : (∃ o, Nullable IsInt32 v o) ↔ v = .null ∨ InInt32 v := by
  rw [← exists_isInt32_iff]
  constructor
  · rintro ⟨o, ho⟩
    cases ho with
    | null => exact .inl rfl
    | value hn => exact .inr ⟨_, hn⟩
  · rintro (rfl | ⟨n, hn⟩)
    · exact ⟨none, .null⟩
    · exact ⟨some n, .value hn⟩

theorem exists_givenBy_iff : (∃ s, GivenBy ms s) ↔ Fits ms := by
  constructor
  · rintro ⟨s, h⟩
    obtain ⟨v, hv, hport⟩ := h.appPort
    exact {
      mode := exists_given_iff.1 ⟨_, h.mode⟩
      credentialsSecretRef := exists_given_iff.1 ⟨_, h.credentialsSecretRef⟩
      selector := exists_given_iff.1 ⟨_, h.selector⟩
      appPort := ⟨v, hv, exists_isInt32_iff.1 ⟨_, hport⟩⟩
      appService := exists_given_iff.1 ⟨_, h.appService⟩
      replicas := fun v hv => exists_isInt32_iff.1 (exists_given_iff.1 ⟨_, h.replicas⟩ v hv)
      adaptiveScale := exists_given_iff.1 ⟨_, h.adaptiveScale⟩
      proxyPort := fun v hv => exists_isPort_iff.1 (exists_given_iff.1 ⟨_, h.proxyPort⟩ v hv) }
  · intro h
    obtain ⟨v, hv, hport⟩ := h.appPort
    obtain ⟨port, hport⟩ := exists_isInt32_iff.2 hport
    obtain ⟨mode, hmode⟩ := exists_given_iff.2 h.mode
    obtain ⟨ref, href⟩ := exists_given_iff.2 h.credentialsSecretRef
    obtain ⟨selector, hselector⟩ := exists_given_iff.2 h.selector
    obtain ⟨service, hservice⟩ := exists_given_iff.2 h.appService
    obtain ⟨replicas, hreplicas⟩ :=
      exists_given_iff.2 fun v hv => exists_isInt32_iff.2 (h.replicas v hv)
    obtain ⟨adaptive, hadaptive⟩ := exists_given_iff.2 h.adaptiveScale
    obtain ⟨proxyPort, hproxyPort⟩ :=
      exists_given_iff.2 fun v hv => exists_isPort_iff.2 (h.proxyPort v hv)
    exact ⟨⟨mode, ref, selector, port, service, replicas, adaptive, proxyPort⟩,
      hmode, href, hselector, ⟨v, hv, hport⟩, hservice, hreplicas, hadaptive, hproxyPort⟩

/-- An object is a specification exactly if its members fit. -/
theorem exists_read_obj_iff :
    (∃ s, read (Json.obj ms) = .ok s) ↔ NoRepeat record.fields ms ∧ Fits ms := by
  rw [← exists_givenBy_iff]
  constructor
  · rintro ⟨s, hs⟩
    obtain ⟨hrepeat, h⟩ := read_obj_eq_ok_iff.1 hs
    exact ⟨hrepeat, s, h⟩
  · rintro ⟨hrepeat, s, h⟩
    exact ⟨s, read_obj_eq_ok_iff.2 ⟨hrepeat, h⟩⟩

/-- Only the port of the proxy may be null. -/
theorem not_read_null {field : String} (hfield : field ∈ record.fields)
    (hport : field ≠ "proxyPort") (hnull : (field, .null) ∈ ms) : read (Json.obj ms) ≠ .ok s := by
  intro hs
  obtain ⟨hrepeat, hfits⟩ := exists_read_obj_iff.1 ⟨s, hs⟩
  have hmember := hrepeat.member?_eq_some hfield hnull
  simp only [record, List.mem_cons, List.not_mem_nil, or_false] at hfield
  rcases hfield with rfl | rfl | rfl | rfl | rfl | rfl | rfl | rfl
  · obtain ⟨m, ⟨⟩⟩ := hfits.mode _ hmember
  · obtain ⟨t, ⟨⟩⟩ := hfits.credentialsSecretRef _ hmember
  · obtain ⟨t, ⟨⟩⟩ := hfits.selector _ hmember
  · obtain ⟨v, hv, n, rfl, -⟩ := hfits.appPort
    rw [hmember] at hv
    cases hv
  · obtain ⟨t, ⟨⟩⟩ := hfits.appService _ hmember
  · obtain ⟨n, ⟨⟩, -⟩ := hfits.replicas _ hmember
  · obtain ⟨b, ⟨⟩⟩ := hfits.adaptiveScale _ hmember
  · exact hport rfl

theorem read_write (s : AuthenticatorSpec) : read s.write = .ok s := by
  obtain ⟨mode, ref, selector, appPort, service, replicas, adaptive, proxyPort⟩ := s
  have hselector : IsSelector selector.write selector :=
    LabelSelector.read_exactly.1 selector.read_write
  refine read_obj_eq_ok_iff.2 ?_
  cases proxyPort with
  | none =>
    exact ⟨duplicate?_eq_none_iff.1 rfl, {
      mode := .present (.text mode)
      credentialsSecretRef := .present rfl
      selector := .present hselector
      appPort := ⟨_, rfl, rfl⟩
      appService := .present rfl
      replicas := .present rfl
      adaptiveScale := .present rfl
      proxyPort := .absent }⟩
  | some port =>
    exact ⟨duplicate?_eq_none_iff.1 rfl, {
      mode := .present (.text mode)
      credentialsSecretRef := .present rfl
      selector := .present hselector
      appPort := ⟨_, rfl, rfl⟩
      appService := .present rfl
      replicas := .present rfl
      adaptiveScale := .present rfl
      proxyPort := .present (.value rfl) }⟩

end AuthenticatorSpec

namespace AuthenticatorStatus

theorem read_write (s : AuthenticatorStatus) : read s.write = .ok s := by
  have hready : readInt32 (ofInt32 s.readyReplicas) = .ok s.readyReplicas :=
    readInt32_exactly.2 rfl
  refine bind_eq_ok_iff.2
    ⟨_, RecordType.read_obj_eq_ok_iff.2 ⟨duplicate?_eq_none_iff.1 rfl, rfl⟩, ?_⟩
  refine bind_eq_ok_iff.2 ⟨(), checkMembers_eq_ok_iff.2 ?_, ?_⟩
  · rw [List.forall_mem_singleton]
    show discard (readInt32 _) = _
    rw [hready]
    rfl
  · refine bind_eq_ok_iff.2 ⟨_, (getD_eq_ok_iff readInt32_exactly).2 (.present rfl), rfl⟩

end AuthenticatorStatus

namespace Authenticator

/-- The status that a document may have. -/
abbrev IsStatus : Json → Option AuthenticatorStatus → Prop :=
  Nullable fun v s => AuthenticatorStatus.read v = .ok s

theorem readStatus_exactly : ReadsExactly (readOption AuthenticatorStatus.read) IsStatus :=
  readOption_exactly Iff.rfl fun _ h => by cases h

/-- An object with metadata, a specification and perhaps a status is an authenticator. -/
theorem read_obj {ms : List (String × Json)} {a : Authenticator}
    (hrepeat : NoRepeat record.fields ms)
    (hmetadata : ∃ v, member? "metadata" ms = some v ∧ ObjectMeta.read v = .ok a.metadata)
    (hspec : ∃ v, member? "spec" ms = some v ∧ AuthenticatorSpec.read v = .ok a.spec)
    (hstatus : Given IsStatus none (member? "status" ms) a.status) :
    read (Json.obj ms) = .ok a := by
  have hcheck : Record.checkMembers checkMember ms = .ok () := by
    rw [checkMembers_eq_ok_iff]
    rintro ⟨k, v⟩ hv
    dsimp only
    unfold checkMember
    split
    · exact discard_given Iff.rfl hrepeat (by decide) (given_of_required hmetadata) hv
    · exact discard_given Iff.rfl hrepeat (by decide) (given_of_required hspec) hv
    · exact discard_given readStatus_exactly hrepeat (by decide) hstatus hv
    · rfl
  obtain ⟨m, hm, hmetadata⟩ := bind_eq_ok_iff.1 ((require_eq_ok_iff Iff.rfl).2 hmetadata)
  obtain ⟨s, hs, hspec⟩ := bind_eq_ok_iff.1 ((require_eq_ok_iff Iff.rfl).2 hspec)
  refine bind_eq_ok_iff.2 ⟨_, RecordType.read_obj_eq_ok_iff.2 ⟨hrepeat, rfl⟩, ?_⟩
  refine bind_eq_ok_iff.2 ⟨(), hcheck, ?_⟩
  refine bind_eq_ok_iff.2 ⟨m, hm, bind_eq_ok_iff.2 ⟨_, hmetadata, ?_⟩⟩
  refine bind_eq_ok_iff.2 ⟨s, hs, bind_eq_ok_iff.2 ⟨_, hspec, ?_⟩⟩
  exact bind_eq_ok_iff.2 ⟨_, (getD_eq_ok_iff readStatus_exactly).2 hstatus, rfl⟩

theorem read_write (a : Authenticator) : read a.write = .ok a := by
  obtain ⟨m, s, status⟩ := a
  cases status with
  | none =>
    exact read_obj (duplicate?_eq_none_iff.1 rfl) ⟨_, rfl, m.read_write⟩ ⟨_, rfl, s.read_write⟩
      .absent
  | some status =>
    exact read_obj (duplicate?_eq_none_iff.1 rfl) ⟨_, rfl, m.read_write⟩ ⟨_, rfl, s.read_write⟩
      (.present (.value status.read_write))

/-- **Authenticators keep their value on the wire, and specifications are exactly what fits.** What
is written is read back. An object whose known members occur at most once is a specification if and
only if they fit, and it is then the one that they give. Only the port of the proxy may be null, and
unknown members make no difference. So writing and reading again what was read changes nothing. -/
theorem wire_exact :
    (∀ a : Authenticator, read a.write = .ok a) ∧
    (∀ ms s, AuthenticatorSpec.read (Json.obj ms) = .ok s ↔
      NoRepeat AuthenticatorSpec.record.fields ms ∧ AuthenticatorSpec.GivenBy ms s) ∧
    (∀ ms, (∃ s, AuthenticatorSpec.read (Json.obj ms) = .ok s) ↔
      NoRepeat AuthenticatorSpec.record.fields ms ∧ AuthenticatorSpec.Fits ms) ∧
    (∀ ms, ∀ field ∈ AuthenticatorSpec.record.fields, field ≠ "proxyPort" →
      (field, Json.null) ∈ ms → ∀ s, AuthenticatorSpec.read (Json.obj ms) ≠ .ok s) ∧
    (∀ ms, AuthenticatorSpec.read (Json.obj (known AuthenticatorSpec.record.fields ms)) =
      AuthenticatorSpec.read (Json.obj ms)) ∧
    ∀ (v : Json) s, AuthenticatorSpec.read v = .ok s → AuthenticatorSpec.read s.write = .ok s :=
  ⟨read_write, fun _ _ => AuthenticatorSpec.read_obj_eq_ok_iff,
    fun _ => AuthenticatorSpec.exists_read_obj_iff,
    fun _ _ hfield hport hnull _ => AuthenticatorSpec.not_read_null hfield hport hnull,
    fun _ => AuthenticatorSpec.read_known, fun _ s _ => s.read_write⟩

example : AuthenticatorSpec.read
    (Json.obj [("type", .obj [("sidecar", .null)]), ("appPort", .int 3000), ("colour", .null)]) =
      .ok { mode := .sidecar, appPort := 3000 } := by
  rfl

end Authenticator

end AuthProxy
