import AuthProxy.Api.Canned
import AuthProxy.Proofs.Cluster.History
import AuthProxy.Proofs.Pass.Failures

/-! # Failures that an API server reports

A server tells by the code of its refusal why a write has failed: 409 is a lost race, 404 an object
that is not there. The client keeps the two apart from everything else, and never takes a read for a
lost race. Together with the routing of failures through a pass this says what a pass makes of every
refusal.
-/

namespace AuthProxy

open Program (MakesNoRace)

namespace Kind

/-- Where an object is written it has a name. -/
theorem nameAny_of_writeKey {k : Kind} {o : k.Object} {key : ObjectName}
    (h : k.writeKey o = .ok key) : (k.metadata o).name = some (k.nameAny o) := by
  unfold writeKey at h
  split at h
  · cases h
  · split at h
    · cases h
    · next n hn => rw [nameAny, ObjectMeta.nameAny, hn]; rfl

end Kind

namespace Call

/-- A write that makes a request is of an object with a name. -/
theorem name_of_write {q : Call} {k : Kind} {o : k.Object} {request : Request}
    (hq : q = .create k o ∨ q = .update k o ∨ q = .updateStatus k o)
    (hrequest : Request.ofCall q = .ok request) :
    (k.metadata o).name = some (k.nameAny o) := by
  have hkey : ∃ key, k.writeKey o = .ok key := by
    cases hw : k.writeKey o with
    | ok key => exact ⟨key, rfl⟩
    | error e =>
      rcases hq with rfl | rfl | rfl
      all_goals
        rw [Request.ofCall, hw] at hrequest
        cases hrequest
  obtain ⟨key, hkey⟩ := hkey
  exact Kind.nameAny_of_writeKey hkey

/-- A write that is refused fails by the code of the refusal. -/
theorem resultOf_of_isFailure {q : Call} {k : Kind} {name : ObjectName} {request : Request}
    {response : Response} (htarget : q.target? = some (k, name))
    (hrequest : Request.ofCall q = .ok request) (hfailure : response.isFailure = true) :
    q.resultOf response = .error (writeError k name.name (.refused response.refusal)) := by
  have hrefused : ∀ {α : Type} (read : Json.Written → Read α),
      response.document read = .error (.refused response.refusal) := by
    intro α read
    rw [Response.document, if_pos hfailure]
  have hwrite : ∀ o : k.Object, q = .create k o ∨ q = .update k o ∨ q = .updateStatus k o →
      k.key o = name → writeResult k o (response.document k.read) =
        .error (writeError k name.name (.refused response.refusal)) := by
    rintro o hq rfl
    rw [writeResult, hrefused, name_of_write hq hrequest]
    rfl
  cases q with
  | get => cases htarget
  | list => cases htarget
  | create j o =>
    obtain ⟨rfl, hname⟩ := Prod.mk.inj (Option.some.inj htarget)
    exact hwrite o (.inl rfl) hname
  | update j o =>
    obtain ⟨rfl, hname⟩ := Prod.mk.inj (Option.some.inj htarget)
    exact hwrite o (.inr (.inl rfl)) hname
  | updateStatus j o =>
    obtain ⟨rfl, hname⟩ := Prod.mk.inj (Option.some.inj htarget)
    exact hwrite o (.inr (.inr rfl)) hname

/-- A read never ends with a lost race, whatever the response. -/
theorem resultOf_makesNoRace {q : Call} (h : q.operation.isWrite = false) (response : Response) :
    MakesNoRace (q.resultOf response) := by
  cases q with
  | get k ns name =>
    show MakesNoRace (readResult (response.document k.read))
    rcases response.document k.read with (_ | _ | _ | _ | _ | _) | o
    case error.refused r =>
      rw [readResult]
      split
      · exact nofun
      · rintro e ⟨⟩
        rfl
    case ok => exact nofun
    all_goals
      rintro e ⟨⟩
      rfl
  | list k ns selector =>
    show MakesNoRace ((response.document (Response.readList k.read)).mapError .api)
    cases response.document (Response.readList k.read) with
    | ok os => exact nofun
    | error why =>
      rintro e ⟨⟩
      rfl
  | create | update | updateStatus => cases h

end Call

namespace Request

theorem build_makesNoRace {method : Method} {path : String} {query : List (String × String)}
    {body : Option Json} : MakesNoRace (build method path query body) := by
  unfold build
  dsimp only
  split
  · exact nofun
  · rintro e ⟨⟩
    rfl

theorem named_makesNoRace {method : Method} {k : Kind} {key : ObjectName} {suffix : String}
    {query : List (String × String)} {body : Option Json} :
    MakesNoRace (named method k key suffix query body) := by
  unfold named
  split
  · rintro e ⟨⟩
    rfl
  · exact build_makesNoRace

/-- That a read makes no request is no lost race. -/
theorem ofCall_makesNoRace {q : Call} (h : q.operation.isWrite = false) :
    MakesNoRace (ofCall q) := by
  cases q with
  | get => exact named_makesNoRace
  | list k ns selector =>
    refine MakesNoRace.bind ?_ fun _ => build_makesNoRace
    unfold LabelSelector.checked
    cases Selector.check selector with
    | ok s => exact nofun
    | error why =>
      rintro e ⟨⟩
      rfl
  | create | update | updateStatus => cases h

end Request

namespace Server

variable {σ : Type}

/-- However a server responds, no read from it is a lost race. -/
theorem losesNoRead (server : Server σ) : LosesNoRead server.store := by
  intro q s e hq he
  unfold Server.store at he
  split at he
  · next e' hrequest =>
    obtain rfl : e' = e := Except.error.inj he
    exact Request.ofCall_makesNoRace hq e' hrequest
  · exact Call.resultOf_makesNoRace hq _ e he

/-- The call became a request, and ended as this response of the server to it says. -/
def Responds (server : Server σ) (x : CallRecord) (response : Response) : Prop :=
  ∃ request t, Request.ofCall x.call = .ok request ∧ (server request t).1 = response ∧
    x.result = x.call.resultOf response

end Server

/-- Why a call failed. -/
def CallRecord.failure? (x : CallRecord) : Option Error :=
  match x.result with
  | .ok _ => none
  | .error e => some e

theorem CallRecord.failure?_eq_some_iff {x : CallRecord} {e : Error} :
    x.failure? = some e ↔ x.result = .error e := by
  unfold failure?
  cases x.result with
  | ok a => exact ⟨nofun, nofun⟩
  | error e' =>
    exact ⟨fun h => congrArg _ (Option.some.inj h), fun h => congrArg _ (Except.error.inj h)⟩

/-- What a pass makes of a refusal to write the object of a kind and a name. -/
structure RoutesRefusal (calls : Path) (result : Except Error Outcome) (x : CallRecord)
    (k : Kind) (name : String) (refusal : ErrorResponse) : Prop where
  requeues_iff : (∀ y ∈ calls, y ≠ x → ∀ e, y.result = .error e → e.isLostRace = true) →
    ((∃ reason, result = .ok (.requeue reason)) ↔ refusal.code = 409)
  not_found : refusal.code = 404 → result = .error (.notFound k.name name)
  other : refusal.code ≠ 404 → refusal.code ≠ 409 → result = .error (.api (.refused refusal))

namespace Authenticator

/-- **Lost races are requeued, and every other failure of a call surfaces unchanged.** On a store
that loses no races on reads, a pass never fails with a lost race; it requeues if a race was lost
and nothing else failed; and any other failure is that of the last call, and the error of the pass.
So on an API server the code of a refusal to write decides: 409 requeues, 404 says that the object
is not there, and every other code surfaces as the refusal itself. -/
theorem failures_are_routed (settings : Settings) (key : ObjectName) (fresh : Credentials) :
    (∀ {σ : Type} (store : Store σ) (s : σ), LosesNoRead store →
      RoutesFailures ((pass settings key.ns key.name fresh).calls store s)
        ((pass settings key.ns key.name fresh).run store s).result) ∧
    ∀ {σ : Type} (server : Server σ) (s : σ), LosesNoRead server.store ∧
      ∀ x ∈ (pass settings key.ns key.name fresh).calls server.store s, ∀ k name response,
        x.call.target? = some (k, name) → server.Responds x response →
        response.isFailure = true →
        RoutesRefusal ((pass settings key.ns key.name fresh).calls server.store s)
          ((pass settings key.ns key.name fresh).run server.store s).result x k name.name
          response.refusal := by
  have hpass := pass_routed settings key fresh
  refine ⟨fun store s hreads => hpass.routesFailures hreads s,
    fun server s => ⟨server.losesNoRead, fun x hx k name response htarget hresponds hfailure => ?_⟩⟩
  have hroutes := hpass.routesFailures server.losesNoRead s
  obtain ⟨request, t, hrequest, -, hresult⟩ := hresponds
  rw [Call.resultOf_of_isFailure htarget hrequest hfailure] at hresult
  -- A failure that is no lost race is the error of the pass.
  have hends : (Call.writeError k name.name (.refused response.refusal)).isLostRace = false →
      ((pass settings key.ns key.name fresh).run server.store s).result =
        .error (Call.writeError k name.name (.refused response.refusal)) := by
    obtain ⟨earlier, later, hcalls⟩ := List.append_of_mem hx
    exact fun he => (hroutes.last earlier x later _ hcalls hresult he).2
  have hmissing : response.refusal.code = 404 →
      Call.writeError k name.name (.refused response.refusal) = .notFound k.name name.name :=
    fun hcode => by simp [Call.writeError, hcode]
  have hother : response.refusal.code ≠ 404 → response.refusal.code ≠ 409 →
      Call.writeError k name.name (.refused response.refusal) =
        .api (.refused response.refusal) := fun h404 h409 => by simp [Call.writeError, h404, h409]
  exact {
    requeues_iff := fun hothers => by
      constructor
      · rintro ⟨reason, hrequeue⟩
        refine Classical.byContradiction fun h409 => ?_
        have he : (Call.writeError k name.name (.refused response.refusal)).isLostRace = false := by
          by_cases h404 : response.refusal.code = 404
          · rw [hmissing h404]
            rfl
          · rw [hother h404 h409]
            rfl
        exact nomatch hrequeue.symm.trans (hends he)
      · intro h409
        refine ⟨.conflict, hroutes.lost_race x hx _ hresult ?_ hothers⟩
        rw [Call.writeError, if_pos h409]
        split <;> rfl
    not_found := fun h404 => by
      rw [hmissing h404] at hends
      exact hends rfl
    other := fun h404 h409 => by
      rw [hother h404 h409] at hends
      exact hends rfl }

end Authenticator

namespace CannedServer

/-- A server with one authenticator, which responds like this to the creation of its Secret. -/
def refusing (refusal : Response) : CannedServer where
  responses := [
    ⟨"GET", Kind.authenticator.objectPath ⟨"apps", "gate"⟩, 200,
      "\x7b\"metadata\":\x7b\"name\":\"gate\",\"namespace\":\"apps\",\"uid\":\"1\"\x7d," ++
        "\"spec\":\x7b\"type\":\"standalone\",\"appPort\":80\x7d\x7d"⟩,
    ⟨"GET", Kind.secret.objectPath ⟨"apps", "gate-credentials"⟩, 404,
      "\x7b\"status\":\"\",\"reason\":\"NotFound\",\"code\":404\x7d"⟩,
    ⟨"POST", Kind.secret.collectionPath "apps", refusal⟩]

/-- The refusal to create what exists. -/
def taken : Response where
  status := 409
  body := "\x7b\"status\":\"\",\"reason\":\"AlreadyExists\",\"code\":409\x7d"

end CannedServer

open CannedServer in
theorem Authenticator.failures_are_routed_when_name_is_taken :
    let calls := (pass {} "apps" "gate" ⟨"user", "word"⟩).calls server.store (refusing taken)
    let result :=
      ((pass {} "apps" "gate" ⟨"user", "word"⟩).run server.store (refusing taken)).result
    ∃ x ∈ calls, x.call.target? = some (.secret, ⟨"apps", "gate-credentials"⟩) ∧
      server.Responds x taken ∧ result = .ok (.requeue .conflict) ∧
      ((∃ reason, result = .ok (.requeue reason)) ↔ taken.refusal.code = 409) := by
  intro calls result
  have hcalls : calls.map (fun x => (x.call.target?, x.failure?,
      (Request.ofCall x.call).toOption.map fun r => (server r (refusing taken)).1)) = [
        (none, none, some ((refusing taken).responses.getD 0 default).response),
        (none, none, some ((refusing taken).responses.getD 1 default).response),
        (some (.secret, ⟨"apps", "gate-credentials"⟩),
          some (.alreadyExists "Secret" "gate-credentials"), some taken)] := by decide +kernel
  obtain ⟨x, l, heq, hx, hmap⟩ := List.map_eq_cons_iff.1 hcalls
  obtain ⟨y, l, rfl, hy, hmap⟩ := List.map_eq_cons_iff.1 hmap
  obtain ⟨z, l, rfl, hz, hmap⟩ := List.map_eq_cons_iff.1 hmap
  obtain rfl := List.map_eq_nil_iff.1 hmap
  simp only [Prod.mk.injEq] at hx hy hz
  obtain ⟨htarget, hfailure, hresponse⟩ := hz
  have hmem : z ∈ calls := heq ▸ List.mem_append_right [x, y] (List.mem_singleton.2 rfl)
  have hresult := CallRecord.failure?_eq_some_iff.1 hfailure
  have hothers : ∀ w ∈ calls, w ≠ z → ∀ e, w.result = .error e → e.isLostRace = true := by
    intro w hw hne e he
    have hfailed := CallRecord.failure?_eq_some_iff.2 he
    rw [heq] at hw
    rcases List.mem_cons.1 hw with rfl | hw
    · exact nomatch hx.2.1.symm.trans hfailed
    · rcases List.mem_cons.1 hw with rfl | hw
      · exact nomatch hy.2.1.symm.trans hfailed
      · exact absurd (List.mem_singleton.1 hw) hne
  obtain ⟨request, hrequest, hserver⟩ := Option.map_eq_some_iff.1 hresponse
  replace hrequest : Request.ofCall z.call = .ok request := by
    cases h : Request.ofCall z.call with
    | ok r => rw [h] at hrequest; exact congrArg _ (Option.some.inj hrequest)
    | error e => rw [h] at hrequest; cases hrequest
  have hresponds : server.Responds z taken := by
    refine ⟨request, refusing taken, hrequest, hserver, ?_⟩
    rw [hresult, Call.resultOf_of_isFailure htarget hrequest (by decide)]
    have hwhy : Call.writeError .secret "gate-credentials" (.refused taken.refusal) =
        .alreadyExists "Secret" "gate-credentials" := by decide +kernel
    rw [hwhy]
  obtain ⟨hstores, hservers⟩ := failures_are_routed {} ⟨"apps", "gate"⟩ ⟨"user", "word"⟩
  obtain ⟨hreads, hrefusals⟩ := hservers server (refusing taken)
  exact ⟨z, hmem, htarget, hresponds,
    (hstores server.store (refusing taken) hreads).lost_race z hmem _ hresult rfl hothers,
    (hrefusals z hmem .secret _ taken htarget hresponds (by decide)).requeues_iff hothers⟩

end AuthProxy
