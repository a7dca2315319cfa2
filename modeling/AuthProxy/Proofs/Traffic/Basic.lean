import AuthProxy.Proofs.Cluster.Listing
import AuthProxy.Proofs.Pass.Law
import Mathlib.Data.List.Induction

/-! # Traffic

Any number of passes over one cluster, for the same or for different authenticators. An event starts
a pass, makes the next call of one of them, cuts one off, or changes the cluster from outside; a
call may fail before it reaches the cluster. Since the events come in any order, a run is any
interleaving of the passes' calls. `Traffic.Sound` is what holds after every event: what a pass has
read is still known by its version, and what is left of the pass keeps the law.
-/

namespace AuthProxy

/-- A pass that has begun: what it is about, the calls it made, and what is left of it. -/
structure Underway where
  settings : Settings
  key : ObjectName
  fresh : Credentials
  calls : Path
  rest : Program Outcome

/-- How a call ends, and what becomes of the cluster. A failure keeps the call from the cluster. -/
def deliver (failure : Option Failure) (call : Call) (c : Cluster) : call.Result × Cluster :=
  match failure with
  | some f => (f.result call, c)
  | none => Cluster.answer call c

namespace Underway

/-- A pass before its first call. -/
def start (settings : Settings) (key : ObjectName) (fresh : Credentials) : Underway :=
  ⟨settings, key, fresh, [], Authenticator.pass settings key.ns key.name fresh⟩

/-- The pass after a call ended with `r`. -/
def resume (u : Underway) (call : Call) (r : call.Result) (rest : Program Outcome) : Underway :=
  { u with calls := u.calls ++ [⟨call, r⟩], rest }

end Underway

/-- A cluster, the passes under way in it, and all calls that passes made, the earliest first. -/
structure Traffic where
  cluster : Cluster
  passes : List Underway := []
  calls : Path := []

/-- What can happen next. Passes are told apart by their place in the list. -/
inductive Event where
  | start (settings : Settings) (key : ObjectName) (fresh : Credentials)
  /-- The pass makes its next call, if it has one left. -/
  | call (i : Nat) (failure : Option Failure)
  | cut (i : Nat)
  | change (x : Change)

namespace Traffic

/-- The traffic after pass `i`, which is `u`, made its next call. -/
def advance (t : Traffic) (i : Nat) (u : Underway) (failure : Option Failure) : Traffic :=
  match u.rest.nextCall? with
  | none => t
  | some ⟨call, next⟩ =>
    let (r, cluster) := deliver failure call t.cluster
    ⟨cluster, t.passes.set i (u.resume call r (next r)), t.calls ++ [⟨call, r⟩]⟩

def step (t : Traffic) : Event → Traffic
  | .start settings key fresh => { t with passes := t.passes ++ [.start settings key fresh] }
  | .call i failure =>
    match t.passes[i]? with
    | none => t
    | some u => t.advance i u failure
  | .cut i => { t with passes := t.passes.eraseIdx i }
  | .change x => { t with cluster := x.apply t.cluster }

/-- The traffic after the events, beginning without a pass. -/
def after (c : Cluster) (es : List Event) : Traffic := es.foldl step { cluster := c }

theorem after_snoc (c : Cluster) (es : List Event) (e : Event) :
    after c (es ++ [e]) = (after c es).step e := by
  simp only [after, List.foldl_append, List.foldl_cons, List.foldl_nil]

/-- Pass `i`, which is `u`, makes the call `call`, which ends with `r`. -/
structure Calls (t : Traffic) (i : Nat) (u : Underway) (failure : Option Failure) (call : Call)
    (r : call.Result) (t' : Traffic) : Prop where
  pass : t.passes[i]? = some u
  next : ∃ next, u.rest.nextCall? = some ⟨call, next⟩ ∧
    t'.passes = t.passes.set i (u.resume call r (next r))
  delivered : deliver failure call t.cluster = (r, t'.cluster)
  calls : t'.calls = t.calls ++ [⟨call, r⟩]

/-- The event of a call changes nothing or makes one call of one pass. -/
theorem step_call (t : Traffic) (i : Nat) (failure : Option Failure) :
    t.step (.call i failure) = t ∨
      ∃ u call r, t.Calls i u failure call r (t.step (.call i failure)) := by
  simp only [step]
  cases hu : t.passes[i]? with
  | none => exact .inl rfl
  | some u =>
    simp only [advance]
    cases hn : u.rest.nextCall? with
    | none => exact .inl rfl
    | some n =>
      obtain ⟨call, next⟩ := n
      exact .inr ⟨u, call, _, hu, ⟨next, hn, rfl⟩, rfl, rfl⟩

end Traffic

theorem deliver_move (failure : Option Failure) (call : Call) (c : Cluster) :
    Cluster.Move c (deliver failure call c).2 := by
  cases failure with
  | some f => exact .still ⟨rfl, rfl⟩
  | none => exact c.answer_move call

/-! ## Soundness -/

/-- What a pass under way may rely on. -/
structure Underway.Sound (u : Underway) (c : Cluster) : Prop where
  /-- Whatever the cluster answers, the pass goes on as the law says. -/
  lawful : u.rest.Lawful (PassCall u.settings u.key u.fresh) u.calls
  read : ∀ {k key} {o : k.Object}, u.calls.HasRead k key o → k.key o = key ∧ c.Remembers k o
  listed : ∀ {k ns selector} {os : List k.Object}, u.calls.HasListed k ns selector os →
    ∀ o ∈ os, (k.metadata o).namespaceAny = ns ∧ c.Remembers k o

structure Traffic.Sound (t : Traffic) : Prop where
  wellKept : t.cluster.WellKept
  passes : ∀ u ∈ t.passes, u.Sound t.cluster
  /-- The calls of a pass are among all calls. -/
  recorded : ∀ u ∈ t.passes, u.calls ⊆ t.calls

theorem Underway.Sound.move {u : Underway} {c c' : Cluster} (h : u.Sound c)
    (hm : Cluster.Move c c') : u.Sound c' where
  lawful := h.lawful
  read := fun hr => ⟨(h.read hr).1, (h.read hr).2.move hm⟩
  listed := fun hl o ho => ⟨(h.listed hl o ho).1, (h.listed hl o ho).2.move hm⟩

theorem Underway.sound_start (settings : Settings) (key : ObjectName) (fresh : Credentials)
    (c : Cluster) : (start settings key fresh).Sound c where
  lawful := Authenticator.pass_lawful settings key fresh
  read := by intro k key o h; cases h
  listed := by intro k ns selector os h; cases h

/-- What a call reads is stored. -/
theorem deliver_get {failure : Option Failure} {k : Kind} {ns name : String} {c : Cluster}
    {o : k.Object} (h : (deliver failure (.get k ns name) c).1 = .ok (some o)) :
    c.get? k ⟨ns, name⟩ = some o ∧ (deliver failure (.get k ns name) c).2 = c := by
  cases failure with
  | some f => cases f <;> cases h
  | none => exact ⟨Except.ok.inj h, rfl⟩

/-- What a call lists is stored in the namespace. -/
theorem deliver_list {failure : Option Failure} {k : Kind} {ns : String} {selector : LabelSelector}
    {c : Cluster} {os : List k.Object}
    (h : (deliver failure (.list k ns selector) c).1 = .ok os) :
    (∀ o ∈ os, ∃ key, c.get? k key = some o ∧ key.ns = ns) ∧
      (deliver failure (.list k ns selector) c).2 = c := by
  cases failure with
  | some f => cases f <;> cases h
  | none =>
    have hl : c.list k ns selector = .ok os := h
    exact ⟨fun o ho => Cluster.mem_of_list hl ho, rfl⟩

/-- A pass still may rely on the same after it made a call. -/
theorem Underway.Sound.resume {u : Underway} {c : Cluster} (h : u.Sound c) (hc : c.WellKept)
    {call : Call} {next : call.Result → Program Outcome}
    (hn : u.rest.nextCall? = some ⟨call, next⟩) (failure : Option Failure) :
    (u.resume call (deliver failure call c).1 (next (deliver failure call c).1)).Sound
      (deliver failure call c).2 where
  lawful := (h.lawful.nextCall hn).2 _
  read := by
    intro k key o hr
    rcases List.mem_append.1 hr with hr | hr
    · exact ⟨(h.read hr).1, (h.read hr).2.move (deliver_move ..)⟩
    · obtain ⟨rfl, hr⟩ := CallRecord.mk.inj (List.mem_singleton.1 hr)
      obtain ⟨ho, hsame⟩ := deliver_get (eq_of_heq hr).symm
      rw [hsame]
      exact ⟨hc.key_eq ho, hc.remembers ho⟩
  listed := by
    intro k ns selector os hl o ho
    rcases List.mem_append.1 hl with hl | hl
    · exact ⟨(h.listed hl o ho).1, (h.listed hl o ho).2.move (deliver_move ..)⟩
    · obtain ⟨rfl, hl⟩ := CallRecord.mk.inj (List.mem_singleton.1 hl)
      obtain ⟨hos, hsame⟩ := deliver_list (eq_of_heq hl).symm
      obtain ⟨key, hkey, hns⟩ := hos o ho
      rw [hsame]
      refine ⟨?_, hc.remembers hkey⟩
      rw [← hns, ← hc.key_eq hkey]
      rfl

namespace Traffic

/-- **Every event keeps the traffic sound.** -/
theorem Sound.step {t : Traffic} (h : t.Sound) (e : Event) : (t.step e).Sound := by
  cases e with
  | start settings key fresh =>
    refine ⟨h.wellKept, ?_, ?_⟩
    · intro u hu
      rcases List.mem_append.1 hu with hu | hu
      · exact h.passes u hu
      · rw [List.mem_singleton.1 hu]
        exact Underway.sound_start ..
    · intro u hu
      rcases List.mem_append.1 hu with hu | hu
      · exact h.recorded u hu
      · rw [List.mem_singleton.1 hu]
        exact List.nil_subset _
  | call i failure =>
    rcases t.step_call i failure with hs | ⟨u, call, r, hs⟩
    · rw [hs]; exact h
    · obtain ⟨next, hn, hp⟩ := hs.next
      have hr : (deliver failure call t.cluster).1 = r := by rw [hs.delivered]
      have hc : (deliver failure call t.cluster).2 = (t.step (.call i failure)).cluster := by
        rw [hs.delivered]
      have hu := h.passes u (List.mem_of_getElem? hs.pass)
      refine ⟨hc ▸ h.wellKept.move (deliver_move ..), ?_, ?_⟩
      · intro v hv
        rw [hp] at hv
        -- The pass that made the call goes on by its law; for the others the cluster has moved.
        rcases List.mem_or_eq_of_mem_set hv with hv | rfl
        · exact hc ▸ (h.passes v hv).move (deliver_move ..)
        · exact hr ▸ hc ▸ hu.resume h.wellKept hn failure
      · intro v hv
        rw [hp] at hv
        rw [hs.calls]
        rcases List.mem_or_eq_of_mem_set hv with hv | rfl
        · exact List.subset_append_of_subset_left _ (h.recorded v hv)
        · exact List.append_subset.2 ⟨List.subset_append_of_subset_left _
            (h.recorded u (List.mem_of_getElem? hs.pass)), List.subset_append_right ..⟩
  | cut i =>
    exact ⟨h.wellKept, fun u hu => h.passes u (List.mem_of_mem_eraseIdx hu),
      fun u hu => h.recorded u (List.mem_of_mem_eraseIdx hu)⟩
  | change x =>
    exact ⟨h.wellKept.move (x.apply_move _), fun u hu => (h.passes u hu).move (x.apply_move _),
      h.recorded⟩

/-- **Traffic is sound at every time.** -/
theorem sound_after {c : Cluster} (h : c.WellKept) (es : List Event) : (after c es).Sound := by
  induction es using List.reverseRecOn with
  | nil => exact ⟨h, fun _ hu => absurd hu List.not_mem_nil, fun _ hu => absurd hu List.not_mem_nil⟩
  | append_singleton es e ih => rw [after_snoc]; exact ih.step e

end Traffic

/-! ## What every pass obeys -/

/-- The calls of the pass so far respect a law that may look at the calls before each of them, and
what is left of the pass obeys it. -/
structure Underway.Keeps (law : ObjectName → Path → Call → Prop)
    (ends : ObjectName → Path → Except Error Outcome → Prop) (u : Underway) : Prop where
  made : ∀ earlier r later, u.calls = earlier ++ r :: later → law u.key earlier r.call
  left : u.rest.Obeys (law u.key) (ends u.key) u.calls

section Keeps

variable {law : ObjectName → Path → Call → Prop}
  {ends : ObjectName → Path → Except Error Outcome → Prop} {u : Underway}

theorem Underway.Keeps.resume (h : u.Keeps law ends) {call : Call}
    {next : call.Result → Program Outcome} (hn : u.rest.nextCall? = some ⟨call, next⟩)
    (r : call.Result) : (u.resume call r (next r)).Keeps law ends where
  made := by
    intro earlier x later heq
    -- The call is the last one, or it was made before.
    rcases List.eq_nil_or_concat later with rfl | ⟨before, y, rfl⟩
    · obtain ⟨rfl, hx⟩ := List.append_inj' heq rfl
      obtain rfl := List.singleton_inj.1 hx
      exact (h.left.nextCall hn).1
    · rw [List.concat_eq_append, ← List.cons_append, ← List.append_assoc] at heq
      exact h.made earlier x before (List.append_inj' heq rfl).1
  left := (h.left.nextCall hn).2 r

/-- **What every pass obeys is kept** in whatever traffic. -/
theorem Traffic.keeps_after (h : ∀ settings key fresh,
      (Authenticator.pass settings key.ns key.name fresh).Obeys (law key) (ends key) [])
    (c : Cluster) (es : List Event) : ∀ u ∈ (after c es).passes, u.Keeps law ends := by
  induction es using List.reverseRecOn with
  | nil => exact fun _ hu => absurd hu List.not_mem_nil
  | append_singleton es e ih =>
    rw [after_snoc]
    cases e with
    | start settings key fresh =>
      intro u hu
      rcases List.mem_append.1 hu with hu | hu
      · exact ih u hu
      · rw [List.mem_singleton.1 hu]
        exact ⟨fun earlier _ _ heq => absurd heq.symm (by simp [Underway.start]), h ..⟩
    | call i failure =>
      rcases (after c es).step_call i failure with hs | ⟨v, call, r, hs⟩
      · rw [hs]; exact ih
      · obtain ⟨next, hn, hp⟩ := hs.next
        intro u hu
        rw [hp] at hu
        rcases List.mem_or_eq_of_mem_set hu with hu | rfl
        · exact ih u hu
        · exact (ih v (List.mem_of_getElem? hs.pass)).resume hn r
    | cut i => exact fun u hu => ih u (List.mem_of_mem_eraseIdx hu)
    | change x => exact ih

end Keeps

end AuthProxy
