import AuthProxy.Proofs.Program.Paths

/-! # The calls of a run

The path that one run takes on one store. Nothing is assumed of the store, which may answer every
call as it likes: for any answers there is a store that gives them, so what holds of the runs on all
stores holds whatever the calls are answered. A law that a program obeys is respected by the calls
of all its runs (`Obeys.respected`).
-/

namespace AuthProxy.Program

variable {σ α β : Type} {store : Store σ} {s : σ}

/-- The calls that the program makes when it runs on the store, each with how it ends. -/
def calls (store : Store σ) : Program α → σ → Path
  | done _, _ | fail _, _ => []
  | note _ p, s => p.calls store s
  | call c next, s =>
    let (answer, s) := store c s
    ⟨c, answer⟩ :: (next answer).calls store s

/-- The calls of a sequence of programs are those of the one and then those of the other, unless the
first one fails. -/
theorem calls_bind (p : Program α) (f : α → Program β) :
    (p >>= f).calls store s = p.calls store s ++
      match (p.run store s).result with
      | .ok a => (f a).calls store (p.run store s).store
      | .error _ => [] := by
  show (p.bind f).calls store s = _
  induction p generalizing s with
  | done a => rfl
  | fail e => rfl
  | note n p ih => exact ih
  | call c next ih => simp only [bind, calls, run, ih, List.cons_append]

/-- Nothing follows a call without answer. -/
theorem calls_ask (c : Call) (f : c.Answer → Program β) :
    (ask c >>= f).calls store s = ⟨c, (store c s).1⟩ ::
      match (store c s).1 with
      | .ok a => (f a).calls store (store c s).2
      | .error _ => [] := by
  show _ :: Program.calls store ((ofExcept (store c s).1).bind f) _ = _
  cases (store c s).1 <;> rfl

theorem calls_ask_of_ok {c : Call} {f : c.Answer → Program β} {a : c.Answer} {t : σ}
    (h : store c s = (.ok a, t)) :
    (ask c >>= f).calls store s = ⟨c, .ok a⟩ :: (f a).calls store t := by
  rw [calls_ask, h]

theorem run_ask_of_ok {c : Call} {f : c.Answer → Program β} {a : c.Answer} {t : σ}
    (h : store c s = (.ok a, t)) : (ask c >>= f).run store s = (f a).run store t := by
  show Program.run store ((ofExcept (store c s).1).bind f) (store c s).2 = _
  rw [h]
  rfl

/-- Nothing follows a call that fails. -/
theorem run_ask_of_error {c : Call} {f : c.Answer → Program β} {e : Error} {t : σ}
    (h : store c s = (.error e, t)) : (ask c >>= f).run store s = ⟨.error e, [], t⟩ := by
  show Program.run store ((ofExcept (store c s).1).bind f) (store c s).2 = _
  rw [h]
  rfl

@[simp] theorem calls_tellAll (ns : List Notice) : (tellAll ns).calls store s = [] := by
  induction ns with
  | nil => rfl
  | cons n rest ih => exact ih

@[simp] theorem run_tellAll (ns : List Notice) : (tellAll ns).run store s = ⟨.ok (), ns, s⟩ := by
  induction ns with
  | nil => rfl
  | cons n rest ih => rw [tellAll, run, ih]

/-- Every call ends as the store answers it in some state. -/
theorem answered_of_mem_calls {p : Program α} {x : CallRecord} (h : x ∈ p.calls store s) :
    ∃ t, (store x.call t).1 = x.result := by
  induction p generalizing s with
  | done a => cases h
  | fail e => cases h
  | note n p ih => exact ih h
  | call c next ih =>
    rcases List.mem_cons.1 h with rfl | h
    · exact ⟨s, rfl⟩
    · exact ih _ h

/-- **Every run respects the laws of its program.** -/
theorem Obeys.respected {law : Path → Call → Prop} {ends : Path → Except Error α → Prop}
    {past : Path} {p : Program α} (h : p.Obeys law ends past) (store : Store σ) (s : σ) :
    (∀ earlier x later, p.calls store s = earlier ++ x :: later → law (past ++ earlier) x.call) ∧
      ends (past ++ p.calls store s) (p.run store s).result := by
  induction p generalizing past s with
  | done a | fail e =>
    refine ⟨fun earlier x later heq => ?_, (List.append_nil past).symm ▸ h⟩
    cases earlier <;> cases heq
  | note n p ih => exact ih h s
  | call c next ih =>
    obtain ⟨hlaw, hend⟩ := ih _ (h.2 (store c s).1) (store c s).2
    rw [List.append_assoc] at hend
    refine ⟨fun earlier x later heq => ?_, hend⟩
    -- The call is the first one, or one of those that follow it.
    cases earlier with
    | nil =>
      obtain ⟨rfl, -⟩ := List.cons.inj heq
      exact (List.append_nil past).symm ▸ h.1
    | cons y earlier =>
      obtain ⟨rfl, hrest⟩ := List.cons.inj heq
      rw [← List.singleton_append, ← List.append_assoc]
      exact hlaw earlier x later hrest

end AuthProxy.Program
