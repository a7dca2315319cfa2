import AuthProxy.Cluster.Script
import AuthProxy.Cluster.Served
import AuthProxy.Schedule

/-! # Rehearsals

The operator at work on a served cluster, in a time that passes only between passes. The first
listed authenticator is looked at again and again, as the schedule says, while steps of a script
change the cluster before certain passes.
-/

namespace AuthProxy

/-- What is rehearsed. -/
structure RehearsalPlan where
  settings : Settings
  /-- How the server words its failures. -/
  message : String → String
  /-- The namespaces that there are. -/
  namespaces : List String
  /-- What happens before the pass of a number is served. -/
  events : List (Nat × ScriptStep)
  maxPasses : Nat
  /-- The end of time, in nanoseconds. -/
  deadline : Nat
  fresh : Credentials

/-- A pass that was served. -/
structure PassRecord where
  /-- The time since the pass before it started, in nanoseconds. -/
  gap : Nat
  calls : List CallRecord

namespace PassRecord

/-- The gap in seconds, to the nearest whole one. -/
def gapSeconds (p : PassRecord) : Nat := (p.gap + 500_000_000) / 1_000_000_000

/-- How far a gap may lie outside its bounds, in milliseconds. -/
def tolerance : Nat := 2

/-- Whether the gap lies between two numbers of milliseconds. -/
def gapWithin (p : PassRecord) (low high : Nat) : Bool :=
  low * Duration.nanosPerMilli ≤ p.gap + tolerance * Duration.nanosPerMilli &&
    p.gap ≤ (high + tolerance) * Duration.nanosPerMilli

end PassRecord

/-- How far a rehearsal has come. -/
structure Rehearsal where
  bench : Bench
  backoff : Backoff
  now : Nat := 0
  lastStart : Nat := 0
  passes : List PassRecord := []
  notices : List Notice := []

/-- Why a rehearsal ended. -/
inductive RehearsalEnd where
  | passesDone
  | timeOver
  /-- The operator does not survive an authenticator without a name, nor a delay that is too long to
  be waited for. -/
  | broken
deriving DecidableEq, Repr

namespace RehearsalPlan

/-- The namespaces that are looked at. -/
def watched (p : RehearsalPlan) : List String :=
  match p.settings.watchNamespace with
  | some ns => p.namespaces.filter (· = ns)
  | none => p.namespaces

/-- The collection of a kind that the operator looks at. -/
def watchedPath (settings : Settings) (k : Kind) : String :=
  match settings.watchNamespace with
  | some ns => k.collectionPath ns
  | none => k.root ++ "/" ++ k.plural

/-- Whether a request for the authenticators leads to them. -/
def canList (p : RehearsalPlan) : Bool :=
  let path := watchedPath p.settings .authenticator
  match Target.ofText path with
  | .ok t => t.path = path
  | .error _ => false

/-- The authenticators that are listed, in order. -/
def listed (p : RehearsalPlan) (b : Bench) : List Authenticator :=
  if p.canList then p.watched.flatMap fun ns => b.cluster.inNamespace .authenticator ns else []

/-- What the query of a request to watch says, as far as the server looks at it. -/
def watchQuery : String × String := ("watch", "true")

/-- The path that a request to watch a kind reaches. -/
def watchPath? (settings : Settings) (k : Kind) : Option String :=
  match Target.ofText (watchedPath settings k ++ "?" ++ Query.text [watchQuery]) with
  | .ok t => if t.query.contains watchQuery then some t.path else none
  | .error _ => none

/-- The paths that the operator watches, each once and in order. -/
def watchPaths (p : RehearsalPlan) : List String :=
  if p.deadline = 0 then []
  else ((Kind.all.filterMap (watchPath? p.settings)).mergeSort (fun a b => a ≤ b)).eraseDups

/-- Whether a pass over the authenticator reaches the server at all. -/
def isServed (a : Authenticator) : Bool :=
  match a.ownNamespace with
  | .ok ns =>
    match Request.ofCall (.get .authenticator ns a.nameAny) with
    | .ok request => (request.target.below? (Kind.authenticator.collectionPath ns)).isSome
    | .error _ => false
  | .error _ => false

/-- The events before a pass. -/
def eventsBefore (p : RehearsalPlan) (pass : Nat) (b : Bench) : Bench :=
  (p.events.filter (·.1 = pass)).foldl (fun b e => (b.perform p.settings p.fresh e.2).bench) b

/-- Gets ready for a pass that is served. -/
def prepare (p : RehearsalPlan) (r : Rehearsal) : Rehearsal :=
  { r with bench := (p.eventsBefore r.passes.length r.bench).clear }

/-- Keeps the pass that was served. -/
def record (r : Rehearsal) : Rehearsal :=
  { r with
    passes := r.passes ++ [⟨r.now - r.lastStart, r.bench.calls⟩]
    lastStart := r.now }

/-- Runs a pass and decides what follows. Delays are drawn without jitter. -/
def runPass (p : RehearsalPlan) (a : Authenticator) (r : Rehearsal) :
    Option Action × Rehearsal :=
  let run := (a.duePass p.settings p.fresh).run (Bench.served p.message) r.bench
  let decision := Schedule.after r.backoff a.fullName 1 run.result
  (decision.action,
    { r with
      bench := run.store
      backoff := decision.backoff
      notices := r.notices ++ run.notices ++ decision.notices })

/-- The longest delay that can be waited for, in nanoseconds. -/
def greatestDelay : Nat := 68_719_476_735 * Duration.nanosPerMilli

/-- Runs the passes that are due, at most `fuel` of them. -/
def go (p : RehearsalPlan) (a : Authenticator) : (fuel : Nat) → Rehearsal → RehearsalEnd × Rehearsal
  | 0, r => (.timeOver, r)
  | fuel + 1, r =>
    if p.deadline ≤ r.now then (.timeOver, r)
    else if isServed a && p.maxPasses ≤ r.passes.length then (.passesDone, r)
    else
      let (action, r) :=
        if isServed a then
          let (action, r) := p.runPass a (p.prepare r)
          (action, record r)
        else p.runPass a r
      match action with
      | some (.passAfter d) =>
        if greatestDelay < d.nanos then (.broken, r)
        else p.go a fuel { r with now := r.now + d.nanos }
      | some .awaitChange => (.timeOver, r)
      | none => (.broken, r)

/-- Runs the rehearsal on a bench. A pass that is not served counts as one for each millisecond. -/
def run (p : RehearsalPlan) (b : Bench) : RehearsalEnd × Rehearsal :=
  let start : Rehearsal :=
    { bench := b, backoff := { base := p.settings.backoffBase, max := p.settings.backoffMax } }
  let listed := p.listed b
  if p.deadline = 0 then (.timeOver, start)
  else if listed.any fun a => a.metadata.name.isNone then (.broken, start)
  else
    match listed with
    | a :: _ => p.go a (p.maxPasses + p.deadline / Duration.nanosPerMilli + 2) start
    | [] => (.timeOver, start)

end RehearsalPlan

end AuthProxy
