import AuthProxy.Notice
import AuthProxy.Object.LabelSelector

/-! # Programs over a store

What a pass does, apart from the store it runs on: a tree that, at each call, goes on with every
answer the store may give. Running a program picks the branch that a particular store answers.
`Program.run_bind` says that a sequence of programs runs one after the other.
-/

namespace AuthProxy

/-- The operations of a store. -/
inductive Operation where
  | get
  | list
  | create
  | update
  | updateStatus
deriving DecidableEq, Repr, Inhabited

namespace Operation

def name : Operation → String
  | get => "get"
  | list => "list"
  | create => "create"
  | update => "update"
  | updateStatus => "update_status"

def all : List Operation := [get, list, create, update, updateStatus]

def ofName? (s : String) : Option Operation := all.find? (fun o => o.name = s)

/-- Whether the operation changes an object. -/
def isWrite : Operation → Bool
  | get | list => false
  | create | update | updateStatus => true

end Operation

/-- A call to a store. -/
inductive Call where
  /-- Reads one object. -/
  | get (kind : Kind) (ns name : String)
  /-- Reads the objects of a namespace that a selector selects. -/
  | list (kind : Kind) (ns : String) (selector : LabelSelector)
  /-- Stores an object that must not exist yet. -/
  | create (kind : Kind) (object : kind.Object)
  /-- Replaces an object, except for its status, if it did not change since it was read. -/
  | update (kind : Kind) (object : kind.Object)
  /-- Replaces the status of an object if it did not change since it was read. -/
  | updateStatus (kind : Kind) (object : kind.Object)

namespace Call

def kind : Call → Kind
  | get k .. | list k .. | create k _ | update k _ | updateStatus k _ => k

def operation : Call → Operation
  | get .. => .get
  | list .. => .list
  | create .. => .create
  | update .. => .update
  | updateStatus .. => .updateStatus

/-- What a call that succeeds returns. -/
abbrev Answer : Call → Type
  | get k .. => Option k.Object
  | list k .. => List k.Object
  | create k _ => k.Object
  | update k _ => k.Object
  | updateStatus k _ => k.Object

/-- How a call ends. -/
abbrev Result (c : Call) : Type := Except Error c.Answer

end Call

/-- A store: how it answers a call, and what it is afterwards. -/
abbrev Store (σ : Type) : Type := (c : Call) → σ → c.Result × σ

/-- Steps that end in a value or an error, with calls to a store and notices on the way. -/
inductive Program (α : Type) where
  | done (value : α)
  | fail (error : Error)
  | note (notice : Notice) (next : Program α)
  | call (c : Call) (next : c.Result → Program α)

/-- What a run of a program leaves behind. -/
structure Run (σ α : Type) where
  result : Except Error α
  notices : List Notice
  store : σ

namespace Program

variable {σ α β : Type}

def bind : Program α → (α → Program β) → Program β
  | done a, f => f a
  | fail e, _ => fail e
  | note n p, f => note n (p.bind f)
  | call c p, f => call c fun r => (p r).bind f

instance : Monad Program where
  pure := done
  bind := bind

/-- A program that ends like an evaluation without calls. -/
def ofExcept : Except Error α → Program α
  | .ok a => done a
  | .error e => fail e

instance : MonadLift (Except Error) Program := ⟨ofExcept⟩

/-- Tells something. -/
def tell (n : Notice) : Program Unit := note n (done ())

/-- Tells several things in order. -/
def tellAll : List Notice → Program Unit
  | [] => done ()
  | n :: rest => note n (tellAll rest)

/-- A call whose failure is the failure of the program. -/
def ask (c : Call) : Program c.Answer := call c ofExcept

/-- A write that may lose against another writer. Returns whether it took place; every failure but a
lost race is the failure of the program. -/
def attempt (c : Call) : Program Bool :=
  call c fun
    | .ok _ => done true
    | .error e => if e.isLostRace then note (.writeLost e) (done false) else fail e

/-- Runs the program on a store. -/
def run (store : Store σ) : Program α → σ → Run σ α
  | done a, s => ⟨.ok a, [], s⟩
  | fail e, s => ⟨.error e, [], s⟩
  | note n p, s =>
    let r := p.run store s
    { r with notices := n :: r.notices }
  | call c p, s =>
    let (answer, s) := store c s
    (p answer).run store s

/-- A sequence of programs runs one after the other, unless the first one fails. -/
theorem run_bind (store : Store σ) (p : Program α) (f : α → Program β) (s : σ) :
    (p >>= f).run store s =
      match (p.run store s).result with
      | .ok a =>
        let r := (f a).run store (p.run store s).store
        { r with notices := (p.run store s).notices ++ r.notices }
      | .error e => ⟨.error e, (p.run store s).notices, (p.run store s).store⟩ := by
  show (p.bind f).run store s = _
  induction p generalizing s with
  | done a => simp [bind, run]
  | fail e => simp [bind, run]
  | note n p ih =>
    simp only [bind, run, ih]
    cases h : (p.run store s).result <;> simp
  | call c p ih => simp only [bind, run, ih]

end Program

end AuthProxy
