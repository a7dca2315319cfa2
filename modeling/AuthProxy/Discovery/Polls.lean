import AuthProxy.Discovery.Check
import AuthProxy.Discovery.Wait

/-! # Scripted discovery

A server whose responses change with every list of groups that is asked for, and that keeps the
paths and times of the requests.
-/

namespace AuthProxy

/-- The responses from one list of groups to the next, by path. -/
abbrev Poll : Type := List (String × Response)

/-- The responses still to come, the first of them in use once the groups were asked for. -/
structure PolledServer where
  started : Bool := false
  polls : List Poll
  now : Nat := 0
  requests : List (Nat × String) := []
deriving Inhabited

namespace PolledServer

/-- Goes on to the next poll; the last one stays. -/
def advance (s : PolledServer) : PolledServer :=
  match s.started, s.polls with
  | true, _ :: p :: rest => { s with polls := p :: rest }
  | _, _ => { s with started := true }

def server : Server PolledServer := fun request s =>
  let path := request.target.path
  let s := if path = "/apis" then s.advance else s
  let s := { s with requests := s.requests ++ [(s.now, path)] }
  let found := s.polls.head?.bind fun p => (p.find? fun e => e.1 = path).map (·.2)
  (found.getD .notFound, s)

/-- A check at a time. -/
def check (now : Nat) (s : PolledServer) : Except Error Bool × PolledServer :=
  let (r, s) := Discovery.check server { s with now }
  (r.mapError .api, s)

/-- Waits until `deadline`. -/
def wait (deadline : Nat) (s : PolledServer) : Wait × PolledServer :=
  Wait.untilTime check deadline s

end PolledServer

end AuthProxy
