import AuthProxy.Startup

/-! # Command line

Without arguments, the operator: it reads its environment and looks for a cluster. With the argument
`definition`, the resource definition as YAML.
-/

namespace AuthProxy

/-- The settings among the variables of the environment. -/
def readEnvironment : List String → IO (List (String × String))
  | [] => return []
  | name :: rest => do
    let more ← readEnvironment rest
    match ← IO.getEnv name with
    | some value => return (name, value) :: more
    | none => return more

/-- Prints what a command says and returns its exit code. -/
def finish (r : CommandResult) : IO UInt32 := do
  IO.print r.output
  IO.eprint r.error
  return UInt32.ofNat r.code

def runOperator : IO UInt32 := do
  let given ← readEnvironment Settings.settingNames
  let lookup := fun name => given.lookup name
  for n in Startup.notices lookup do
    IO.println n.line
  finish (Startup.run lookup)

end AuthProxy

def main (args : List String) : IO UInt32 :=
  if args = ["definition"] then AuthProxy.finish AuthProxy.Startup.printDefinition
  else AuthProxy.runOperator
