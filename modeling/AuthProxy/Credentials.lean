import AuthProxy.Dependent

/-! # Credentials

A user name and a password, the line of a password file they make, and the Secret that holds all
three. Generated credentials are drawn from the ASCII letters and digits.
-/

namespace AuthProxy

/-- A user name and a password. -/
structure Credentials where
  username : String
  password : String
deriving DecidableEq, Repr, Inhabited

namespace Credentials

/-- The key of the password file in a credentials Secret. -/
def htpasswdKey : String := "htpasswd"

def usernameKey : String := "username"

def passwordKey : String := "password"

/-- The line of a password file, the password written plainly. -/
def passwordLine (c : Credentials) : String :=
  c.username ++ ":\x7bPLAIN\x7d" ++ c.password

/-! ## Generated credentials -/

/-- The characters that are drawn. -/
def alphabet : List Char :=
  "ABCDEFGHIJKLMNOPQRSTUVWXYZabcdefghijklmnopqrstuvwxyz0123456789".toList

def usernameStart : String := "user-"

/-- How many characters are drawn for a user name, and how many for a password. -/
def suffixLength : Nat := 8

def passwordLength : Nat := 32

/-- The character that a draw selects. -/
def drawn (n : Nat) : Char := alphabet.getD (n % alphabet.length) 'A'

/-- The credentials that a sequence of draws gives: the user name in lower case. -/
def draw (draws : Nat → Nat) : Credentials where
  username := usernameStart ++
    String.ofList ((List.range suffixLength).map fun i => (drawn (draws i)).toLower)
  password :=
    String.ofList ((List.range passwordLength).map fun i => drawn (draws (suffixLength + i)))

/-- Whether a user name has the form of a generated one. -/
def isGeneratedUsername (s : String) : Bool :=
  let suffix := s.toList.drop usernameStart.length
  s.toList.take usernameStart.length = usernameStart.toList && suffix.length = suffixLength &&
    suffix.all fun c => alphabet.contains c && !c.isUpper

/-- Whether a password has the form of a generated one. -/
def isGeneratedPassword (s : String) : Bool :=
  s.toList.length = passwordLength && s.toList.all alphabet.contains

/-- The credentials that a line of a password file holds, if they have the form of generated
ones. -/
def ofGeneratedLine? (line : String) : Option Credentials :=
  let user := line.toList.take (usernameStart.length + suffixLength)
  let rest := line.toList.drop (usernameStart.length + suffixLength + ":\x7bPLAIN\x7d".length)
  let c : Credentials := ⟨String.ofList user, String.ofList rest⟩
  if isGeneratedUsername c.username && isGeneratedPassword c.password && c.passwordLine = line then
    some c
  else none

/-! ## The Secret -/

/-- The data of a credentials Secret. -/
def data (c : Credentials) : StringMap Bytes :=
  .ofList [
    (usernameKey, .ofString c.username),
    (passwordKey, .ofString c.password),
    (htpasswdKey, .ofString c.passwordLine)]

end Credentials

/-- The Secret called `name` that gives the credentials to the proxy of an authenticator. -/
def Authenticator.makeSecret (a : Authenticator) (name : String) (c : Credentials) :
    Except Error Secret := do
  let metadata ← a.dependentMeta name
  return { metadata, data := some c.data, type := some "Opaque" }

end AuthProxy
