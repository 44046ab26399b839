/-
Addresses at a server: a path and, after a question mark, a query. A number sign ends the address, and nobody looks at
what comes after it. Some characters may not stand in an address, fewer in its path than in its query.
-/
namespace TrainingJobs.Address

inductive Fault where
  | tooLong
  | badCharacter
deriving DecidableEq, Repr

/-- the largest size of an address in bytes -/
def maxSize : Nat := 65534

/-- the end of an address or the mark before its query -/
def endsPath (c : Char) : Bool := c == '?' || c == '#'

def isPathChar (c : Char) : Bool := ' ' < c && c != '<' && c != '>' && c != '`'

def isQueryChar (c : Char) : Bool := ' ' < c && c != '<' && c != '>' && c != '"'

def path (cs : List Char) : List Char := cs.takeWhile fun c => !endsPath c

/-- the query of an address, empty if there is none -/
def query (cs : List Char) : List Char :=
  match cs.dropWhile fun c => !endsPath c with
  | '?' :: rest => rest.takeWhile (· != '#')
  | _ => []

/-- what keeps an address from being used -/
def fault? (address : String) : Option Fault :=
  if maxSize < address.utf8ByteSize then some .tooLong
  else if (path address.toList).all isPathChar && (query address.toList).all isQueryChar then none
  else some .badCharacter

end TrainingJobs.Address
