/-! # Sums of replica counts

Replica counts are whole numbers of 32 bits. A sum is either given up as soon as it leaves that
range, or held at the end of the range.
-/

namespace AuthProxy.Replicas

def least : Int := -2_147_483_648

def greatest : Int := 2_147_483_647

/-- The sum of `total` and the counts, unless it leaves the range on the way. -/
def sumFrom? (total : Int) : List Int32 → Option Int
  | [] => some total
  | n :: rest =>
    if least ≤ total + n.toInt ∧ total + n.toInt ≤ greatest then sumFrom? (total + n.toInt) rest
    else none

/-- The sum of the counts, unless it leaves the range on the way. -/
def sum? (counts : List Int32) : Option Int32 := (sumFrom? 0 counts).map Int32.ofInt

/-- The end of the range that a sum went beyond, or the sum. -/
def clamp (n : Int) : Int := if n < least then least else if greatest < n then greatest else n

/-- The sum of the counts, held in the range at every step. -/
def heldSum (counts : List Int32) : Int32 :=
  Int32.ofInt (counts.foldl (fun total n => clamp (total + n.toInt)) 0)

end AuthProxy.Replicas
