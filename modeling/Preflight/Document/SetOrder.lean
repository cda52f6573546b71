import Preflight.Document.Basic

/-!
# The order of sets

The members of a set of numbers stand in the order of their places in a table.  The place of a number
is found from a residue, and a number whose place is taken goes to a later one.  Members of other kinds
have no such place: a set with one of them stays in the order in which it was written.
-/

namespace Preflight.Document

/-- The residues of numbers are taken by this prime. -/
def residuePrime : Nat := Nat.pow 2 61 - 1

/-- A residue with a sign; the one below zero is left out. -/
def signedResidue (negative : Bool) (n : Nat) : Int :=
  let residue : Int := (n % residuePrime : Nat)
  if !negative then residue else if residue = 1 then -2 else -residue

/-- The residue of a unit of a floating-point number.  It is the inverse of `2 ^ 1074`, since `2 ^ 61`
has the residue one. -/
def unitResidue : Nat := Nat.pow 2 24

/-- The residue by which a number is placed.  Equal numbers have the same residue. -/
def residue? : Document → Option Int
  | bool b => some (if b then 1 else 0)
  | int n => some (signedResidue (decide (n < 0)) n.natAbs)
  | float (.finite negative units _) => some (signedResidue negative (units * unitResidue))
  | float (.infinity negative) => some (if negative then -314159 else 314159)
  | _ => none

/-- The places of a table, of which there is a power of two. -/
abbrev SetTable := Array (Option Document)

namespace SetTable

/-- The number of places behind another one that are tried with it. -/
def runLength : Nat := 9

/-- The first free place from a place on.  Where a run of places is taken, the search goes on at a
place that depends on more and more of the residue. -/
def freePlace (table : SetTable) (place rest : Nat) : Nat → Nat
  | 0 => place
  | fuel + 1 =>
    let run := if place + runLength < table.size then runLength + 1 else 1
    match (List.range run).find? fun step => (table.getD (place + step) none).isNone with
    | some step => place + step
    | none =>
      let rest := rest / 32
      freePlace table ((place * 5 + 1 + rest) % table.size) rest fuel

/-- Puts a member in its place. -/
def insert (table : SetTable) (member : Document) (residue : Int) : SetTable :=
  let unsigned := (residue % Int.pow 2 64).toNat
  let place := table.freePlace (unsigned % table.size) unsigned (table.size + 16)
  table.setIfInBounds place (some member)

/-- The size of a table for a number of members: up to four have room in the smallest one, and more
get more than twice as many places. -/
def sizeFor (members : Nat) : Nat :=
  if members ≤ 4 then 8 else max 8 (Nat.pow 2 ((2 * members).log2 + 1))

end SetTable

/-- Different members in the order of a set. -/
def inSetOrder (members : List Document) : List Document :=
  match members.mapM fun member => member.residue?.map (member, ·) with
  | none => members
  | some placed =>
    let start : SetTable := Array.replicate (SetTable.sizeFor members.length) none
    let table := placed.foldl (fun table (member, residue) => table.insert member residue) start
    table.toList.filterMap id

end Preflight.Document
