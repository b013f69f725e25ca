import Salutation.Decimal.Binary64

namespace Salutation
namespace CommandLine

/-!
# Similar names

A name that is not known may be a misspelling of one that is.  The likeness of
two names is Jaro's: characters match when they are equal and not too far
apart, each at most once, and matches in another order count as half a
transposition.  The likeness is computed in double precision, because the
bound that it has to exceed lies between two neighbours there.
-/

namespace Similarity

/-- How far apart matching characters may be. -/
def reach (first second : Nat) : Nat :=
  max first second / 2 - 1

/-- The first place in a window whose character is the wanted one and has not
been matched yet. -/
def findMatch (wanted : Char) (low high : Nat) (others : List Char) (taken : List Nat) :
    Option Nat :=
  ((others.zipIdx.find? (fun item =>
    low <= item.2 && item.2 < high && item.1 == wanted && !taken.contains item.2))).map (·.2)

/-- The matched places of both names, in the order of the first. -/
def matchedPlaces (first second : List Char) : List (Nat × Nat) :=
  let distance := reach first.length second.length
  first.zipIdx.foldl
    (fun pairs item =>
      match findMatch item.1 (item.2 - distance) (min second.length (item.2 + distance + 1)) second
          (pairs.map (·.2)) with
      | some place => pairs ++ [(item.2, place)]
      | none => pairs)
    []

/-- How many matched characters stand opposite a different one when the matches
of both names are lined up. -/
def misplaced (first second : List Char) (pairs : List (Nat × Nat)) : Nat :=
  let left := pairs.filterMap (fun pair => first[pair.1]?)
  let right := (List.range second.length).filterMap (fun place =>
    if (pairs.map (·.2)).contains place then second[place]? else none)
  ((left.zip right).filter (fun pair => pair.1 != pair.2)).length

/-- The likeness of two names, from zero to one.  Every operand here is at
most three, so that no step can leave the range. -/
def likeness (first second : String) : Decimal.Binary64 :=
  let left := first.toList
  let right := second.toList
  let pairs := matchedPlaces left right
  let hits := pairs.length
  let quotient (numerator denominator : Nat) : Decimal.Binary64 :=
    (Decimal.Binary64.ofRatio? numerator denominator).getD .zero
  let plus (one other : Decimal.Binary64) : Decimal.Binary64 := (one.add? other).getD .zero
  if hits = 0 then .zero
  else
    let inOrder := hits - misplaced left right pairs / 2
    let sum := plus (plus (quotient hits left.length) (quotient hits right.length))
      (quotient inOrder hits)
    (sum.div? (quotient 3 1)).getD .zero

/-- The likeness that a suggestion has to exceed: seven tenths. -/
def bound : Decimal.Binary64 :=
  (Decimal.Binary64.ofRatio? 7 10).getD .zero

/-- The known name that is most like an unknown one, the later of two, if any
is enough like it. -/
def closest? {Known : Type} (name : String) (known : List (String × Known)) : Option Known :=
  let likely := known.filterMap (fun entry =>
    let degree := (likeness name entry.1).units
    if bound.units < degree then some (degree, entry.2) else none)
  (likely.foldl
    (fun best candidate =>
      match best with
      | none => some candidate
      | some earlier => if earlier.1 <= candidate.1 then some candidate else some earlier)
    none).map (·.2)

end Similarity
end CommandLine
end Salutation
