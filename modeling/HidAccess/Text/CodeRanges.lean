/-!
# Ranges of code points

Tables of closed ranges in ascending order, searched by halving.
-/

namespace HidAccess.Text

/-- Halves the part of the table that can hold `n`. -/
def inRanges (table : Array (Nat × Nat)) (n : Nat) : (fuel lo hi : Nat) → Bool
  | 0, _, _ => false
  | fuel + 1, lo, hi =>
    if lo < hi then
      let mid := (lo + hi) / 2
      match table[mid]? with
      | none => false
      | some (first, last) =>
        if n < first then inRanges table n fuel lo mid
        else if last < n then inRanges table n fuel (mid + 1) hi
        else true
    else false

def isInRanges (table : Array (Nat × Nat)) (c : Char) : Bool := inRanges table c.toNat table.size 0 table.size

end HidAccess.Text
