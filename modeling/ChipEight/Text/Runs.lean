/-!
# Classes of characters

A class of characters is given by runs of consecutive code points in rising order, and
membership is decided by binary search.
-/

namespace ChipEight.Text

/-- Whether a code point lies in one of the runs `first` to `last - 1`. -/
def searchRuns (runs : Array (Nat × Nat)) (code : Nat) : Nat → Nat → Nat → Bool
  | 0, _, _ => false
  | fuel + 1, first, last =>
      if first < last then
        let middle := (first + last) / 2
        let run := runs.getD middle (0, 0)
        if run.2 < code then searchRuns runs code fuel (middle + 1) last
        else if code < run.1 then searchRuns runs code fuel first middle
        else true
      else false

/-- Whether a code point lies in one of some runs. -/
def inRuns (runs : Array (Nat × Nat)) (code : Nat) : Bool :=
  searchRuns runs code runs.size 0 runs.size

end ChipEight.Text
