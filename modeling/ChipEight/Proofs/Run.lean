import ChipEight.Debugger

/-!
# Runs of the debugger

A run is nothing but single steps.  How many it takes is `Debugger.stepsTaken`, and
`Debugger.runSteps_eq_stepTimes` says that it does what they do.
-/

namespace ChipEight.Debugger

/-- So many steps, whether they end in a fault or not. -/
def stepTimes : Nat → Debugger → Debugger
  | 0, d => d
  | count + 1, d => stepTimes count d.step.2

/-- How many steps a run takes.  The step that ends in a fault counts. -/
def stepsTaken (d : Debugger) (first : Bool) : Nat → Nat
  | 0 => 0
  | count + 1 =>
      if !first && d.stopsBefore then 0
      else
        match d.step with
        | (.error _, _) => 1
        | (.ok report, after) =>
            if report.waiting then 1
            else if after.stopsAfter report then 1
            else after.stepsTaken false count + 1

/-- A run leaves the debugger as its single steps do. -/
theorem runSteps_eq_stepTimes (d : Debugger) (first : Bool) (count : Nat) :
    (d.runSteps first count).2 = stepTimes (d.stepsTaken first count) d := by
  induction count generalizing d first with
  | zero => rfl
  | succ count ih =>
      unfold runSteps stepsTaken
      by_cases stopped : (!first && d.stopsBefore) = true
      · rw [if_pos stopped, if_pos stopped]
        rfl
      · rw [if_neg stopped, if_neg stopped]
        cases stepped : d.step with
        | mk result after =>
            have single : stepTimes 1 d = after := by
              rw [stepTimes, stepped]
              rfl
            cases result with
            | error fault => exact single.symm
            | ok report =>
                by_cases waiting : report.waiting = true
                · simp only [if_pos waiting]
                  exact single.symm
                · simp only [if_neg waiting]
                  by_cases hit : after.stopsAfter report = true
                  · simp only [if_pos hit]
                    exact single.symm
                  · simp only [if_neg hit, ih]
                    rw [stepTimes, stepped]

theorem run_eq_stepTimes (d : Debugger) (maxSteps : Int) :
    (d.run maxSteps).2 = stepTimes (d.stepsTaken true maxSteps.toNat) d :=
  d.runSteps_eq_stepTimes true maxSteps.toNat

end ChipEight.Debugger
