import ChipEight.Refusal

/-!
# Schedules

Instructions and timer ticks are spread over logical time, each at its own rate: the
`k`-th instruction is due at `k / cycles` seconds and the `j`-th tick at `j / ticks`
seconds.  Of two that are due at the same time the tick comes first.  Times are
compared by cross multiplication, so no rounding enters.
-/

namespace ChipEight

/-- Instructions and ticks per second. -/
structure Rates where
  cycles : Nat
  ticks : Nat
  cycles_pos : 0 < cycles
  ticks_pos : 0 < ticks
  deriving DecidableEq

/-- The rates that two integers give. -/
def Rates.ofInts (cycles ticks : Int) : Except Refusal Rates :=
  if positive : 0 < cycles ∧ 0 < ticks then
    .ok ⟨cycles.toNat, ticks.toNat, by omega, by omega⟩
  else .error .rates

/-- Instructions and ticks, done since a start or to be done by a time. -/
structure Progress where
  cycles : Nat
  ticks : Nat
  deriving DecidableEq, Repr, Inhabited

/-- What is due next. -/
inductive Due where
  | tick
  | cycle
  deriving DecidableEq, Repr

namespace Progress

/-- At the start nothing has been done. -/
def start : Progress := ⟨0, 0⟩

/-- One more tick. -/
def tick (p : Progress) : Progress := { p with ticks := p.ticks + 1 }

/-- One more instruction. -/
def cycle (p : Progress) : Progress := { p with cycles := p.cycles + 1 }

/-- What is due next on the way to a target; nothing once both counts are reached. -/
def due (rates : Rates) (target done : Progress) : Option Due :=
  if done.ticks < target.ticks ∧
      (target.cycles ≤ done.cycles ∨
        (done.ticks + 1) * rates.cycles ≤ (done.cycles + 1) * rates.ticks) then some .tick
  else if done.cycles < target.cycles then some .cycle
  else none

/-- What is left to do on the way to a target. -/
def remaining (target done : Progress) : Nat :=
  (target.cycles - done.cycles) + (target.ticks - done.ticks)

theorem remaining_tick_lt {rates : Rates} {target done : Progress}
    (next : due rates target done = some .tick) :
    remaining target done.tick < remaining target done := by
  simp only [due] at next
  split at next
  · simp only [remaining, tick]
    omega
  · split at next <;> simp at next

theorem remaining_cycle_lt {rates : Rates} {target done : Progress}
    (next : due rates target done = some .cycle) :
    remaining target done.cycle < remaining target done := by
  simp only [due] at next
  split at next
  · simp at next
  · split at next
    · simp only [remaining, cycle]
      omega
    · simp at next

/-- The progress at the time of the `n`-th instruction. -/
def atCycle (rates : Rates) (n : Nat) : Progress :=
  ⟨n, n * rates.ticks / rates.cycles⟩

end Progress

end ChipEight
