import ChipEight.Command
import ChipEight.Proofs.Stops

/-!
# Editing breakpoints

A debugger does not add a breakpoint that it already has.  Replacing one does not look at the
others, and neither does switching one on or off, so either can leave two equal breakpoints, of
which a removal takes only the first.  `Debugger.breakpoints_distinct` says that this is the only
way: one command keeps breakpoints distinct unless it is such a replacement (`nodup_obey_iff`), and
so do commands one after the other.
-/

namespace ChipEight

/-! ## Lists of distinct items -/

section Lists

variable {α : Type} [DecidableEq α] {items : List α} {old new : α}

/-- Of distinct items one is replaced by what is not among the others. -/
theorem nodup_replace_iff (distinct : items.Nodup) :
    (items.replace old new).Nodup ↔ ¬(old ∈ items ∧ new ∈ items ∧ new ≠ old) := by
  by_cases member : old ∈ items
  · obtain ⟨before, after, rfl, first⟩ := List.eq_append_cons_of_mem member
    obtain ⟨absent, rest⟩ := List.nodup_cons.mp (List.nodup_middle.mp distinct)
    have replaced : (before ++ old :: after).replace old new = before ++ new :: after := by
      rw [List.replace_append_right first, List.replace_cons_self]
    rw [replaced, List.nodup_middle, List.nodup_cons]
    constructor
    · rintro ⟨alone, -⟩ ⟨-, among, different⟩
      rcases List.mem_cons.mp (List.perm_middle.mem_iff.mp among) with same | other
      · exact different same
      · exact alone other
    · intro clashes
      refine ⟨fun among => clashes ⟨member, ?_, ?_⟩, rest⟩
      · exact List.perm_middle.mem_iff.mpr (List.mem_cons_of_mem old among)
      · rintro rfl
        exact absent among
  · rw [List.replace_of_not_mem member]
    exact iff_of_true distinct fun clashes => member clashes.1

/-- Removing an item leaves all others, in their order. -/
theorem filter_erase_ne (items : List α) (item : α) :
    (items.erase item).filter (· != item) = items.filter (· != item) := by
  by_cases member : item ∈ items
  · obtain ⟨before, after, -, rfl, erased⟩ := List.exists_erase_eq member
    simp [erased]
  · rw [List.erase_of_not_mem member]

/-- An item is left after its removal if it was there more than once. -/
theorem mem_erase_self_iff (items : List α) (item : α) :
    item ∈ items.erase item ↔ 2 ≤ items.count item := by
  rw [← List.count_pos_iff, List.count_erase_self]
  omega

end Lists

namespace Debugger

variable {d : Debugger}

/-! ## Commands that are no edits -/

theorem breakpoints_stepTimes (count : Nat) (d : Debugger) :
    (stepTimes count d).breakpoints = d.breakpoints := by
  induction count generalizing d with
  | zero => rfl
  | succ count ih => rw [stepTimes, ih, breakpoints_step]

theorem breakpoints_stepBack (d : Debugger) : d.stepBack.2.breakpoints = d.breakpoints := by
  unfold stepBack
  cases d.undo with
  | nil => rfl
  | cons snapshot undo =>
      dsimp only
      cases d.machine.restore (.snapshot snapshot) with
      | error failure => rfl
      | ok machine => cases d.history <;> rfl

/-! ## Edits -/

/-- A breakpoint is to be replaced by one that is already there besides it. -/
def Clashes (d : Debugger) (old new : Breakpoint) : Prop :=
  old ∈ d.breakpoints ∧ new ∈ d.breakpoints ∧ new ≠ old

/-- A command replaces a breakpoint by one that is already there besides it. -/
def Doubles (d : Debugger) : Command → Prop
  | .updateBreakpoint old new => d.Clashes old new
  | .enableBreakpoint b enabled => d.Clashes b { b with enabled := enabled }
  | _ => False

/-- None of some commands, one after the other, replaces a breakpoint by one that is already there
besides it. -/
def NeverDoubles (d : Debugger) : List Command → Prop
  | [] => True
  | command :: rest => ¬d.Doubles command ∧ (d.obey command).NeverDoubles rest

theorem nodup_addBreakpoint (distinct : d.breakpoints.Nodup) (b : Breakpoint) :
    (d.addBreakpoint b).breakpoints.Nodup := by
  unfold addBreakpoint
  by_cases known : d.breakpoints.contains b = true
  · rw [if_pos known]
    exact distinct
  · rw [if_neg known]
    have new : b ∉ d.breakpoints := by simpa using known
    rw [← List.concat_eq_append]
    exact distinct.concat new

/-- A command leaves distinct breakpoints distinct, unless it replaces one by another one of
them. -/
theorem nodup_obey_iff (distinct : d.breakpoints.Nodup) (command : Command) :
    (d.obey command).breakpoints.Nodup ↔ ¬d.Doubles command := by
  cases command with
  | updateBreakpoint old new => exact nodup_replace_iff distinct
  | enableBreakpoint b enabled => exact nodup_replace_iff distinct
  | addBreakpoint b => exact iff_of_true (nodup_addBreakpoint distinct b) id
  | removeBreakpoint b => exact iff_of_true (distinct.erase b) id
  | step =>
      refine iff_of_true ?_ id
      rw [obey, breakpoints_step]
      exact distinct
  | run maxSteps =>
      refine iff_of_true ?_ id
      rw [obey, run_eq_stepTimes, breakpoints_stepTimes]
      exact distinct
  | stepBack =>
      refine iff_of_true ?_ id
      rw [obey, breakpoints_stepBack]
      exact distinct
  | host call => exact iff_of_true distinct id

/-- Breakpoints stay distinct all along some commands, unless one of them replaces one by
another. -/
theorem nodup_obeyAll_iff (distinct : d.breakpoints.Nodup) (commands : List Command) :
    (∀ first, first <+: commands → (d.obeyAll first).breakpoints.Nodup) ↔
      d.NeverDoubles commands := by
  induction commands generalizing d with
  | nil =>
      refine iff_of_true (fun first start => ?_) trivial
      rw [List.prefix_nil.mp start]
      exact distinct
  | cons command rest ih =>
      constructor
      · intro always
        have next := always [command] (List.prefix_iff_eq_take.mpr rfl)
        refine ⟨(nodup_obey_iff distinct command).mp next, (ih next).mp fun first start => ?_⟩
        exact always (command :: first) (List.cons_prefix_cons.mpr ⟨rfl, start⟩)
      · rintro ⟨single, others⟩ first start
        have next := (nodup_obey_iff distinct command).mpr single
        rcases List.prefix_cons_iff.mp start with rfl | ⟨later, rfl, startLater⟩
        · exact distinct
        · exact (ih next).mpr others later startLater

theorem breakpoints_of_new {machine : Machine} {limit : Int}
    (created : Debugger.new machine limit = .ok d) : d.breakpoints = [] := by
  unfold Debugger.new at created
  split at created
  · cases created
  · split at created <;> cases created
    rfl

/-- Whatever a debugger is told to do, and whatever its host does to the machine meanwhile, it never
has two equal breakpoints exactly as long as none is replaced by, or switched into, one that is
already there besides it.  Removing a breakpoint keeps all others in their order.  One that is equal
to it is left exactly if there were two, and so never as long as no such replacement is made. -/
theorem breakpoints_distinct {machine : Machine} {limit : Int}
    (created : Debugger.new machine limit = .ok d) (commands : List Command) :
    ((∀ first, first <+: commands → (d.obeyAll first).breakpoints.Nodup) ↔
        d.NeverDoubles commands) ∧
      ∀ b,
        let e := d.obeyAll commands
        let after := e.removeBreakpoint b
        after.breakpoints.filter (· != b) = e.breakpoints.filter (· != b) ∧
          (b ∈ after.breakpoints ↔ 2 ≤ e.breakpoints.count b) ∧
          (d.NeverDoubles commands → after.breakpoints = e.breakpoints.filter (· != b)) := by
  have distinct : d.breakpoints.Nodup := by
    rw [breakpoints_of_new created]
    exact List.nodup_nil
  refine ⟨nodup_obeyAll_iff distinct commands, fun b => ?_⟩
  refine ⟨filter_erase_ne _ b, mem_erase_self_iff _ b, fun never => ?_⟩
  have still := (nodup_obeyAll_iff distinct commands).mpr never commands (List.prefix_refl commands)
  exact still.erase_eq_filter b

/-- A breakpoint on an address. -/
def arrival (address : Int) : Breakpoint :=
  ⟨.programCounter, some address, none, none, true⟩

/-- Of two breakpoints one is replaced by the other, which a removal then does not get rid of.  If
it is switched off instead, the other one can be removed. -/
theorem breakpoints_distinct_doubled :
    ∃ d, Debugger.new (.new {}) 100 = .ok d ∧
      let added := [.addBreakpoint (arrival 0x200), .addBreakpoint (arrival 0x202)]
      let doubled := added ++ [.updateBreakpoint (arrival 0x200) (arrival 0x202)]
      let switched := added ++ [.enableBreakpoint (arrival 0x200) false]
      (¬d.NeverDoubles doubled ∧
        arrival 0x202 ∈ ((d.obeyAll doubled).removeBreakpoint (arrival 0x202)).breakpoints) ∧
      (d.NeverDoubles switched ∧
        ((d.obeyAll switched).removeBreakpoint (arrival 0x202)).breakpoints =
          [{ arrival 0x200 with enabled := false }]) := by
  generalize Machine.new {} = m
  let d : Debugger := ⟨m, [], m.state.registerMap, none, [], [], 100⟩
  have created : Debugger.new m 100 = .ok d := rfl
  refine ⟨d, created, ?_⟩
  intro added doubled switched
  obtain ⟨distinct, removed⟩ := breakpoints_distinct created doubled
  obtain ⟨-, -, kept⟩ := (breakpoints_distinct created switched).2 (arrival 0x202)
  refine ⟨⟨fun never => ?_, ?_⟩, ?_⟩
  · have nodup := distinct.mpr never doubled (List.prefix_refl doubled)
    change [arrival 0x202, arrival 0x202].Nodup at nodup
    exact absurd nodup (by decide)
  · exact (removed (arrival 0x202)).2.1.mpr (Nat.le_refl 2)
  · have absent : { arrival 0x200 with enabled := false } ∉ [arrival 0x200, arrival 0x202] := by
      decide
    have never : d.NeverDoubles switched := ⟨id, id, fun clashes => absent clashes.2.1, trivial⟩
    exact ⟨never, kept never⟩

end Debugger

end ChipEight
