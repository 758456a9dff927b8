import ChipEight.Command
import ChipEight.Proofs.Run

/-!
# The ledger of a debugger

To say what taking a step back has to do, one needs to know all steps that there have been,
and not only those that the debugger still keeps.  A ledger lists them, newest first, and
nothing is ever removed from it: a step is marked when it is taken back, or when it falls
out of the limit.  A journal is a debugger along with the ledger of its steps, where a run
is entered step by step.
-/

namespace ChipEight

/-- What has become of a step. -/
inductive Mark where
  | live
  | undone
  | dropped
  deriving DecidableEq, Repr

/-- A step of a debugger that came to its end: the snapshot of the machine from just before
it, and what has become of it. -/
structure Entry where
  before : Snapshot
  mark : Mark

/-- The steps of a debugger, newest first. -/
abbrev Ledger : Type := List Entry

namespace Ledger

/-- Marks the live steps beyond the newest `room` ones as dropped. -/
def drop : Nat → Ledger → Ledger
  | _, [] => []
  | room, ⟨before, .live⟩ :: older =>
      match room with
      | 0 => ⟨before, .dropped⟩ :: drop 0 older
      | room + 1 => ⟨before, .live⟩ :: drop room older
  | room, entry :: older => entry :: drop room older

/-- Enters a step, of which the newest `limit` stay live. -/
def enter (limit : Nat) (before : Snapshot) (ledger : Ledger) : Ledger :=
  drop limit (⟨before, .live⟩ :: ledger)

/-- Marks the latest live step as undone. -/
def undo : Ledger → Ledger
  | [] => []
  | ⟨before, .live⟩ :: older => ⟨before, .undone⟩ :: older
  | entry :: older => entry :: undo older

/-- The snapshot from just before the latest step that is neither undone nor dropped. -/
def latest? : Ledger → Option Snapshot
  | [] => none
  | ⟨before, .live⟩ :: _ => some before
  | _ :: older => latest? older

/-- The snapshots from before the live steps, newest first. -/
def live : Ledger → List Snapshot
  | [] => []
  | ⟨before, .live⟩ :: older => before :: live older
  | _ :: older => live older

theorem latest?_eq_head? (ledger : Ledger) : ledger.latest? = ledger.live.head? := by
  induction ledger with
  | nil => rfl
  | cons entry older ih =>
      rcases entry with ⟨before, mark⟩
      cases mark with
      | live => rfl
      | undone | dropped => exact ih

@[simp]
theorem live_drop (room : Nat) (ledger : Ledger) :
    (ledger.drop room).live = ledger.live.take room := by
  induction ledger generalizing room with
  | nil => simp [drop, live]
  | cons entry older ih =>
      rcases entry with ⟨before, mark⟩
      cases mark with
      | live =>
          cases room with
          | zero => simpa [drop, live] using ih 0
          | succ room => simpa [drop, live] using ih room
      | undone | dropped => exact ih room

theorem live_enter (limit : Nat) (before : Snapshot) (ledger : Ledger) :
    (ledger.enter limit before).live = (before :: ledger.live).take limit :=
  live_drop limit _

theorem live_undo (ledger : Ledger) : ledger.undo.live = ledger.live.tail := by
  induction ledger with
  | nil => rfl
  | cons entry older ih =>
      rcases entry with ⟨before, mark⟩
      cases mark with
      | live => rfl
      | undone | dropped => exact ih

theorem map_before_drop (room : Nat) (ledger : Ledger) :
    (ledger.drop room).map Entry.before = ledger.map Entry.before := by
  induction ledger generalizing room with
  | nil => simp [drop]
  | cons entry older ih =>
      rcases entry with ⟨before, mark⟩
      cases mark with
      | live => cases room <;> simp [drop, ih]
      | undone | dropped => simp [drop, ih]

theorem map_before_enter (limit : Nat) (before : Snapshot) (ledger : Ledger) :
    (ledger.enter limit before).map Entry.before = before :: ledger.map Entry.before :=
  map_before_drop limit _

end Ledger

/-- A debugger along with the ledger of its steps. -/
structure Journal where
  debugger : Debugger
  ledger : Ledger

namespace Journal

/-- The journal of a debugger that begins now. -/
def start (d : Debugger) : Journal :=
  ⟨d, []⟩

/-- A step, which is entered if it comes to its end. -/
def step (j : Journal) : Journal :=
  match j.debugger.step with
  | (.ok _, d) => ⟨d, j.ledger.enter d.limit j.debugger.machine.capture⟩
  | (.error _, d) => ⟨d, j.ledger⟩

/-- So many steps. -/
def stepTimes : Nat → Journal → Journal
  | 0, j => j
  | count + 1, j => stepTimes count j.step

/-- The journal after a command. -/
def obey (j : Journal) : Command → Journal
  | .step => j.step
  | .run maxSteps => stepTimes (j.debugger.stepsTaken true maxSteps.toNat) j
  | .stepBack => ⟨j.debugger.stepBack.2, j.ledger.undo⟩
  | command => ⟨j.debugger.obey command, j.ledger⟩

/-- The journal after commands. -/
def obeyAll (j : Journal) : List Command → Journal
  | [] => j
  | command :: rest => (j.obey command).obeyAll rest

@[simp]
theorem debugger_step (j : Journal) : j.step.debugger = j.debugger.step.2 := by
  unfold step
  cases j.debugger.step with
  | mk result d => cases result <;> rfl

theorem debugger_stepTimes (count : Nat) (j : Journal) :
    (j.stepTimes count).debugger = j.debugger.stepTimes count := by
  induction count generalizing j with
  | zero => rfl
  | succ count ih => rw [stepTimes, ih, debugger_step, Debugger.stepTimes]

/-- Keeping a journal does not change what a debugger does. -/
theorem debugger_obey (j : Journal) (command : Command) :
    (j.obey command).debugger = j.debugger.obey command := by
  cases command with
  | step => exact debugger_step j
  | run maxSteps =>
      rw [obey, debugger_stepTimes, Debugger.obey, Debugger.run_eq_stepTimes]
  | _ => rfl

theorem debugger_obeyAll (j : Journal) (commands : List Command) :
    (j.obeyAll commands).debugger = j.debugger.obeyAll commands := by
  induction commands generalizing j with
  | nil => rfl
  | cons command rest ih => rw [obeyAll, ih, debugger_obey, Debugger.obeyAll]

end Journal

end ChipEight
