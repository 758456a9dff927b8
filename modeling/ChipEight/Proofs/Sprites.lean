import Mathlib.Algebra.BigOperators.Fin
import Mathlib.Data.Fintype.BigOperators
import ChipEight.Proofs.DialectReach

/-!
# What a sprite does to the screen

Drawing walks over the rows and bits of a sprite and flips one pixel after the other.  What comes
of it does not depend on the way: every set bit has a pixel on which it lands (`Screen.target`), a
pixel is flipped if the number of set bits that land on it (`Screen.hits`) is odd, and as long as a
sprite is not higher than the screen, no two of its bits land on the same pixel, so that a lit
pixel goes out if and only if a bit lands on it.
-/

namespace ChipEight

namespace Screen

variable {s : Screen}

/-! ## Pixels -/

/-- The place of a pixel, row by row from the top. -/
def place (column : Fin 64) (row : Fin 32) : Fin 2048 :=
  ⟨64 * row.val + column.val, by omega⟩

/-- Whether a pixel is lit. -/
def isLit (s : Screen) (column : Fin 64) (row : Fin 32) : Bool :=
  s.pixels.get (place column row)

theorem exists_place (p : Fin 2048) : ∃ column row, place column row = p := by
  refine ⟨⟨p.val % 64, by omega⟩, ⟨p.val / 64, by omega⟩, ?_⟩
  apply Fin.ext
  change 64 * (p.val / 64) + p.val % 64 = p.val
  omega

theorem ext_pixels {t : Screen} (same : ∀ p : Fin 2048, s.pixels.get p = t.pixels.get p) :
    s = t := by
  obtain ⟨pixels⟩ := s
  obtain ⟨others⟩ := t
  congr 1
  apply Vector.ext
  intro index inside
  exact same ⟨index, inside⟩

/-! ## Flipping pixels -/

theorem pixels_flip (p q : Fin 2048) :
    (s.flip p).pixels.get q = (s.pixels.get q ^^ decide (p = q)) := by
  change (s.pixels.set p.val (!s.pixels[p.val]))[q.val] = (s.pixels[q.val] ^^ decide (p = q))
  rw [Vector.getElem_set]
  by_cases same : p = q
  · subst same
    simp
  · have apart : p.val ≠ q.val := fun equal => same (Fin.ext equal)
    rw [if_neg apart, decide_eq_false same, Bool.xor_false]

/-- A pixel is flipped as often as it is listed, which shows if that is odd. -/
theorem pixels_flipAll (places : List (Fin 2048)) (q : Fin 2048) :
    (s.flipAll places).2.pixels.get q = (s.pixels.get q ^^ decide (places.count q % 2 = 1)) := by
  induction places generalizing s with
  | nil => simp [flipAll]
  | cons p rest ih =>
      rw [flipAll]
      simp only [ih, pixels_flip, List.count_cons, beq_iff_eq]
      by_cases same : p = q
      · rw [if_pos same, decide_eq_true same]
        rcases Nat.mod_two_eq_zero_or_one (rest.count q) with even | odd
        · have next : (rest.count q + 1) % 2 = 1 := by omega
          simp [even, next]
        · have next : (rest.count q + 1) % 2 = 0 := by omega
          simp [odd, next]
      · rw [if_neg same, decide_eq_false same, Bool.xor_false, Nat.add_zero]

/-- If no pixel is listed twice, those that were lit at first are those found lit on the way. -/
theorem collision_flipAll {places : List (Fin 2048)} (distinct : places.Nodup) :
    (s.flipAll places).1 = true ↔ ∃ p ∈ places, s.pixels.get p = true := by
  induction places generalizing s with
  | nil => simp [flipAll]
  | cons p rest ih =>
      obtain ⟨fresh, distinctRest⟩ := List.nodup_cons.mp distinct
      have untouched : ∀ q ∈ rest, (s.flip p).pixels.get q = s.pixels.get q := by
        intro q member
        have apart : p ≠ q := fun same => fresh (same ▸ member)
        rw [pixels_flip, decide_eq_false apart, Bool.xor_false]
      have later : (∃ q ∈ rest, (s.flip p).pixels.get q = true) ↔ ∃ q ∈ rest, s.pixels.get q = true := by
        constructor
        · rintro ⟨q, member, lit⟩
          exact ⟨q, member, untouched q member ▸ lit⟩
        · rintro ⟨q, member, lit⟩
          exact ⟨q, member, (untouched q member).trans lit⟩
      rw [flipAll, Bool.or_eq_true, ih distinctRest, later, List.exists_mem_cons_iff]
      rfl

/-! ## Where the bits of a sprite land -/

/-- Whether a bit of a row is set, the leftmost one counted first. -/
def isSet (data : UInt8) (bit : Fin 8) : Bool :=
  data.toNat.testBit (7 - bit.val)

/-- The column and row of the pixel on which a bit lands.  Where sprites are clipped, this may lie
beyond the edge of the screen. -/
def target (x y : Int) (clip : Bool) (row : Nat) (bit : Fin 8) : Int × Int :=
  if clip then (x % 64 + bit.val, y % 32 + row) else ((x + bit.val) % 64, (y + row) % 32)

/-- How many set bits of a sprite land on a pixel. -/
def hits (x y : Int) (sprite : List UInt8) (clip : Bool) (column : Fin 64) (row : Fin 32) : Nat :=
  (Finset.univ.filter fun cell : Fin sprite.length × Fin 8 =>
    isSet sprite[cell.1] cell.2 = true ∧
      target x y clip cell.1 cell.2 = ((column.val : Int), (row.val : Int))).card

variable {x y : Int} {clip : Bool} {column : Fin 64} {row : Fin 32}

theorem countP_finRange {n : Nat} (p : Fin n → Bool) :
    (List.finRange n).countP p = ∑ k, if p k = true then 1 else 0 := by
  rw [Fin.sum_univ_def, List.sum_map_ite]
  simp [List.countP_eq_length_filter]

/-- The positions that a row hits, bit by bit, where sprites wrap around. -/
theorem rowPositions_wrapped (start : 0 ≤ x) (data : UInt8) :
    rowPositions x y data false = (List.finRange 8).filterMap fun bit =>
      if isSet data bit = true then some (64 * (y % 32) + (x + bit.val) % 64) else none := by
  rw [rowPositions, if_neg (by simp), columns, ← List.map_coe_finRange_eq_range,
    List.filterMap_map, List.map_filterMap]
  apply List.filterMap_congr
  intro bit _
  have unfolded : data.toNat.testBit (7 - bit.val) = isSet data bit := rfl
  simp only [Function.comp_apply, unfolded, Bool.false_eq_true, if_false]
  cases isSet data bit with
  | false => rfl
  | true =>
      by_cases inside : x + bit.val < 64
      · simp only [if_pos inside, if_true, Option.map_some, Int.emod_eq_of_lt (by omega) inside]
      · simp only [if_neg inside, if_true, Option.map_some]

/-- The positions that a row hits, bit by bit, where sprites are clipped. -/
theorem rowPositions_clipped (data : UInt8) :
    rowPositions x y data true = (List.finRange 8).filterMap fun bit =>
      if isSet data bit = true ∧ x + bit.val < 64 ∧ y < 32 then
        some (64 * (y % 32) + (x + bit.val))
      else none := by
  by_cases below : 32 ≤ y
  · rw [rowPositions, if_pos ⟨rfl, below⟩]
    symm
    rw [List.filterMap_eq_nil_iff]
    intro bit _
    rw [if_neg]
    rintro ⟨-, -, above⟩
    exact absurd below (Int.not_le.mpr above)
  · rw [rowPositions, if_neg (fun outside => below outside.2), columns,
      ← List.map_coe_finRange_eq_range, List.filterMap_map, List.map_filterMap]
    apply List.filterMap_congr
    intro bit _
    have unfolded : data.toNat.testBit (7 - bit.val) = isSet data bit := rfl
    simp only [Function.comp_apply, unfolded, Int.not_le.mp below, and_true, if_true]
    cases isSet data bit with
    | false => rfl
    | true =>
        by_cases inside : x + bit.val < 64
        · simp only [if_pos inside, if_true, true_and, Option.map_some]
        · simp only [if_neg inside, if_true, true_and, Option.map_none]

theorem slot?_of_nonneg {position : Int} (nonneg : 0 ≤ position) :
    slot? 2048 position = some (place column row) ↔ position = 64 * row.val + column.val := by
  rw [slot?, if_neg (Int.not_lt.mpr nonneg), place?]
  by_cases inside : 0 ≤ position ∧ position < (2048 : Nat)
  · rw [dif_pos inside, Option.some.injEq, Fin.ext_iff]
    change position.toNat = 64 * row.val + column.val ↔ _
    omega
  · rw [dif_neg inside]
    simp only [reduceCtorEq, false_iff]
    omega

/-- How often one row of a sprite hits a pixel. -/
theorem count_row (data : UInt8) (k : Nat) :
    ((rowPositions (x % 64) (y % 32 + k) data clip).filterMap (slot? 2048)).count
        (place column row) =
      ∑ bit : Fin 8, if isSet data bit = true ∧
        target x y clip k bit = ((column.val : Int), (row.val : Int)) then 1 else 0 := by
  cases clip with
  | false =>
      rw [rowPositions_wrapped (by omega), List.filterMap_filterMap, List.count_filterMap,
        countP_finRange]
      refine Finset.sum_congr rfl fun bit _ => if_congr ?_ rfl rfl
      rw [beq_iff_eq, target, if_neg Bool.false_ne_true, Prod.mk.injEq]
      cases isSet data bit with
      | false => simp
      | true =>
          rw [if_pos rfl, Option.bind_some, slot?_of_nonneg (by omega)]
          simp only [true_and]
          omega
  | true =>
      rw [rowPositions_clipped, List.filterMap_filterMap, List.count_filterMap, countP_finRange]
      refine Finset.sum_congr rfl fun bit _ => if_congr ?_ rfl rfl
      rw [beq_iff_eq, target, if_pos rfl, Prod.mk.injEq]
      by_cases drawn : isSet data bit = true ∧ x % 64 + bit.val < 64 ∧ y % 32 + k < 32
      · rw [if_pos drawn, Option.bind_some, slot?_of_nonneg (by omega)]
        simp only [drawn.1, true_and]
        omega
      · rw [if_neg drawn]
        simp only [Option.bind_none, reduceCtorEq, false_iff]
        rintro ⟨set, sameColumn, sameRow⟩
        exact drawn ⟨set, by omega, by omega⟩

theorem zipIdx_eq_finRange {α : Type} (l : List α) :
    l.zipIdx = (List.finRange l.length).map fun k => (l[k], k.val) := by
  apply List.ext_getElem
  · simp
  · intro index _ _
    simp

/-- The list of positions has a pixel as often as set bits of the sprite land on it. -/
theorem count_spritePositions (x y : Int) (sprite : List UInt8) (clip : Bool) (column : Fin 64)
    (row : Fin 32) :
    (spritePositions x y sprite clip).count (place column row) =
      hits x y sprite clip column row := by
  rw [spritePositions, List.count_flatMap, zipIdx_eq_finRange, List.map_map, ← Fin.sum_univ_def,
    hits, Finset.card_filter, Fintype.sum_prod_type]
  exact Finset.sum_congr rfl fun k _ => count_row sprite[k] k.val

/-- Two bits of a sprite that is not higher than the screen land on different pixels. -/
theorem target_injective {first second : Nat} {bit other : Fin 8} (firstInside : first < 32)
    (secondInside : second < 32) (same : target x y clip first bit = target x y clip second other) :
    first = second ∧ bit = other := by
  rw [Fin.ext_iff]
  cases clip with
  | true =>
      simp only [target, if_true, Prod.mk.injEq] at same
      omega
  | false =>
      simp only [target, Bool.false_eq_true, if_false, Prod.mk.injEq] at same
      omega

theorem hits_le_one {sprite : List UInt8} (short : sprite.length ≤ 32) :
    hits x y sprite clip column row ≤ 1 := by
  rw [hits, Finset.card_le_one]
  rintro ⟨k, bit⟩ first ⟨l, other⟩ second
  simp only [Finset.mem_filter, Finset.mem_univ, true_and] at first second
  obtain ⟨sameRow, sameBit⟩ :=
    target_injective (by omega) (by omega) (first.2.trans second.2.symm)
  rw [Prod.mk.injEq]
  exact ⟨Fin.ext sameRow, sameBit⟩

theorem nodup_spritePositions {sprite : List UInt8} (short : sprite.length ≤ 32) :
    (spritePositions x y sprite clip).Nodup := by
  rw [List.nodup_iff_count_le_one]
  intro p
  obtain ⟨column, row, rfl⟩ := exists_place p
  rw [count_spritePositions]
  exact hits_le_one short

/-! ## Drawing -/

section Drawing

variable (s : Screen) (x y : Int) (sprite : List UInt8) (clip : Bool)

theorem isLit_draw (column : Fin 64) (row : Fin 32) :
    (s.draw x y sprite clip).2.isLit column row =
      (s.isLit column row ^^ decide (hits x y sprite clip column row % 2 = 1)) := by
  rw [draw, isLit, pixels_flipAll, count_spritePositions]
  rfl

theorem collision_draw (short : sprite.length ≤ 32) :
    (s.draw x y sprite clip).1 = true ↔
      ∃ column row, 0 < hits x y sprite clip column row ∧ s.isLit column row = true := by
  rw [draw, collision_flipAll (nodup_spritePositions short)]
  constructor
  · rintro ⟨p, member, lit⟩
    obtain ⟨column, row, rfl⟩ := exists_place p
    refine ⟨column, row, ?_, lit⟩
    rw [← count_spritePositions]
    exact List.count_pos_iff.mpr member
  · rintro ⟨column, row, hit, lit⟩
    rw [← count_spritePositions] at hit
    exact ⟨place column row, List.count_pos_iff.mp hit, lit⟩

theorem draw_comm (x' y' : Int) (sprite' : List UInt8) (clip' : Bool) :
    ((s.draw x y sprite clip).2.draw x' y' sprite' clip').2 =
      ((s.draw x' y' sprite' clip').2.draw x y sprite clip).2 := by
  apply ext_pixels
  intro p
  simp only [draw, pixels_flipAll]
  exact Bool.xor_right_comm _ _ _

theorem draw_draw : ((s.draw x y sprite clip).2.draw x y sprite clip).2 = s := by
  apply ext_pixels
  intro p
  simp only [draw, pixels_flipAll, Bool.xor_assoc, Bool.xor_self, Bool.xor_false]

end Drawing

end Screen

/-! ## The instruction that draws -/

namespace Memory

theorem getElem?_window (m : Memory) {address count k : Nat} (inside : k < count)
    (room : address + count ≤ 4096) :
    (m.window address count)[k]? = m.bytes[address + k]? := by
  induction count generalizing address k with
  | zero => exact absurd inside (Nat.not_lt_zero k)
  | succ count ih =>
      cases k with
      | zero =>
          have first : address < 4096 := by omega
          have same : place address = ⟨address, first⟩ := Fin.ext (place_val first)
          rw [window, List.getElem?_cons_zero, same]
          exact (Vector.getElem?_eq_getElem first).symm
      | succ k =>
          rw [window, List.getElem?_cons_succ, ih (by omega) (by omega)]
          congr 1
          omega

theorem window_withLog (m : Memory) (log : List Access) (address count : Nat) :
    { m with log := log }.window address count = m.window address count := by
  induction count generalizing address with
  | zero => rfl
  | succ count ih =>
      rw [window, window, ih]
      rfl

theorem bytes_noteReads (m : Memory) (address count : Nat) :
    (m.noteReads address count).bytes = m.bytes := by
  induction count generalizing m address with
  | zero => rfl
  | succ count ih =>
      rw [noteReads_succ, ih]
      rfl

end Memory

namespace State

variable {d : Dialect} {op : Operation} {s : State}

/-- The state after a sprite has been drawn. -/
theorem stepped_of_draw (kind : op.opcode = .draw) :
    let sprite := s.memory.window s.registers.i.toNat op.n.val
    let (collision, screen) :=
      s.screen.draw (s.v op.x).toNat (s.v op.y).toNat sprite d.clipSprites
    s.stepped d op =
      { s.withLog [] with
        registers :=
          { s.registers.setV Registers.flag (if collision then 1 else 0) with
            pc := s.registers.pc + 2 }
        screen := screen
        cycles := s.cycles + 1 } := by
  have read : s.fetched.memory.window s.fetched.registers.i.toNat op.n.val =
      s.memory.window s.registers.i.toNat op.n.val := s.memory.window_withLog _ _ _
  have memory : { s.fetched.memory.noteReads s.registers.i.toNat op.n.val with log := [] } =
      (s.withLog []).memory := by
    simp only [Memory.bytes_noteReads]
    rfl
  simp only [stepped, Operation.effect, Operation.flow, kind, Operation.drawn, read]
  rw [State.mk.injEq]
  exact ⟨memory, rfl, rfl, rfl, rfl, rfl, rfl⟩

end State

namespace Machine

variable {m : Machine} {op : Operation}

/-- An instruction that draws meets no fault if its sprite lies in memory. -/
theorem ready_draw (here : 0 ≤ m.state.registers.pc ∧ m.state.registers.pc ≤ 0xFFE)
    (spelled : Operation.decode? m.state.word = some op) (kind : op.opcode = .draw)
    (room : op.n.val = 0 ∨ m.state.registers.i.toNat + op.n.val ≤ 4096) :
    m.state.ready m.config.dialect = .ok op := by
  refine State.ready_eq_ok_iff.mpr ⟨State.fetchFault?_eq_none.mpr here, spelled, ?_⟩
  simp only [Operation.fault?, kind]
  by_cases empty : op.n.val = 0
  · rw [if_pos empty]
  · rw [if_neg empty, Memory.blockFault?_eq_none]
    omega

/-- What drawing comes to.  A sprite flips exactly the pixels on which an odd number of its set bits
land.  One that is not higher than the screen puts out a lit pixel if and only if a set bit lands on
a pixel that was lit.  Two sprites can be drawn in either order, and one that is drawn twice leaves
no trace.  An instruction that draws does so with the bytes from the index register on, at the
place that its two registers gave before, and sets the flag register, which may be one of the two,
to whether a lit pixel went out; the other byte registers and the bytes in memory stay the same. -/
theorem draw_flips_hits :
    (∀ (s : Screen) (x y : Int) (sprite : List UInt8) (clip : Bool),
      (∀ column row, (s.draw x y sprite clip).2.isLit column row =
        (s.isLit column row ^^ decide (Screen.hits x y sprite clip column row % 2 = 1))) ∧
      (sprite.length ≤ 32 → ((s.draw x y sprite clip).1 = true ↔ ∃ column row,
        0 < Screen.hits x y sprite clip column row ∧ s.isLit column row = true)) ∧
      (∀ (x' y' : Int) (sprite' : List UInt8) (clip' : Bool),
        ((s.draw x y sprite clip).2.draw x' y' sprite' clip').2 =
          ((s.draw x' y' sprite' clip').2.draw x y sprite clip).2) ∧
      ((s.draw x y sprite clip).2.draw x y sprite clip).2 = s) ∧
    ∀ (m : Machine) (op : Operation),
      0 ≤ m.state.registers.pc ∧ m.state.registers.pc ≤ 0xFFE →
      Operation.decode? m.state.word = some op → op.opcode = .draw →
      op.n.val = 0 ∨ m.state.registers.i.toNat + op.n.val ≤ 4096 →
      ∃ (sprite : List UInt8) (report : StepReport) (after : Machine),
        sprite.length = op.n.val ∧
        (∀ k < op.n.val,
          sprite[k]? = m.state.memory.bytes[m.state.registers.i.toNat + k]?) ∧
        m.call .step = (.ok (some report), after) ∧
        let (collision, screen) := m.state.screen.draw (m.state.v op.x).toNat
          (m.state.v op.y).toNat sprite m.config.dialect.clipSprites
        after.state.screen = screen ∧
          (∀ register, after.state.v register =
            if register = Registers.flag then (if collision then 1 else 0)
            else m.state.v register) ∧
          after.state.memory.bytes = m.state.memory.bytes := by
  refine ⟨fun s x y sprite clip => ⟨?_, ?_, ?_, ?_⟩, ?_⟩
  · exact s.isLit_draw x y sprite clip
  · exact s.collision_draw x y sprite clip
  · exact s.draw_comm x y sprite clip
  · exact s.draw_draw x y sprite clip
  · intro m op here spelled kind room
    have done := call_step_of_ready (ready_draw here spelled kind room)
    rw [State.stepped_of_draw kind] at done
    refine ⟨_, _, _, m.state.memory.length_window _ _, fun k inside => ?_, done, rfl, ?_, rfl⟩
    · exact m.state.memory.getElem?_window inside (by omega)
    · intro register
      exact m.state.v_setV Registers.flag register _

/-- A sprite of two rows in the upper right corner of a screen on which every pixel is lit.  Its
column is in the flag register. -/
theorem draw_flips_hits_corner :
    ∃ (m : Machine) (report : StepReport) (after : Machine),
      m.state.instruction? = some ⟨.draw, 0xDF02⟩ ∧ m.state.v Registers.flag = 62 ∧
        m.call .step = (.ok (some report), after) ∧ after.state.v Registers.flag = 1 ∧
        after.state.screen.isLit 1 0 = false ∧ after.state.screen.isLit 0 0 = true := by
  -- The sprite is the instruction itself.
  let m := (new {}).withState
    { ((State.initial (some 0)).setV Registers.flag 62).setI 512 with
      memory := .ofWord 0xDF 0x02 []
      screen := ⟨Vector.replicate 2048 true⟩ }
  have high : m.state.memory.bytes[512] = 0xDF := Memory.high_ofWord _ _ _
  have low : m.state.memory.bytes[513] = 0x02 := Memory.low_ofWord _ _ _
  have word : 256 * m.state.memory.bytes[512].toNat + m.state.memory.bytes[513].toNat = 0xDF02 := by
    rw [high, low]
    rfl
  have isReady : m.state.ready m.config.dialect = .ok ⟨.draw, 0xDF02⟩ :=
    State.ready_of_bytes rfl (by decide) word rfl rfl
  have lit : ∀ column row, m.state.screen.isLit column row = true := by
    intro column row
    exact Vector.getElem_replicate _
  obtain ⟨here, spelled, -⟩ := State.ready_eq_ok_iff.mp isReady
  obtain ⟨draws, instruction⟩ := draw_flips_hits
  obtain ⟨sprite, report, after, length, bytes, done, screen, registers, -⟩ :=
    instruction m _ (State.fetchFault?_eq_none.mp here) spelled rfl (.inr (by decide))
  obtain ⟨first, second, rfl⟩ := List.length_eq_two.mp length
  have firstByte : first = 0xDF := by
    have found : some first = m.state.memory.bytes[512]? := bytes 0 (by decide)
    rw [Vector.getElem?_eq_getElem (by decide), high] at found
    exact Option.some.inj found
  have secondByte : second = 0x02 := by
    have found : some second = m.state.memory.bytes[513]? := bytes 1 (by decide)
    rw [Vector.getElem?_eq_getElem (by decide), low] at found
    exact Option.some.inj found
  subst firstByte secondByte
  obtain ⟨flips, collides, -⟩ := draws m.state.screen 62 0 [0xDF, 0x02] false
  refine ⟨m, report, after, State.instruction?_of_ready isReady, rfl, done, ?_, ?_, ?_⟩
  · rw [registers, if_pos rfl]
    have collision := (collides (by decide)).mpr ⟨1, 0, by decide, lit 1 0⟩
    exact if_pos collision
  · rw [screen]
    refine (flips 1 0).trans ?_
    rw [lit]
    decide
  · rw [screen]
    refine (flips 0 0).trans ?_
    rw [lit]
    decide

end Machine

end ChipEight
