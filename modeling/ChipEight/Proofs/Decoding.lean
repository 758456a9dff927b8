import ChipEight.Operation

/-!
# Decoding

Every pair of kinds fixes some digit of a word differently, so a word has the pattern of at
most one kind, and the order in which the patterns are tried does not matter:
`Operation.decode?_eq_some_iff`.
-/

namespace ChipEight

/-! ## Digits -/

/-- The last four digits of an integer, the highest first. -/
def digits (raw : Int) : Nibble × Nibble × Nibble × Nibble :=
  (nibble raw 3, nibble raw 2, nibble raw 1, nibble raw 0)

theorem digits_eq_iff {raw : Int} {a b c e : Nibble} :
    digits raw = (a, b, c, e) ↔
      nibble raw 3 = a ∧ nibble raw 2 = b ∧ nibble raw 1 = c ∧ nibble raw 0 = e := by
  simp only [digits, Prod.mk.injEq]

theorem nibble_val (raw : Int) (power : Nat) :
    ((nibble raw power).val : Int) = raw / (Nat.pow 16 power : Nat) % 16 := by
  rw [nibble, Fin.val_ofNat]
  omega

/-! ## Patterns -/

namespace Pattern

variable {p q : Pattern} {raw : Int}

/-- Whether two digits are asked for that differ. -/
def conflict : Option Nibble → Option Nibble → Bool
  | some a, some b => a != b
  | _, _ => false

/-- Whether two patterns fix some digit differently. -/
def apart (p q : Pattern) : Bool :=
  p.first != q.first || conflict p.second q.second || conflict p.third q.third ||
    conflict p.fourth q.fourth

theorem accepts_iff :
    p.accepts raw = true ↔
      nibble raw 3 = p.first ∧ allows p.second (nibble raw 2) = true ∧
        allows p.third (nibble raw 1) = true ∧ allows p.fourth (nibble raw 0) = true := by
  simp only [accepts, Bool.and_eq_true, beq_iff_eq, and_assoc]

/-- Whether four digits are those that the pattern asks for. -/
def fits (p : Pattern) : Nibble × Nibble × Nibble × Nibble → Bool
  | (a, b, c, e) => a == p.first && allows p.second b && allows p.third c && allows p.fourth e

theorem accepts_eq_fits (p : Pattern) (raw : Int) : p.accepts raw = p.fits (digits raw) :=
  rfl

theorem conflict_eq_false {wanted other : Option Nibble} {digit : Nibble}
    (first : allows wanted digit = true) (second : allows other digit = true) :
    conflict wanted other = false := by
  cases wanted with
  | none => rfl
  | some a =>
      cases other with
      | none => rfl
      | some b =>
          simp only [allows, beq_iff_eq] at first second
          subst first
          subst second
          simp [conflict]

/-- No integer has two patterns that are apart. -/
theorem apart_eq_false (first : p.accepts raw = true) (second : q.accepts raw = true) :
    p.apart q = false := by
  obtain ⟨firstEq, secondAllowed, thirdAllowed, fourthAllowed⟩ := accepts_iff.mp first
  obtain ⟨otherEq, secondOther, thirdOther, fourthOther⟩ := accepts_iff.mp second
  have same : p.first = q.first := firstEq.symm.trans otherEq
  simp [apart, same, conflict_eq_false secondAllowed secondOther,
    conflict_eq_false thirdAllowed thirdOther, conflict_eq_false fourthAllowed fourthOther]

end Pattern

namespace Opcode

theorem apart_of_ne :
    ∀ a ∈ all, ∀ b ∈ all, a ≠ b → a.pattern.apart b.pattern = true := by
  decide

theorem accepts_of_digits {opcode : Opcode} {raw : Int}
    {spelling : Nibble × Nibble × Nibble × Nibble}
    (spelled : digits raw = spelling) (fits : opcode.pattern.fits spelling = true) :
    opcode.pattern.accepts raw = true := by
  rw [Pattern.accepts_eq_fits, spelled, fits]

/-- An integer has the pattern of at most one kind. -/
theorem eq_of_accepts {a b : Opcode} {raw : Int} (first : a.pattern.accepts raw = true)
    (second : b.pattern.accepts raw = true) : a = b := by
  by_cases same : a = b
  · exact same
  · have apart := apart_of_ne a a.mem_all b b.mem_all same
    rw [Pattern.apart_eq_false first second] at apart
    contradiction

end Opcode

namespace Operation

/-- An address is what the last three digits spell. -/
theorem address_eq (op : Operation) :
    op.address =
      0x100 * (nibble op.raw 2).val + 0x10 * (nibble op.raw 1).val + (nibble op.raw 0).val := by
  have second := nibble_val op.raw 2
  have third := nibble_val op.raw 1
  have fourth := nibble_val op.raw 0
  simp only [Nat.pow_eq, Nat.reducePow] at second third fourth
  rw [address]
  omega

/-- Decoding finds the one kind whose pattern a word has, whatever the order of the kinds. -/
theorem decode?_eq_some_iff {raw : Int} {op : Operation} :
    decode? raw = some op ↔ op.raw = raw ∧ op.opcode.pattern.accepts raw = true := by
  rw [decode?, Option.map_eq_some_iff]
  constructor
  · rintro ⟨opcode, found, rfl⟩
    have accepted := List.find?_some found
    exact ⟨rfl, accepted⟩
  · rintro ⟨rfl, accepted⟩
    refine ⟨op.opcode, ?_, rfl⟩
    cases found : Opcode.all.find? fun opcode => opcode.pattern.accepts op.raw with
    | none => exact absurd accepted (List.find?_eq_none.mp found op.opcode op.opcode.mem_all)
    | some other =>
        have alsoAccepted := List.find?_some found
        rw [Opcode.eq_of_accepts alsoAccepted accepted]

theorem decode?_eq_none_iff {raw : Int} :
    decode? raw = none ↔ ∀ opcode : Opcode, opcode.pattern.accepts raw = false := by
  simp [decode?, Opcode.mem_all]

end Operation

end ChipEight
