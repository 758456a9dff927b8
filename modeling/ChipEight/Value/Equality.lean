import ChipEight.Decimal.Binary
import ChipEight.Value.Basic

/-!
# Equality of values

Values are compared by what they stand for: truth values count as the numbers zero
and one, an integer equals a float of the same value, what is no number equals itself,
moments with offsets are compared in universal time, and two sets or maps are equal when
they hold equal items or entries in whatever order.
-/

namespace ChipEight.Value

/-- The integer that a truth value or an integer stands for. -/
def number? : Value → Option Int
  | bool b => some (if b then 1 else 0)
  | int n => some n
  | _ => none

mutual

/-- Whether two values are equal. -/
def equal : Value → Value → Bool
  | null, null => true
  | float x, float y => x == y || (x.isNaN && y.isNaN)
  | float x, other =>
      match other.number? with
      | some n => (Decimal.Binary.ofFloat x).toInt? == some n
      | none => false
  | text s, text t => s == t
  | bytes a, bytes b | bytes a, buffer b | buffer a, bytes b | buffer a, buffer b => a == b
  | moment a, moment b => a.same b
  | list a, list b => equalItems a b
  | tuple a, tuple b => equalItems a b
  | set a, set b => a.length == b.length && itemsAmong a b
  | map a, map b => a.length == b.length && entriesAmong a b
  | knot _ content, other => equal (content ()) other
  | value, float y =>
      match value.number? with
      | some n => (Decimal.Binary.ofFloat y).toInt? == some n
      | none => false
  | value, other =>
      match value.number?, other.number? with
      | some m, some n => m == n
      | _, _ => false

/-- Whether two sequences hold equal values in the same order. -/
def equalItems : List Value → List Value → Bool
  | [], [] => true
  | a :: as, b :: bs => equal a b && equalItems as bs
  | _, _ => false

/-- Whether every item of the first list has an equal one in the second. -/
def itemsAmong : List Value → List Value → Bool
  | [], _ => true
  | item :: items, others => others.any (equal item) && itemsAmong items others

/-- Whether every entry of the first list has an equal one in the second. -/
def entriesAmong : List (Value × Value) → List (Value × Value) → Bool
  | [], _ => true
  | (key, value) :: entries, others =>
      (others.any fun other => equal key other.1 && equal value other.2) &&
        entriesAmong entries others

end

/-- Enters a value under a key.  A key that is present keeps its place and its form,
and its value is replaced. -/
def insert (key value : Value) : List (Value × Value) → List (Value × Value)
  | [] => [(key, value)]
  | (known, old) :: entries =>
      if known.equal key then (known, value) :: entries
      else (known, old) :: insert key value entries

end ChipEight.Value
