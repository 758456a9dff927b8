import ChipEight.Text.Hex

/-!
# UTF-8

Bytes are decoded piece by piece.  Decoding reports the first malformed sequence with the
positions of its bytes in the piece, and the reason.  A sequence that the end of a piece
cuts off is left over, to be put in front of the next piece.
-/

namespace ChipEight.Text

/-- Why a byte sequence is not UTF-8. -/
inductive Malformed where
  | start
  | continuation
  | truncated
  deriving DecidableEq, Repr

namespace Malformed

/-- The reason in words. -/
def message : Malformed → String
  | start => "invalid start byte"
  | continuation => "invalid continuation byte"
  | truncated => "unexpected end of data"

end Malformed

/-- A malformed sequence: its first and last position, its first byte, and what is
wrong with it. -/
structure DecodeFault where
  first : Nat
  last : Nat
  byte : UInt8
  reason : Malformed
  deriving DecidableEq, Repr

namespace DecodeFault

/-- The message of a decoding fault. -/
def message (fault : DecodeFault) : String :=
  let place :=
    if fault.first = fault.last then
      "byte 0x" ++ Hex.lower [fault.byte] ++ " in position " ++ toString fault.first
    else
      "bytes in position " ++ toString fault.first ++ "-" ++ toString fault.last
  "'utf-8' codec can't decode " ++ place ++ ": " ++ fault.reason.message

end DecodeFault

/-- A sequence under way: where and with which byte it began, how many bytes are
still missing, the code so far, and the range of the next byte. -/
structure Pending where
  start : Nat
  lead : UInt8
  missing : Nat
  code : Nat
  low : UInt8
  high : UInt8

/-- The sequence that a byte from `0x80` on begins. -/
def Pending.ofLead? (start : Nat) (lead : UInt8) : Option Pending :=
  if lead < 0xC2 then none
  else if lead < 0xE0 then some ⟨start, lead, 1, lead.toNat - 0xC0, 0x80, 0xBF⟩
  else if lead < 0xF0 then
    some ⟨start, lead, 2, lead.toNat - 0xE0, if lead = 0xE0 then 0xA0 else 0x80,
      if lead = 0xED then 0x9F else 0xBF⟩
  else if lead < 0xF5 then
    some ⟨start, lead, 3, lead.toNat - 0xF0, if lead = 0xF0 then 0x90 else 0x80,
      if lead = 0xF4 then 0x8F else 0xBF⟩
  else none

/-- The fault of a sequence, with its last position. -/
def Pending.fault (p : Pending) (last : Nat) (reason : Malformed) : DecodeFault :=
  ⟨p.start, last, p.lead, reason⟩

/-- Decodes the bytes from a position on, in the middle of a sequence or between two, and
gives the sequence that the end of the bytes cuts off. -/
def decodeFrom (position : Nat) :
    Option Pending → List UInt8 → Except DecodeFault (List Char × Option Pending)
  | pending, [] => .ok ([], pending)
  | none, byte :: rest =>
      if byte < 0x80 then
        match decodeFrom (position + 1) none rest with
        | .ok (text, pending) => .ok (Char.ofNat byte.toNat :: text, pending)
        | .error fault => .error fault
      else
        match Pending.ofLead? position byte with
        | some p => decodeFrom (position + 1) (some p) rest
        | none => .error ⟨position, position, byte, .start⟩
  | some p, byte :: rest =>
      if p.low ≤ byte ∧ byte ≤ p.high then
        let code := 64 * p.code + (byte.toNat - 0x80)
        if p.missing ≤ 1 then
          match decodeFrom (position + 1) none rest with
          | .ok (text, pending) => .ok (Char.ofNat code :: text, pending)
          | .error fault => .error fault
        else
          decodeFrom (position + 1)
            (some { p with missing := p.missing - 1, code := code, low := 0x80, high := 0xBF })
            rest
      else .error (p.fault (position - 1) .continuation)

/-- The text of a piece, and the bytes that are left over.  After the last piece nothing
may be left over. -/
def decodePiece (last : Bool) (bytes : List UInt8) :
    Except DecodeFault (List Char × List UInt8) :=
  match decodeFrom 0 none bytes with
  | .error fault => .error fault
  | .ok (text, none) => .ok (text, [])
  | .ok (text, some p) =>
      if last then .error (p.fault (bytes.length - 1) .truncated)
      else .ok (text, bytes.drop p.start)

/-- The text of a byte string. -/
def ofUtf8 (bytes : List UInt8) : Except DecodeFault (List Char) :=
  (decodePiece true bytes).map (·.1)

/-- The bytes of a text in UTF-8. -/
def toUtf8 (text : String) : List UInt8 :=
  text.toUTF8.toList

end ChipEight.Text
