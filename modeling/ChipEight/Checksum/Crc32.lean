/-!
# CRC-32

The cyclic redundancy check with the reflected polynomial `0xEDB88320`: the register
starts with all bits set, takes the bytes lowest bit first, and is inverted at the
end.  A check can be continued with further bytes.
-/

namespace ChipEight.Crc32

/-- The polynomial, lowest bit first. -/
def polynomial : UInt32 := 0xEDB88320

/-- Shifts one bit out of the register and reduces by the polynomial. -/
def shift (register : UInt32) : UInt32 :=
  if register &&& 1 = 1 then (register >>> 1) ^^^ polynomial else register >>> 1

/-- Eight shifts. -/
def shiftByte (register : UInt32) : UInt32 :=
  shift (shift (shift (shift (shift (shift (shift (shift register)))))))

/-- Takes one byte into the register. -/
def absorb (register : UInt32) (byte : UInt8) : UInt32 :=
  shiftByte (register ^^^ byte.toUInt32)

/-- The check of some bytes after those that gave `check`. -/
def update (check : UInt32) (bytes : List UInt8) : UInt32 :=
  ~~~ (bytes.foldl absorb (~~~ check))

/-- The check of a byte string. -/
def ofBytes (bytes : List UInt8) : UInt32 :=
  update 0 bytes

/-- Checks may be taken piece by piece. -/
theorem update_append (check : UInt32) (left right : List UInt8) :
    update check (left ++ right) = update (update check left) right := by
  simp [update, List.foldl_append]

end ChipEight.Crc32
