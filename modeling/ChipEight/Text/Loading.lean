import ChipEight.Text.Utf8

/-!
# Loading text files

A text file is loaded part by part, and what is wrong with a later part does not show
before that part is asked for.  Each part has the same number of characters.  The bytes
behind it are decoded in pieces, whose size depends on how many bytes the characters of
the last piece took.  Line breaks are made uniform on the way: a carriage return, alone or
before a line feed, becomes a line feed.
-/

namespace ChipEight.Text

/-- Line breaks as line feeds. -/
def lineFeeds : List Char → List Char
  | [] => []
  | '\r' :: '\n' :: rest => '\n' :: lineFeeds rest
  | '\r' :: rest => '\n' :: lineFeeds rest
  | c :: rest => c :: lineFeeds rest

/-- The state of loading a file. -/
structure Loading where
  /-- The bytes that were not decoded yet. -/
  rest : List UInt8
  /-- The start of a sequence that the last piece cut off. -/
  unfinished : List UInt8 := []
  /-- Whether the last piece ended in a carriage return, which is held back. -/
  held : Bool := false
  /-- The characters that were decoded and not asked for yet. -/
  ready : List Char := []
  /-- The number of bytes and of characters of the last piece. -/
  ratio : Nat × Nat := (0, 0)

namespace Loading

/-- The number of characters of a part. -/
def partSize : Nat := 4096

/-- The least number of bytes of a piece. -/
def leastPiece : Nat := 8192

/-- The number of bytes to decode for a number of characters. -/
def pieceSize (l : Loading) (count : Nat) : Nat :=
  max leastPiece (if l.ratio.2 < l.ratio.1 then l.ratio.1 * count / l.ratio.2 else count)

/-- Decodes one more piece, and tells whether there was anything to decode. -/
def decodeMore (l : Loading) (count : Nat) : Except DecodeFault (Bool × Loading) := do
  let piece := l.rest.take (l.pieceSize count)
  let last := piece.isEmpty
  let (chars, unfinished) ← decodePiece last (l.unfinished ++ piece)
  let chars := if l.held && (last || !chars.isEmpty) then '\r' :: chars else chars
  let held := if chars.isEmpty then l.held && !last else !last && chars.getLast? == some '\r'
  let chars := lineFeeds (if held && !chars.isEmpty then chars.dropLast else chars)
  return (!last || !chars.isEmpty,
    { rest := l.rest.drop piece.length, unfinished := unfinished, held := held
      ready := l.ready ++ chars, ratio := (piece.length, chars.length) })

/-- The next part, up to a number of characters. -/
def part (l : Loading) (count : Nat) : Nat → Except DecodeFault (List Char × Loading)
  | 0 => .ok (l.ready.take count, { l with ready := l.ready.drop count })
  | fuel + 1 =>
      if count ≤ l.ready.length then
        .ok (l.ready.take count, { l with ready := l.ready.drop count })
      else
        match l.decodeMore (count - l.ready.length) with
        | .error fault => .error fault
        | .ok (true, l) => l.part count fuel
        | .ok (false, l) => .ok (l.ready, { l with ready := [] })

/-- The parts up to the end of the file, or up to the first that cannot be decoded. -/
def parts (l : Loading) : Nat → List (List Char) × Option DecodeFault
  | 0 => ([], none)
  | fuel + 1 =>
      match l.part partSize (l.rest.length + 2) with
      | .error fault => ([], some fault)
      | .ok ([], _) => ([], none)
      | .ok (chars, l) =>
          let (more, fault) := l.parts fuel
          (chars :: more, fault)

end Loading

/-- The parts in which a file is loaded, and what stops its loading. -/
def partsOf (bytes : List UInt8) : List (List Char) × Option DecodeFault :=
  Loading.parts { rest := bytes } (bytes.length + 1)

end ChipEight.Text
