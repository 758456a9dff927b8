import ChipEight.Refusal

/-!
# The screen

The screen has 32 rows of 64 pixels.  A sprite is a column of bytes, one byte a row,
drawn by flipping a pixel for every set bit.  Drawing tells whether a lit pixel went
out.  What lies beyond the edge of the screen either wraps around to the other side
or is left out.
-/

namespace ChipEight

/-- The pixels of the screen, row by row from the top, each row from the left. -/
structure Screen where
  pixels : Vector Bool 2048
  deriving DecidableEq

namespace Screen

/-- A screen with every pixel dark. -/
def blank : Screen := ⟨Vector.replicate 2048 false⟩

/-- The screen that an image of zeros and ones shows. -/
def ofImage (image : List UInt8) : Except Refusal Screen :=
  let pixels := (image.map (· == 1)).toArray
  if size : pixels.size = 2048 then
    if image.all (· ≤ 1) then .ok ⟨⟨pixels, size⟩⟩ else .error .pixelValue
  else .error (.pixelCount pixels.size)

/-- The image of the screen: a byte zero or one for each pixel. -/
def image (s : Screen) : List UInt8 :=
  s.pixels.toList.map fun lit => if lit then 1 else 0

/-- The pixels of one row, from the left. -/
def row (s : Screen) (y : Nat) : List Bool :=
  (s.pixels.toList.drop (64 * y)).take 64

/-- All rows, from the top. -/
def rows (s : Screen) : List (List Bool) :=
  (List.range 32).map s.row

/-- Whether every pixel is dark. -/
def isBlank (s : Screen) : Bool :=
  s.pixels.toList.all (!·)

/-- The pixel in column `x` of row `y`, which must be on the screen. -/
def pixel (s : Screen) (x y : Int) : Except Refusal Bool :=
  if inside : 0 ≤ x ∧ x < 64 ∧ 0 ≤ y ∧ y < 32 then
    .ok (s.pixels.get ⟨(64 * y + x).toNat, by omega⟩)
  else .error (.pixelOutside x y)

/-- The pixel at the position `64 * y + x`, counted from the end if it is negative. -/
def pixelAt (s : Screen) (x y : Int) : Except Refusal Bool :=
  match slot? 2048 (y * 64 + x) with
  | some place => .ok s.pixels[place]
  | none => .error .noSuchSlot

/-- The row of a number, counted from the bottom if it is negative. -/
def rowAt (s : Screen) (y : Int) : Except Refusal (List Bool) :=
  match slot? 32 y with
  | some y => .ok (s.row y)
  | none => .error .noSuchSlot

/-- The rows as lines of text. -/
def lines (s : Screen) (on off : String) : List String :=
  s.rows.map fun row => String.join (row.map fun lit => if lit then on else off)

/-! ## Drawing -/

/-- Flips one pixel. -/
def flip (s : Screen) (place : Fin 2048) : Screen :=
  ⟨s.pixels.set place (!s.pixels[place])⟩

/-- Flips pixels one after the other, and tells whether one of them was lit. -/
def flipAll (s : Screen) : List (Fin 2048) → Bool × Screen
  | [] => (false, s)
  | place :: rest =>
      let (later, drawn) := flipAll (s.flip place) rest
      (s.pixels[place] || later, drawn)

/-- The columns that the set bits of a row hit, leftmost bit first. -/
def columns (x : Int) (data : UInt8) (clip : Bool) : List Int :=
  (List.range 8).filterMap fun bit =>
    if data.toNat.testBit (7 - bit) then
      let column := x + bit
      if column < 64 then some column
      else if clip then none
      else some (column % 64)
    else none

/-- The positions that one row of a sprite hits. -/
def rowPositions (x y : Int) (data : UInt8) (clip : Bool) : List Int :=
  if clip ∧ 32 ≤ y then []
  else (columns x data clip).map fun column => 64 * (y % 32) + column

/-- Draws one row of a sprite.  A column left of the screen counts back from the
position of its row; it must not lie before the first pixel by more than a screen. -/
def drawRow (s : Screen) (x y : Int) (data : UInt8) (clip : Bool) :
    Except Refusal (Bool × Screen) :=
  match (rowPositions x y data clip).mapM (slot? 2048) with
  | some places => .ok (s.flipAll places)
  | none => .error .noSuchSlot

/-- The positions that a sprite hits, row by row.  The sprite starts on the screen,
whatever its coordinates. -/
def spritePositions (x y : Int) (sprite : List UInt8) (clip : Bool) : List (Fin 2048) :=
  sprite.zipIdx.flatMap fun (data, k) =>
    (rowPositions (x % 64) (y % 32 + k) data clip).filterMap (slot? 2048)

/-- Draws a sprite. -/
def draw (s : Screen) (x y : Int) (sprite : List UInt8) (clip : Bool) : Bool × Screen :=
  s.flipAll (spritePositions x y sprite clip)

end Screen

end ChipEight
