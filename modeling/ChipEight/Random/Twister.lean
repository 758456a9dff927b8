/-!
# The random number generator

A Mersenne twister with 624 words of 32 bits.  A seed of any size is spread over the
words by the array initialisation of the algorithm, and each output is one tempered
word.  `nextByte` draws a byte from the top nine bits of as many outputs as it takes
to get a value below 256.
-/

namespace ChipEight

/-- The state of the generator: its words, how many of them have been used, and a
normal deviate kept back by an outside user. -/
structure Generator where
  words : Vector UInt32 624
  position : Nat
  position_le : position ≤ 624 := by omega
  spare : Option Float

namespace Generator

/-! ## Seeding -/

/-- A word mixed with its own upper bits. -/
def fold (word : UInt32) : UInt32 :=
  word ^^^ (word >>> 30)

/-- The words that a single number spreads to. -/
def spread (number : UInt32) : Vector UInt32 624 :=
  Nat.fold 623
    (fun k bound words =>
      words.set (k + 1) (1812433253 * fold words[k] + UInt32.ofNat (k + 1)))
    ((Vector.replicate 624 0).set 0 number)

/-- One step of a walk over the words 1 to 623 that starts again at word 1 and then
carries the last word to the front.  The step replaces word `k` by a function of
itself and its folded predecessor. -/
def walk (change : UInt32 → UInt32 → UInt32) (k : Nat) (words : Vector UInt32 624) :
    Vector UInt32 624 :=
  let place := k % 623
  have bound : place < 623 := Nat.mod_lt k (by decide)
  let changed := words.set (place + 1) (change words[place + 1] (fold words[place]))
  if place = 622 then changed.set 0 changed[623] else changed

/-- The words that a key of one or more numbers spreads to. -/
def spreadKey (key : List UInt32) : Vector UInt32 624 :=
  let rounds := max 624 key.length
  let mixed := Nat.fold rounds
    (fun k _ words =>
      let place := k % key.length
      walk (fun word folded =>
        (word ^^^ (folded * 1664525)) + key.getD place 0 + UInt32.ofNat place) k words)
    (spread 19650218)
  let settled := Nat.fold 623
    (fun k _ words =>
      let start := (rounds + k) % 623 + 1
      walk (fun word folded => (word ^^^ (folded * 1566083941)) - UInt32.ofNat start)
        (rounds + k) words)
    mixed
  settled.set 0 0x80000000

/-- The 32-bit words of a natural number, the lowest first. -/
def limbs (n : Nat) : List UInt32 :=
  if n < 0x100000000 then [UInt32.ofNat n]
  else UInt32.ofNat (n % 0x100000000) :: limbs (n / 0x100000000)
termination_by n

/-- The generator for a seed; the sign of the seed does not count. -/
def ofSeed (seed : Int) : Generator where
  words := spreadKey (limbs seed.natAbs)
  position := 624
  spare := none

/-! ## Drawing -/

/-- The next 624 words, each made from its two neighbours and the word 397 places
on. -/
def refill (words : Vector UInt32 624) : Vector UInt32 624 :=
  Nat.fold 624
    (fun k bound words =>
      have next : (k + 1) % 624 < 624 := Nat.mod_lt _ (by decide)
      have far : (k + 397) % 624 < 624 := Nat.mod_lt _ (by decide)
      let joined := (words[k] &&& 0x80000000) ||| (words[(k + 1) % 624] &&& 0x7FFFFFFF)
      let twisted := if joined &&& 1 = 1 then (joined >>> 1) ^^^ 0x9908B0DF else joined >>> 1
      words.set k (words[(k + 397) % 624] ^^^ twisted))
    words

/-- The output for a word of the state. -/
def temper (word : UInt32) : UInt32 :=
  let a := word ^^^ (word >>> 11)
  let b := a ^^^ ((a <<< 7) &&& 0x9D2C5680)
  let c := b ^^^ ((b <<< 15) &&& 0xEFC60000)
  c ^^^ (c >>> 18)

/-- The next output. -/
def nextWord (g : Generator) : UInt32 × Generator :=
  if bound : g.position < 624 then
    (temper g.words[g.position], { g with position := g.position + 1, position_le := bound })
  else
    let words := refill g.words
    (temper words[0], { words := words, position := 1, spare := g.spare })

/-- Draws from the top nine bits until a value below 256 comes out, that is, until the top bit
of an output is clear. -/
def drawByte : Nat → Generator → UInt8 × Generator
  | 0, g => (0, g)
  | draws + 1, g =>
      let (word, g) := g.nextWord
      let value := word >>> 23
      if value < 256 then (value.toUInt8, g) else drawByte draws g

/-- A byte, each value as likely as any other.  The outputs go on from 19937 bits, and at most so
many of them in a row have the top bit set.  One more may come before these, from a first word of
which only the top bit is among the 19937.  So this many draws are always enough. -/
def nextByte (g : Generator) : UInt8 × Generator :=
  drawByte 19939 g

end Generator

end ChipEight
