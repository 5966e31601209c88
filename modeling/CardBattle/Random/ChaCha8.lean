/-
Module: CardBattle.Random.ChaCha8
Purpose: The stream of random words: the ChaCha block function with eight rounds under a key
  grown from a seed.
Main exports:
  ChaCha8.Key, ChaCha8.keyOfSeed, ChaCha8.block, ChaCha8.word
-/

/-!
# A stream of random words

Block `n` of the stream scrambles a table of sixteen words: four constants, the eight words of
the key, the number `n` in two words with the low one first, and two zeros.  Four double rounds
mix the columns and then the diagonals of the table, and the table from before is added word by
word.  The stream is the blocks one after the other.

A seed of 64 bits grows into a key by eight steps of a linear congruential generator whose state
is turned into a word by a shift, an exclusive or and a rotation that the state itself chooses.
-/

namespace CardBattle.ChaCha8

/-- Rotate a word to the left. -/
def rotateLeft (x places : UInt32) : UInt32 := (x <<< places) ||| (x >>> (32 - places))

/-- Rotate a word to the right. -/
def rotateRight (x places : UInt32) : UInt32 := (x >>> places) ||| (x <<< (32 - places))

/-! ### Growing the key -/

/-- The eight words of a key. -/
abbrev Key := Vector UInt32 8

/-- Next state of the generator that grows keys. -/
def growthStep (state : UInt64) : UInt64 :=
  state * 6364136223846793005 + 11634580027462260723

/-- The word read off a state. -/
def growthWord (state : UInt64) : UInt32 :=
  rotateRight (((state >>> 18) ^^^ state) >>> 27).toUInt32 (state >>> 59).toUInt32

/-- Words read off the states that follow one. -/
def growthWords (state : UInt64) : (count : Nat) → Vector UInt32 count
  | 0 => #v[]
  | count + 1 =>
      let next := growthStep state
      (growthWords next count).insertIdx 0 (growthWord next)

/-- The key grown from a seed. -/
def keyOfSeed (seed : UInt64) : Key := growthWords seed 8

/-! ### Blocks -/

/-- The table that a block scrambles. -/
abbrev Table := Vector UInt32 16

/-- The table before the rounds. -/
def start (key : Key) (number : Nat) : Table :=
  #v[0x61707865, 0x3320646e, 0x79622d32, 0x6b206574,
    key[0], key[1], key[2], key[3], key[4], key[5], key[6], key[7],
    UInt32.ofNat number, UInt32.ofNat (number >>> 32), 0, 0]

/-- Mix four words of the table. -/
def quarterRound (t : Table) (a b c d : Fin 16) : Table :=
  let x := t[a] + t[b]
  let w := rotateLeft (t[d] ^^^ x) 16
  let z := t[c] + w
  let y := rotateLeft (t[b] ^^^ z) 12
  let x := x + y
  let w := rotateLeft (w ^^^ x) 8
  let z := z + w
  let y := rotateLeft (y ^^^ z) 7
  (((t.set a x).set b y).set c z).set d w

/-- Mix the four columns, then the four diagonals. -/
def doubleRound (t : Table) : Table :=
  let t := quarterRound t 0 4 8 12
  let t := quarterRound t 1 5 9 13
  let t := quarterRound t 2 6 10 14
  let t := quarterRound t 3 7 11 15
  let t := quarterRound t 0 5 10 15
  let t := quarterRound t 1 6 11 12
  let t := quarterRound t 2 7 8 13
  quarterRound t 3 4 9 14

/-- A block of the stream. -/
def block (key : Key) (number : Nat) : Table :=
  let before := start key number
  before.zipWith (· + ·) (doubleRound (doubleRound (doubleRound (doubleRound before))))

/-- The word at a position of the stream. -/
def word (seed : UInt64) (position : Nat) : UInt32 :=
  (block (keyOfSeed seed) (position / 16)).get ⟨position % 16, Nat.mod_lt _ (by decide)⟩

/-- Length after which the stream of a seed begins again: block numbers have 64
bits. -/
def period : Nat := 1 <<< 68

end CardBattle.ChaCha8
