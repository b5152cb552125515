/-
This file defines a stream of pseudorandom words: the ChaCha block function with eight rounds, under
a key that is expanded from one word of 64 bits.
-/

namespace CardDuel.Random

abbrev Block := Vector UInt32 16

def rotateLeft (word : UInt32) (places : UInt32) : UInt32 :=
  (word <<< places) ||| (word >>> (32 - places))

/-- This turns a word to the right; a turn by zero places leaves it as it is. -/
def rotateRight (word : UInt32) (places : UInt32) : UInt32 :=
  (word >>> places) ||| (word <<< (32 - places))

def quarterRound (block : Block) (a b c d : Fin 16) : Block :=
  let block := block.set a (block[a] + block[b])
  let block := block.set d (rotateLeft (block[d] ^^^ block[a]) 16)
  let block := block.set c (block[c] + block[d])
  let block := block.set b (rotateLeft (block[b] ^^^ block[c]) 12)
  let block := block.set a (block[a] + block[b])
  let block := block.set d (rotateLeft (block[d] ^^^ block[a]) 8)
  let block := block.set c (block[c] + block[d])
  block.set b (rotateLeft (block[b] ^^^ block[c]) 7)

/-- This mixes the columns and then the diagonals of a block. -/
def doubleRound (block : Block) : Block :=
  let block := quarterRound block 0 4 8 12
  let block := quarterRound block 1 5 9 13
  let block := quarterRound block 2 6 10 14
  let block := quarterRound block 3 7 11 15
  let block := quarterRound block 0 5 10 15
  let block := quarterRound block 1 6 11 12
  let block := quarterRound block 2 7 8 13
  quarterRound block 3 4 9 14

abbrev Key := Vector UInt32 8

/-- This is the step of the generator that expands a seed into a key. -/
def expandStep (state : UInt64) : UInt64 :=
  state * 6364136223846793005 + 11634580027462260723

def expandWord (state : UInt64) : UInt32 :=
  rotateRight (((state >>> 18) ^^^ state) >>> 27).toUInt32 (state >>> 59).toUInt32

def expandState (seed : UInt64) : Nat → UInt64
  | 0 => seed
  | steps + 1 => expandStep (expandState seed steps)

def Key.ofSeed (seed : UInt64) : Key :=
  Vector.ofFn fun position => expandWord (expandState seed (position.val + 1))

/-- This is the table before the rounds of a block: constants, key, block counter and zeros. -/
def initial (key : Key) (counter : UInt64) : Block :=
  #v[0x61707865, 0x3320646e, 0x79622d32, 0x6b206574,
    key[0], key[1], key[2], key[3], key[4], key[5], key[6], key[7],
    counter.toUInt32, (counter >>> 32).toUInt32, 0, 0]

def Key.block (key : Key) (counter : UInt64) : Block :=
  let start := initial key counter
  let mixed := doubleRound (doubleRound (doubleRound (doubleRound start)))
  start.zipWith (· + ·) mixed

def Key.word (key : Key) (position : Nat) : UInt32 :=
  (key.block (position / 16).toUInt64)[position % 16]

end CardDuel.Random
