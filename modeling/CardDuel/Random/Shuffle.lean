/-
This file defines shuffles. A shuffle is fixed by a seed, by the number of shuffles before it, and
by the number of items; what the items are does not matter.
-/

import CardDuel.Random.Keystream

namespace CardDuel

namespace Random

/-- This is the largest low half of a product that is taken for a range without bias. -/
def acceptedLow (range : UInt32) : UInt32 := (range <<< (31 - range.log2)) - 1

/--
This is how many words a draw looks at before it gives up. A word is taken with a chance of at least
a half, so no draw comes near it.
-/
def maxDraws : Nat := 4096

/--
This draws a number below a range, and gives the position in the stream after the draw. Words whose
product with the range falls into the uneven rest are skipped.
-/
def drawBelow (key : Key) (range : UInt32) : (tries : Nat) → (position : Nat) → Nat × Nat
  | 0, position => (0, position)
  | tries + 1, position =>
    let product := (key.word position).toUInt64 * range.toUInt64
    if product.toUInt32 ≤ acceptedLow range then
      ((product >>> 32).toNat, position + 1)
    else drawBelow key range tries (position + 1)

/-- This is the list of the swaps of a shuffle, from the last place down to the second. -/
def swapsFrom (key : Key) (position : Nat) : (last : Nat) → List (Nat × Nat)
  | 0 => []
  | last + 1 =>
    let (place, next) := drawBelow key (last + 2).toUInt32 maxDraws position
    (last + 1, place) :: swapsFrom key next last

/-- This is the list of the swaps that shuffle a number of items. -/
def swaps (key : Key) (count : Nat) : List (Nat × Nat) := swapsFrom key 0 (count - 1)

def applySwaps {α : Type} (swaps : List (Nat × Nat)) (items : List α) : List α :=
  (swaps.foldl (fun array (left, right) => array.swapIfInBounds left right) items.toArray).toList

end Random

/-- This is the source of all shuffles of a duel. Every shuffle uses a stream of its own. -/
structure Shuffler where
  seed : UInt64
  /-- This counts the streams that were used. -/
  streams : UInt64
deriving DecidableEq

namespace Shuffler

def ofSeed (seed : UInt64) : Shuffler := ⟨seed, 0⟩

/-- This keeps the seeds of the streams far apart. -/
def streamStep : UInt64 := 0x9E3779B97F4A7C15

def nextKey (shuffler : Shuffler) : Random.Key :=
  .ofSeed (shuffler.seed + (shuffler.streams + 1) * streamStep)

def advance (shuffler : Shuffler) : Shuffler :=
  { shuffler with streams := shuffler.streams + 1 }

def shuffle {α : Type} (shuffler : Shuffler) (items : List α) : List α × Shuffler :=
  (Random.applySwaps (Random.swaps shuffler.nextKey items.length) items, shuffler.advance)

end Shuffler

end CardDuel
