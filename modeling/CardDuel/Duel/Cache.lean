/-
This file keeps lists of legal actions as long as the version of a duel stays the same.
-/

import CardDuel.Duel.Basic

namespace CardDuel

/-- This holds for each player the last list of legal actions with its version. -/
structure LegalActionCache where
  entries : PerSeat (Option (UInt64 × List Action))
  hits : UInt64
  misses : UInt64
deriving DecidableEq

namespace LegalActionCache

def empty : LegalActionCache := ⟨.replicate none, 0, 0⟩

/-- This is the stored list of a player, if it was stored for a version. -/
def stored? (cache : LegalActionCache) (version : UInt64) (player : Seat) : Option (List Action) :=
  (cache.entries.get player).bind fun (stored, actions) =>
    if stored = version then some actions else none

/-- This looks up the legal actions of a player, and computes them if they are not stored. -/
def lookup (cache : LegalActionCache) (duel : Duel) (player : Seat) :
    List Action × LegalActionCache :=
  match cache.stored? duel.state.version player with
  | some actions => (actions, { cache with hits := cache.hits + 1 })
  | none =>
    let actions := duel.legalActions player
    (actions, { cache with
      entries := cache.entries.set player (some (duel.state.version, actions))
      misses := cache.misses + 1 })

def invalidate (cache : LegalActionCache) : LegalActionCache :=
  { cache with entries := .replicate none }

end LegalActionCache

end CardDuel
