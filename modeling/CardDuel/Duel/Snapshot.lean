/-
This file stores duels as bytes and goes back to stored ones.
-/

import CardDuel.Duel.Basic
import CardDuel.Snapshot.State

namespace CardDuel

namespace Duel

def snapshot (duel : Duel) : List UInt8 := duel.state.toBytes

/-- This goes back to a stored state; bytes that hold no state are refused. -/
def restore? (duel : Duel) (bytes : List UInt8) : Option Duel :=
  (GameState.ofBytes? bytes).map fun state => { duel with state := state }

end Duel

end CardDuel
