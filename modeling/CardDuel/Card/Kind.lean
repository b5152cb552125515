/-
This file defines what sorts of cards there are.
-/

import CardDuel.Card.Stat
import CardDuel.Effect.Kind

namespace CardDuel

inductive Category where
  | monster
  | spell
  | trap
deriving DecidableEq

def Category.ofName? (name : String) : Option Category :=
  if name = "monster" then some .monster
  else if name = "spell" then some .spell
  else if name = "trap" then some .trap
  else none

inductive SpellKind where
  | normal
  | quickPlay
  | continuous
deriving DecidableEq

def SpellKind.ofName? (name : String) : Option SpellKind :=
  if name = "normal" then some .normal
  else if name = "quick_play" then some .quickPlay
  else if name = "continuous" then some .continuous
  else none

inductive TrapKind where
  | normal
  | continuous
  | counter
deriving DecidableEq

def TrapKind.ofName? (name : String) : Option TrapKind :=
  if name = "normal" then some .normal
  else if name = "continuous" then some .continuous
  else if name = "counter" then some .counter
  else none

/-- This is the exact sort of a card, with the printed numbers of a monster. -/
inductive CardKind where
  | monster (level attack defense : UInt32)
  | spell (kind : SpellKind)
  | trap (kind : TrapKind)
deriving DecidableEq

namespace CardKind

def category : CardKind → Category
  | monster .. => .monster
  | spell _ => .spell
  | trap _ => .trap

def isMonster : CardKind → Bool
  | monster .. => true
  | _ => false

/-- This is the printed stat line; spells and traps have zeros. -/
def baseStats : CardKind → StatLine
  | monster level attack defense => ⟨attack, defense, level⟩
  | _ => .zero

/-- This tells whether a card stays on the field after its own activation resolves. -/
def staysOnField : CardKind → Bool
  | monster .. => true
  | spell .continuous => true
  | trap .continuous => true
  | _ => false

def speedOf (kind : CardKind) (effect : EffectKind) : Speed :=
  match kind, effect with
  | _, .quick => .two
  | trap .counter, .activate => .three
  | trap _, .activate => .two
  | spell .quickPlay, .activate => .two
  | _, _ => .one

end CardKind

end CardDuel
