/-
This file defines when an effect may be used: its kind, its speed, its limit and its cost.
-/

namespace CardDuel

/-- This orders effects that answer each other; an answer may not be slower than what it answers. -/
structure Speed where
  value : UInt8
deriving DecidableEq

namespace Speed

/-- This is the speed of effects that answer nothing. -/
def one : Speed := ⟨1⟩

/-- This is the speed of quick effects. -/
def two : Speed := ⟨2⟩

/-- This is the speed of counter traps. -/
def three : Speed := ⟨3⟩

def ofValue? (value : UInt8) : Option Speed :=
  if 1 ≤ value ∧ value ≤ 3 then some ⟨value⟩ else none

end Speed

inductive EffectKind where
  /-- This effect is used on its own in a main phase. -/
  | ignition
  /-- This effect may also answer other effects. -/
  | quick
  /-- This effect follows an event. -/
  | trigger
  /-- This effect is the activation of a spell or trap. -/
  | activate
deriving DecidableEq

def EffectKind.ofName? (name : String) : Option EffectKind :=
  if name = "ignition" then some .ignition
  else if name = "quick" then some .quick
  else if name = "trigger" then some .trigger
  else if name = "activate" then some .activate
  else none

/-- This bounds how often an effect of one physical card may be used. -/
inductive ActivationLimit where
  | oncePerTurn
  | oncePerDuel
deriving DecidableEq

namespace ActivationLimit

def ofName? (name : String) : Option ActivationLimit :=
  if name = "once_per_turn" then some oncePerTurn
  else if name = "once_per_duel" then some oncePerDuel
  else none

def label : ActivationLimit → String
  | oncePerTurn => "once per turn"
  | oncePerDuel => "once per duel"

end ActivationLimit

inductive CostResource where
  | lifePoints
  | hand
  | field
  | this
deriving DecidableEq

structure Cost where
  resource : CostResource
  amount : UInt32
deriving DecidableEq

/-- This is the number of cards that the acting player names to pay a cost. -/
def Cost.cardsNamed (cost : Cost) : Nat :=
  match cost.resource with
  | .hand | .field => cost.amount.toNat
  | .lifePoints | .this => 0

end CardDuel
