/-
This file counts how often each effect of each physical card was used.
-/

import CardDuel.Rejection

namespace CardDuel

/-- This counts the uses of one effect of one physical card. -/
structure ActivationRecord where
  card : InstanceId
  effect : Nat
  thisTurn : UInt32
  thisDuel : UInt32
deriving DecidableEq

namespace ActivationRecord

def isFor (record : ActivationRecord) (card : InstanceId) (effect : Nat) : Bool :=
  record.card = card && record.effect = effect

def increment (record : ActivationRecord) : ActivationRecord :=
  { record with thisTurn := record.thisTurn + 1, thisDuel := record.thisDuel + 1 }

end ActivationRecord

structure Activations where
  records : List ActivationRecord
deriving DecidableEq

namespace Activations

def empty : Activations := ⟨[]⟩

def find? (activations : Activations) (card : InstanceId) (effect : Nat) :
    Option ActivationRecord :=
  activations.records.find? fun record => record.isFor card effect

def countThisTurn (activations : Activations) (card : InstanceId) (effect : Nat) : UInt32 :=
  ((activations.find? card effect).map ActivationRecord.thisTurn).getD 0

def countThisDuel (activations : Activations) (card : InstanceId) (effect : Nat) : UInt32 :=
  ((activations.find? card effect).map ActivationRecord.thisDuel).getD 0

/-- This refuses an effect that was used as often as its limit allows. -/
def check (activations : Activations) (card : InstanceId) (effect : Nat)
    (limit : Option ActivationLimit) : Except Rejection Unit :=
  match limit with
  | none => .ok ()
  | some limit =>
    let used : UInt32 := match limit with
      | .oncePerTurn => activations.countThisTurn card effect
      | .oncePerDuel => activations.countThisDuel card effect
    if used ≥ 1 then .error (.limitReached card limit) else .ok ()

/-- This counts a use in the first fitting record, or in a new one. -/
def record (activations : Activations) (card : InstanceId) (effect : Nat) : Activations :=
  match activations.records.findIdx? fun entry => entry.isFor card effect with
  | some place => ⟨activations.records.modify place ActivationRecord.increment⟩
  | none => ⟨activations.records ++ [⟨card, effect, 1, 1⟩]⟩

/-- This forgets the uses of the last turn. -/
def resetTurn (activations : Activations) : Activations :=
  ⟨activations.records.map fun entry => { entry with thisTurn := 0 }⟩

end Activations

end CardDuel
