/-
This file tells which cards may be summoned and set from the hand.
-/

import CardDuel.Play.Rules
import CardDuel.State.Condition

namespace CardDuel

structure SummonPlan where
  card : InstanceId
  tributes : List InstanceId
  kind : SummonKind
deriving DecidableEq

namespace GameState

def knownCard (state : GameState) (card : InstanceId) : Except Rejection CardInstance :=
  match state.card? card with
  | some found => .ok found
  | none => .error (.unknownCard card)

def ownCard (state : GameState) (player : Seat) (card : InstanceId) :
    Except Rejection CardInstance := do
  let found ← state.knownCard card
  if found.owner = player then return found else throw (.notOwner card)

def handCard (state : GameState) (player : Seat) (card : InstanceId) :
    Except Rejection CardInstance := do
  let found ← state.ownCard player card
  if found.zone = .hand then return found else throw (.notInHand card)

def tributeCandidates (state : GameState) (player : Seat) : List InstanceId :=
  (state.zones player).cards .monsters

/-- This refuses tributes that are no candidates or are named again after `seen`. -/
def checkTributes (candidates seen : List InstanceId) : List InstanceId → Except Rejection Unit
  | [] => .ok ()
  | tribute :: rest =>
    if candidates.contains tribute && !seen.contains tribute then
      checkTributes candidates (seen ++ [tribute]) rest
    else .error (.invalidTribute tribute)

def needSlot (state : GameState) (player : Seat) (zone : Zone) : Except Rejection Unit :=
  if ((state.zones player).freeSlot? zone).isNone then .error (.noFreeZone zone) else .ok ()

def validateNormalSummon (state : GameState) (config : DuelConfig) (player : Seat)
    (card : InstanceId) (tributes : List InstanceId) : Except Rejection SummonPlan := do
  let found ← state.handCard player card
  if !found.isMonster then throw (.notAMonster card)
  if (state.player player).normalSummonUsed then throw .normalSummonUsed
  let needed := config.tributesForLevel found.base.level
  if tributes.length ≠ needed then throw (.wrongTributeCount needed tributes.length)
  checkTributes (state.tributeCandidates player) [] tributes
  if needed = 0 then state.needSlot player .monsters
  return ⟨card, tributes, if needed = 0 then .normal else .tribute⟩

def validateSpellSet (state : GameState) (player : Seat) (card : InstanceId) :
    Except Rejection Unit := do
  let found ← state.handCard player card
  if found.isMonster then throw (.invalidTargets .monsterSet)
  state.needSlot player .spells

def validateSpecialSummon (state : GameState) (catalog : Catalog) (player : Seat)
    (card : InstanceId) : Except Rejection Unit := do
  let found ← state.handCard player card
  if !found.isMonster then throw (.notAMonster card)
  match (catalog.get? found.card).bind CardTemplate.specialSummon with
  | none => throw (.summonConditionNotMet found.card)
  | some condition =>
    if !condition.holds state player card then throw (.summonConditionNotMet found.card)
    state.needSlot player .monsters

end GameState

end CardDuel
