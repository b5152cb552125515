/-
This file tells which attacks are allowed and how battles end.
-/

import CardDuel.Play.Summon
import CardDuel.State.Sweep

namespace CardDuel

structure BattleOutcome where
  destroyed : List InstanceId
  damage : Option (Seat × UInt32)
deriving DecidableEq

namespace BattleOutcome

/-- This compares an attacker with the card that it attacks, or with nothing. -/
def between (attacker : CardInstance) (defender : Option CardInstance) : BattleOutcome :=
  let attack := attacker.current.attack
  match defender with
  | none => ⟨[], some (attacker.owner.opponent, attack)⟩
  | some defender =>
    let value := defender.battleValue
    if defender.position.isDefense then
      if attack > value then ⟨[defender.id], none⟩
      else if attack < value then ⟨[], some (attacker.owner, value - attack)⟩
      else ⟨[], none⟩
    else if attack > value then ⟨[defender.id], some (defender.owner, attack - value)⟩
    else if attack < value then ⟨[attacker.id], some (attacker.owner, value - attack)⟩
    else ⟨[attacker.id, defender.id], none⟩

def changes (outcome : BattleOutcome) : List Change :=
  (outcome.destroyed.map fun card => .markDestroyed card .battle) ++
    (outcome.damage.toList.map fun (player, amount) => .damage player amount true)

end BattleOutcome

namespace GameState

/-- These are the monsters that face the attacks of a player. -/
def defenders (state : GameState) (player : Seat) : List InstanceId :=
  (state.zones player.opponent).cards .monsters

def validateTarget (state : GameState) (player : Seat) :
    Option InstanceId → Except Rejection Unit
  | none =>
    if (state.defenders player).isEmpty then .ok () else .error (.invalidAttack .monsterInTheWay)
  | some target => do
    let defender ← state.knownCard target
    if defender.owner = player ∨ defender.zone ≠ .monsters then throw (.invalidAttack .badTarget)

def validateAttack (state : GameState) (player : Seat) (attacker : InstanceId)
    (target : Option InstanceId) : Except Rejection Unit := do
  let found ← state.ownCard player attacker
  if found.zone ≠ .monsters then throw (.invalidAttack .notOnField)
  if !found.position.isAttack then throw (.invalidAttack .notInAttackPosition)
  if found.hasAttacked then throw (.invalidAttack .alreadyAttacked)
  state.validateTarget player target

/-- These are the targets that a player can attack: the monsters of the opponent or the opponent. -/
def attackTargets (state : GameState) (player : Seat) : List (Option InstanceId) :=
  match state.defenders player with
  | [] => [none]
  | defenders => defenders.map some

/-- This tells whether a card is the same object in a monster zone. -/
def stillStands (state : GameState) (card : InstanceId) (moves : UInt32) : Bool :=
  (state.card? card).any fun found => found.zone = .monsters && found.moves = moves

/-- This tells whether the target of an attack, or the lack of one, is as it was. -/
def targetStands (state : GameState) (attack : PendingAttack) : Bool :=
  match attack.target with
  | some target => state.stillStands target attack.targetMoves
  | none =>
    let side := ((state.card? attack.attacker).map CardInstance.owner).getD state.turnPlayer
    (state.defenders side).isEmpty

/-- This turns a face-down target to face-up defense and recomputes lasting changes. -/
def revealTarget (state : GameState) (catalog : Catalog) (target : Option InstanceId) : GameState :=
  match target with
  | none => state
  | some target =>
    if (state.card? target).any fun found => found.position = .faceDownDefense then
      (Change.applyPossible [.changePosition target .faceUpDefense] state).refresh catalog
    else state

/-- This fights the battle of an attack whose cards still stand. -/
def fight (state : GameState) (catalog : Catalog) (attack : PendingAttack) : GameState :=
  let revealed := state.revealTarget catalog attack.target
  match revealed.card? attack.attacker with
  | none => revealed
  | some attacker =>
    let outcome := BattleOutcome.between attacker (attack.target.bind revealed.card?)
    ((Change.applyPossible outcome.changes revealed).record
      (.battleResolved attack.attacker attack.target)).sweep catalog

/-- This ends the pending attack, with a battle if both cards still stand. -/
def resolveAttack (state : GameState) (catalog : Catalog) : GameState :=
  match state.pendingAttack with
  | none => state
  | some attack =>
    let cleared := { state with pendingAttack := none }
    if cleared.stillStands attack.attacker attack.attackerMoves && cleared.targetStands attack then
      cleared.fight catalog attack
    else cleared.record (.attackCancelled attack.attacker)

end GameState

end CardDuel
