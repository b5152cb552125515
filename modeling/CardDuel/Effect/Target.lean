/-
This file finds the players, cards and links on which an effect acts when it resolves.
-/

import CardDuel.Effect.Tree
import CardDuel.State.Basic

namespace CardDuel

/-- This is what a selector stands for when an effect resolves. -/
inductive Resolved where
  | players (seats : List Seat)
  | cards (chosen : List InstanceId)
  | link (number : Nat) (card : InstanceId)
deriving DecidableEq

namespace Resolved

def players? : Resolved → Except Violation (List Seat)
  | players seats => .ok seats
  | _ => .error .wrongTargetKind

/-- These are the cards on which an effect acts; a link stands for its source. -/
def cards? : Resolved → Except Violation (List InstanceId)
  | cards chosen => .ok chosen
  | link _ card => .ok [card]
  | players _ => .error .wrongTargetKind

end Resolved

namespace GameState

/-- This refuses a card that moved since its move count was noted. -/
def sameObject (state : GameState) (card : InstanceId) (moves : UInt32) :
    Except Violation InstanceId := do
  let found ← state.requireCard card
  if found.moves = moves then return card else throw (.targetMoved card)

def requireAttack (state : GameState) : Except Violation PendingAttack :=
  match state.pendingAttack with
  | some attack => .ok attack
  | none => .error .noAttack

def resolve (state : GameState) (link : ChainLink) : Selector → Except Violation Resolved
  | .this => do
    return .cards [← state.sameObject link.source link.sourceMoves]
  | .controller => .ok (.players [link.controller])
  | .opponent => .ok (.players [link.controller.opponent])
  | .bothPlayers => .ok (.players (Seat.startingWith link.controller))
  | .chosen index =>
    match link.targets[index]? with
    | some bound => do
      return .cards [← state.sameObject bound.card bound.moves]
    | none => .error .wrongTargetKind
  | .previousLink =>
    match state.chain.link? (link.number - 1) with
    | some below => .ok (.link below.number below.source)
    | none => .error .noPreviousLink
  | .attacker => do
    let attack ← state.requireAttack
    return .cards [← state.sameObject attack.attacker attack.attackerMoves]
  | .attackTarget => do
    let attack ← state.requireAttack
    match attack.target with
    | some target => return .cards [← state.sameObject target attack.targetMoves]
    | none => throw .noAttack
  | .all filter =>
    .ok (.cards ((state.cards.filter (filter.matchesFor link.controller link.source)).map
      CardInstance.id))

end GameState

end CardDuel
