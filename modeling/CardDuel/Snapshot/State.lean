/-
This file defines the bytes of the state of a duel.
-/

import CardDuel.Snapshot.Event

namespace CardDuel

namespace Snapshot

open Codec

/-- This is the speed of an effect; any byte is taken. -/
def speed : Codec Speed := byte.map Speed.mk Speed.value

def boundTarget : Codec BoundTarget :=
  (instanceId.pair word32).map (fun (card, moves) => ⟨card, moves⟩)
    fun target => (target.card, target.moves)

def chainLink : Codec ChainLink :=
  (size.pair (instanceId.pair (word32.pair (cardId.pair (size.pair (seat.pair (speed.pair
    (boundTarget.list.pair bool)))))))).map
    (fun (number, source, moves, card, effect, controller, speed, targets, negated) =>
      ⟨number, source, moves, card, effect, controller, speed, targets, negated⟩)
    fun link =>
      (link.number, link.source, link.sourceMoves, link.card, link.effect, link.controller,
        link.speed, link.targets, link.negated)

def chainStatus : Codec ChainStatus := oneOf [.idle, .awaitingResponse, .resolving]

def chain : Codec Chain :=
  (chainLink.list.pair (chainStatus.pair (seat.pair byte))).map
    (fun (links, status, priority, passes) => ⟨links, status, priority, passes⟩)
    fun chain => (chain.links, chain.status, chain.priority, chain.passes)

def triggeredEffect : Codec TriggeredEffect :=
  (instanceId.pair (word32.pair (cardId.pair (size.pair (seat.pair (speed.pair bool)))))).map
    (fun (source, moves, card, effect, controller, speed, optional) =>
      ⟨source, moves, card, effect, controller, speed, optional⟩)
    fun trigger =>
      (trigger.source, trigger.sourceMoves, trigger.card, trigger.effect, trigger.controller,
        trigger.speed, trigger.optional)

def window : Codec ResponseWindow :=
  (gameEvent.list.pair (triggeredEffect.list.pair (seat.pair byte))).map
    (fun (events, optional, holder, passes) => ⟨events, optional, holder, passes⟩)
    fun window => (window.events, window.optional, window.holder, window.passes)

def pendingAttack : Codec PendingAttack :=
  (instanceId.pair (word32.pair (instanceId.option.pair word32))).map
    (fun (attacker, attackerMoves, target, targetMoves) =>
      ⟨attacker, attackerMoves, target, targetMoves⟩)
    fun attack => (attack.attacker, attack.attackerMoves, attack.target, attack.targetMoves)

def activationRecord : Codec ActivationRecord :=
  (instanceId.pair (size.pair (word32.pair word32))).map
    (fun (card, effect, thisTurn, thisDuel) => ⟨card, effect, thisTurn, thisDuel⟩)
    fun record => (record.card, record.effect, record.thisTurn, record.thisDuel)

def activations : Codec Activations :=
  activationRecord.list.map Activations.mk Activations.records

def gameState : Codec GameState :=
  (word64.pair (word32.pair (phase.pair (seat.pair ((perSeat playerState).pair
    (cardInstance.list.pair (chain.pair (window.option.pair (pendingAttack.option.pair
    (gameEvent.list.pair (modifier.list.pair (modifier.list.pair (activations.pair
    (gameResult.option.pair (loggedEvent.list.pair shuffler))))))))))))))).map
    (fun (version, turn, phase, turnPlayer, players, cards, chain, window, attack, events,
        granted, active, activations, outcome, log, shuffler) =>
      ⟨version, turn, phase, turnPlayer, players, cards, chain, window, attack, events,
        granted, active, activations, outcome, log, shuffler⟩)
    fun state =>
      (state.version, state.turn, state.phase, state.turnPlayer, state.players, state.cards,
        state.chain, state.window, state.pendingAttack, state.pendingEvents, state.granted,
        state.active, state.activations, state.outcome, state.log, state.shuffler)

end Snapshot

namespace GameState

def toBytes (state : GameState) : List UInt8 := Snapshot.gameState.encode state

/-- This is the state at the front of some bytes; what follows it is not looked at. -/
def ofBytes? (bytes : List UInt8) : Option GameState :=
  (Snapshot.gameState.decode bytes).map Prod.fst

end GameState

end CardDuel
