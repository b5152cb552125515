/-
This file defines the bytes of events and of the log.
-/

import CardDuel.Snapshot.Card

namespace CardDuel

namespace Snapshot

open Codec

def summonKind : Codec SummonKind := oneOf [.normal, .tribute, .special, .flip]

def effectOutcome : Codec EffectOutcome := oneOf [.applied, .negated, .aborted]

def gameResult : Codec GameResult := choice
  [case seat .winner fun
      | .winner player => some player
      | _ => none,
    constant .draw]

def attackPair : Codec (InstanceId × Option InstanceId) := instanceId.pair instanceId.option

def turnEvents : List (Case GameEvent) :=
  [case (seat.pair word32) (fun (player, turn) => .turnStarted player turn) fun
      | .turnStarted player turn => some (player, turn)
      | _ => none,
    case phase .phaseChanged fun
      | .phaseChanged phase => some phase
      | _ => none,
    case (seat.pair instanceId) (fun (player, card) => .cardDrawn player card) fun
      | .cardDrawn player card => some (player, card)
      | _ => none,
    case (instanceId.pair (seat.pair summonKind))
      (fun (card, player, kind) => .summoned card player kind) fun
      | .summoned card player kind => some (card, player, kind)
      | _ => none,
    case (instanceId.pair seat) (fun (card, player) => .cardSet card player) fun
      | .cardSet card player => some (card, player)
      | _ => none,
    case (instanceId.pair position) (fun (card, position) => .positionChanged card position) fun
      | .positionChanged card position => some (card, position)
      | _ => none]

def battleEvents : List (Case GameEvent) :=
  [case attackPair (fun (attacker, target) => .attackDeclared attacker target) fun
      | .attackDeclared attacker target => some (attacker, target)
      | _ => none,
    case instanceId .attackNegated fun
      | .attackNegated attacker => some attacker
      | _ => none,
    case instanceId .attackCancelled fun
      | .attackCancelled attacker => some attacker
      | _ => none,
    case attackPair (fun (attacker, target) => .battleResolved attacker target) fun
      | .battleResolved attacker target => some (attacker, target)
      | _ => none]

def tableEvents : List (Case GameEvent) :=
  [case (seat.pair (word32.pair bool))
      (fun (player, amount, byBattle) => .damage player amount byBattle) fun
      | .damage player amount byBattle => some (player, amount, byBattle)
      | _ => none,
    case (seat.pair word32) (fun (player, amount) => .lifeGained player amount) fun
      | .lifeGained player amount => some (player, amount)
      | _ => none,
    case (seat.pair word32) (fun (player, amount) => .lifePaid player amount) fun
      | .lifePaid player amount => some (player, amount)
      | _ => none,
    case (instanceId.pair (zone.pair zone))
      (fun (card, origin, destination) => .cardMoved card origin destination) fun
      | .cardMoved card origin destination => some (card, origin, destination)
      | _ => none,
    case (instanceId.pair bool) (fun (card, byBattle) => .destroyed card byBattle) fun
      | .destroyed card byBattle => some (card, byBattle)
      | _ => none,
    case seat .deckShuffled fun
      | .deckShuffled player => some player
      | _ => none]

def chainEvents : List (Case GameEvent) :=
  [case (instanceId.pair (size.pair seat))
      (fun (card, effect, player) => .effectActivated card effect player) fun
      | .effectActivated card effect player => some (card, effect, player)
      | _ => none,
    case (size.pair (instanceId.pair byte))
      (fun (number, card, speed) => .chainLinkAdded number card speed) fun
      | .chainLinkAdded number card speed => some (number, card, speed)
      | _ => none,
    case (size.pair (instanceId.pair effectOutcome))
      (fun (number, card, outcome) => .chainLinkResolved number card outcome) fun
      | .chainLinkResolved number card outcome => some (number, card, outcome)
      | _ => none,
    case (size.pair (instanceId.pair text))
      (fun (number, card, reason) => .effectAborted number card reason) fun
      | .effectAborted number card reason => some (number, card, reason)
      | _ => none,
    case size .chainResolved fun
      | .chainResolved length => some length
      | _ => none]

def answerEvents : List (Case GameEvent) :=
  [case seat .priorityPassed fun
      | .priorityPassed player => some player
      | _ => none,
    case seat .windowOpened fun
      | .windowOpened holder => some holder
      | _ => none,
    constant .windowClosed,
    case (seat.pair instanceId) (fun (player, card) => .handLimitDiscard player card) fun
      | .handLimitDiscard player card => some (player, card)
      | _ => none,
    case gameResult .gameEnded fun
      | .gameEnded result => some result
      | _ => none]

def gameEvent : Codec GameEvent :=
  choice (turnEvents ++ battleEvents ++ tableEvents ++ chainEvents ++ answerEvents)

def loggedEvent : Codec LoggedEvent :=
  (word64.pair (word32.pair gameEvent)).map (fun (seq, turn, event) => ⟨seq, turn, event⟩)
    fun entry => (entry.seq, entry.turn, entry.event)

end Snapshot

end CardDuel
