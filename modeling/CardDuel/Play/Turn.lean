/-
This file defines how turns begin, go on and end.
-/

import CardDuel.Play.Rules
import CardDuel.State.Sweep

namespace CardDuel

namespace GameState

def enterPhase (state : GameState) (phase : Phase) : GameState :=
  { state with phase := phase }.record (.phaseChanged phase)

/-- This draws the top card of a player's deck; an empty deck is noted instead. -/
def drawForTurn (state : GameState) (player : Seat) : GameState :=
  match (state.zones player).topOfDeck? with
  | some card => Change.applyPossible [.draw player card] state
  | none => state.modifyPlayer player fun entry => { entry with deckOut := true }

/-- This gives the turn to a player and forgets what happened in the last turn. -/
def passTurn (state : GameState) (player : Seat) : GameState :=
  let turn := state.turn + 1
  { state with
    turn := turn
    turnPlayer := player
    players := state.players.map fun entry => { entry with normalSummonUsed := false }
    cards := state.cards.map CardInstance.resetTurnFlags
    activations := state.activations.resetTurn
    chain := .idle player }.record (.turnStarted player turn)

/-- This tells whether the player of a turn draws a card. -/
def drawsThisTurn (state : GameState) (config : DuelConfig) : Bool :=
  state.turn > 1 || config.firstPlayerDraws

def nextPlayer (state : GameState) : Seat :=
  if state.turn = 0 then state.turnPlayer else state.turnPlayer.opponent

/-- This starts the next turn, up to its first main phase unless the draw ends the duel. -/
def startTurn (state : GameState) (rules : Rules) : GameState :=
  let begun := (state.passTurn state.nextPlayer).enterPhase .draw
  let drawn :=
    if begun.drawsThisTurn rules.config then begun.drawForTurn begun.turnPlayer else begun
  let swept := drawn.sweep rules.catalog
  if swept.outcome.isSome then swept else (swept.enterPhase .standby).enterPhase .main1

def enterBattlePhase (state : GameState) (config : DuelConfig) : Except Rejection GameState :=
  let blocked := state.turn = 1 && !config.firstTurnBattle
  if state.phase ≠ .main1 ∨ blocked then .error (.wrongPhase .enterBattlePhase state.phase)
  else .ok (state.enterPhase .battle)

def enterMainPhase2 (state : GameState) : Except Rejection GameState :=
  if state.phase ≠ .battle then .error (.wrongPhase .enterMainPhase2 state.phase)
  else .ok (state.enterPhase .main2)

/-- This sends a card from the hand to the graveyard because the hand is too large. -/
def discardExcess (player : Seat) (state : GameState) (card : InstanceId) : GameState :=
  match (Change.toGraveyard card).apply state with
  | .ok next => next.record (.handLimitDiscard player card)
  | .error _ => state

/-- This discards the newest cards of a hand that is larger than a limit. -/
def discardToLimit (state : GameState) (player : Seat) (limit : Nat) : GameState :=
  let excess := (state.zones player).hand.length - limit
  ((state.zones player).newestInHand excess).foldl (discardExcess player) state

def endTurn (state : GameState) (rules : Rules) : Except Rejection GameState :=
  if !state.phase.isPlayable then .error (.wrongPhase .endTurn state.phase)
  else
    let ending := state.enterPhase .ending
    let discarded := ending.discardToLimit ending.turnPlayer rules.config.handLimit
    let swept := (discarded.expire .endOfTurn).sweep rules.catalog
    .ok (if swept.outcome.isSome then swept else swept.startTurn rules)

end GameState

end CardDuel
