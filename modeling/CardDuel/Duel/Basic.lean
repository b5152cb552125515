/-
This file sets up duels and plays them.
-/

import CardDuel.Duel.View
import CardDuel.Play.Step

namespace CardDuel

inductive SetupError where
  | config (error : ConfigError)
  | unknownCard (player : Seat) (card : CardId)
  | deckTooSmall (player : Seat) (size needed : Nat)
  | violated (violation : Violation)
deriving DecidableEq

def SetupError.message : SetupError → String
  | config error => error.message
  | unknownCard player card => player.label ++ " deck contains unknown card " ++ card.label
  | deckTooSmall player size needed =>
    player.label ++ " deck has " ++ toString size ++ " cards, needs at least " ++ toString needed
  | violated violation => "setup failed: " ++ violation.message

/-- This is what a duel is set up from. The first card of a deck list is its top. -/
structure DuelSetup where
  rules : Rules
  decks : PerSeat (List CardId)
  seed : UInt64
  shuffle : Bool
  firstPlayer : Seat

structure Duel where
  rules : Rules
  state : GameState

namespace DuelSetup

/-- This refuses a deck with cards that are not in the catalog, or with too few cards. -/
def checkDeck (setup : DuelSetup) (player : Seat) : Except SetupError Unit :=
  let deck := setup.decks.get player
  match deck.find? fun card => !setup.rules.catalog.contains card with
  | some card => .error (.unknownCard player card)
  | none =>
    if deck.length < setup.rules.config.startingHand then
      .error (.deckTooSmall player deck.length setup.rules.config.startingHand)
    else .ok ()

/-- This puts a card of the catalog on top of a player's deck. -/
def spawnCard (setup : DuelSetup) (player : Seat) (state : GameState) (card : CardId) : GameState :=
  match setup.rules.catalog.get? card with
  | some template => state.spawn player card template.kind
  | none => state

/-- This puts all cards of a player into the deck, the last one first. -/
def spawnDeck (setup : DuelSetup) (state : GameState) (player : Seat) : GameState :=
  (setup.decks.get player).reverse.foldl (setup.spawnCard player) state

/-- This draws a number of cards, or as many as there are. -/
def drawCards (player : Seat) : (count : Nat) → GameState → Except Violation GameState
  | 0, state => .ok state
  | count + 1, state =>
    match (state.zones player).topOfDeck? with
    | none => .ok state
    | some card => do
      let next ← (Change.draw player card).apply state
      drawCards player count next

/-- This shuffles the deck of a player if it is asked for, and draws the first hand. -/
def dealHand (setup : DuelSetup) (state : GameState) (player : Seat) :
    Except Violation GameState := do
  let shuffled ← if setup.shuffle then (Change.shuffleDeck player).apply state else .ok state
  drawCards player setup.rules.config.startingHand shuffled

def withDecks (setup : DuelSetup) : GameState :=
  Seat.both.foldl setup.spawnDeck
    (.initial setup.rules.config setup.seed setup.firstPlayer)

def build (setup : DuelSetup) : Except SetupError Duel := do
  setup.rules.config.validate.mapError .config
  setup.checkDeck .first
  setup.checkDeck .second
  let dealt ← ((Seat.startingWith setup.firstPlayer).foldlM setup.dealHand
    setup.withDecks).mapError .violated
  return ⟨setup.rules, (dealt.startTurn setup.rules).settle setup.rules.catalog⟩

end DuelSetup

/-- This is what a player learns from an accepted action. -/
structure StepReport where
  version : UInt64
  events : List LoggedEvent
  view : DuelView
deriving DecidableEq

namespace Duel

/-- This tells how the duel ended, if it is over. -/
def outcome (duel : Duel) : Option GameResult := duel.state.outcome

/-- This takes over a new state and reports the events that it added. -/
def commit (duel : Duel) (player : Seat) (next : GameState) : StepReport × Duel :=
  (⟨next.version, next.log.drop duel.state.log.length, .of next player⟩,
    { duel with state := next })

def perform (duel : Duel) (player : Seat) (action : Action) :
    Except Rejection (StepReport × Duel) :=
  (duel.state.step duel.rules player action).map (duel.commit player)

def forceTimeout (duel : Duel) (player : Seat) : Except Rejection (StepReport × Duel) :=
  (duel.state.timeout duel.rules player).map (duel.commit player)

def legalActions (duel : Duel) (player : Seat) : List Action :=
  duel.state.legalActions duel.rules player

def view (duel : Duel) (viewer : Seat) : DuelView := .of duel.state viewer

end Duel

end CardDuel
