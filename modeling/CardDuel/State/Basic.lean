/-
This file defines the state of a duel and how cards move in it.
-/

import CardDuel.Activations
import CardDuel.Chain
import CardDuel.Modifier
import CardDuel.Window
import CardDuel.Zone.Table

namespace CardDuel

structure PlayerState where
  life : UInt32
  zones : PlayerZones
  normalSummonUsed : Bool
  /-- This tells that the player had to draw from an empty deck. -/
  deckOut : Bool
deriving DecidableEq

def PlayerState.initial (config : DuelConfig) : PlayerState where
  life := config.startingLife
  zones := .empty config.monsterZones config.spellZones
  normalSummonUsed := false
  deckOut := false

/-- This is an attack that was declared and is not over. -/
structure PendingAttack where
  attacker : InstanceId
  attackerMoves : UInt32
  target : Option InstanceId
  targetMoves : UInt32
deriving DecidableEq

namespace PendingAttack

def declare (attacker : CardInstance) (target : Option CardInstance) : PendingAttack where
  attacker := attacker.id
  attackerMoves := attacker.moves
  target := target.map CardInstance.id
  targetMoves := (target.map CardInstance.moves).getD 0

def isDirect (attack : PendingAttack) : Bool := attack.target.isNone

end PendingAttack

structure GameState where
  /-- This counts the accepted actions. -/
  version : UInt64
  turn : UInt32
  phase : Phase
  turnPlayer : Seat
  players : PerSeat PlayerState
  /-- This is the card table; the place of a card is its number. -/
  cards : List CardInstance
  chain : Chain
  window : Option ResponseWindow
  pendingAttack : Option PendingAttack
  /-- These are the events that no window was opened for yet. -/
  pendingEvents : List GameEvent
  /-- These are the modifiers that effects have granted. -/
  granted : List Modifier
  /-- These are all modifiers that count now, in the order of their layers. -/
  active : List Modifier
  activations : Activations
  outcome : Option GameResult
  log : List LoggedEvent
  shuffler : Shuffler
deriving DecidableEq

namespace GameState

def initial (config : DuelConfig) (seed : UInt64) (starter : Seat) : GameState where
  version := 0
  turn := 0
  phase := .draw
  turnPlayer := starter
  players := .replicate (.initial config)
  cards := []
  chain := .idle starter
  window := none
  pendingAttack := none
  pendingEvents := []
  granted := []
  active := []
  activations := .empty
  outcome := none
  log := []
  shuffler := .ofSeed seed

def player (state : GameState) (seat : Seat) : PlayerState := state.players.get seat

def modifyPlayer (state : GameState) (seat : Seat) (change : PlayerState → PlayerState) :
    GameState :=
  { state with players := state.players.modify seat change }

def setZones (state : GameState) (seat : Seat) (zones : PlayerZones) : GameState :=
  state.modifyPlayer seat fun player => { player with zones := zones }

def zones (state : GameState) (seat : Seat) : PlayerZones := (state.player seat).zones

/-- This is a physical card, if there is one with the number. -/
def card? (state : GameState) (card : InstanceId) : Option CardInstance := state.cards[card.index]?

def requireCard (state : GameState) (card : InstanceId) : Except Violation CardInstance :=
  match state.card? card with
  | some found => .ok found
  | none => .error (.missingCard card)

def modifyCard (state : GameState) (card : InstanceId) (change : CardInstance → CardInstance) :
    GameState :=
  { state with cards := state.cards.modify card.index change }

/-- This adds a new card on top of the deck of its owner. -/
def spawn (state : GameState) (owner : Seat) (card : CardId) (kind : CardKind) : GameState :=
  let id := InstanceId.ofIndex state.cards.length
  let placed := { state with cards := state.cards ++ [CardInstance.create id card kind owner] }
  placed.setZones owner ((placed.zones owner).insert .deck id .top).1

/-- This moves a card to a zone of its owner and tells from which zone it came. -/
def relocate (state : GameState) (card : InstanceId) (zone : Zone) (place : Place)
    (position : Position) : Except Violation (Zone × GameState) := do
  let moved ← state.requireCard card
  let zones := state.zones moved.owner
  if zone.isField ∧ (zones.freeSlot? zone).isNone then
    throw (.noFreeZone moved.owner zone)
  match zones.remove? moved.zone card with
  | none => throw (.notInZone card moved.zone)
  | some remaining =>
    let (filled, slot) := remaining.insert zone card place
    let shown := if zone.isField then slot else none
    let next := (state.setZones moved.owner filled).modifyCard card fun entry =>
      entry.relocate zone shown position
    return (moved.zone, next)

/-- This writes an event into the log; an event that can be followed also waits for a window. -/
def record (state : GameState) (event : GameEvent) : GameState :=
  { state with
    pendingEvents :=
      if event.canTrigger then state.pendingEvents ++ [event] else state.pendingEvents
    log := state.log ++ [⟨state.log.length.toUInt64, state.turn, event⟩] }

/-- This is the player who may act or answer. -/
def priorityHolder (state : GameState) : Seat :=
  if state.chain.isEmpty then
    match state.window with
    | some window => window.holder
    | none => state.turnPlayer
  else state.chain.priority

/-- This tells whether nothing waits for an answer. -/
def isOpen (state : GameState) : Bool :=
  state.chain.status = .idle && state.window.isNone && state.pendingAttack.isNone

def ensureRunning (state : GameState) : Except Rejection Unit :=
  if state.outcome.isSome then .error .gameOver else .ok ()

/-! What the updates leave alone -/

section Updates

variable (state : GameState) (event : GameEvent) (seat other : Seat) (zones : PlayerZones)
  (card : InstanceId) (change : CardInstance → CardInstance)

@[simp] theorem player_record : (state.record event).player other = state.player other := rfl

@[simp] theorem zones_record : (state.record event).zones other = state.zones other := rfl

@[simp] theorem cards_record : (state.record event).cards = state.cards := rfl

@[simp] theorem card?_record : (state.record event).card? card = state.card? card := rfl

@[simp] theorem zones_modifyCard :
    (state.modifyCard card change).zones other = state.zones other := rfl

theorem player_modifyPlayer (update : PlayerState → PlayerState) :
    (state.modifyPlayer seat update).player other =
      if other = seat then update (state.player other) else state.player other :=
  PerSeat.get_modify state.players seat other update

theorem zones_setZones :
    (state.setZones seat zones).zones other = if other = seat then zones else state.zones other := by
  rw [GameState.zones, setZones, player_modifyPlayer]
  by_cases same : other = seat
  · simp [same]
  · simp [same, GameState.zones]

@[simp] theorem cards_setZones : (state.setZones seat zones).cards = state.cards := rfl

theorem card?_modifyCard (found : InstanceId) :
    (state.modifyCard card change).card? found =
      if found = card then (state.card? found).map change else state.card? found := by
  by_cases same : found = card
  · subst same
    simp [modifyCard, card?]
  · have different : card.index ≠ found.index := fun equal =>
      same (InstanceId.index_inj.mp equal).symm
    simp [modifyCard, card?, same, different]

end Updates

end GameState

end CardDuel
