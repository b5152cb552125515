/-
This file says once what a lawful deed does to the cards, to the life points and to the log: it moves one
card in one of few ways, shuffles a deck, turns or marks a card of the field, or changes the life points of
one player.
-/

import CardDuel.Proofs.Continuous.Recompute
import CardDuel.Proofs.Move.Basic

namespace CardDuel

def GameEvent.isTurnStart : GameEvent → Bool
  | turnStarted .. => true
  | _ => false

namespace GameState

def recordAll (state : GameState) (events : List GameEvent) : GameState :=
  events.foldl record state

section RecordAll

variable (state : GameState) (events : List GameEvent)

@[simp] theorem recordAll_nil : state.recordAll [] = state := rfl

@[simp] theorem recordAll_cons (event : GameEvent) :
    state.recordAll (event :: events) = (state.record event).recordAll events := rfl

/-- Events can be written in two parts. -/
theorem recordAll_append (more : List GameEvent) :
    state.recordAll (events ++ more) = (state.recordAll events).recordAll more := List.foldl_append

/-- Events change nothing but the log and what waits for a window. -/
theorem recordAll_eq : ∃ pending log,
    state.recordAll events = { state with pendingEvents := pending, log := log } := by
  induction events generalizing state with
  | nil => exact ⟨_, _, rfl⟩
  | cons event rest ih =>
    obtain ⟨pending, log, same⟩ := ih (state.record event)
    exact ⟨pending, log, same⟩

@[simp] theorem cards_recordAll : (state.recordAll events).cards = state.cards := by
  obtain ⟨_, _, same⟩ := state.recordAll_eq events
  rw [same]

@[simp] theorem player_recordAll (seat : Seat) :
    (state.recordAll events).player seat = state.player seat := by
  obtain ⟨_, _, same⟩ := state.recordAll_eq events
  rw [same]
  rfl

end RecordAll

/--
This is how a card comes into a zone by a lawful deed: its position there, the note that it gets, and what
is told of it.
-/
inductive Arrival (card : InstanceId) (found : CardInstance) :
    Zone → Position → (CardInstance → CardInstance) → List GameEvent → Prop where
  | moved {zone : Zone} (pile : zone.isField = false) :
      Arrival card found zone (.inPile zone) id [.cardMoved card found.zone zone]
  | destroyed (byBattle : Bool) : Arrival card found .graveyard .faceUp id
      [.cardMoved card found.zone .graveyard, .destroyed card byBattle]
  | drawn (player : Seat) : Arrival card found .hand .faceDown id [.cardDrawn player card]
  | summoned {position : Position} {kind : SummonKind} (monster : found.isMonster = true)
      (upright : position.isUpright = true) (comes : kind ≠ .flip) :
      Arrival card found .monsters position (fun entry => { entry with summonedThisTurn := true })
        [.summoned card found.owner kind]
  | setMonster (monster : found.isMonster = true) : Arrival card found .monsters .faceDownDefense
      (fun entry => { entry with setThisTurn := true }) [.cardSet card found.owner]
  | setSpell (other : found.isMonster = false) : Arrival card found .spells .faceDown
      (fun entry => { entry with setThisTurn := true }) [.cardSet card found.owner]

/-- This is a new number of life points of a player, with what is told of it. -/
inductive Reckoning (seat : Seat) (life : UInt32) : UInt32 → List GameEvent → Prop where
  | hurt {dealt : UInt32} (enough : dealt ≤ life) (byBattle : Bool) :
      Reckoning seat life (life - dealt) [.damage seat dealt byBattle]
  | unhurt : Reckoning seat life life []
  | gained (amount : UInt32) :
      Reckoning seat life (Change.addLife life amount) [.lifeGained seat amount]
  | paid {amount : UInt32} (enough : amount ≤ life) :
      Reckoning seat life (life - amount) [.lifePaid seat amount]

/-- This is what a lawful deed does, with what is told of it. -/
inductive Handling : GameState → List GameEvent → GameState → Prop where
  | arrive {before next : GameState} {card : InstanceId} {found : CardInstance} {zone origin : Zone}
      {place : Place} {position : Position} {note : CardInstance → CardInstance}
      {events : List GameEvent} (known : before.card? card = some found)
      (moved : before.relocate card zone place position = .ok (origin, next))
      (arrival : Arrival card found zone position note events) :
      Handling before events ((next.modifyCard card note).recordAll events)
  | shuffle (state : GameState) (player : Seat) :
      Handling state [.deckShuffled player] ((state.shuffled player).record (.deckShuffled player))
  | turn {state : GameState} {card : InstanceId} {found : CardInstance} {position : Position}
      (known : state.card? card = some found) (monsters : found.zone = .monsters)
      (upright : position.isUpright = true) : Handling state [.positionChanged card position]
        ((state.modifyCard card fun entry => { entry with position := position }).record
          (.positionChanged card position))
  | mark {state : GameState} {card : InstanceId} {found : CardInstance} (cause : Destruction)
      (known : state.card? card = some found) (field : found.isOnField = true) : Handling state []
        (state.modifyCard card fun entry =>
          { entry with destruction := some (entry.destruction.getD cause) })
  | unmark (state : GameState) (card : InstanceId) :
      Handling state [] (state.modifyCard card fun entry => { entry with destruction := none })
  | reckon {state : GameState} {seat : Seat} {life : UInt32} {events : List GameEvent}
      (reckoning : Reckoning seat (state.player seat).life life events) :
      Handling state events ((Change.setLife state seat life).recordAll events)
  | grant (state : GameState) (modifier : Modifier) :
      Handling state [] { state with granted := state.granted ++ [modifier] }
  | negate {state : GameState} {number : Nat} {chain : Chain}
      (negated : state.chain.negate? number = some chain) :
      Handling state [] { state with chain := chain }
  | free (state : GameState) (attack : PendingAttack) :
      Handling state [.attackNegated attack.attacker] (state.withoutAttack attack)
  | refresh (state : GameState) (catalog : Catalog) : Handling state [] (state.refresh catalog)

variable {state next : GameState} {card : InstanceId}

/-- A card that is not there cannot be changed. -/
theorem modifyCard_id (state : GameState) (card : InstanceId) : state.modifyCard card id = state := by
  rw [modifyCard, List.modify_id]

/-- A relocation tells the zone that its card comes from. -/
theorem relocate_origin {zone origin : Zone} {place : Place} {position : Position}
    (moved : state.relocate card zone place position = .ok (origin, next)) :
    ∃ found, state.card? card = some found ∧ found.zone = origin := by
  obtain ⟨found, _, known, same, _⟩ := relocate_cases moved
  exact ⟨found, known, same.symm⟩

namespace Handling

/-- A card comes into a pile or onto the field without a note. -/
theorem of_move {found : CardInstance} {zone origin : Zone} {place : Place} {position : Position}
    {events : List GameEvent} (known : state.card? card = some found)
    (moved : state.relocate card zone place position = .ok (origin, next))
    (arrival : Arrival card found zone position id events) :
    Handling state events (next.recordAll events) := by
  have handled := Handling.arrive known moved arrival
  rwa [modifyCard_id] at handled

/-- Damage is a handling, also when it comes to nothing. -/
theorem of_damage (state : GameState) (seat : Seat) (amount : UInt32) (byBattle : Bool)
    (made : (Change.damage seat amount byBattle).apply state = .ok next) :
    ∃ events, Handling state events next := by
  obtain rfl := Except.ok.inj made
  have enough : min amount (state.player seat).life ≤ (state.player seat).life := by
    show (if amount ≤ (state.player seat).life then amount else (state.player seat).life) ≤ _
    split
    · assumption
    · exact UInt32.le_refl _
  split
  · exact ⟨_, .reckon (.hurt enough byBattle)⟩
  · next nothing =>
    have zero : min amount (state.player seat).life = 0 := by
      rw [← UInt32.toNat_inj]
      simpa [UInt32.lt_iff_toNat_lt] using nothing
    rw [zero, UInt32.sub_zero]
    exact ⟨_, .reckon .unhurt⟩

end Handling

end GameState

open GameState

/-- A lawful change is one of the things that lawful deeds do. -/
theorem Change.Lawful.handling {change : Change} {state next : GameState}
    (lawful : change.Lawful state) (made : change.apply state = .ok next) :
    ∃ events, Handling state events next := by
  cases change with
  | moveCard card destination place =>
    simp only [Change.apply, bind_eq_ok, pure_eq_ok] at made
    obtain ⟨⟨origin, middle⟩, moved, rfl⟩ := made
    obtain ⟨found, known, rfl⟩ := relocate_origin moved
    exact ⟨_, .of_move known moved (.moved (by simpa [Change.Lawful, Change.isPlain] using lawful))⟩
  | draw player card =>
    simp only [Change.apply, bind_eq_ok, pure_eq_ok, guard_eq_ok] at made
    obtain ⟨_, ⟨_, middle⟩, moved, rfl⟩ := made
    obtain ⟨found, known, _⟩ := relocate_origin moved
    exact ⟨_, .of_move known moved (.drawn player)⟩
  | shuffleDeck player =>
    obtain rfl := Except.ok.inj made
    exact ⟨_, .shuffle state player⟩
  | summon card position kind =>
    simp only [Change.apply, bind_eq_ok, pure_eq_ok, guard_eq_ok, requireCard_eq_ok] at made
    obtain ⟨found, known, monster, ⟨_, middle⟩, moved, rfl⟩ := made
    have plain : position.isUpright = true ∧ kind ≠ .flip := by
      simpa [Change.Lawful, Change.isPlain] using lawful
    exact ⟨_, .arrive known moved (.summoned (by simpa using monster) plain.1 plain.2)⟩
  | setMonster card =>
    simp only [Change.apply, bind_eq_ok, pure_eq_ok, requireCard_eq_ok] at made
    obtain ⟨found, known, ⟨_, middle⟩, moved, rfl⟩ := made
    exact ⟨_, .arrive known moved (.setMonster (lawful found known))⟩
  | placeSpell card faceUp =>
    obtain ⟨rfl, spell⟩ := lawful
    simp only [Change.apply, bind_eq_ok, pure_eq_ok, requireCard_eq_ok] at made
    obtain ⟨found, known, ⟨_, middle⟩, moved, rfl⟩ := made
    exact ⟨_, .arrive known moved (.setSpell (spell found known))⟩
  | changePosition card position =>
    simp only [Change.apply, bind_eq_ok, pure_eq_ok, onField_eq_ok] at made
    obtain ⟨_, ⟨found, known, _, rfl⟩, rfl⟩ := made
    exact ⟨_, .turn known (lawful.2 found known) lawful.1⟩
  | damage player amount byBattle => exact Handling.of_damage state player amount byBattle made
  | gainLife player amount =>
    obtain rfl := Except.ok.inj made
    exact ⟨_, .reckon (.gained amount)⟩
  | payLife player amount =>
    obtain rfl := Except.ok.inj made
    have enough : amount ≤ (state.player player).life := lawful
    rw [Change.subtractLife, if_pos enough]
    exact ⟨_, .reckon (.paid enough)⟩
  | grant modifier =>
    obtain rfl := Except.ok.inj made
    exact ⟨_, .grant state modifier⟩
  | markDestroyed card cause =>
    obtain ⟨found, known, field, rfl⟩ := onField_eq_ok.mp made
    exact ⟨_, .mark cause known field⟩
  | negateLink number =>
    simp only [Change.apply] at made
    split at made
    · next chain negated =>
      obtain rfl := Except.ok.inj made
      exact ⟨_, .negate negated⟩
    · simp at made
  | negateAttack =>
    simp only [Change.apply] at made
    split at made
    · next attack waiting =>
      obtain rfl := Except.ok.inj made
      exact ⟨_, .free state attack⟩
    · simp at made

namespace GameState

variable {state next : GameState}

/-- A marked card goes to the graveyard, or it loses its mark. -/
theorem destroyMarked_handling (state : GameState) (entry : InstanceId × Destruction) :
    ∃ events, Handling state events (state.destroyMarked entry) := by
  obtain ⟨card, cause⟩ := entry
  rw [destroyMarked]
  split
  · next origin middle moved =>
    obtain ⟨found, known, rfl⟩ := relocate_origin moved
    exact ⟨_, .of_move known moved (.destroyed _)⟩
  · exact ⟨_, .unmark state card⟩

/-- Every lawful deed is a handling, with the events that it tells. -/
theorem Deed.handling {catalog : Catalog} (deed : Deed catalog.MayMake state next) :
    ∃ events, Handling state events next := by
  cases deed with
  | change change allowed made => exact allowed.lawful.handling made
  | refresh catalog => exact ⟨_, .refresh state catalog⟩
  | destroy entry => exact state.destroyMarked_handling entry

/-! What is told -/

/-- This tells that events are written into the log one after the other, and that no turn begins. -/
structure Logs (before : GameState) (events : List GameEvent) (after : GameState) : Prop where
  log : after.log = (before.recordAll events).log
  turn : after.turn = before.turn
  within : ∀ event ∈ events, event.isTurnStart = false

theorem turn_recordAll (state : GameState) (events : List GameEvent) :
    (state.recordAll events).turn = state.turn := by
  obtain ⟨_, _, same⟩ := state.recordAll_eq events
  rw [same]

/-- The log after some events depends on the log and the turn before. -/
theorem log_recordAll_congr {before after : GameState} (log : after.log = before.log)
    (turn : after.turn = before.turn) (events : List GameEvent) :
    (after.recordAll events).log = (before.recordAll events).log := by
  induction events generalizing before after with
  | nil => exact log
  | cons event rest ih => exact ih (by simp only [record, log, turn]) turn

namespace Logs

variable {before middle after : GameState} {events more : List GameEvent}

/-- Nothing is told where log and turn stay as they are. -/
theorem nothing (log : after.log = before.log) (turn : after.turn = before.turn) :
    Logs before [] after := ⟨log, turn, by simp⟩

theorem trans (first : Logs before events middle) (second : Logs middle more after) :
    Logs before (events ++ more) after where
  log := by
    rw [second.log, recordAll_append]
    exact log_recordAll_congr first.log (first.turn.trans (before.turn_recordAll events).symm) more
  turn := second.turn.trans first.turn
  within := fun event member =>
    (List.mem_append.mp member).elim (first.within event) (second.within event)

/-- Events that start no turn can be told on top of an unchanged log. -/
theorem recordAll (log : middle.log = before.log) (turn : middle.turn = before.turn)
    (within : ∀ event ∈ events, event.isTurnStart = false) :
    Logs before events (middle.recordAll events) :=
  ⟨log_recordAll_congr log turn events, (middle.turn_recordAll events).trans turn, within⟩

/-- One event that starts no turn can be told on top of an unchanged log. -/
theorem record {event : GameEvent} (log : middle.log = before.log)
    (turn : middle.turn = before.turn) (within : event.isTurnStart = false) :
    Logs before [event] (middle.record event) :=
  recordAll log turn (List.forall_mem_singleton.mpr within)

/-- The events of the log are those before and those that are told. -/
theorem events_log (tells : Logs before events after) : after.log.map LoggedEvent.event =
    before.log.map LoggedEvent.event ++ events := by
  rw [tells.log]
  clear tells
  induction events generalizing before with
  | nil => simp
  | cons event rest ih => simp [ih, GameState.record]

end Logs

/-- A relocation itself is told nowhere. -/
theorem log_relocate {zone origin : Zone} {place : Place} {position : Position} {card : InstanceId}
    (moved : state.relocate card zone place position = .ok (origin, next)) :
    next.log = state.log ∧ next.turn = state.turn := by
  obtain ⟨_, _, _, _, _, _, rfl⟩ := relocate_cases moved
  exact ⟨rfl, rfl⟩

/-- A handling tells exactly its events. -/
theorem Handling.tells {before after : GameState} {events : List GameEvent}
    (handling : Handling before events after) : Logs before events after := by
  cases handling with
  | arrive known moved arrival =>
    obtain ⟨log, turn⟩ := log_relocate moved
    exact .recordAll log turn (by cases arrival <;> simp [GameEvent.isTurnStart])
  | shuffle player => exact .record rfl rfl rfl
  | turn known monsters upright => exact .record rfl rfl rfl
  | mark cause known field => exact .nothing rfl rfl
  | unmark card => exact .nothing rfl rfl
  | reckon reckoning =>
    exact .recordAll rfl rfl (by cases reckoning <;> simp [GameEvent.isTurnStart])
  | grant modifier => exact .nothing rfl rfl
  | negate negated => exact .nothing rfl rfl
  | free attack => exact .record rfl rfl rfl
  | refresh catalog => exact .nothing rfl rfl

/-! One card -/

section Entries

variable (state : GameState) (card : InstanceId) (spot : Nat)

/-- A change of one card is a change of one entry of the table. -/
theorem getElem?_modifyCard (change : CardInstance → CardInstance) :
    (state.modifyCard card change).cards[spot]? =
      if spot = card.index then state.cards[spot]?.map change else state.cards[spot]? := by
  rw [modifyCard, List.getElem?_modify]
  by_cases here : spot = card.index
  · rw [if_pos here, here]
    simp
  · rw [if_neg here]
    simp [Ne.symm here]

/-- An arrival changes one entry of the table. -/
theorem getElem?_arrived (owner : Seat) (remaining : PlayerZones) (zone : Zone) (place : Place)
    (position : Position) : (state.arrived owner remaining card zone place position).cards[spot]? =
      if spot = card.index then state.cards[spot]?.map fun entry => entry.relocate zone
        (if zone.isField then (remaining.insert zone card place).2 else none) position
      else state.cards[spot]? := getElem?_modifyCard _ card spot _

/-- A turn that is passed clears the flags of every entry. -/
theorem getElem?_passTurn (seat : Seat) :
    (state.passTurn seat).cards[spot]? = state.cards[spot]?.map CardInstance.resetTurnFlags :=
  List.getElem?_map

/-- A refresh changes only what lasting changes have made of a card. -/
theorem bare_refresh {catalog : Catalog} {state : GameState} {spot : Nat} {new : CardInstance}
    (there : (state.refresh catalog).cards[spot]? = some new) :
    ∃ old, state.cards[spot]? = some old ∧ new.bare = old.bare := by
  have bare := congrArg (fun cards => cards[spot]?) (state.sameBoard_refresh catalog).cards
  simp only [List.getElem?_map, there, Option.map_some] at bare
  obtain ⟨old, early, same⟩ := Option.map_eq_some_iff.mp bare.symm
  exact ⟨old, early, same.symm⟩

end Entries

end GameState

/-- This is what becomes of one card by a lawful deed. -/
inductive CardInstance.Handled (old : CardInstance) : CardInstance → Prop where
  | kept {new : CardInstance} (same : new.bare = old.bare) : old.Handled new
  | turned {position : Position} (monsters : old.zone = .monsters)
      (upright : position.isUpright = true) : old.Handled { old with position := position }
  | marked (cause : Destruction) (field : old.isOnField = true) :
      old.Handled { old with destruction := some cause }
  | unmarked : old.Handled { old with destruction := none }
  | arrived {card : InstanceId} {zone : Zone} {slot : Option Nat} {position : Position}
      {note : CardInstance → CardInstance} {events : List GameEvent}
      (arrival : GameState.Arrival card old zone position note events) :
      old.Handled (note (old.relocate zone slot position))

namespace GameState

variable {before after : GameState} {card : InstanceId} {events : List GameEvent}

/-- A card after a change of one card is the card before it, or the changed one. -/
theorem of_modifyCard (relates : CardInstance → CardInstance → Prop)
    {change : CardInstance → CardInstance} {place : Nat} {new : CardInstance}
    (same : ∀ found, relates found found)
    (changed : ∀ found, before.card? card = some found → relates found (change found))
    (there : (before.modifyCard card change).cards[place]? = some new) :
    ∃ old, before.cards[place]? = some old ∧ relates old new := by
  rw [getElem?_modifyCard] at there
  split at there
  · next here =>
    obtain ⟨old, early, rfl⟩ := Option.map_eq_some_iff.mp there
    subst here
    exact ⟨old, early, changed old early⟩
  · exact ⟨new, there, same new⟩

/-- Each entry of the table after a handling was there before, and was handled in one of the known ways. -/
theorem Handling.entry (handling : Handling before events after) {place : Nat} {new : CardInstance}
    (there : after.cards[place]? = some new) :
    ∃ old, before.cards[place]? = some old ∧ old.Handled new := by
  have same (found : CardInstance) : found.Handled found := .kept rfl
  cases handling with
  | @arrive middle card found zone _ targetPlace position note _ known moved arrival =>
    obtain ⟨other, remaining, knownToo, _, _, _, rfl⟩ := relocate_cases moved
    obtain rfl := Option.some.inj (known.symm.trans knownToo)
    rw [cards_recordAll, getElem?_modifyCard, getElem?_arrived] at there
    split at there
    · next here =>
      subst here
      rw [show before.cards[card.index]? = some found from known] at there
      obtain rfl := Option.some.inj there
      exact ⟨found, known, .arrived arrival⟩
    · exact ⟨new, there, same new⟩
  | shuffle player => exact ⟨new, there, same new⟩
  | turn known monsters upright =>
    refine of_modifyCard CardInstance.Handled same ?_ there
    intro found knownToo
    obtain rfl := Option.some.inj (known.symm.trans knownToo)
    exact .turned monsters upright
  | mark cause known field =>
    refine of_modifyCard CardInstance.Handled same ?_ there
    intro found knownToo
    obtain rfl := Option.some.inj (known.symm.trans knownToo)
    exact .marked _ field
  | unmark card => exact of_modifyCard CardInstance.Handled same (fun found _ => .unmarked) there
  | reckon reckoning =>
    rw [cards_recordAll] at there
    exact ⟨new, there, same new⟩
  | grant modifier => exact ⟨new, there, same new⟩
  | negate negated => exact ⟨new, there, same new⟩
  | free attack => exact ⟨new, there, same new⟩
  | refresh catalog =>
    obtain ⟨old, early, same⟩ := bare_refresh there
    exact ⟨old, early, .kept same⟩

end GameState

end CardDuel
