/-
This file reads the log as a record of where the cards are: with one rule for spells that are played from
the hand, the events of a request lead from the zones before it to the zones after it.
-/

import CardDuel.Proofs.Move.Stroke
import Mathlib.Logic.Function.Basic

namespace CardDuel

/-- This tells for each card in which zone it is. -/
abbrev Layout := InstanceId → Option Zone

/-- This tells whether an event can be about the zone of a card. -/
def GameEvent.isOfZones : GameEvent → Bool
  | cardDrawn .. | cardSet .. | cardMoved .. | effectActivated .. => true
  | summoned _ _ kind => kind ≠ .flip
  | _ => false

theorem GameEvent.isOfZones_of_isSilent {event : GameEvent} (silent : event.isSilent = true) :
    event.isOfZones = false := by
  cases event with
  | cardDrawn | cardSet | cardMoved | effectActivated => cases silent
  | summoned card player kind => simpa [isOfZones, isSilent] using silent
  | _ => rfl

/--
This is a way to read events: it knows the row of each card on the field, and which effects play their
card from the hand.
-/
structure Reading where
  home : InstanceId → Zone
  plays : InstanceId → Nat → Bool

namespace Reading

/-- This reads no effect as a move of its card. -/
def literal (reading : Reading) : Reading := { reading with plays := fun _ _ => false }

/-- This is what an event makes of the zones of the cards. -/
def read (reading : Reading) (layout : Layout) : GameEvent → Layout
  | .cardDrawn _ card => Function.update layout card (some .hand)
  | .cardMoved card _ destination => Function.update layout card (some destination)
  | .summoned card _ kind =>
    if kind = .flip then layout else Function.update layout card (some .monsters)
  | .cardSet card _ => Function.update layout card (some (reading.home card))
  | .effectActivated card effect _ =>
    if reading.plays card effect = true ∧ layout card = some .hand then
      Function.update layout card (some .spells)
    else layout
  | _ => layout

/-- This tells that an event tells of a move only from the zone in which its card is. -/
def Fits (layout : Layout) (event : GameEvent) : Prop :=
  ∀ card origin destination, event = .cardMoved card origin destination → layout card = some origin

/-- This tells that events lead from zones to zones, and that each move starts where its card is. -/
inductive Replays (reading : Reading) : Layout → List GameEvent → Layout → Prop where
  | nil (layout : Layout) : Replays reading layout [] layout
  | cons {layout after : Layout} {event : GameEvent} {rest : List GameEvent}
      (fits : Fits layout event) (others : Replays reading (reading.read layout event) rest after) :
      Replays reading layout (event :: rest) after

variable {reading : Reading} {layout before middle after : Layout} {event : GameEvent}
  {events more : List GameEvent}

namespace Replays

/-- Two parts of a log are replayed one after the other. -/
theorem trans (first : reading.Replays before events middle)
    (second : reading.Replays middle more after) :
    reading.Replays before (events ++ more) after := by
  induction first with
  | nil => exact second
  | cons fits _ ih => exact .cons fits (ih second)

theorem single (fits : Fits before event) (same : reading.read before event = after) :
    reading.Replays before [event] after := .cons fits (same ▸ .nil _)

end Replays

theorem fits_of_not_isOfZones (neutral : event.isOfZones = false) : Fits layout event := by
  rintro card origin destination rfl
  cases neutral

theorem read_of_not_isOfZones (neutral : event.isOfZones = false) :
    reading.read layout event = layout := by
  cases event with
  | cardDrawn | cardSet | cardMoved | effectActivated => cases neutral
  | summoned card player kind => exact if_pos (by simpa [GameEvent.isOfZones] using neutral)
  | _ => rfl

/-- Events that are not about zones leave every card where it is. -/
theorem Replays.neutral (neutral : ∀ event ∈ events, event.isOfZones = false) :
    reading.Replays layout events layout := by
  induction events with
  | nil => exact .nil layout
  | cons event rest ih =>
    obtain ⟨first, others⟩ := List.forall_mem_cons.mp neutral
    refine .cons (fits_of_not_isOfZones first) ?_
    rw [read_of_not_isOfZones first]
    exact ih others

end Reading

namespace GameState

/-- This tells in which zones the cards are. -/
def layout (state : GameState) : Layout := fun card => (state.card? card).map CardInstance.zone

variable {before middle after state next : GameState} {card : InstanceId} {found : CardInstance}
  {catalog : Catalog} {ways : Placement → Prop} {reading : Reading} {events : List GameEvent}

theorem layout_eq (known : state.card? card = some found) :
    state.layout card = some found.zone := by
  rw [layout, known]
  rfl

/-- Cards that stand where they stood are in the zones in which they were. -/
theorem layout_of_standings
    (same : after.cards.map CardInstance.standing = before.cards.map CardInstance.standing) :
    after.layout = before.layout := by
  funext card
  have zones := congrArg (List.map fun standing : CardIdentity × Zone × Option Nat => standing.2.1)
    same
  rw [List.map_map, List.map_map] at zones
  have placed := congrArg (fun zones => zones[card.index]?) zones
  simp only [List.getElem?_map] at placed
  exact placed

/-- A move changes the zone of its own card. -/
theorem layout_relocate {zone origin : Zone} {place : Place} {position : Position}
    (moved : state.relocate card zone place position = .ok (origin, next)) :
    next.layout = Function.update state.layout card (some zone) := by
  obtain ⟨found, remaining, known, _, _, _, rfl⟩ := relocate_cases moved
  funext other
  rw [layout, card?_arrived, Function.update_apply]
  split
  · rw [known]
    exact congrArg some (found.zone_relocate _ _ _)
  · rfl

/--
This tells that a reading knows the cards of a state, and that the effects which it takes for plays from
the hand are activations. If cards are played from the hand at all, it takes all activations for such.
-/
structure Reads (reading : Reading) (catalog : Catalog) (ways : Placement → Prop)
    (state : GameState) : Prop where
  home : ∀ card found, state.card? card = some found → reading.home card = homeZone found
  sound : ∀ card found index, state.card? card = some found → reading.plays card index = true →
    ∃ effect, catalog.effect? found.card index = some effect ∧ effect.kind = .activate
  complete : ways .fromHand → ∀ card found index, state.card? card = some found →
    (∃ effect, catalog.effect? found.card index = some effect ∧ effect.kind = .activate) →
      reading.plays card index = true

/-- A reading knows the cards as long as none is exchanged. -/
theorem Reads.of_identities (reads : Reads reading catalog ways before)
    (same : after.cards.map CardInstance.identity = before.cards.map CardInstance.identity) :
    Reads reading catalog ways after := by
  have earlier {card : InstanceId} {new : CardInstance} (known : after.card? card = some new) :
      ∃ old, before.card? card = some old ∧ old.card = new.card ∧ homeZone old = homeZone new := by
    have place := congrArg (fun identities => identities[card.index]?) same
    simp only [List.getElem?_map] at place
    rw [show after.cards[card.index]? = some new from known, Option.map_some] at place
    obtain ⟨old, early, identity⟩ := Option.map_eq_some_iff.mp place.symm
    have category : old.category = new.category := congrArg CardIdentity.category identity
    refine ⟨old, early, congrArg CardIdentity.card identity, ?_⟩
    rw [homeZone, homeZone, CardInstance.isMonster, CardInstance.isMonster, category]
  refine ⟨?_, ?_, ?_⟩
  · intro card new known
    obtain ⟨old, early, _, home⟩ := earlier known
    exact (reads.home card old early).trans home
  · intro card new index known
    obtain ⟨old, early, printed, _⟩ := earlier known
    rw [← printed]
    exact reads.sound card old index early
  · intro plays card new index known
    obtain ⟨old, early, printed, _⟩ := earlier known
    rw [← printed]
    exact reads.complete plays card old index early

/-- The events of an arrival lead its card to its zone. -/
theorem Arrival.replays {zone : Zone} {position : Position} {note : CardInstance → CardInstance}
    (arrival : Arrival card found zone position note events)
    (known : state.card? card = some found) (home : reading.home card = homeZone found) :
    reading.Replays state.layout events (Function.update state.layout card (some zone)) := by
  have fits (destination : Zone) :
      Reading.Fits state.layout (.cardMoved card found.zone destination) := by
    rintro other origin destination ⟨⟩
    exact layout_eq known
  cases arrival with
  | moved pile => exact .single (fits zone) rfl
  | destroyed byBattle =>
    exact .cons (fits .graveyard) (.single (Reading.fits_of_not_isOfZones rfl) rfl)
  | drawn player => exact .single (by rintro _ _ _ ⟨⟩) rfl
  | summoned monster upright comes => exact .single (by rintro _ _ _ ⟨⟩) (if_neg comes)
  | setMonster monster =>
    refine .single (by rintro _ _ _ ⟨⟩) ?_
    rw [Reading.read, home, homeZone, if_pos monster]
  | setSpell other =>
    refine .single (by rintro _ _ _ ⟨⟩) ?_
    rw [Reading.read, home, homeZone, other]
    rfl

/-- A note that a card gets on its arrival does not move it. -/
theorem Arrival.standing {zone : Zone} {position : Position} {note : CardInstance → CardInstance}
    (arrival : Arrival card found zone position note events) (entry : CardInstance) :
    (note entry).standing = entry.standing := by
  cases arrival <;> rfl

/-- This tells that events lead from the zones of one state to those of another with the same cards. -/
structure Traces (reading : Reading) (before : GameState) (events : List GameEvent)
    (after : GameState) : Prop where
  replays : reading.Replays before.layout events after.layout
  identities : after.cards.map CardInstance.identity = before.cards.map CardInstance.identity

namespace Traces

theorem trans {more : List GameEvent} (first : Traces reading before events middle)
    (second : Traces reading middle more after) : Traces reading before (events ++ more) after :=
  ⟨first.replays.trans second.replays, second.identities.trans first.identities⟩

/-- Where no card moves, nothing about zones must be told. -/
theorem quiet
    (same : after.cards.map CardInstance.standing = before.cards.map CardInstance.standing)
    (neutral : ∀ event ∈ events, event.isOfZones = false) : Traces reading before events after := by
  have identities := congrArg (List.map Prod.fst) same
  rw [List.map_map, List.map_map] at identities
  refine ⟨?_, identities⟩
  rw [layout_of_standings same]
  exact .neutral neutral

/-- A card that is changed without being moved is no matter of zones. -/
theorem modifyCard {change : CardInstance → CardInstance}
    (cards : after.cards = (before.modifyCard card change).cards)
    (same : ∀ found, (change found).standing = found.standing)
    (neutral : ∀ event ∈ events, event.isOfZones = false) : Traces reading before events after :=
  .quiet (cards ▸ (Still.modifyCard before card change same).standings) neutral

end Traces

/-- What a lawful deed tells of leads from the zones before it to those after it. -/
theorem Handling.traces (handling : Handling before events after)
    (reads : Reads reading catalog ways before) : Traces reading before events after := by
  cases handling with
  | @arrive next card found zone origin place position note _ known moved arrival =>
    have noted := Still.modifyCard next card note arrival.standing
    have same : ((next.modifyCard card note).recordAll events).cards.map CardInstance.standing =
        next.cards.map CardInstance.standing := by
      rw [cards_recordAll]
      exact noted.standings
    refine ⟨?_, ?_⟩
    · rw [layout_of_standings same, layout_relocate moved]
      exact arrival.replays known (reads.home card found known)
    · rw [cards_recordAll]
      exact noted.identities.trans (relocate_identities moved)
  | shuffle player => exact .quiet rfl (by simp [GameEvent.isOfZones])
  | turn known monsters upright =>
    exact .modifyCard rfl (fun _ => rfl) (by simp [GameEvent.isOfZones])
  | mark cause known field => exact .modifyCard rfl (fun _ => rfl) (by simp)
  | unmark card => exact .modifyCard rfl (fun _ => rfl) (by simp)
  | reckon reckoning =>
    refine .quiet (by rw [cards_recordAll]; rfl) ?_
    cases reckoning <;> simp [GameEvent.isOfZones]
  | grant modifier => exact .quiet rfl (by simp)
  | negate negated => exact .quiet rfl (by simp)
  | free attack => exact .quiet rfl (by simp [GameEvent.isOfZones])
  | refresh catalog => exact .quiet (Still.refresh before catalog).standings (by simp)

/-- The announcement of an activation moves no card that is not played from the hand. -/
theorem announcement_replays {link : ChainLink} {layout : Layout}
    (stays : reading.plays link.source link.effect = false ∨ layout link.source ≠ some .hand) :
    reading.Replays layout [link.announcement] layout := by
  refine .single (by rintro _ _ _ ⟨⟩) (if_neg ?_)
  intro ⟨plays, hand⟩
  rcases stays with none | away
  · simp [none] at plays
  · exact away hand

/-- What a stroke tells of leads from the zones before it to those after it. -/
theorem Stroke.traces (stroke : Stroke catalog ways before events after)
    (reads : Reads reading catalog ways before) : Traces reading before events after := by
  cases stroke with
  | @announce link found known printed otherwise =>
    refine ⟨announcement_replays (.inl ?_), rfl⟩
    by_contra plays
    obtain ⟨effect, listed, kind⟩ :=
      reads.sound link.source found link.effect known (by simpa using plays)
    exact otherwise effect (printed ▸ listed) kind
  | @enter _ link found origin allowed known printed activates hand moved =>
    -- The announcement is read as the move from the hand, which nothing else tells of.
    have plays : reading.plays link.source link.effect = true :=
      reads.complete allowed link.source found link.effect known (printed ▸ activates.kind)
    have told : (before.record link.announcement).layout = before.layout := rfl
    have identities := relocate_identities moved
    refine ⟨.single (by rintro _ _ _ ⟨⟩) ?_, identities⟩
    rw [layout_relocate moved, told]
    exact if_pos ⟨plays, (layout_eq known).trans (congrArg some hand)⟩
  | @reveal link found known printed activates spells =>
    have turned : Traces reading before [.positionChanged link.source .faceUp]
        (((before.record link.announcement).modifyCard link.source
          fun entry => { entry with position := .faceUp }).record
            (.positionChanged link.source .faceUp)) :=
      .modifyCard rfl (fun _ => rfl) (by simp [GameEvent.isOfZones])
    have away : before.layout link.source ≠ some .hand := by
      rw [layout_eq known, spells]
      decide
    exact ⟨(announcement_replays (.inr away)).trans turned.replays, turned.identities⟩
  | handle handling => exact handling.traces reads
  | aside aside => exact .quiet aside.still.standings (by simp)
  | tell silent =>
    exact .quiet rfl (List.forall_mem_singleton.mpr (GameEvent.isOfZones_of_isSilent silent))
  | newTurn seat =>
    exact .quiet (Still.passTurn before seat).standings (by simp [GameEvent.isOfZones])
  | rearrange same => exact .quiet (congrArg _ same.cards) (by simp)

/-- Strokes are traced by what is told of them. -/
theorem Strokes.traces (strokes : Strokes catalog ways before events after)
    (reads : Reads reading catalog ways before) : Traces reading before events after := by
  induction strokes with
  | refl => exact .quiet rfl (by simp)
  | tail _ stroke ih => exact ih.trans (stroke.traces (reads.of_identities ih.identities))

end GameState

/-- This reads the activations of spells and traps in the hand as plays from it. -/
def Reading.of (state : GameState) (catalog : Catalog) : Reading where
  home card := ((state.card? card).map GameState.homeZone).getD .spells
  plays card index := (state.card? card).any fun found =>
    (catalog.effect? found.card index).any fun effect => effect.kind = .activate

namespace GameState

theorem reads_of (state : GameState) (catalog : Catalog) (ways : Placement → Prop) :
    Reads (.of state catalog) catalog ways state := by
  refine ⟨?_, ?_, ?_⟩
  · intro card found known
    simp [Reading.of, known]
  · intro card found index known plays
    simpa only [Reading.of, known, Option.any_some, Option.any_eq_true, decide_eq_true_eq] using plays
  · intro _ card found index known activation
    simpa only [Reading.of, known, Option.any_some, Option.any_eq_true, decide_eq_true_eq] using
      activation

/-- Without plays from the hand, activations need not be read as moves. -/
theorem reads_literal (state : GameState) (catalog : Catalog) :
    Reads (Reading.of state catalog).literal catalog (· ≠ .fromHand) state :=
  ⟨(state.reads_of catalog (· ≠ .fromHand)).home, fun _ _ _ _ plays => (by cases plays),
    fun plays => absurd rfl plays⟩

end GameState

end CardDuel
