/-
This file tells why effects are aborted: the table refuses them, but they never act on the wrong kind of
thing or on a card that does not exist.
-/

import CardDuel.Proofs.Catalog.Load
import CardDuel.Proofs.Move.Basic

namespace CardDuel

/-- This tells whether an effect is at fault, and not the table on which it acts. -/
def Violation.isStructural : Violation → Bool
  | missingCard _ | wrongTargetKind => true
  | _ => false

/-- This tells that a computation is not refused for the fault of an effect. -/
def Regular {α : Type} (attempt : Except Violation α) : Prop :=
  ∀ violation, attempt = .error violation → violation.isStructural = false

section Regular

variable {α β : Type}

@[simp] theorem regular_pure (value : α) : Regular (pure value) :=
  fun _ refused => (pure_eq_error.mp refused).elim

@[simp] theorem regular_ok (value : α) : Regular (.ok value) := regular_pure value

@[simp] theorem regular_error {violation : Violation} :
    Regular (.error violation : Except Violation α) ↔ violation.isStructural = false := by
  simp [Regular]

@[simp] theorem regular_throw {violation : Violation} :
    Regular (throw violation : Except Violation α) ↔ violation.isStructural = false := regular_error

@[simp] theorem regular_bind {first : Except Violation α} {rest : α → Except Violation β} :
    Regular (first >>= rest) ↔
      Regular first ∧ ∀ value, first = .ok value → Regular (rest value) := by
  simp only [Regular, bind_eq_error]
  exact ⟨fun all => ⟨fun violation refused => all violation (.inl refused),
      fun value accepted violation refused => all violation (.inr ⟨value, accepted, refused⟩)⟩,
    fun ⟨first, rest⟩ violation refused => refused.elim (first violation)
      fun ⟨value, accepted, refused⟩ => rest value accepted violation refused⟩

@[simp] theorem regular_map {change : α → β} {attempt : Except Violation α} :
    Regular (change <$> attempt) ↔ Regular attempt := by
  simp only [map_eq_pure_bind, regular_bind, regular_pure, implies_true, and_true]

@[simp] theorem regular_ite {condition : Prop} [Decidable condition]
    {yes no : Except Violation α} :
    Regular (if condition then yes else no) ↔
      (condition → Regular yes) ∧ (¬condition → Regular no) := by
  by_cases holds : condition <;> simp [holds]

/-- Steps for several items are regular if each of them is. -/
theorem regular_mapM {step : α → Except Violation β} {items : List α}
    (each : ∀ item ∈ items, Regular (step item)) : Regular (items.mapM step) := by
  induction items with
  | nil => simp
  | cons item rest ih =>
    simp only [List.mapM_cons, regular_bind, regular_pure, implies_true, and_true]
    exact ⟨each item (List.mem_cons_self ..), fun _ _ =>
      ih fun other member => each other (List.mem_cons_of_mem item member)⟩

end Regular

namespace GameState

variable {state next : GameState} {card : InstanceId} {seat : Seat}

/-- A card that exists is found. -/
theorem Knows.require (known : state.Knows card) : Regular (state.requireCard card) := by
  obtain ⟨found, present⟩ := Option.isSome_iff_exists.mp (knows_iff.mp known)
  simp [requireCard, present]

/-! Changes -/

/-- A known card is never missing when it is moved. -/
theorem Knows.relocate (known : state.Knows card) (zone : Zone) (place : Place)
    (position : Position) : Regular (state.relocate card zone place position) := by
  simp only [GameState.relocate, regular_bind, regular_ite, regular_throw]
  refine ⟨known.require, fun found _ => ⟨by simp [Violation.isStructural], fun _ => ?_⟩⟩
  split
  · simp [Violation.isStructural]
  · simp

/-- A known card is never missing when it is changed. -/
theorem Knows.onField (known : state.Knows card) (change : CardInstance → CardInstance) :
    Regular (Change.onField state card change) := by
  simp [Change.onField, known.require, Violation.isStructural]

end GameState

open GameState

/-- A change of a card that exists is regular. -/
theorem Change.apply_regular {state : GameState} (change : Change)
    (known : ∀ card ∈ change.subject?, state.Knows card) : Regular (change.apply state) := by
  cases change with
  | moveCard card destination place =>
    have there : state.Knows card := known card rfl
    simp [apply, there.relocate]
  | draw player card =>
    have there : state.Knows card := known card rfl
    simp [apply, there.relocate, Violation.isStructural]
  | shuffleDeck player => simp [apply]
  | summon card position kind =>
    have there : state.Knows card := known card rfl
    simp [apply, there.require, there.relocate, Violation.isStructural]
  | setMonster card =>
    have there : state.Knows card := known card rfl
    simp [apply, there.require, there.relocate]
  | placeSpell card faceUp =>
    have there : state.Knows card := known card rfl
    simp [apply, there.require, there.relocate]
  | changePosition card position =>
    have there : state.Knows card := known card rfl
    simp [apply, there.onField]
  | damage player amount byBattle => simp [apply]
  | gainLife player amount => simp [apply]
  | payLife player amount => simp [apply]
  | grant modifier => simp [apply]
  | markDestroyed card cause =>
    have there : state.Knows card := known card rfl
    simp [apply, there.onField]
  | negateLink number =>
    simp only [apply]
    split <;> simp [Violation.isStructural]
  | negateAttack =>
    simp only [apply]
    split <;> simp [Violation.isStructural]

/-- Changes of cards that exist are regular one after the other. -/
theorem Change.applyUntil_regular {changes : List Change} {state : GameState}
    (known : ∀ change ∈ changes, ∀ card ∈ change.subject?, state.Knows card) :
    ∀ violation ∈ (applyUntil state changes).2, violation.isStructural = false := by
  induction changes generalizing state with
  | nil => simp [applyUntil]
  | cons change rest ih =>
    rw [applyUntil]
    have first := change.apply_regular (known change (List.mem_cons_self ..))
    cases made : change.apply state with
    | error violation => simpa using first violation made
    | ok next =>
      have changed : Deeds (fun _ _ => True) state next := .change trivial made
      apply ih
      intro other member card subject
      exact changed.shifts.knows_iff.mpr (known other (List.mem_cons_of_mem change member) card subject)

/-- Changes are regular if the cards that they need are known. -/
theorem Change.applyAll_regular {changes : List Change} {state : GameState}
    (known : ∀ change ∈ changes, ∀ card ∈ change.subject?, state.Knows card) :
    Regular (applyAll changes state) := by
  have all := applyUntil_regular known
  rw [applyAll]
  split
  · simp
  · next _ violation same =>
    rw [same] at all
    simpa using all

namespace GameState

variable {state next : GameState} {card : InstanceId} {seat : Seat}

/-! Plans -/

/-- Plans one after the other are regular if each of them is. -/
theorem regular_planEach {α : Type} {plan : α → Except Violation (List Change)} {items : List α}
    (each : ∀ item ∈ items, Regular (plan item)) : Regular (planEach plan items) := by
  simpa [planEach] using regular_mapM each

/-- Too few cards are no fault of an effect. -/
theorem regular_needCards (needed available : Nat) : Regular (needCards seat needed available) := by
  simp [needCards, Violation.isStructural]

section Plan

variable (known : state.Knows card)

include known

/-- A discard of a known card is planned, unless the table refuses it. -/
theorem Knows.planDiscardCard : Regular (state.planDiscardCard card) := by
  simp [GameState.planDiscardCard, known.require, Violation.isStructural]

theorem Knows.planMove (destination : Zone) : Regular (state.planMove destination card) := by
  simp [GameState.planMove, known.require]

theorem Knows.planModifier (source : InstanceId) (alteration : Alteration) (duration : Duration) :
    Regular (state.planModifier source alteration duration card) := by
  simp [GameState.planModifier, known.require, Violation.isStructural]

theorem Knows.planNegation (source : InstanceId) : Regular (state.planNegation source card) := by
  simp [GameState.planNegation, known.require, Violation.isStructural]

theorem Knows.planSummon (position : SummonPosition) : Regular (state.planSummon position card) := by
  simp [GameState.planSummon, known.require, Violation.isStructural]

theorem Knows.planDestruction : Regular (state.planDestruction card) := by
  simp [GameState.planDestruction, known.require, Violation.isStructural]

end Plan

/-- A return of known cards is planned, unless the table refuses it. -/
theorem regular_planReturn {placement : DeckPlacement} {cards : List InstanceId}
    (known : ∀ card ∈ cards, state.Knows card) : Regular (state.planReturn placement cards) := by
  simpa [planReturn] using regular_mapM fun card member => (known card member).require

/-- A missing attack is no fault of an effect. -/
theorem regular_requireAttack : Regular state.requireAttack := by
  rw [requireAttack]
  split <;> simp [Violation.isStructural]

end GameState

/-- This tells that something stands for players, or else for cards that exist. -/
structure Resolved.Suits (state : GameState) (resolved : Resolved) (selectsPlayers : Bool) :
    Prop where
  players : selectsPlayers = true → ∃ seats, resolved = .players seats
  cards : selectsPlayers = false →
    ∃ cards, resolved.cards? = .ok cards ∧ ∀ card ∈ cards, state.Knows card

namespace GameState

variable {state : GameState} {link : ChainLink} {instruction : Instruction} {resolved : Resolved}

/-- A plan for players is refused by the table only. -/
theorem regular_plan_players {seats : List Seat}
    (acts : instruction.takesPlayers = true ∨ ∃ count, instruction = .discard count) :
    Regular (state.plan link instruction (.players seats)) := by
  have each (plan : Seat → Except Violation (List Change)) (all : ∀ seat, Regular (plan seat)) :
      Regular (planEach plan seats) := regular_planEach fun seat _ => all seat
  rcases acts with acts | ⟨count, rfl⟩
  · cases instruction with
    | draw count => exact each _ fun seat => by simp [planDraw, regular_needCards]
    | mill count => exact each _ fun seat => by simp [planMill, regular_needCards]
    | search filter count => simp [plan, Resolved.players?]
    | damage amount => simp [plan, Resolved.players?]
    | gainLife amount => simp [plan, Resolved.players?]
    | _ => simp [Instruction.takesPlayers] at acts
  · exact each _ fun seat => by simp [planDiscard, regular_needCards]

/-- A plan for cards that exist is refused by the table only. -/
theorem regular_plan_cards {cards : List InstanceId} (acted : resolved.cards? = .ok cards)
    (known : ∀ card ∈ cards, state.Knows card) (acts : instruction.takesPlayers = false) :
    Regular (state.plan link instruction resolved) := by
  have each {plan : InstanceId → Except Violation (List Change)}
      (all : ∀ card, state.Knows card → Regular (plan card)) :
      Regular (resolved.cards? >>= planEach plan) := by
    rw [acted]
    exact regular_planEach fun card member => all card (known card member)
  cases instruction with
  | discard count =>
    cases resolved with
    | players seats => cases acted
    | cards chosen => exact each fun card there => there.planDiscardCard
    | link number source => exact each fun card there => there.planDiscardCard
  | banish => exact each fun card there => there.planMove _
  | returnToDeck placement =>
    show Regular (resolved.cards? >>= state.planReturn placement)
    rw [acted]
    exact regular_planReturn known
  | sendToGraveyard => exact each fun card there => there.planMove _
  | toHand => exact each fun card there => there.planMove _
  | modifyStat stat amount duration => exact each fun card there => there.planModifier _ _ _
  | setStat stat value duration => exact each fun card there => there.planModifier _ _ _
  | specialSummon position => exact each fun card there => there.planSummon _
  | destroy => exact each fun card there => there.planDestruction
  | negate =>
    cases resolved with
    | players seats => cases acted
    | cards chosen => exact each fun card there => there.planNegation _
    | link number source => simp [plan]
  | negateAttack => simp [plan, regular_requireAttack]
  | _ => simp [Instruction.takesPlayers] at acts

/-- An instruction that acts on what it accepts is refused by the table only. -/
theorem regular_plan {selector : Selector} (accepted : Located.accepts instruction selector = true)
    (suits : resolved.Suits state selector.selectsPlayers) :
    Regular (state.plan link instruction resolved) := by
  have kind : instruction.takesPlayers = selector.selectsPlayers ∨
      ∃ count, instruction = .discard count := by
    cases instruction with
    | discard count => exact .inr ⟨count, rfl⟩
    | _ => exact .inl (of_decide_eq_true accepted)
  cases chosen : selector.selectsPlayers with
  | true =>
    obtain ⟨seats, rfl⟩ := suits.players chosen
    exact regular_plan_players (kind.imp_left fun same => same.trans chosen)
  | false =>
    obtain ⟨cards, acted, known⟩ := suits.cards chosen
    refine regular_plan_cards acted known ?_
    rcases kind with same | ⟨count, rfl⟩
    · exact same.trans chosen
    · rfl

end GameState

end CardDuel
