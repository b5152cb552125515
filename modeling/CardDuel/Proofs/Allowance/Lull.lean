/-
This file defines what happens in a lull: no turn begins, no card is set, no monster is summoned normally, no
attack is declared and no spell or trap is activated, and a card of the field keeps the flags of the turn
unless the log tells that it moved. Gentle deeds make a lull.
-/

import CardDuel.Proofs.Allowance.Gentle
import CardDuel.Proofs.Attack.Conclusion
import CardDuel.Proofs.Move.Handling
import CardDuel.Proofs.Table.Play

namespace CardDuel

/-- This is a flag of a card that stays until the card moves or a turn begins. -/
inductive TurnFlag where
  | attacked
  | set

namespace CardInstance

def bears (card : CardInstance) : TurnFlag → Bool
  | .attacked => card.hasAttacked
  | .set => card.setThisTurn

/-- This tells that a card lies on the field with the flags that another one has. -/
structure Lasts (old new : CardInstance) : Prop where
  field : new.isOnField = true
  flags : ∀ flag, new.bears flag = old.bears flag

/-- A card lasts through two runs if it lasts through each of them. -/
theorem Lasts.trans {old middle new : CardInstance} (first : old.Lasts middle)
    (second : middle.Lasts new) : old.Lasts new :=
  ⟨second.field, fun flag => (second.flags flag).trans (first.flags flag)⟩

end CardInstance

namespace GameEvent

/-- This is the effect that an event tells to be activated. -/
def activation? : GameEvent → Option (InstanceId × Nat)
  | effectActivated card index _ => some (card, index)
  | _ => none

/-- This tells whether an event can be told in a lull. -/
def isRoutine : GameEvent → Bool
  | turnStarted .. | cardSet .. | attackDeclared .. => false
  | summoned _ _ kind => kind ≠ .normal && kind ≠ .tribute
  | _ => true

end GameEvent

namespace GameState

/-- This tells that an effect of a card is the activation of the card itself. -/
def IsActivation (state : GameState) (catalog : Catalog) (card : InstanceId) (index : Nat) : Prop :=
  ∃ found effect, state.card? card = some found ∧ catalog.effect? found.card index = some effect ∧
    effect.kind = .activate

/-- This tells that events are no activations of cards, and tell of all cards that do not last on the field. -/
structure Rests (catalog : Catalog) (before : GameState) (events : List GameEvent)
    (after : GameState) : Prop where
  idle : ∀ event ∈ events, ∀ card index, event.activation? = some (card, index) →
    ¬before.IsActivation catalog card index
  lasts : ∀ card found, before.card? card = some found → found.isOnField = true →
    (∃ other, after.card? card = some other ∧ found.Lasts other) ∨
      ∃ origin destination, GameEvent.cardMoved card origin destination ∈ events

/-- This tells that nothing is done which is allowed only once in a turn or which it renews. -/
structure Lull (catalog : Catalog) (before after : GameState) : Prop where
  shifts : Shifts before after
  turnPlayer : after.turnPlayer = before.turnPlayer
  used : ∀ seat, (after.player seat).normalSummonUsed = (before.player seat).normalSummonUsed
  told : ∃ events, after.events = before.events ++ events ∧
    (∀ event ∈ events, event.isRoutine = true) ∧
    ∀ config, before.Agrees config → Rests catalog before events after

variable {catalog : Catalog} {before middle after state next : GameState} {card : InstanceId}

/-- No card becomes another one, so its effects stay what they are. -/
theorem Shifts.isActivation_iff (shifts : Shifts before after) {index : Nat} :
    after.IsActivation catalog card index ↔ before.IsActivation catalog card index := by
  constructor
  · rintro ⟨found, effect, known, given, kind⟩
    obtain ⟨old, there, same⟩ := shifts.printed_before known
    exact ⟨old, effect, there, same ▸ given, kind⟩
  · rintro ⟨found, effect, known, given, kind⟩
    obtain ⟨new, there, same⟩ := shifts.printed known
    exact ⟨new, effect, there, same.symm ▸ given, kind⟩

/-- Two rests after each other are one. -/
theorem Rests.trans {early late : List GameEvent} (shifts : Shifts before middle)
    (first : Rests catalog before early middle) (second : Rests catalog middle late after) :
    Rests catalog before (early ++ late) after where
  idle := by
    intro event member card index given activation
    rcases List.mem_append.mp member with inEarly | inLate
    · exact first.idle event inEarly card index given activation
    · exact second.idle event inLate card index given (shifts.isActivation_iff.mpr activation)
  lasts := by
    intro card found known field
    rcases first.lasts card found known field with ⟨other, there, stays⟩ | ⟨origin, destination, told⟩
    · rcases second.lasts card other there stays.field with ⟨last, present, staysToo⟩ | told
      · exact .inl ⟨last, present, stays.trans staysToo⟩
      · obtain ⟨origin, destination, told⟩ := told
        exact .inr ⟨origin, destination, List.mem_append_right early told⟩
    · exact .inr ⟨origin, destination, List.mem_append_left late told⟩

/-- A move uses no normal summon. -/
theorem used_arrived (state : GameState) (owner : Seat) (remaining : PlayerZones) (card : InstanceId)
    (zone : Zone) (place : Place) (position : Position) (seat : Seat) :
    ((state.arrived owner remaining card zone place position).player seat).normalSummonUsed =
      (state.player seat).normalSummonUsed := by
  show ((state.setZones owner _).player seat).normalSummonUsed = _
  rw [setZones, player_modifyPlayer]
  split
  · rfl
  · rfl

namespace Lull

theorem trans (first : Lull catalog before middle) (second : Lull catalog middle after) :
    Lull catalog before after where
  shifts := first.shifts.trans second.shifts
  turnPlayer := second.turnPlayer.trans first.turnPlayer
  used := fun seat => (second.used seat).trans (first.used seat)
  told := by
    obtain ⟨early, same, routine, rests⟩ := first.told
    obtain ⟨late, sameToo, routineToo, restsToo⟩ := second.told
    refine ⟨early ++ late, by rw [sameToo, same, List.append_assoc],
      List.forall_mem_append.mpr ⟨routine, routineToo⟩, ?_⟩
    intro config agrees
    exact (rests config agrees).trans first.shifts (restsToo config (first.shifts.agrees agrees))

/-- Nothing is told, and all cards last. -/
theorem silent (shifts : Shifts before after) (turnPlayer : after.turnPlayer = before.turnPlayer)
    (used : ∀ seat, (after.player seat).normalSummonUsed = (before.player seat).normalSummonUsed)
    (log : after.log = before.log)
    (lasts : ∀ card found, before.card? card = some found → found.isOnField = true →
      ∃ other, after.card? card = some other ∧ found.Lasts other) : Lull catalog before after :=
  ⟨shifts, turnPlayer, used, [], by rw [events, log, List.append_nil]; rfl, by simp, fun _ _ =>
    ⟨by simp, fun card found known field => .inl (lasts card found known field)⟩⟩

/-- Nothing is told, and all cards stay where they are with their flags. -/
theorem of_still (still : Still before after) (turnPlayer : after.turnPlayer = before.turnPlayer)
    (used : ∀ seat, (after.player seat).normalSummonUsed = (before.player seat).normalSummonUsed)
    (log : after.log = before.log)
    (flags : ∀ (place : Nat) (old new : CardInstance), before.cards[place]? = some old →
      after.cards[place]? = some new → ∀ flag, new.bears flag = old.bears flag) :
    Lull catalog before after := by
  refine .silent (.of_still still) turnPlayer used log ?_
  intro card found known field
  obtain ⟨other, there, same⟩ := still.symm.card_at known
  refine ⟨other, there, ?_, flags _ _ _ known there⟩
  have zone : other.zone = found.zone := congrArg (fun standing => standing.2.1) same
  rw [CardInstance.isOnField, zone]
  exact field

/-- Neither the cards nor the players nor the log change. -/
theorem rearrange (cards : after.cards = before.cards) (players : after.players = before.players)
    (log : after.log = before.log) (turnPlayer : after.turnPlayer = before.turnPlayer) :
    Lull catalog before after := by
  refine .of_still ⟨by rw [cards], ?_⟩ turnPlayer ?_ log ?_
  · intro seat
    rw [GameState.zones, player, players]
    rfl
  · intro seat
    rw [player, players]
    rfl
  · intro place old new known there flag
    rw [cards, known] at there
    rw [Option.some.inj there]

theorem refl (state : GameState) : Lull catalog state state := .rearrange rfl rfl rfl rfl

theorem setWindow (state : GameState) (window : Option ResponseWindow) :
    Lull catalog state { state with window := window } := .rearrange rfl rfl rfl rfl

theorem setChain (state : GameState) (chain : Chain) : Lull catalog state { state with chain := chain } :=
  .rearrange rfl rfl rfl rfl

theorem setAttack (state : GameState) (attack : Option PendingAttack) :
    Lull catalog state { state with pendingAttack := attack } := .rearrange rfl rfl rfl rfl

/-- A routine event is told that is no activation of a card. -/
theorem record (state : GameState) {event : GameEvent} (routine : event.isRoutine = true)
    (idle : ∀ config, state.Agrees config → ∀ card index, event.activation? = some (card, index) →
      ¬state.IsActivation catalog card index) : Lull catalog state (state.record event) := by
  refine ⟨.of_still (.record state event), rfl, fun _ => rfl, [event], events_record state event,
    List.forall_mem_singleton.mpr routine, fun config agrees => ⟨?_, ?_⟩⟩
  · exact List.forall_mem_singleton.mpr (idle config agrees)
  · exact fun card found known field => .inl ⟨found, known, field, fun _ => rfl⟩

/-- A routine event is told that is about no activation. -/
theorem note (state : GameState) {event : GameEvent} (routine : event.isRoutine = true)
    (other : event.activation? = none) : Lull catalog state (state.record event) :=
  .record state routine fun _ _ card index given => by simp [other] at given

/-- A changed card is a lull, if it stays where it is and keeps its flags. -/
theorem modifyCard (state : GameState) (card : InstanceId) {change : CardInstance → CardInstance}
    (standing : ∀ found, (change found).standing = found.standing)
    (flags : ∀ found flag, (change found).bears flag = found.bears flag) :
    Lull catalog state (state.modifyCard card change) := by
  refine .of_still (.modifyCard state card change standing) rfl (fun _ => rfl) rfl ?_
  intro place old new known there flag
  rw [getElem?_modifyCard, known] at there
  split at there
  · obtain rfl := Option.some.inj there
    exact flags old flag
  · rw [Option.some.inj there]

theorem modifyPlayer (state : GameState) (seat : Seat) {update : PlayerState → PlayerState}
    (zones : ∀ player, (update player).zones = player.zones)
    (used : ∀ player, (update player).normalSummonUsed = player.normalSummonUsed) :
    Lull catalog state (state.modifyPlayer seat update) := by
  refine .of_still (.modifyPlayer state seat zones) rfl ?_ rfl ?_
  · intro other
    rw [player_modifyPlayer]
    split
    · exact used _
    · rfl
  · intro place old new known there flag
    rw [Option.some.inj (known.symm.trans there)]

theorem shuffled (state : GameState) (player : Seat) : Lull catalog state (state.shuffled player) := by
  refine .silent (.of_shuffle state player) rfl ?_ rfl ?_
  · intro seat
    rw [GameState.shuffled, setZones, player_modifyPlayer]
    split
    · rfl
    · rfl
  · intro card found known field
    exact ⟨found, known, field, fun _ => rfl⟩

/-- A recomputation is a lull. -/
theorem refresh (state : GameState) (catalog other : Catalog) :
    Lull catalog state (state.refresh other) := by
  refine .of_still (.refresh state other) rfl (fun _ => rfl) rfl ?_
  intro place old new known there flag
  obtain ⟨same, early, bare⟩ := bare_refresh there
  obtain rfl := Option.some.inj (known.symm.trans early)
  cases flag with
  | attacked => exact (congrArg CardInstance.hasAttacked bare :)
  | set => exact (congrArg CardInstance.setThisTurn bare :)

/-- A card moves, and if it was on the field the log tells of it. -/
theorem of_relocate {zone origin : Zone} {place : Place} {position : Position}
    {told : List GameEvent} (moved : before.relocate card zone place position = .ok (origin, middle))
    (cards : after.cards = middle.cards) (players : after.players = middle.players)
    (turnPlayer : after.turnPlayer = middle.turnPlayer) (log : after.events = middle.events ++ told)
    (routine : ∀ event ∈ told, event.isRoutine = true ∧ event.activation? = none)
    (tells : ∀ config, before.Agrees config → ∀ found, before.card? card = some found →
      found.isOnField = true → ∃ destination, GameEvent.cardMoved card origin destination ∈ told) :
    Lull catalog before after := by
  have shifts : Shifts before after := (Shifts.of_move moved).then_still
    ⟨by rw [cards], fun seat => by rw [GameState.zones, player, players]; rfl⟩
  obtain ⟨found, remaining, known, _, _, _, rfl⟩ := relocate_cases moved
  refine ⟨shifts, turnPlayer, fun seat => ?_, told, log, fun event member => (routine event member).1,
    fun config agrees => ⟨fun event member other index given => ?_, fun other old there field => ?_⟩⟩
  · rw [player, players]
    exact used_arrived before found.owner remaining card zone place position seat
  · simp [(routine event member).2] at given
  · by_cases own : other = card
    · subst own
      obtain ⟨destination, member⟩ := tells config agrees old there field
      exact .inr ⟨_, destination, member⟩
    · refine .inl ⟨old, ?_, field, fun _ => rfl⟩
      have stays := before.card?_arrived found.owner remaining card zone place position other
      rw [if_neg own] at stays
      rw [card?, cards]
      exact stays.trans there

/-- A card moves, and the log tells of it. -/
theorem of_move {zone origin : Zone} {place : Place} {position : Position} (destination : Zone)
    (moved : state.relocate card zone place position = .ok (origin, next)) :
    Lull catalog state (next.record (.cardMoved card origin destination)) :=
  .of_relocate moved rfl rfl rfl (events_record next _)
    (List.forall_mem_singleton.mpr ⟨rfl, rfl⟩)
    fun _ _ _ _ _ => ⟨destination, List.mem_singleton_self _⟩

/-- A card comes from outside the field. -/
theorem of_entry {zone origin : Zone} {place : Place} {position : Position}
    (moved : state.relocate card zone place position = .ok (origin, next))
    (away : ∀ config, state.Agrees config → ∀ found, state.card? card = some found →
      found.isOnField = false) : Lull catalog state next :=
  .of_relocate moved rfl rfl rfl (List.append_nil _).symm (by simp) fun config agrees found known field => by
    simp [away config agrees found known] at field

/-- A fold of steps that are lulls is a lull. -/
theorem foldl {α : Type} {step : GameState → α → GameState}
    (each : ∀ state item, Lull catalog state (step state item)) (items : List α) (state : GameState) :
    Lull catalog state (items.foldl step state) := by
  refine List.foldlRecOn (motive := Lull catalog state) items step (.refl state) ?_
  intro before lull item _
  exact lull.trans (each before item)

end Lull

/-! Deeds -/

theorem Lull.onField {change : CardInstance → CardInstance}
    (made : Change.onField state card change = .ok next)
    (standing : ∀ found, (change found).standing = found.standing)
    (flags : ∀ found flag, (change found).bears flag = found.bears flag) :
    Lull catalog state next := by
  obtain ⟨_, _, _, rfl⟩ := onField_eq_ok.mp made
  exact .modifyCard state card standing flags

theorem Lull.setLife (state : GameState) (seat : Seat) (life : UInt32) :
    Lull catalog state (Change.setLife state seat life) :=
  .modifyPlayer state seat (fun _ => rfl) fun _ => rfl

/-- A player draws from the deck only. -/
theorem Agrees.away_of_top {config : DuelConfig} (agrees : state.Agrees config) {player : Seat}
    (top : (state.zones player).topOfDeck? = some card) : state.IsAway card := by
  intro found known
  have member : card ∈ (state.zones player).cards .deck := List.mem_of_getLast? top
  obtain ⟨other, there, _, deck⟩ := (agrees.listed player .deck card).mp member
  obtain rfl := Option.some.inj (known.symm.trans there)
  rw [CardInstance.isOnField, deck]
  rfl

/-- Gentle changes make a lull. -/
theorem Lull.of_change {change : Change} (gentle : change.Gentle state)
    (made : change.apply state = .ok next) : Lull catalog state next := by
  cases change with
  | moveCard card destination place =>
    simp only [Change.apply, bind_eq_ok, pure_eq_ok] at made
    obtain ⟨⟨origin, middle⟩, moved, rfl⟩ := made
    exact .of_move destination moved
  | draw player card =>
    simp only [Change.apply, bind_eq_ok, pure_eq_ok, guard_eq_ok, not_not] at made
    obtain ⟨top, ⟨_, middle⟩, moved, rfl⟩ := made
    exact (Lull.of_entry moved fun _ agrees => agrees.away_of_top top).trans (.note middle rfl rfl)
  | shuffleDeck player =>
    obtain rfl := Except.ok.inj made
    exact (Lull.shuffled state player).trans (.note _ rfl rfl)
  | summon card position kind =>
    obtain ⟨rfl, away⟩ := gentle
    simp only [Change.apply, bind_eq_ok, pure_eq_ok, guard_eq_ok] at made
    obtain ⟨_, _, _, ⟨_, middle⟩, moved, rfl⟩ := made
    have entered : Lull catalog state middle := .of_entry moved fun _ agrees => away agrees.numbered
    have noted : Lull catalog middle (middle.modifyCard card fun entry =>
        { entry with summonedThisTurn := true }) :=
      .modifyCard middle card (fun _ => rfl) fun _ flag => by cases flag <;> rfl
    exact (entered.trans noted).trans (.note _ rfl rfl)
  | setMonster card => exact gentle.elim
  | placeSpell card faceUp =>
    obtain ⟨rfl, away⟩ := gentle
    simp only [Change.apply, bind_eq_ok, pure_eq_ok] at made
    obtain ⟨_, _, ⟨_, middle⟩, moved, rfl⟩ := made
    exact .of_entry moved fun _ agrees => away agrees.numbered
  | changePosition card position =>
    simp only [Change.apply, bind_eq_ok, pure_eq_ok] at made
    obtain ⟨middle, turned, rfl⟩ := made
    exact (Lull.onField turned (fun _ => rfl) fun _ flag => by cases flag <;> rfl).trans
      (.note middle rfl rfl)
  | damage player amount byBattle =>
    obtain rfl := Except.ok.inj made
    split
    · exact (Lull.setLife state player _).trans (.note _ rfl rfl)
    · exact .setLife state player _
  | gainLife player amount =>
    obtain rfl := Except.ok.inj made
    exact (Lull.setLife state player _).trans (.note _ rfl rfl)
  | payLife player amount =>
    obtain rfl := Except.ok.inj made
    exact (Lull.setLife state player _).trans (.note _ rfl rfl)
  | grant modifier =>
    obtain rfl := Except.ok.inj made
    exact .rearrange rfl rfl rfl rfl
  | markDestroyed card cause =>
    exact .onField made (fun _ => rfl) fun _ flag => by cases flag <;> rfl
  | negateLink number =>
    simp only [Change.apply] at made
    split at made
    · obtain rfl := Except.ok.inj made
      exact .rearrange rfl rfl rfl rfl
    · simp at made
  | negateAttack =>
    simp only [Change.apply] at made
    split at made
    · next attack _ =>
      obtain rfl := Except.ok.inj made
      exact (Lull.setAttack state none).trans (.note _ rfl rfl)
    · simp at made

/-- A marked card is told to move, or it loses its mark. -/
theorem Lull.destroyMarked (state : GameState) (entry : InstanceId × Destruction) :
    Lull catalog state (state.destroyMarked entry) := by
  obtain ⟨card, cause⟩ := entry
  rw [GameState.destroyMarked]
  split
  · next origin middle moved => exact (Lull.of_move .graveyard moved).trans (.note _ rfl rfl)
  · exact .modifyCard state card (fun _ => rfl) fun _ flag => by cases flag <;> rfl

/-- Gentle deeds make a lull. -/
theorem Lull.of_deeds (deeds : Deeds (fun state change => change.Gentle state) before after) :
    Lull catalog before after := by
  induction deeds with
  | refl => exact .refl before
  | tail _ deed ih =>
    refine ih.trans ?_
    cases deed with
    | change change gentle made => exact .of_change gentle made
    | refresh other => exact .refresh _ catalog other
    | destroy entry => exact .destroyMarked _ entry

end GameState

end CardDuel
