/-
This file tells which single events a run has besides its lulls: a turn begins, a monster is summoned normally
or set, a spell or trap is set, an attack is declared, an effect is activated. Each of these feats needs a free
allowance and uses it up.
-/

import CardDuel.Proofs.Allowance.Pause

namespace CardDuel

/-- This tells whether a spell or trap cannot be activated in the turn in which it is set. -/
def CardKind.waits : CardKind → Bool
  | trap _ | spell .quickPlay => true
  | _ => false

namespace GameState

/-- This is the player who summons a monster normally or sets one, if an event tells of that. -/
def summoner? (state : GameState) : GameEvent → Option Seat
  | .summoned _ player kind => if kind = .normal ∨ kind = .tribute then some player else none
  | .cardSet card player => if (state.card? card).any CardInstance.isMonster then some player else none
  | _ => none

/-- This tells that an effect is the activation of a trap or a quick-play spell. -/
def Springs (state : GameState) (catalog : Catalog) (card : InstanceId) (index : Nat) : Prop :=
  ∃ found template effect, state.card? card = some found ∧ catalog.get? found.card = some template ∧
    template.kind.waits = true ∧ template.effect? index = some effect ∧ effect.kind = .activate

/-- This tells that a card lies on the field with a flag of the turn. -/
def Bears (state : GameState) (flag : TurnFlag) (card : InstanceId) : Prop :=
  ∃ found, state.card? card = some found ∧ found.isOnField = true ∧ found.bears flag = true

/-- This tells that a state follows from another one by what a single event tells. -/
structure ToldBy (before : GameState) (event : GameEvent) (after : GameState) : Prop where
  shifts : Shifts before after
  events : after.events = before.events ++ [event]

/-- This tells that a card comes to the field from elsewhere while all others stay as they are. -/
structure Enters (before : GameState) (card : InstanceId) (after : GameState) : Prop where
  away : before.IsAway card
  others : ∀ other, other ≠ card → after.card? other = before.card? other

/-- This tells that the turn goes on and no player uses the normal summon. -/
structure Saves (before after : GameState) : Prop where
  turnPlayer : after.turnPlayer = before.turnPlayer
  same : ∀ seat, (after.player seat).normalSummonUsed = (before.player seat).normalSummonUsed

/-- This tells that the turn goes on and its player uses the normal summon. -/
structure Spends (before after : GameState) : Prop where
  turnPlayer : after.turnPlayer = before.turnPlayer
  unused : (before.player before.turnPlayer).normalSummonUsed = false
  used : (after.player before.turnPlayer).normalSummonUsed = true

/-- This is what is done besides lulls, with the event that tells of it. -/
inductive Feat (catalog : Catalog) (before after : GameState) : GameEvent → Prop where
  | turn (seat : Seat) (passed : after = before.passTurn seat) :
      Feat catalog before after (.turnStarted seat after.turn)
  | summon {card : InstanceId} {kind : SummonKind} (enters : Enters before card after)
      (spends : Spends before after) (comes : kind = .normal ∨ kind = .tribute) :
      Feat catalog before after (.summoned card before.turnPlayer kind)
  | setMonster {card : InstanceId} {found : CardInstance} (known : before.card? card = some found)
      (monster : found.isMonster = true) (enters : Enters before card after)
      (spends : Spends before after) (shown : after.Bears .set card) :
      Feat catalog before after (.cardSet card before.turnPlayer)
  | setSpell {card : InstanceId} {found : CardInstance} (known : before.card? card = some found)
      (spell : found.isMonster = false) (enters : Enters before card after)
      (saves : Saves before after) (shown : after.Bears .set card) :
      Feat catalog before after (.cardSet card before.turnPlayer)
  | attack {card : InstanceId} {target : Option InstanceId} (saves : Saves before after)
      (kept : ∀ flag other, before.Bears flag other → after.Bears flag other)
      (fresh : ¬before.Bears .attacked card) (shown : after.Bears .attacked card) :
      Feat catalog before after (.attackDeclared card target)
  | activate {card : InstanceId} {index : Nat} {player : Seat} (saves : Saves before after)
      (kept : ∀ flag other, before.Bears flag other → after.Bears flag other)
      (settled : before.Springs catalog card index → ¬before.Bears .set card) :
      Feat catalog before after (.effectActivated card index player)

/-- This is a part of a run: a lull, or a feat of which the log tells. -/
inductive Stage (catalog : Catalog) (before after : GameState) : Prop where
  | lull (lull : Lull catalog before after)
  | feat {event : GameEvent} (told : ToldBy before event after) (feat : Feat catalog before after event)

def Stages (catalog : Catalog) : GameState → GameState → Prop := Relation.ReflTransGen (Stage catalog)

variable {catalog : Catalog} {before middle after state next : GameState} {player : Seat}
  {card : InstanceId} {event : GameEvent}

namespace Stages

theorem trans (first : Stages catalog before middle) (second : Stages catalog middle after) :
    Stages catalog before after := Relation.ReflTransGen.trans first second

/-- A lull is a run of stages. -/
theorem of_lull (lull : Lull catalog before after) : Stages catalog before after :=
  Relation.ReflTransGen.single (.lull lull)

/-- A feat that is told of is a run of stages. -/
theorem of_feat (told : ToldBy before event after) (feat : Feat catalog before after event) :
    Stages catalog before after := Relation.ReflTransGen.single (.feat told feat)

end Stages

/-! Entries -/

/-- A card that goes to the graveyard is away, and all cards that are away stay there. -/
theorem IsAway.toGraveyard {other : InstanceId} (away : state.IsAway card)
    (made : state.applyChange (.toGraveyard other) = .ok next) : next.IsAway card := by
  simp only [applyChange, mapError_eq_ok, Change.toGraveyard, Change.apply, bind_eq_ok,
    pure_eq_ok] at made
  obtain ⟨⟨_, middle⟩, moved, rfl⟩ := made
  obtain ⟨_, _, _, _, _, _, rfl⟩ := relocate_cases moved
  intro found known
  rw [card?_record, card?_arrived] at known
  split at known
  · obtain ⟨entry, _, rfl⟩ := Option.map_eq_some_iff.mp known
    rw [CardInstance.isOnField, CardInstance.zone_relocate]
    rfl
  · exact away found known

/-- A card stays away while other cards go to the graveyard. -/
theorem IsAway.toGraveyards {cards : List InstanceId} (away : state.IsAway card)
    (made : state.applyChanges (cards.map .toGraveyard) = .ok next) : next.IsAway card := by
  induction cards generalizing state with
  | nil =>
    obtain rfl : state = next := by simpa [applyChanges, pure_eq_ok] using made
    exact away
  | cons other rest ih =>
    simp only [applyChanges, List.map_cons, List.foldlM_cons, bind_eq_ok] at made
    obtain ⟨middle, first, others⟩ := made
    exact ih (away.toGraveyard first) others

section Entry

variable {zone origin : Zone} {place : Place} {position : Position} {note : CardInstance → CardInstance}
  (moved : state.relocate card zone place position = .ok (origin, middle))
include moved

/-- A card that comes from elsewhere enters the field. -/
theorem Enters.of_move (away : state.IsAway card) (event : GameEvent) :
    Enters state card ((middle.modifyCard card note).record event) := by
  obtain ⟨_, _, _, _, _, _, rfl⟩ := relocate_cases moved
  refine ⟨away, ?_⟩
  intro other different
  rw [card?_record, card?_modifyCard, if_neg different, card?_arrived, if_neg different]

/-- A move alone uses no normal summon. -/
theorem Saves.of_move (event : GameEvent) :
    Saves state ((middle.modifyCard card note).record event) := by
  obtain ⟨found, remaining, _, _, _, _, rfl⟩ := relocate_cases moved
  exact ⟨rfl, fun seat => used_arrived state found.owner remaining card zone place position seat⟩

/-- A move is told by its event alone. -/
theorem ToldBy.of_move (standing : ∀ found, (note found).standing = found.standing) (event : GameEvent) :
    ToldBy state event ((middle.modifyCard card note).record event) := by
  refine ⟨((Shifts.of_move moved).then_still (.modifyCard middle card note standing)).then_still
    (.record _ event), ?_⟩
  obtain ⟨_, _, _, _, _, _, rfl⟩ := relocate_cases moved
  exact events_record _ event

/-- A card that is noted to be set when it comes to the field bears that flag. -/
theorem bears_of_move (field : zone.isField = true) (event : GameEvent) :
    ((middle.modifyCard card fun entry => { entry with setThisTurn := true }).record event).Bears
      .set card := by
  obtain ⟨found, remaining, known, _, _, _, rfl⟩ := relocate_cases moved
  rw [Bears, card?_record, card?_modifyCard, if_pos rfl, card?_arrived, if_pos rfl, known]
  refine ⟨_, rfl, ?_, rfl⟩
  rw [CardInstance.isOnField]
  exact (congrArg Zone.isField (CardInstance.zone_relocate ..)).trans field

end Entry

end GameState

end CardDuel
