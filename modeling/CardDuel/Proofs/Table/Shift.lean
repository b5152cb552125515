/-
This file follows the cards through a duel: whatever happens, cards are moved one at a time, a deck is
shuffled, or every card stays where it is.
-/

import CardDuel.Proofs.Table.Agreement
import CardDuel.Proofs.Table.Edit

namespace CardDuel

namespace Random

/-- Swaps change the order of items and nothing else. -/
theorem applySwaps_perm {α : Type} (swaps : List (Nat × Nat)) (items : List α) :
    (applySwaps swaps items).Perm items := by
  have kept : ∀ (array : Array α),
      (swaps.foldl (fun array swap => array.swapIfInBounds swap.1 swap.2) array).toList.Perm
        array.toList := by
    induction swaps with
    | nil => exact fun array => .refl _
    | cons swap rest ih =>
      intro array
      refine (ih (array.swapIfInBounds swap.1 swap.2)).trans ?_
      rw [Array.swapIfInBounds_def]
      split
      · split
        · exact (Array.swap_perm _ _).toList
        · exact .refl _
      · exact .refl _
  exact kept items.toArray

end Random

namespace GameState

def shuffled (state : GameState) (player : Seat) : GameState :=
  { state with shuffler := ((state.zones player).shuffleDeck state.shuffler).2 }.setZones player
    ((state.zones player).shuffleDeck state.shuffler).1

/-- A shuffle changes one deck and no other zone. -/
theorem zones_shuffled (state : GameState) (player seat : Seat) :
    (state.shuffled player).zones seat =
      if seat = player then ((state.zones player).shuffleDeck state.shuffler).1
      else state.zones seat := zones_setZones _ player seat _

/-- A shuffle changes the order of a deck and nothing else. -/
theorem cards_shuffled_perm (state : GameState) (player seat : Seat) (zone : Zone) :
    (((state.shuffled player).zones seat).cards zone).Perm ((state.zones seat).cards zone) := by
  rw [zones_shuffled]
  by_cases own : seat = player
  · subst own
    simp only [if_true]
    cases zone with
    | deck => exact Random.applySwaps_perm _ _
    | _ => exact .refl _
  · simp only [own, if_false]
    exact .refl _

/-- A shuffle keeps the lists of every zone right. -/
theorem Lists.shuffled {state : GameState} {zone : Zone} (lists : state.Lists zone)
    (player : Seat) : (state.shuffled player).Lists zone := by
  constructor
  · intro seat card
    rw [(cards_shuffled_perm state player seat zone).mem_iff]
    exact lists.listed seat card
  · intro seat
    rw [(cards_shuffled_perm state player seat zone).nodup_iff]
    exact lists.once seat

/-- A shuffle keeps the table and the zones in agreement. -/
theorem Agrees.shuffled {config : DuelConfig} {state : GameState} (agrees : state.Agrees config)
    (player : Seat) : (state.shuffled player).Agrees config := by
  have rows (seat : Seat) (zone : Zone) :
      ((state.shuffled player).zones seat).row? zone = (state.zones seat).row? zone := by
    rw [zones_shuffled]
    by_cases own : seat = player
    · subst own
      simp only [if_true]
      cases zone <;> rfl
    · simp only [own, if_false]
  have lists (zone : Zone) : (state.shuffled player).Lists zone := (agrees.lists zone).shuffled player
  refine ⟨agrees.numbered, fun seat zone => (lists zone).listed seat,
    fun seat zone => (lists zone).once seat, ?_, agrees.inPile, ?_⟩
  · intro card found row known given
    rw [rows] at given
    exact agrees.inRow card found row known given
  · intro seat zone row given
    rw [rows] at given
    exact agrees.rows seat zone row given

/-- This is one step of the cards. -/
inductive Shift : GameState → GameState → Prop where
  | still {before after : GameState} (still : Still before after) : Shift before after
  | move {before after : GameState} {card : InstanceId} {zone origin : Zone} {place : Place}
      {position : Position}
      (moved : before.relocate card zone place position = .ok (origin, after)) : Shift before after
  | shuffle (state : GameState) (player : Seat) : Shift state (state.shuffled player)

def Shifts : GameState → GameState → Prop := Relation.ReflTransGen Shift

namespace Shifts

variable {before middle after : GameState}

theorem refl (state : GameState) : Shifts state state := Relation.ReflTransGen.refl

theorem trans (first : Shifts before middle) (second : Shifts middle after) :
    Shifts before after := Relation.ReflTransGen.trans first second

theorem of_still (still : Still before after) : Shifts before after :=
  Relation.ReflTransGen.single (.still still)

theorem of_move {card : InstanceId} {zone origin : Zone} {place : Place} {position : Position}
    (moved : before.relocate card zone place position = .ok (origin, after)) :
    Shifts before after := Relation.ReflTransGen.single (.move moved)

theorem of_shuffle (state : GameState) (player : Seat) : Shifts state (state.shuffled player) :=
  Relation.ReflTransGen.single (.shuffle state player)

theorem then_still (first : Shifts before middle) (still : Still middle after) :
    Shifts before after := first.trans (of_still still)

/-- The table and the zones agree after any steps of the cards. -/
theorem agrees {config : DuelConfig} (shifts : Shifts before after)
    (start : before.Agrees config) : after.Agrees config := by
  induction shifts with
  | refl => exact start
  | tail _ step ih =>
    cases step with
    | still still => exact ih.still still
    | move moved => exact ih.relocate moved
    | shuffle player => exact ih.shuffled player

/-- Any steps of the cards keep the lists of every zone right. -/
theorem lists {zone : Zone} (shifts : Shifts before after) (start : before.Lists zone) :
    after.Lists zone := by
  induction shifts with
  | refl => exact start
  | tail _ step ih =>
    cases step with
    | still still => exact ih.still still
    | move moved => exact ih.relocate moved
    | shuffle player => exact ih.shuffled player

/-- No card is exchanged for another one. -/
theorem identities (shifts : Shifts before after) :
    after.cards.map CardInstance.identity = before.cards.map CardInstance.identity := by
  induction shifts with
  | refl => rfl
  | tail _ step ih =>
    cases step with
    | still still => exact still.identities.trans ih
    | move moved => exact (relocate_identities moved).trans ih
    | shuffle player => exact ih

/-- No card is exchanged for another one, so their numbers stay right or wrong. -/
theorem numbered_iff (shifts : Shifts before after) : after.Numbered ↔ before.Numbered := by
  have numbers (state : GameState) : state.Numbered ↔ ∀ (place : Nat) (identity : CardIdentity),
      (state.cards.map CardInstance.identity)[place]? = some identity → identity.id.index = place := by
    simp only [Numbered, List.getElem?_map, Option.map_eq_some_iff, forall_exists_index, and_imp]
    apply forall_congr'
    intro place
    exact ⟨fun numbered identity found there same => same ▸ numbered found there,
      fun numbered found there => numbered _ found there rfl⟩
  rw [numbers, numbers, shifts.identities]

end Shifts

/-- This tells that the cards are numbered and that every zone lists exactly its cards. -/
structure Consistent (state : GameState) : Prop where
  numbered : state.Numbered
  lists : ∀ zone, state.Lists zone

/-- A table that agrees with a configuration is consistent. -/
theorem Agrees.consistent {config : DuelConfig} {state : GameState} (agrees : state.Agrees config) :
    state.Consistent := ⟨agrees.numbered, agrees.lists⟩

/-- Shifts keep a consistent state consistent. -/
theorem Shifts.consistent {before after : GameState} (shifts : Shifts before after)
    (start : before.Consistent) : after.Consistent :=
  ⟨shifts.numbered_iff.mpr start.numbered, fun zone => shifts.lists (start.lists zone)⟩

/-! Updates that move no card -/

namespace Still

theorem record (state : GameState) (event : GameEvent) : Still state (state.record event) :=
  ⟨rfl, fun _ => rfl⟩

theorem modifyPlayer (state : GameState) (seat : Seat) {update : PlayerState → PlayerState}
    (same : ∀ player, (update player).zones = player.zones) :
    Still state (state.modifyPlayer seat update) := by
  refine ⟨rfl, ?_⟩
  intro other
  rw [GameState.zones, player_modifyPlayer]
  by_cases own : other = seat
  · simp only [own, if_true]
    exact same _
  · simp only [own, if_false]
    rfl

theorem setLife (state : GameState) (seat : Seat) (life : UInt32) :
    Still state (Change.setLife state seat life) := modifyPlayer state seat fun _ => rfl

theorem onField {state next : GameState} {card : InstanceId} {change : CardInstance → CardInstance}
    (made : Change.onField state card change = .ok next)
    (same : ∀ found, (change found).standing = found.standing) : Still state next := by
  obtain ⟨_, _, _, rfl⟩ := onField_eq_ok.mp made
  exact modifyCard state card change same

theorem markSet (state : GameState) (card : InstanceId) (owner : Seat) :
    Still state (Change.markSet state card owner) :=
  (modifyCard state card (fun entry => { entry with setThisTurn := true }) fun _ => rfl).trans
    (record _ _)

end Still

end GameState

open GameState

/-- A change moves cards one at a time, shuffles a deck or moves nothing. -/
theorem Change.apply_shifts {change : Change} {state next : GameState}
    (made : change.apply state = .ok next) : Shifts state next := by
  cases change with
  | moveCard card destination place =>
    simp only [apply, bind_eq_ok, pure_eq_ok] at made
    obtain ⟨⟨_, middle⟩, moved, rfl⟩ := made
    exact (Shifts.of_move moved).then_still (.record middle _)
  | draw player card =>
    simp only [apply, bind_eq_ok, pure_eq_ok, guard_eq_ok] at made
    obtain ⟨_, ⟨_, middle⟩, moved, rfl⟩ := made
    exact (Shifts.of_move moved).then_still (.record middle _)
  | shuffleDeck player =>
    obtain rfl := Except.ok.inj made
    exact (Shifts.of_shuffle state player).then_still (.record _ _)
  | summon card position kind =>
    simp only [apply, bind_eq_ok, pure_eq_ok, guard_eq_ok] at made
    obtain ⟨_, _, _, ⟨_, middle⟩, moved, rfl⟩ := made
    have noted := Still.modifyCard middle card
      (fun entry => { entry with summonedThisTurn := true }) fun _ => rfl
    exact ((Shifts.of_move moved).then_still noted).then_still (.record _ _)
  | setMonster card =>
    simp only [apply, bind_eq_ok, pure_eq_ok] at made
    obtain ⟨_, _, ⟨_, middle⟩, moved, rfl⟩ := made
    exact (Shifts.of_move moved).then_still (.markSet middle card _)
  | placeSpell card faceUp =>
    simp only [apply, bind_eq_ok, pure_eq_ok] at made
    obtain ⟨_, _, ⟨_, middle⟩, moved, rfl⟩ := made
    refine (Shifts.of_move moved).trans ?_
    split
    · exact .refl middle
    · exact .of_still (.markSet middle card _)
  | changePosition card position =>
    simp only [apply, bind_eq_ok, pure_eq_ok] at made
    obtain ⟨middle, turned, rfl⟩ := made
    exact (Shifts.of_still (.onField turned fun _ => rfl)).then_still (.record middle _)
  | damage player amount byBattle =>
    obtain rfl := Except.ok.inj made
    split
    · exact (Shifts.of_still (.setLife state player _)).then_still (.record _ _)
    · exact .of_still (.setLife state player _)
  | gainLife player amount =>
    obtain rfl := Except.ok.inj made
    exact (Shifts.of_still (.setLife state player _)).then_still (.record _ _)
  | payLife player amount =>
    obtain rfl := Except.ok.inj made
    exact (Shifts.of_still (.setLife state player _)).then_still (.record _ _)
  | grant modifier =>
    obtain rfl := Except.ok.inj made
    exact .of_still ⟨rfl, fun _ => rfl⟩
  | markDestroyed card cause => exact .of_still (.onField made fun _ => rfl)
  | negateLink number =>
    simp only [apply] at made
    split at made
    · obtain rfl := Except.ok.inj made
      exact .of_still ⟨rfl, fun _ => rfl⟩
    · simp at made
  | negateAttack =>
    simp only [apply] at made
    split at made
    · obtain rfl := Except.ok.inj made
      exact .of_still ⟨rfl, fun _ => rfl⟩
    · simp at made

end CardDuel
