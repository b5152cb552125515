/-
This file follows the marks for destruction: a sweep takes every mark off the field, and whatever happens
by itself after a sweep leaves none behind.
-/

import CardDuel.Proofs.Move.Handling
import CardDuel.Proofs.Move.Play

namespace CardDuel

namespace GameState

variable {state next before after : GameState} {catalog : Catalog} {rules : Rules}

/-- This tells that no card is marked for destruction. -/
def Unmarked (state : GameState) : Prop := ∀ found ∈ state.cards, found.destruction = none

/-- This tells that only cards of the field are marked for destruction. -/
def MarksField (state : GameState) : Prop :=
  ∀ found ∈ state.cards, found.isOnField = false → found.destruction = none

/-! The sweep -/

/-- A destruction leaves every other card as it is, and its own card without a mark. -/
theorem of_destroyMarked {entry : InstanceId × Destruction} {place : Nat} {new : CardInstance}
    (there : (state.destroyMarked entry).cards[place]? = some new) :
    new.destruction = none ∨ place ≠ entry.1.index ∧ state.cards[place]? = some new := by
  obtain ⟨card, cause⟩ := entry
  rw [destroyMarked] at there
  split at there
  · next origin middle moved =>
    obtain ⟨found, remaining, _, _, _, _, rfl⟩ := relocate_cases moved
    rw [cards_record, cards_record, getElem?_arrived] at there
    split at there
    · obtain ⟨old, _, rfl⟩ := Option.map_eq_some_iff.mp there
      exact .inl (old.destruction_relocate _ _ _)
    · next away => exact .inr ⟨away, there⟩
  · rw [getElem?_modifyCard] at there
    split at there
    · obtain ⟨old, _, rfl⟩ := Option.map_eq_some_iff.mp there
      exact .inl rfl
    · next away => exact .inr ⟨away, there⟩

/-- The destruction of one card leaves those at other places alone. -/
theorem getElem?_destroyMarked_of_ne {entry : InstanceId × Destruction} {place : Nat}
    (away : place ≠ entry.1.index) : (state.destroyMarked entry).cards[place]? = state.cards[place]? := by
  obtain ⟨card, cause⟩ := entry
  rw [destroyMarked]
  split
  · next origin middle moved =>
    obtain ⟨found, remaining, _, _, _, _, rfl⟩ := relocate_cases moved
    rw [cards_record, cards_record, getElem?_arrived, if_neg away]
  · rw [getElem?_modifyCard, if_neg away]

/-- The destruction of all cards that are marked leaves no mark. -/
theorem foldl_destroyMarked_unmarked {entries : List (InstanceId × Destruction)}
    (anchored : state.Anchored)
    (listed : ∀ found ∈ state.cards, found.destruction ≠ none →
      found.isOnField = true ∧ found.id ∈ entries.map Prod.fst) :
    (entries.foldl destroyMarked state).Unmarked := by
  induction entries generalizing state with
  | nil =>
    intro found member
    by_contra marked
    simpa using (listed found member marked).2
  | cons entry rest ih =>
    have edits : Edits state (state.destroyMarked entry) := .of_edit (.destroy state entry)
    apply ih (edits.shifts.anchored anchored)
    intro found member marked
    obtain ⟨place, there⟩ := List.mem_iff_getElem?.mp member
    rcases of_destroyMarked there with clean | ⟨away, early⟩
    · exact absurd clean marked
    · obtain ⟨field, named⟩ := listed found (List.mem_of_getElem? early) marked
      refine ⟨field, (List.mem_cons.mp named).resolve_left fun same => away ?_⟩
      rw [← anchored.place_eq early field, same]

theorem Unmarked.of_cards (unmarked : before.Unmarked) (cards : after.cards = before.cards) :
    after.Unmarked := by
  intro found member
  exact unmarked found (cards ▸ member)

theorem Unmarked.marked_eq_nil (unmarked : state.Unmarked) : state.marked = [] := by
  rw [marked, List.filterMap_eq_nil_iff]
  intro card member
  rw [unmarked card member]
  exact ite_self none

theorem Unmarked.refresh (unmarked : state.Unmarked) (catalog : Catalog) :
    (state.refresh catalog).Unmarked := by
  intro found member
  obtain ⟨place, there⟩ := List.mem_iff_getElem?.mp member
  obtain ⟨old, early, same⟩ := bare_refresh there
  have mark : found.destruction = old.destruction := congrArg (·.destruction) same
  exact mark.trans (unmarked old (List.mem_of_getElem? early))

/-- After a round of destruction no card is marked if only cards on the field were. -/
theorem destroyAllMarked_unmarked (anchored : state.Anchored) (marks : state.MarksField)
    (catalog : Catalog) : (state.destroyAllMarked catalog).Unmarked := by
  have shifts : Shifts state (state.refresh catalog) :=
    (Edits.of_edit (.refresh state catalog)).shifts
  have listed : ∀ found ∈ (state.refresh catalog).cards, found.destruction ≠ none →
      found.isOnField = true ∧ found.id ∈ (state.refresh catalog).marked.map Prod.fst := by
    intro found member marked
    have field : found.isOnField = true := by
      by_contra away
      obtain ⟨place, there⟩ := List.mem_iff_getElem?.mp member
      obtain ⟨old, early, same⟩ := bare_refresh there
      have zone : found.isOnField = old.isOnField := congrArg (·.isOnField) same
      have mark : found.destruction = old.destruction := congrArg (·.destruction) same
      rw [zone, Bool.not_eq_true] at away
      exact marked (mark.trans (marks old (List.mem_of_getElem? early) away))
    obtain ⟨cause, given⟩ := Option.ne_none_iff_exists'.mp marked
    refine ⟨field, List.mem_map.mpr ⟨(found.id, cause), ?_, rfl⟩⟩
    exact List.mem_filterMap.mpr ⟨found, member, by simp [field, given]⟩
  have cleared : (state.razedRound catalog).Unmarked :=
    foldl_destroyMarked_unmarked (shifts.anchored anchored) listed
  by_cases nothing : (state.refresh catalog).marked = []
  · rw [destroyAllMarked_of_unmarked nothing]
    rwa [razedRound, nothing] at cleared
  · rw [destroyAllMarked_of_round nothing (cleared.refresh catalog).marked_eq_nil]
    exact cleared.refresh catalog

theorem cards_checkLoss (state : GameState) : state.checkLoss.cards = state.cards := by
  rw [checkLoss]
  split
  · rw [endDuel]
    split
    · rfl
    · rfl
  · rfl

/-- After a sweep no card is marked. -/
theorem sweep_unmarked (anchored : state.Anchored) (marks : state.MarksField) (catalog : Catalog) :
    (state.sweep catalog).Unmarked :=
  (destroyAllMarked_unmarked anchored marks catalog).of_cards (cards_checkLoss _)

/-! What happens by itself -/

/-- The cost of a trigger marks nothing. -/
theorem payTriggerCost_unmarked {cost : Option Cost} {trigger : TriggeredEffect}
    (paid : state.payTriggerCost cost trigger = .ok next) (unmarked : state.Unmarked) :
    next.Unmarked := by
  rw [payTriggerCost.eq_def] at paid
  split at paid
  · obtain rfl := Except.ok.inj paid
    exact unmarked
  · split at paid
    · obtain ⟨_, made⟩ := ite_error_eq_ok.mp paid
      obtain rfl := Except.ok.inj (mapError_eq_ok.mp made)
      exact unmarked
    · simp only [applyChange, Change.toGraveyard, mapError_eq_ok, Change.apply, bind_eq_ok,
        pure_eq_ok] at paid
      obtain ⟨⟨_, middle⟩, moved, rfl⟩ := paid
      obtain ⟨found, remaining, _, _, _, _, rfl⟩ := relocate_cases moved
      intro new member
      obtain ⟨place, there⟩ := List.mem_iff_getElem?.mp member
      rcases of_getElem?_arrived there with stayed | ⟨_, old, slot, _, rfl⟩
      · exact unmarked new (List.mem_of_getElem? stayed)
      · exact old.destruction_relocate _ _ _

/-- A trigger that is chained marks no card. -/
theorem chainTrigger_unmarked (trigger : TriggeredEffect) (unmarked : state.Unmarked) :
    (chainTrigger catalog state trigger).Unmarked := by
  rcases chainTrigger_cases catalog state trigger with same | ⟨_, paid, _, pays, same⟩
  · rwa [same]
  · rw [same]
    exact (payTriggerCost_unmarked pays unmarked).of_cards rfl

/-- A window that opens marks no card. -/
theorem openWindow_unmarked (unmarked : state.Unmarked) : (state.openWindow catalog).Unmarked := by
  have triggered : (state.triggered catalog).Unmarked := by
    refine triggered_keeps Unmarked ?_ (unmarked.of_cards rfl)
    intro before clean trigger _ _
    exact chainTrigger_unmarked trigger clean
  obtain ⟨window, _, same⟩ := state.openWindow_eq catalog
  refine triggered.of_cards ?_
  rw [same, announceWindow]
  split
  · rfl
  · rfl

end GameState

end CardDuel
