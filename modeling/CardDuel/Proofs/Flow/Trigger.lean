/-
This file tells which effects follow the events of a window: each of them was allowed when it was
collected, and none of them is collected twice.
-/

import CardDuel.Proofs.Accepted
import CardDuel.State.Trigger
import Mathlib.Data.List.Nodup

namespace CardDuel

namespace TriggeredEffect

/-- This is the effect of a card that follows an event. -/
def subject (trigger : TriggeredEffect) : InstanceId × Nat := (trigger.source, trigger.effect)

variable {trigger : TriggeredEffect} {triggers : List TriggeredEffect}

theorem isFor_iff {card : InstanceId} {effect : Nat} :
    trigger.isFor card effect = true ↔ trigger.subject = (card, effect) := by
  simp [isFor, subject]

/-- This keeps a trigger as well, unless its effect is kept already. -/
def keep (kept : List TriggeredEffect) (trigger : TriggeredEffect) : List TriggeredEffect :=
  if kept.any fun other => other.isFor trigger.source trigger.effect then kept
  else kept ++ [trigger]

/-- What is kept was kept before or is the new trigger. -/
theorem mem_keep {kept : List TriggeredEffect} {other : TriggeredEffect}
    (member : trigger ∈ keep kept other) : trigger ∈ kept ∨ trigger = other := by
  rw [keep] at member
  split at member
  · exact .inl member
  · simpa using member

/-- Kept triggers have different subjects, whatever comes in addition. -/
theorem nodup_keep {kept : List TriggeredEffect} (single : (kept.map subject).Nodup)
    (trigger : TriggeredEffect) : ((keep kept trigger).map subject).Nodup := by
  rw [keep]
  split
  · exact single
  · next new =>
    rw [List.map_append, List.map_singleton]
    refine List.nodup_append.mpr ⟨single, List.nodup_singleton _, ?_⟩
    rintro subject member _ listed rfl
    obtain rfl := List.mem_singleton.mp listed
    obtain ⟨other, there, same⟩ := List.mem_map.mp member
    exact new (List.any_eq_true.mpr ⟨other, there, isFor_iff.mpr same⟩)

/-- Distinct triggers are among those that were collected. -/
theorem mem_distinct (member : trigger ∈ distinct triggers) : trigger ∈ triggers := by
  have kept (rest : List TriggeredEffect) : ∀ first : List TriggeredEffect,
      trigger ∈ rest.foldl keep first → trigger ∈ first ∨ trigger ∈ rest := by
    induction rest with
    | nil => exact fun first found => .inl found
    | cons other rest ih =>
      intro first found
      rcases ih _ found with inFirst | inRest
      · rcases mem_keep inFirst with early | rfl
        · exact .inl early
        · exact .inr (List.mem_cons_self ..)
      · exact .inr (List.mem_cons_of_mem other inRest)
  rcases kept triggers [] member with nowhere | found
  · simp at nowhere
  · exact found

/-- No effect of a card is kept twice. -/
theorem nodup_distinct (triggers : List TriggeredEffect) :
    ((distinct triggers).map subject).Nodup := by
  have kept (rest : List TriggeredEffect) : ∀ first : List TriggeredEffect,
      (first.map subject).Nodup → ((rest.foldl keep first).map subject).Nodup := by
    induction rest with
    | nil => exact fun first single => single
    | cons trigger rest ih => exact fun first single => ih _ (nodup_keep single trigger)
  exact kept triggers [] List.nodup_nil

end TriggeredEffect

namespace GameState

variable {state : GameState} {catalog : Catalog} {events : List GameEvent}
  {trigger : TriggeredEffect}

/-- This tells that an effect of a card on the table may follow an event. -/
structure Follows (state : GameState) (catalog : Catalog) (trigger : TriggeredEffect)
    (card : CardInstance) (effect : CardEffect) (spec : TriggerSpec) : Prop where
  there : card ∈ state.cards
  source : trigger.source = card.id
  printed : trigger.card = card.card
  known : catalog.effect? card.card trigger.effect = some effect
  kind : effect.kind = .trigger
  speed : trigger.speed = effect.speed
  waits : effect.trigger = some spec
  optional : trigger.optional = spec.optional
  watches : canWatch card spec.subject = true
  allowed : ∃ result, state.activations.check card.id trigger.effect effect.limit = .ok result

/-- Whatever is collected is an effect that may follow an event. -/
theorem collectTriggers_follows (member : trigger ∈ state.collectTriggers catalog events) :
    ∃ card effect spec, state.Follows catalog trigger card effect spec := by
  rw [collectTriggers, List.mem_mergeSort] at member
  obtain ⟨card, there, found⟩ := List.mem_flatMap.mp (TriggeredEffect.mem_distinct member)
  rw [triggersOf] at found
  cases known : catalog.get? card.card with
  | none => simp [known] at found
  | some template =>
    simp only [known, List.mem_filterMap, Prod.exists] at found
    obtain ⟨effect, index, placed, given⟩ := found
    rw [triggerOf?] at given
    obtain ⟨spec, waits, rest⟩ := Option.bind_eq_some_iff.mp given
    split at rest
    · next holds =>
      obtain rfl := Option.some.inj rest
      obtain ⟨kind, watches, _, allowed, _⟩ := holds
      refine ⟨card, effect, spec, there, rfl, rfl, ?_, kind, rfl, waits, rfl, watches,
        isOk_iff.mp allowed⟩
      rw [Catalog.effect?, known]
      exact List.mk_mem_zipIdx_iff_getElem?.mp placed
    · simp at rest

/-- No effect of a card is collected twice. -/
theorem nodup_collectTriggers (state : GameState) (catalog : Catalog) (events : List GameEvent) :
    ((state.collectTriggers catalog events).map TriggeredEffect.subject).Nodup := by
  rw [collectTriggers]
  exact ((List.mergeSort_perm _ _).map TriggeredEffect.subject).nodup_iff.mpr
    (TriggeredEffect.nodup_distinct _)

end GameState

end CardDuel
