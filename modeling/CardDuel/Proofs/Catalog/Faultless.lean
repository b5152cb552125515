/-
This file tells what the values of checks without an issue are like. A card is taken into a catalog only if
nothing about it was reported, so the triggers of a catalog cost life points or their own card and nothing else.
-/

import CardDuel.Proofs.Catalog.Load

namespace CardDuel

namespace Checked

variable {α β : Type} {good : α → Prop}

/-- This tells that the value of a check is good if there is one and no issue was reported. -/
def Clean (good : α → Prop) (check : Checked α) : Prop :=
  check.issues = [] → ∀ value ∈ check.value?, good value

/-- A sequence reports nothing exactly when its first check and the rest report nothing. -/
theorem clean_bind {check : Checked β} {next : β → Checked α} :
    (check >>= next).Clean good ↔ check.Clean fun value => (next value).Clean good := by
  show (check.andThen next).Clean good ↔ _
  rw [andThen]
  cases given : check.value? with
  | none => simp [Clean, given]
  | some value => simp [Clean, given, and_imp]

/-- A value that is given without an issue must be good. -/
theorem clean_pure {value : α} : (pure value : Checked α).Clean good ↔ good value := by
  simp [Clean, pure]

/-- What is good of all values is good of the value of a check. -/
theorem Clean.of_forall (all : ∀ value, good value) (check : Checked α) : check.Clean good :=
  fun _ value _ => all value

/-- An attempt is clean if a good value, or a good absence, follows from silence. -/
theorem clean_attempt {check : Checked β} {good : Option β → Prop} :
    check.attempt.Clean good ↔ (check.issues = [] → good check.value?) := by
  simp [Clean, attempt]

/-- What is required is clean if it is good where it is there. -/
theorem clean_require {value : Option α} : (require value).Clean good ↔ ∀ given ∈ value, good given := by
  simp [Clean, require]

/-- Checks on several items are clean if each of them is. -/
theorem clean_each {check : β → Checked α} {items : List β}
    (each : ∀ item, (check item).Clean good) :
    (Checked.each check items).Clean fun values => ∀ value, some value ∈ values → good value := by
  intro silent values given value member
  obtain rfl := Option.some.inj given
  obtain ⟨result, checked, read⟩ := List.mem_map.mp member
  obtain ⟨item, listed, rfl⟩ := List.mem_map.mp checked
  exact each item (List.flatMap_eq_nil_iff.mp silent _ (List.mem_map_of_mem listed)) value read

end Checked

/-- This tells that an effect that follows events costs nothing but life points or its own card. -/
def CardEffect.PaysAlone (effect : CardEffect) : Prop :=
  effect.kind = .trigger → ∀ cost ∈ effect.cost, cost.resource = .lifePoints ∨ cost.resource = .this

/-- An activation that does nothing follows no event. -/
theorem CardEffect.paysAlone_empty (speed : Speed) : (CardEffect.plain .activate speed .empty).PaysAlone :=
  fun trigger => by simp [plain] at trigger

namespace Located

open Checked

variable (part : Located)

/-- What is read of an optional part is missing if the part is. -/
theorem field?_of_optional {α : Type} {name : String} {read : Located → Checked α} {value : α}
    (given : (part.optional name read).value? = some (some value)) :
    ∃ field, part.field? name = some field := by
  rw [optional] at given
  cases found : part.field? name with
  | none => simp [found] at given
  | some field => exact ⟨field, rfl⟩

/-- A cost of a trigger that names cards is reported. -/
theorem triggerCost_clean {cost : Option Cost}
    (read : ∀ given ∈ cost, ∃ field, part.field? "cost" = some field) :
    (part.triggerCost (some .trigger) cost).Clean
      fun _ => ∀ given ∈ cost, given.resource = .lifePoints ∨ given.resource = .this := by
  intro silent _ _ given priced
  obtain ⟨field, found⟩ := read given priced
  obtain rfl := Option.mem_def.mp priced
  simp only [triggerCost, found, true_and] at silent
  cases resource : given.resource <;> simp_all [note]

/-- A trigger that is read without an issue names no cards to pay with. -/
theorem effect_clean (subeffects : Located) (card : CardKind) :
    (effect subeffects card part).Clean CardEffect.PaysAlone := by
  simp only [effect, clean_bind, clean_attempt, clean_require, clean_pure]
  refine .of_forall (fun _ _ _ _ _ _ _ => .of_forall (fun _ => ?_) _) _
  intro silent noted told _ kind known _ _ _ _ _ _ cost priced _ _ _ _ _ _ trigger
  obtain rfl : kind = .trigger := trigger
  rw [Option.mem_def.mp known, Option.mem_def.mp priced] at silent told
  refine part.triggerCost_clean ?_ silent noted told
  intro given paid
  obtain rfl : cost = some given := paid
  exact part.field?_of_optional priced

/-- The items of a list that are read without an issue are good if each of them is. -/
theorem entries_clean {α : Type} {good : α → Prop} {read : Located → Checked α}
    (each : ∀ item, (read item).Clean good) (name : String) :
    (part.entries name read).Clean (∀ entry ∈ ·, good entry) := by
  rw [entries]
  split
  · simp [clean_pure]
  · next list _ =>
    simp only [clean_bind, clean_pure]
    refine .of_forall ?_ _
    intro _ silent values given entry member
    refine clean_each each silent values given entry ?_
    simpa using member

/-- The triggers of a card that is read without an issue name no cards to pay with. -/
theorem card_clean : part.card.Clean fun template => ∀ effect ∈ template.effects, effect.PaysAlone := by
  simp only [card, clean_bind, clean_attempt, clean_require, clean_pure]
  refine .of_forall (fun _ => .of_forall (fun subeffects _ _ _ _ _ _ _ kind _ => ?_) _) _
  intro silent effects read
  refine .of_forall (fun _ => .of_forall (fun _ => ?_) _) _
  exact withActivation_all (fun _ => CardEffect.paysAlone_empty _)
    (part.entries_clean (effect_clean · subeffects kind) "effects" silent effects read)

end Located

/-- A card is taken only if nothing about it was reported. -/
theorem CardTemplate.read_clean {good : CardTemplate → Prop} {index : Nat} {value : Json}
    {template : CardTemplate} (clean : (Located.root value).card.Clean good)
    (read : CardTemplate.read index value = .ok template) : good template := by
  rw [CardTemplate.read] at read
  split at read
  · next given silent =>
    obtain rfl := Except.ok.inj read
    exact clean silent _ given
  · cases read

/-- In a catalog that is read from a text no trigger costs other cards. -/
theorem CatalogLoad.parse_paysAlone {text : String} {load : CatalogLoad} (read : parse text = .ok load)
    {card : CardId} {index : Nat} {effect : CardEffect}
    (known : load.catalog.effect? card index = some effect) : effect.PaysAlone := by
  obtain ⟨template, listed, numbered⟩ := Option.bind_eq_some_iff.mp known
  exact parse_all (CardTemplate.read_clean (Located.card_clean _)) read template
    (List.mem_of_find?_eq_some listed) effect (List.mem_of_getElem? numbered)

end CardDuel
