/-
This file shows that every effect of a catalog that was read from a text can be carried out.
-/

import CardDuel.Proofs.Catalog.Tree
import CardDuel.Catalog.Load

namespace CardDuel

/--
This tells that the instructions of an effect fit its targets, which no trigger effect has, and that the
lowest speed is one.
-/
structure CardEffect.Sound (effect : CardEffect) : Prop where
  fits : effect.root.Each (Instruction.Fits effect.targetCount)
  untargeted : effect.kind = .trigger → effect.targets = []
  speed : 1 ≤ effect.speed.value

/-- An effect that does nothing and has no targets is sound. -/
theorem CardEffect.sound_empty (kind : EffectKind) {speed : Speed} (least : 1 ≤ speed.value) :
    (CardEffect.plain kind speed .empty).Sound :=
  ⟨by simp [CardEffect.plain, EffectTree.empty], fun _ => rfl, least⟩

/-- Every kind of card gives its effects a speed of at least one. -/
theorem CardKind.one_le_speedOf (kind : CardKind) (effect : EffectKind) :
    1 ≤ (kind.speedOf effect).value := by
  rw [speedOf.eq_def]
  split <;> decide

def CardTemplate.Sound (template : CardTemplate) : Prop :=
  ∀ effect ∈ template.effects, effect.Sound

/-- This tells that every effect of every card is sound. -/
def Catalog.Sound (catalog : Catalog) : Prop :=
  ∀ template ∈ catalog.templates, template.Sound

/-- Every effect of a sound catalog is sound. -/
theorem Catalog.Sound.effect {catalog : Catalog} (sound : catalog.Sound) {card : CardId}
    {index : Nat} {effect : CardEffect} (known : catalog.effect? card index = some effect) :
    effect.Sound := by
  obtain ⟨template, listed, numbered⟩ := Option.bind_eq_some_iff.mp known
  exact sound template (List.mem_of_find?_eq_some listed) effect (List.mem_of_getElem? numbered)

namespace Located

open Checked

variable (part : Located) (kind : Option EffectKind)

/-- Without a list of targets an effect has no targets. -/
theorem effectTargets_absent (absent : part.field? "targets" = none) :
    part.effectTargets kind = pure [] := by
  rw [effectTargets, absent]

/-- Allowed targets are all those for which the tree of the effect is read. -/
theorem effectTargets_only : (part.effectTargets kind).Only fun listed => ∀ targets,
    (if part.targetsAllowed kind then complete? listed else none) = some targets →
      listed.filterMap id = targets ∧ (kind = some .trigger → targets = []) := by
  intro listed given targets allowed
  split at allowed
  · next free =>
    constructor
    · rw [complete?_eq_some.mp allowed]
      simp [List.filterMap_map]
    · intro trigger
      have absent : part.field? "targets" = none := by simpa [targetsAllowed, trigger] using free
      rw [effectTargets_absent part kind absent] at given
      obtain rfl : listed = [] := by simpa using given
      exact (Option.some.inj allowed).symm
  · cases allowed

/-- A speed that is read is the one that the effect has anyway. -/
theorem effectSpeed_only (card : CardKind) : (part.effectSpeed card kind).Only fun speed =>
    ∀ given ∈ kind, speed = card.speedOf given := by
  rw [effectSpeed]
  simp only [only_bind, value?_require]
  intro given known
  obtain rfl := Option.mem_def.mp known
  split
  · simp
  · simp only [speed, only_bind, only_ite, only_pure, only_fail, implies_true, and_true]
    rintro _ - declared - rfl _ same
    rw [Option.some.inj same]

/-- An effect that is read is sound. -/
theorem effect_only (subeffects : Located) (card : CardKind) :
    (effect subeffects card part).Only CardEffect.Sound := by
  simp only [effect, only_bind, value?_attempt, value?_require, only_pure, Option.mem_some_iff]
  rintro _ - kind - speed timed _ - _ - _ - _ - listed read _ - root grown _ rfl fast rfl tree rfl
    _ - _ - _ - _ - targets allowed
  obtain ⟨rfl, untargeted⟩ := part.effectTargets_only _ listed read targets allowed
  have fits (count : Nat) : (part.required "effect" >>= fun field => field.tree subeffects count).Only
      (·.Each (Instruction.Fits count)) := by
    simpa using fun field _ => field.tree_only act_only subeffects
  have least := card.one_le_speedOf
  exact ⟨fits _ tree grown, fun trigger => untargeted (congrArg some trigger),
    part.effectSpeed_only _ card fast timed _ rfl ▸ least _⟩

/-- The items of a list that are read are good if each of them is. -/
theorem entries_only {α : Type} {good : α → Prop} {read : Located → Checked α}
    (each : ∀ item, (read item).Only good) (name : String) :
    (part.entries name read).Only (∀ entry ∈ ·, good entry) := by
  rw [entries]
  split
  · simp
  · next list _ =>
    simp only [only_bind, only_pure]
    intro _ _ values given entry member
    exact only_each each values given entry (by simpa using member)

/-- What holds of all effects and of an activation that does nothing holds with such an activation. -/
theorem withActivation_all {kind : CardKind} {effects : List CardEffect} {good : CardEffect → Prop}
    (empty : kind.isMonster = false → good (.plain .activate (kind.speedOf .activate) .empty))
    (all : ∀ effect ∈ effects, good effect) : ∀ effect ∈ withActivation kind effects, good effect := by
  rw [withActivation]
  split
  · next missing =>
    intro effect member
    rcases List.mem_append.mp member with printed | added
    · exact all effect printed
    · obtain rfl := List.mem_singleton.mp added
      simp only [Bool.and_eq_true, Bool.not_eq_true'] at missing
      exact empty missing.1
  · exact all

/-- A card that is read is sound. -/
theorem card_only : part.card.Only CardTemplate.Sound := by
  simp only [card, only_bind, value?_attempt, value?_require, only_pure]
  rintro _ - subeffects - _ - _ - _ - _ - _ - kind - effects read _ - _ -
  exact withActivation_all (fun _ => CardEffect.sound_empty _ (kind.one_le_speedOf _))
    (part.entries_only (effect_only · subeffects kind) _ effects read)

end Located

/-- A card that is read is sound. -/
theorem CardTemplate.read_sound {index : Nat} {value : Json} {template : CardTemplate}
    (read : CardTemplate.read index value = .ok template) : template.Sound := by
  rw [CardTemplate.read] at read
  split at read
  · next given _ =>
    obtain rfl := Except.ok.inj read
    exact Located.card_only _ _ given
  · cases read

namespace CatalogLoad

section All

variable {load : CatalogLoad} {good : CardTemplate → Prop}
  (each : ∀ {index : Nat} {value : Json} {template : CardTemplate},
    CardTemplate.read index value = .ok template → good template)
include each

/-- A card that is added to good ones leaves all of them good if it was read. -/
theorem add_all (kept : ∀ template ∈ load.catalog.templates, good template) (index : Nat)
    (value : Json) : ∀ template ∈ (load.add index value).catalog.templates, good template := by
  rw [add]
  split
  · next template read =>
    split
    · exact kept
    · intro other member
      rcases List.mem_append.mp member with earlier | new
      · exact kept other earlier
      · obtain rfl := List.mem_singleton.mp new
        exact each read
  · exact kept

/-- After all cards of a list were added, all of them are good. -/
theorem addAll_all (kept : ∀ template ∈ load.catalog.templates, good template) (index : Nat)
    (values : List Json) :
    ∀ template ∈ (load.addAll index values).catalog.templates, good template := by
  induction values generalizing load index with
  | nil => exact kept
  | cons value rest ih => exact ih (add_all each kept index value) (index + 1)

/-- The cards of a catalog that is read from a text are good if every card that is read is. -/
theorem parse_all {text : String} (read : parse text = .ok load) :
    ∀ template ∈ load.catalog.templates, good template := by
  rw [parse] at read
  split at read
  · cases read
  · next values _ =>
    obtain rfl := Except.ok.inj read
    exact addAll_all each (by simp) 0 values
  · cases read

end All

variable {load : CatalogLoad}

/-- A catalog that is read from a text is sound. -/
theorem parse_sound {text : String} (read : parse text = .ok load) : load.catalog.Sound :=
  parse_all CardTemplate.read_sound read

/-- In a catalog that is read from a text the lowest speed is one. -/
theorem parse_speeds {text : String} (read : parse text = .ok load) :
    ∀ template ∈ load.catalog.templates, ∀ effect ∈ template.effects, 1 ≤ effect.speed.value :=
  fun template listed effect member => (parse_sound read template listed effect member).speed

end CatalogLoad

end CardDuel
