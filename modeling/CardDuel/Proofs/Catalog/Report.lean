/-
This file splits what is reported of a card. First comes what is wrong with its subeffects as a whole, its number,
its name and its kind, and then, if it has a number and a name, what is wrong with each of its other parts: that
depends on the part, the kind and the subeffects and on nothing else of the card.
-/

import CardDuel.Proofs.Catalog.Visit
import CardDuel.Proofs.Catalog.Written

namespace CardDuel

namespace Located

open Checked

variable (part : Located)

/-! Effects -/

/-- This is the number of targets for which the tree of an effect is read. -/
def available (card : CardKind) : Nat :=
  TargetSpec.total (((part.effectTargets (part.effectKind card).value?).value?.getD []).filterMap id)

def effectIssues (card : CardKind) : List Issue :=
  if part.value.members?.isNone then [⟨part.path, .expected "object"⟩]
  else
    let kind := (part.effectKind card).value?
    (part.effectKind card).issues ++ (part.effectSpeed card kind).issues ++
      (part.choice "limit" none fun name => (ActivationLimit.ofName? name).map some).issues ++
      (part.optional "cost" cost).issues ++ (part.optional "condition" condition).issues ++
      (part.effectTrigger kind).issues ++ (part.effectTargets kind).issues ++
      (part.triggerCost kind (part.optional "cost" cost).value?.join).issues ++ (part.required "effect").issues

/-- The targets of an effect are always read on, whatever is wrong with them. -/
theorem isSome_effectTargets (kind : Option EffectKind) : (part.effectTargets kind).value?.isSome = true := by
  rw [effectTargets]
  split
  · rfl
  · split <;> simp [value?_bind, note]

/-- The cost of a trigger is a fault that stops no reading. -/
theorem isSome_triggerCost (kind : Option EffectKind) (cost : Option Cost) :
    (part.triggerCost kind cost).value?.isSome = true := by
  rw [triggerCost.eq_def]
  split
  · split <;> rfl
  · rfl

/-- A value that is no object has no fields. -/
theorem field?_of_isNone (other : part.value.members?.isNone = true) (name : String) :
    part.field? name = none := by
  rw [field?]
  cases value : part.value <;> simp_all [Json.members?, Json.field?]

/-- An effect reports what is wrong with itself and then what is wrong with its tree. -/
theorem issues_effect (subeffects : Located) (card : CardKind) :
    (effect subeffects card part).issues = part.effectIssues card ++
      (part.field? "effect").elim [] fun root => (root.tree subeffects (part.available card)).issues := by
  rw [effect, object_bind, effectIssues]
  split
  · next other =>
    rw [part.field?_of_isNone other]
    rfl
  · obtain ⟨targets, aimed⟩ := Option.isSome_iff_exists.mp
      (part.isSome_effectTargets (part.effectKind card).value?)
    obtain ⟨_, paid⟩ := Option.isSome_iff_exists.mp
      (part.isSome_triggerCost (part.effectKind card).value? (part.optional "cost" cost).value?.join)
    rw [available, aimed]
    simp [issues_bind, aimed, paid]

/-- What is wrong with an effect, its tree apart, is blamed on it. -/
theorem effectIssues_blames (card : CardKind) : ∀ issue ∈ part.effectIssues card, part.Blames issue := by
  rw [effectIssues]
  split
  · exact part.note_blames.mpr rfl
  · simp only [List.forall_mem_append]
    exact ⟨⟨⟨⟨⟨⟨⟨⟨part.effectKind_blames card, part.effectSpeed_blames card _⟩, part.choice_blames _ _ _⟩,
      part.optional_blames "cost" cost_blames⟩, part.optional_blames "condition" condition_blames⟩,
      part.effectTrigger_blames _⟩, part.effectTargets_blames _⟩, part.triggerCost_blames _ _⟩,
      part.orFail_blames.mpr fun _ => rfl⟩

/-! Cards -/

/-- This is the part that holds the subeffects, be it what it may. -/
def subeffectPart : Located :=
  (part.field? "subeffects").getD ⟨part.path ++ [.key "subeffects"], .null⟩

/-- The subeffects of a card are always read on. -/
theorem value?_subeffects : part.subeffects.value? = some part.subeffectPart := by
  rw [subeffects, subeffectPart]
  split
  · next absent => rw [absent, value?_pure, Option.getD_none]
  · next field found =>
    rw [found]
    split <;> rfl

/-- This tells that a card has a number and a name. -/
def identified : Bool :=
  (part.required "id" >>= word).value?.isSome && (part.required "name" >>= string).value?.isSome

/-- These are the issues about a card itself, its subeffects as a whole, its number, its name and its kind. -/
def opening : List Issue :=
  if part.value.members?.isNone then [⟨part.path, .expected "object"⟩]
  else
    part.subeffects.issues ++ (part.required "id" >>= word).issues ++
      (part.required "name" >>= string).issues ++ part.kind.issues

/-- These are the issues about a list and then those about its items. -/
def entryIssues (name : String) (issues : Located → List Issue) : List Issue :=
  (part.field? name).elim [] fun list => list.array.issues ++ list.items.flatMap issues

/-- These are the issues about the effects, the abilities and the summoning of a card of a kind. -/
def contents (kind : CardKind) : List Issue :=
  part.entryIssues "effects" (fun item => (effect part.subeffectPart kind item).issues) ++
    part.entryIssues "continuous" (fun item => item.ability.issues) ++ (part.specialSummon kind).issues

/-- A list reports that it is no list, and what its items report. -/
theorem issues_entries {α : Type} (name : String) (read : Located → Checked α) :
    (part.entries name read).issues = part.entryIssues name fun item => (read item).issues := by
  rw [entries, entryIssues]
  cases part.field? name with
  | none => rfl
  | some list => simp [issues_bind, each, List.flatMap_map]

/-- A list is always read on, with the items that were read. -/
theorem isSome_entries {α : Type} (name : String) (read : Located → Checked α) :
    (part.entries name read).value?.isSome = true := by
  rw [entries]
  split
  · rfl
  · simp [value?_bind]

/-- What is asked for to summon a card is looked at on monsters and reported on other cards. -/
theorem issues_specialSummon (kind : CardKind) : (part.specialSummon kind).issues =
    (part.field? "special_summon").elim [] fun field =>
      if kind.isMonster then field.condition.issues else [⟨field.path, .specialSummonOnOther⟩] := by
  rw [specialSummon]
  cases part.field? "special_summon" with
  | none => rfl
  | some field => cases kind.isMonster <;> rfl

/-- A value that is no object has no kind. -/
theorem value?_kind_of_isNone (other : part.value.members?.isNone = true) : part.kind.value? = none := by
  rw [kind, value?_bind, value?_required, part.field?_of_isNone other, Option.bind_none]

/-- A card reports its contents exactly if it has a number, a name and a kind. -/
theorem issues_card : part.card.issues =
    part.opening ++ if part.identified then part.kind.value?.elim [] part.contents else [] := by
  rw [card, object_bind, opening]
  split
  · next other => simp [part.value?_kind_of_isNone other, fail]
  rw [identified]
  generalize (part.required "id" >>= word) = number
  generalize (part.required "name" >>= string) = name
  rw [issues_bind, value?_subeffects, Option.elim_some, issues_attempt_bind, issues_attempt_bind,
    issues_attempt_bind, issues_require_bind]
  cases number.value? with
  | none => simp
  | some id =>
    cases name.value? with
    | none => simp
    | some text =>
      cases part.kind.value? with
      | none => simp
      | some kind =>
        obtain ⟨effects, read⟩ := Option.isSome_iff_exists.mp
          (part.isSome_entries "effects" (effect part.subeffectPart kind))
        obtain ⟨abilities, listed⟩ := Option.isSome_iff_exists.mp (part.isSome_entries "continuous" ability)
        simp [issues_bind, read, listed, issues_entries, contents]

/-! Blame -/

/-- Subeffects that are no object are blamed on their field. -/
theorem subeffects_blames : part.subeffects.Reports part.Blames := by
  rw [subeffects]
  split
  · exact reports_pure
  · next field found =>
    apply Reports.of_field _ found
    simp

/-- What is wrong with the opening of a card is blamed on it. -/
theorem opening_blames : ∀ issue ∈ part.opening, part.Blames issue := by
  rw [opening]
  split
  · exact part.note_blames.mpr rfl
  · simp only [List.forall_mem_append]
    exact ⟨⟨⟨part.subeffects_blames, part.amount_blames "id"⟩, part.required_blames "name" string_blames⟩,
      part.kind_blames⟩

/-- What is wrong with the condition for a special summon is blamed on the card. -/
theorem specialSummon_blames (kind : CardKind) : (part.specialSummon kind).Reports part.Blames := by
  rw [Checked.Reports, issues_specialSummon]
  cases found : part.field? "special_summon" with
  | none => simp
  | some field =>
    rw [Option.elim_some]
    split
    · exact field.condition_blames.of_field found
    · exact (field.note_blames.mpr rfl).of_field found

/-- This tells that an effect of a card has a tree with a root. -/
structure Grows (effect root : Located) : Prop where
  listed : ∃ list, part.field? "effects" = some list ∧ effect ∈ list.items
  rooted : effect.field? "effect" = some root

variable {part}

/-- What is wrong with a list is that it is none, or what is wrong with one of its items. -/
theorem mem_entryIssues {name : String} {issues : Located → List Issue} {issue : Issue} :
    issue ∈ part.entryIssues name issues ↔ ∃ list, part.field? name = some list ∧
      (issue ∈ list.array.issues ∨ ∃ item ∈ list.items, issue ∈ issues item) := by
  rw [entryIssues]
  cases part.field? name <;> simp

/-- What is wrong with the contents of a card is wrong with a part of it or with the tree of an effect. -/
theorem contents_cases {kind : CardKind} {issue : Issue} (member : issue ∈ part.contents kind) :
    part.Blames issue ∨ ∃ effect root, part.Grows effect root ∧
      issue ∈ (root.tree part.subeffectPart (effect.available kind)).issues := by
  have inside {name : String} {list : Located} (found : part.field? name = some list) :
      (∀ issue ∈ list.array.issues, part.Blames issue) ∧
        ∀ item ∈ list.items, ∀ issue, item.Blames issue → part.Blames issue :=
    ⟨list.array_blames.of_field found,
      fun item member issue blames => (blames.of_item member).of_field found⟩
  rw [contents, List.mem_append, List.mem_append, mem_entryIssues, mem_entryIssues] at member
  rcases member with (⟨list, found, array | ⟨item, member, told⟩⟩ | ⟨list, found, array | ⟨item, member, told⟩⟩) |
    summoning
  · exact .inl ((inside found).1 issue array)
  · rw [issues_effect, List.mem_append] at told
    rcases told with own | below
    · exact .inl ((inside found).2 item member issue (item.effectIssues_blames kind issue own))
    · cases rooted : item.field? "effect" with
      | none => simp [rooted] at below
      | some root =>
        rw [rooted] at below
        exact .inr ⟨item, root, ⟨⟨list, found, member⟩, rooted⟩, below⟩
  · exact .inl ((inside found).1 issue array)
  · exact .inl ((inside found).2 item member issue (item.ability_blames issue told))
  · exact .inl (part.specialSummon_blames kind issue summoning)

/-- What is wrong with the tree of an effect is wrong with the contents of the card. -/
theorem tree_contents {kind : CardKind} {effect root : Located} (grows : part.Grows effect root) {issue : Issue}
    (member : issue ∈ (root.tree part.subeffectPart (effect.available kind)).issues) :
    issue ∈ part.contents kind := by
  obtain ⟨list, found, listed⟩ := grows.listed
  refine List.mem_append_left _ (List.mem_append_left _ (mem_entryIssues.mpr ⟨list, found, .inr ?_⟩))
  refine ⟨effect, listed, ?_⟩
  rw [issues_effect, grows.rooted]
  exact List.mem_append_right _ member

/-- What is wrong with a card is wrong with a part of it or with the tree of an effect that is read. -/
theorem card_cases {issue : Issue} (member : issue ∈ part.card.issues) :
    part.Blames issue ∨ part.identified = true ∧ ∃ kind effect root, part.kind.value? = some kind ∧
      part.Grows effect root ∧ issue ∈ (root.tree part.subeffectPart (effect.available kind)).issues := by
  rw [issues_card, List.mem_append] at member
  rcases member with opening | contents
  · exact .inl (part.opening_blames issue opening)
  split at contents
  · next identified =>
    cases typed : part.kind.value? with
    | none => simp [typed] at contents
    | some kind =>
      rw [typed] at contents
      apply (contents_cases contents).imp_right
      intro below
      obtain ⟨effect, root, grows, told⟩ := below
      exact ⟨identified, kind, effect, root, rfl, grows, told⟩
  · cases contents

/-- What is wrong with the tree of an effect is wrong with a card that is read so far. -/
theorem tree_card {kind : CardKind} {effect root : Located} (identified : part.identified = true)
    (typed : part.kind.value? = some kind) (grows : part.Grows effect root) {issue : Issue}
    (member : issue ∈ (root.tree part.subeffectPart (effect.available kind)).issues) :
    issue ∈ part.card.issues := by
  rw [issues_card, identified, typed]
  exact List.mem_append_right _ (tree_contents grows member)

end Located

namespace CardTemplate

def reported (value : Json) : List Issue :=
  match read 0 value with
  | .ok _ => []
  | .error rejected => rejected.issues

/-- The issues that are reported of a card are those of its check. -/
theorem reported_eq (value : Json) : reported value = (Located.root value).card.issues := by
  rw [reported, read]
  cases silent : (Located.root value).card.issues with
  | nil =>
    obtain ⟨template, taken, _⟩ := (Located.root value).card_written silent
    simp only [taken]
  | cons issue rest => cases (Located.root value).card.value? <;> rfl

/-- The issues of a rejected card do not depend on its place in the catalog. -/
theorem issues_rejected {index : Nat} {value : Json} {rejected : RejectedCard}
    (failed : read index value = .error rejected) : rejected.issues = reported value := by
  rw [reported_eq]
  rw [read] at failed
  split at failed
  · cases failed
  · obtain rfl := Except.error.inj failed
    rfl

/-- A card of which something is reported is rejected for it. -/
theorem rejected_of_reported {value : Json} {issues : List Issue} (told : reported value = issues)
    (some : issues ≠ []) (index : Nat) :
    ∃ rejected, read index value = .error rejected ∧ rejected.issues = issues := by
  rw [reported_eq] at told
  rw [read, told]
  cases issues with
  | nil => contradiction
  | cons issue rest => cases (Located.root value).card.value? <;> exact ⟨_, rfl, rfl⟩

end CardTemplate

end CardDuel
