/-
This file shows that what is reported of one part of a card does not depend on the others. For a kind and
subeffects each effect, each ability and the summoning have their own issues, and a card with a number and a name
reports those of all its parts. Of a card without a number or a name none of them is reported.
-/

import CardDuel.Proofs.Catalog.Place

namespace CardDuel

/-- This is a part of a card that is looked at if the card has a number, a name and a kind. -/
inductive CardPart where
  | effects
  | effect (index : Nat)
  | abilities
  | ability (index : Nat)
  | summoning

namespace CardPart

/-- This leads from a card to a part of it. -/
def path : CardPart → Path
  | effects => [.key "effects"]
  | effect index => [.key "effects", .index index]
  | abilities => [.key "continuous"]
  | ability index => [.key "continuous", .index index]
  | summoning => [.key "special_summon"]

/-- This is a part with a value, apart from the card. -/
def located (part : CardPart) (stored : Json) : Located := ⟨part.path, stored⟩

/-- These are the issues about a part with a value on a card of a kind. -/
def issues (subeffects : Located) (kind : CardKind) (part : CardPart) (stored : Json) : List Issue :=
  match part with
  | effects | abilities => (part.located stored).array.issues
  | effect _ => (Located.effect subeffects kind (part.located stored)).issues
  | ability _ => (part.located stored).ability.issues
  | summoning =>
    if kind.isMonster then (part.located stored).condition.issues
    else [⟨part.path, .specialSummonOnOther⟩]

/-- This is a list of a card with its items. -/
def listed (list : CardPart) (item : Nat → CardPart) (value : Json) : List (CardPart × Json) :=
  (list.path.follow? value).elim [] fun stored =>
    (list, stored) :: (stored.items?.getD []).mapIdx fun index stored => (item index, stored)

/-- These are the parts of a card with their values, in the order in which they are looked at. -/
def all (value : Json) : List (CardPart × Json) :=
  listed effects effect value ++ listed abilities ability value ++
    (summoning.path.follow? value).toList.map fun stored => (summoning, stored)

variable {subeffects : Located} {kind : CardKind} {value : Json}

theorem follow?_key (name : String) : Path.follow? [.key name] value = value.field? name :=
  Option.bind_fun_some _

theorem follow?_item (name : String) (index : Nat) : Path.follow? [.key name, .index index] value =
    (value.field? name).bind fun list => (list.items?.getD [])[index]? := by
  rw [Path.follow?, PathStep.follow?]
  congr 1
  funext list
  rw [Path.follow?, PathStep.follow?]
  cases list.items? <;> simp [Path.follow?]

/-- The parts of a list are the list itself and its items, each at its place. -/
theorem mem_listed {list part : CardPart} {item : Nat → CardPart} {name : String} {stored : Json}
    (path : list.path = [.key name]) : (part, stored) ∈ listed list item value ↔
      part = list ∧ value.field? name = some stored ∨
        ∃ index, part = item index ∧ Path.follow? [.key name, .index index] value = some stored := by
  simp only [listed, path, follow?_key, follow?_item]
  cases value.field? name with
  | none => simp
  | some whole =>
    simp only [Option.elim_some, List.mem_cons, Prod.mk.injEq, List.mem_mapIdx, Option.bind_some,
      List.getElem?_eq_some_iff, Option.some.injEq]
    refine or_congr (and_congr_right fun _ => eq_comm) ⟨?_, ?_⟩
    · rintro ⟨index, inRange, rfl, rfl⟩
      exact ⟨index, rfl, inRange, rfl⟩
    · rintro ⟨index, rfl, inRange, rfl⟩
      exact ⟨index, inRange, rfl, rfl⟩

/-- All that a card has at the place of a part is looked at. -/
theorem mem_all {part : CardPart} {stored : Json} :
    (part, stored) ∈ all value ↔ part.path.follow? value = some stored := by
  rw [all, List.mem_append, List.mem_append, mem_listed rfl, mem_listed rfl]
  cases part <;> simp [path, follow?_key]

theorem field?_root (name : String) :
    (Located.root value).field? name = (value.field? name).map fun stored => ⟨[.key name], stored⟩ := rfl

variable (subeffects kind value) in
/-- The issues about a list and its items are those of the parts. -/
theorem entryIssues_listed (list : CardPart) (item : Nat → CardPart) {name : String}
    (read : Located → List Issue) (path : list.path = [.key name])
    (whole : ∀ stored, list.issues subeffects kind stored = (list.located stored).array.issues)
    (each : ∀ index stored, (item index).issues subeffects kind stored =
      read ⟨[.key name, .index index], stored⟩) :
    (Located.root value).entryIssues name read =
      (listed list item value).flatMap fun entry => entry.1.issues subeffects kind entry.2 := by
  rw [Located.entryIssues, listed, path, follow?_key, field?_root]
  cases value.field? name with
  | none => rfl
  | some stored =>
    have items : (⟨[.key name], stored⟩ : Located).items =
        (stored.items?.getD []).mapIdx fun index stored => ⟨[.key name, .index index], stored⟩ := by
      rw [Located.items, Located.items?]
      cases stored.items? <;> rfl
    rw [Option.map_some, Option.elim_some, Option.elim_some, List.flatMap_cons, whole, located, path, items,
      List.mapIdx_eq_zipIdx_map, List.mapIdx_eq_zipIdx_map, List.flatMap_map, List.flatMap_map]
    simp only [each]

/-- The contents of a card report the issues of its parts, in order. -/
theorem contents_eq : (Located.root value).contents kind = (all value).flatMap fun entry =>
    entry.1.issues (Located.root value).subeffectPart kind entry.2 := by
  have effects := entryIssues_listed (Located.root value).subeffectPart kind value effects effect
    (fun item => (Located.effect (Located.root value).subeffectPart kind item).issues) rfl (fun _ => rfl)
    fun _ _ => rfl
  have abilities := entryIssues_listed (Located.root value).subeffectPart kind value abilities ability
    (fun item => item.ability.issues) rfl (fun _ => rfl) fun _ _ => rfl
  rw [Located.contents, all, List.flatMap_append, List.flatMap_append, effects, abilities,
    Located.issues_specialSummon, path, follow?_key, field?_root]
  cases value.field? "special_summon" <;> simp [issues, located, path]

/-- What is reported of a part is at or below it, or in a subeffect. -/
theorem issues_place (part : CardPart) (stored : Json) : ∀ issue ∈ part.issues subeffects kind stored,
    part.path <+: issue.path ∨ subeffects.path <+: issue.path := by
  have own {issue : Issue} (blames : (part.located stored).Blames issue) : part.path <+: issue.path := by
    obtain ⟨below, lower, path⟩ := blames.inside
    exact path ▸ lower.path_starts
  intro issue member
  cases part with
  | effects => exact .inl (own (Located.array_blames _ issue member))
  | abilities => exact .inl (own (Located.array_blames _ issue member))
  | ability => exact .inl (own (Located.ability_blames _ issue member))
  | summoning =>
    rw [issues] at member
    split at member
    · exact .inl (own (Located.condition_blames _ issue member))
    · obtain rfl := List.mem_singleton.mp member
      exact .inl ⟨[], List.append_nil _⟩
  | effect index =>
    rw [issues, Located.issues_effect, List.mem_append] at member
    rcases member with plain | tree
    · exact .inl (own (Located.effectIssues_blames _ kind issue plain))
    cases rooted : ((effect index).located stored).field? "effect" with
    | none => simp [rooted] at tree
    | some root =>
      rw [rooted] at tree
      obtain ⟨visit, reached, fault⟩ := Located.mem_issues_tree.mp tree
      obtain ⟨source, below, stands, lower, path⟩ := Visit.faults_within reached fault
      rcases Visit.source?_cases stands with ⟨_, rfl⟩ | ⟨_, _, known⟩
      · exact .inl (path ▸ ((Located.below_field rooted).trans lower).path_starts)
      · exact .inr (path ▸ ((Located.below_field known).trans lower).path_starts)

end CardPart

namespace Located

/-- These are the keys under which a card says of which kind it is. -/
def kindKeys : List String := ["kind", "level", "atk", "def", "spell_type", "trap_type"]

/-- These are the keys of the fields with which the report of a card begins. -/
def openingKeys : List String := ["subeffects", "id", "name"] ++ kindKeys

section Congr

variable {left right : Located} (path : left.path = right.path)
include path

/-- Equal fields at the same place are the same part. -/
theorem field?_congr {name : String} (same : left.value.field? name = right.value.field? name) :
    left.field? name = right.field? name := by
  rw [field?, field?, same, path]

/-- A required field is read alike of parts that agree on it. -/
theorem required_congr {name : String} (same : left.value.field? name = right.value.field? name) :
    left.required name = right.required name := by
  rw [required, required, field?_congr path same]
  cases right.field? name with
  | none => rw [orFail, orFail, fail, fail, path]
  | some field => rfl

/-- A choice is read alike of parts that agree on its field. -/
theorem choice_congr {α : Type} {name : String} (same : left.value.field? name = right.value.field? name)
    (default : α) (ofName? : String → Option α) :
    left.choice name default ofName? = right.choice name default ofName? := by
  rw [choice, choice, field?_congr path same]

/-- The kind of a card depends on nothing but the fields that say it. -/
theorem kind_congr (same : ∀ key ∈ kindKeys, left.value.field? key = right.value.field? key) :
    left.kind = right.kind := by
  have monster : left.monster = right.monster := by
    rw [Located.monster, Located.monster, required_congr path (same "level" (by decide)),
      required_congr path (same "atk" (by decide)), required_congr path (same "def" (by decide)),
      field?_congr path (same "level" (by decide))]
  rw [kind, kind, monster, required_congr path (same "kind" (by decide)),
    choice_congr path (same "spell_type" (by decide)), choice_congr path (same "trap_type" (by decide))]

/-- The subeffects of two cards are the same part if the cards agree on them. -/
theorem subeffectPart_congr (same : left.value.field? "subeffects" = right.value.field? "subeffects") :
    left.subeffectPart = right.subeffectPart := by
  rw [subeffectPart, subeffectPart, field?_congr path same, path]

/-- What comes first in the report of a card depends on nothing but a few fields. -/
theorem opening_congr (object : left.value.members?.isNone = right.value.members?.isNone)
    (same : ∀ key ∈ openingKeys, left.value.field? key = right.value.field? key) :
    left.opening = right.opening := by
  have subeffects : left.subeffects = right.subeffects := by
    rw [subeffects, subeffects, field?_congr path (same "subeffects" (by decide)), path]
  rw [opening, opening, object, subeffects, required_congr path (same "id" (by decide)),
    required_congr path (same "name" (by decide)),
    kind_congr path fun key member => same key (List.mem_append_right _ member), path]

end Congr

end Located

/-- This leaves nothing of an object but some of its fields. -/
def Json.pruned (keys : List String) (value : Json) : Json :=
  .object (keys.filterMap fun key => (value.field? key).map fun stored => (key, stored))

/-- A pruned value keeps the fields with the given keys. -/
theorem Json.field?_pruned (keys : List String) (value : Json) (key : String) :
    (value.pruned keys).field? key = if key ∈ keys then value.field? key else none := by
  rw [pruned, field?]
  induction keys with
  | nil => rfl
  | cons first rest ih =>
    by_cases same : key = first
    · subst same
      cases found : value.field? key with
      | none => simpa [List.filterMap_cons, found] using ih
      | some stored => simp [found]
    · have other : (key == first) = false := beq_eq_false_iff_ne.mpr same
      cases found : value.field? first with
      | none => simpa [List.filterMap_cons, found, same] using ih
      | some stored => simpa [List.filterMap_cons, found, same, List.lookup_cons, other] using ih

/-- What comes first in the report of a card is about none of the parts that are looked at later. -/
theorem CardPart.opening_place (value : Json) (part : CardPart) :
    ∀ issue ∈ (Located.root value).opening, ¬part.path <+: issue.path := by
  intro issue member inside
  cases object : value.members?.isNone with
  | true =>
    rw [Located.opening, Located.root, object] at member
    obtain rfl := List.mem_singleton.mp member
    cases part <;> simp [path] at inside
  | false =>
    have same : (Located.root value).opening = (Located.root (value.pruned Located.openingKeys)).opening :=
      Located.opening_congr rfl object fun key listed => by
        rw [Located.root, Located.root, Json.field?_pruned, if_pos listed]
    rw [same] at member
    obtain ⟨below, ⟨steps, whole, taken⟩, place⟩ := (Located.opening_blames _ issue member).inside
    obtain ⟨rest, split⟩ := inside
    have absent : part.path.follow? (value.pruned Located.openingKeys) = none := by
      cases part <;>
        simp [path, Path.follow?, PathStep.follow?, Json.field?_pruned, Located.openingKeys, Located.kindKeys]
    have steps : steps = part.path ++ rest := by rw [split, place, whole, Located.root, List.nil_append]
    rw [steps, Path.follow?_append, Located.root, absent] at taken
    cases taken

theorem Located.path_subeffectPart (value : Json) : (root value).subeffectPart.path = [.key "subeffects"] := by
  rw [subeffectPart]
  cases found : (root value).field? "subeffects" with
  | none => rfl
  | some field =>
    obtain ⟨_, _, rfl⟩ := Option.map_eq_some_iff.mp found
    rfl

/--
All cards of one kind with the same subeffects report the same about the same part. If they have a number and a
name, they report, after what comes first, the issues of all parts that are there, one part after the other; those
of a part are at or below it or in a subeffect, and what comes first is not. A card without a number or a name
reports nothing but what comes first.
-/
theorem CardTemplate.reported_parts {value : Json} {kind : CardKind}
    (typed : (Located.root value).kind.value? = some kind) :
    (∀ other : Json, (∀ key ∈ "subeffects" :: Located.kindKeys, other.field? key = value.field? key) →
      reported other = (Located.root other).opening ++
        if (Located.root other).identified then
          (CardPart.all other).flatMap fun entry =>
            entry.1.issues (Located.root value).subeffectPart kind entry.2
        else []) ∧
    (∀ other part stored, (part, stored) ∈ CardPart.all other ↔ part.path.follow? other = some stored) ∧
    (∀ part : CardPart, ∀ stored, ∀ issue ∈ part.issues (Located.root value).subeffectPart kind stored,
      part.path <+: issue.path ∨ [.key "subeffects"] <+: issue.path) ∧
    ∀ other, ∀ issue ∈ (Located.root other).opening, ∀ part : CardPart, ¬part.path <+: issue.path := by
  refine ⟨?_, fun other part stored => CardPart.mem_all, ?_,
    fun other issue member part => part.opening_place other issue member⟩
  · intro other same
    have subeffects : (Located.root other).subeffectPart = (Located.root value).subeffectPart :=
      Located.subeffectPart_congr rfl (same "subeffects" List.mem_cons_self)
    have kinds : (Located.root other).kind = (Located.root value).kind :=
      Located.kind_congr rfl fun key member => same key (List.mem_cons_of_mem _ member)
    rw [reported_eq, Located.issues_card, kinds, typed, Option.elim_some, CardPart.contents_eq, subeffects]
  · intro part stored issue member
    rw [← Located.path_subeffectPart value]
    exact part.issues_place stored issue member

/-- This describes a spell that has an effect with an unknown action and, besides, what is given. -/
def Json.firecracker (members : List (String × Json)) : Json :=
  .object ([
    ("effects", .array [.object [("effect", .object [("action", .string "explode")]),
      ("type", .string "activate")]]),
    ("id", .number (.integer 1)), ("kind", .string "spell")] ++ members)

/-- The action of a firecracker is reported if it has a name, and only the missing name is if it has none. -/
theorem CardTemplate.firecracker_hides :
    (Located.root (.firecracker [])).kind.value? = some (.spell .normal) ∧
    reported (.firecracker [("name", .string "Firecracker")]) =
      [⟨[.key "effects", .index 0, .key "effect", .key "action"], .unknownAction "explode"⟩] ∧
    reported (.firecracker []) = [⟨[], .missingField "name"⟩] := by
  have typed : (Located.root (.firecracker [])).kind.value? = some (.spell .normal) := by decide +kernel
  have parts := (reported_parts typed).1
  have same : ∀ key ∈ "subeffects" :: Located.kindKeys,
      (Json.firecracker [("name", .string "Firecracker")]).field? key = (Json.firecracker []).field? key := by
    simp only [Located.kindKeys, List.forall_mem_cons]
    exact ⟨rfl, rfl, rfl, rfl, rfl, rfl, rfl, fun _ member => absurd member List.not_mem_nil⟩
  refine ⟨typed, ?_, ?_⟩
  · rw [parts _ same]
    decide +kernel
  · rw [parts _ fun _ _ => rfl]
    decide +kernel

end CardDuel
