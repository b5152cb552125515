/-
This file shows that every issue about a card is at a part that is there. What is found in a subeffect while it is
inlined is at a part of that subeffect and not at the reference that led to it.
-/

import CardDuel.Proofs.Catalog.Report

namespace CardDuel

namespace Located

/-- What is below a node is a part of it. -/
theorem below_children {node child : Located} (member : child ∈ node.form.children) : node.Below child := by
  obtain ⟨field, name, found, rfl | item⟩ := mem_children member
  · exact below_field found
  · exact (below_field found).trans (below_item item)

/-- The reference of a node is its field for references. -/
theorem reference_field {node field : Located} (refers : node.form.reference? = some field) :
    node.field? "ref" = some field := by
  have reference := Form.of_reference refers
  obtain other | ⟨last, found, same⟩ | ⟨_, _, other⟩ | ⟨_, _, other⟩ | other | other := node.form_cases
  · cases other.symm.trans reference
  · cases same.symm.trans reference
    exact found
  · cases other.symm.trans reference
  · cases other.symm.trans reference
  · cases other.symm.trans reference
  · cases other.symm.trans reference

/-- What is wrong with a node itself, references apart, is blamed on it. -/
theorem faults_blames (node : Located) (targets : Nat) : ∀ issue ∈ node.form.faults targets node,
    node.Blames issue := by
  obtain other | ⟨_, _, reference⟩ | ⟨list, found, sequence⟩ | ⟨question, found, branch⟩ | instruction | unknown :=
    node.form_cases
  · rw [other]
    exact node.note_blames.mpr rfl
  · rw [reference]
    exact fun _ member => absurd member List.not_mem_nil
  · rw [sequence]
    exact fun issue member => (list.array_blames issue member).of_field found
  · rw [branch]
    rw [Form.faults, List.forall_mem_append]
    constructor
    · exact question.condition_blames.of_field found
    · cases (node.field? "then").isNone with
      | true => exact node.note_blames.mpr rfl
      | false => exact fun _ member => absurd member List.not_mem_nil
  · rw [instruction]
    exact node.act_blames targets
  · rw [unknown]
    exact node.note_blames.mpr rfl

end Located

namespace Visit

variable {subeffects root : Located} {visit : Visit} {targets : Nat}

/-- What is wrong with a reference is at its field. -/
theorem path_referenceFaults {entered : List String} {field : Located} {issue : Issue}
    (member : issue ∈ referenceFaults subeffects entered field) : issue.path = field.path :=
  (mem_referenceFaults.mp member).1

/-- What is wrong with a node itself is at it or at a part of it. -/
theorem faults_below {issue : Issue} (member : issue ∈ visit.faults subeffects targets) :
    ∃ below, visit.node.Below below ∧ issue.path = below.path := by
  rcases List.mem_append.mp member with own | reference
  · exact (visit.node.faults_blames targets issue own).inside
  cases refers : visit.node.form.reference? with
  | none => simp [refers] at reference
  | some field =>
    rw [refers] at reference
    exact ⟨field, Located.below_field (Located.reference_field refers), path_referenceFaults reference⟩

/-- This is where a reading stands: in the subeffect that was entered last, or in the tree it began with. -/
def source? (subeffects root : Located) (entered : List String) : Option Located :=
  entered.head?.elim (some root) subeffects.field?

/-- A reading stands in the tree it began with or in the subeffect that was entered last. -/
theorem source?_cases {entered : List String} {source : Located}
    (stands : source? subeffects root entered = some source) :
    entered.head? = none ∧ source = root ∨
      ∃ name, entered.head? = some name ∧ subeffects.field? name = some source := by
  cases entered with
  | nil => exact .inl ⟨rfl, (Option.some.inj stands).symm⟩
  | cons name _ => exact .inr ⟨name, rfl, stands⟩

/-- This tells that a node that is read is a part of where the reading stands. -/
def Within (subeffects root : Located) (visit : Visit) : Prop :=
  ∃ source, source? subeffects root visit.entered = some source ∧ source.Below visit.node

/-- What is visited next is below the subeffect that is entered then, or still below the one before. -/
theorem Within.next {next : Visit} (within : visit.Within subeffects root)
    (member : next ∈ visit.next subeffects) : next.Within subeffects root := by
  rcases mem_next.mp member with ⟨child, below, rfl⟩ | ⟨name, body, _, _, known, rfl⟩
  · obtain ⟨source, stands, lower⟩ := within
    exact ⟨source, stands, lower.trans (Located.below_children below)⟩
  · exact ⟨body, known, .refl body⟩

/-- All along a reading its nodes are parts of where it stands. -/
theorem Reaches.within (reached : (Visit.mk [] root).Reaches subeffects visit) :
    visit.Within subeffects root := by
  induction reached with
  | refl => exact ⟨root, rfl, .refl root⟩
  | tail _ member ih => exact ih.next member

/-- What is wrong with a node that is read is at a part of where the reading stands. -/
theorem faults_within (reached : (Visit.mk [] root).Reaches subeffects visit) {issue : Issue}
    (member : issue ∈ visit.faults subeffects targets) : ∃ source below : Located,
      source? subeffects root visit.entered = some source ∧ source.Below below ∧ issue.path = below.path := by
  obtain ⟨below, lower, path⟩ := faults_below member
  obtain ⟨source, stands, upper⟩ := reached.within
  exact ⟨source, below, stands, upper.trans lower, path⟩

end Visit

/-- A subeffect is under the key of the subeffects and its name. -/
theorem Located.below_subeffect {part body : Located} {name : String}
    (known : part.subeffectPart.field? name = some body) :
    part.Below body ∧ body.path = part.path ++ [.key "subeffects", .key name] := by
  rw [subeffectPart] at known
  cases found : part.field? "subeffects" with
  | none =>
    rw [found, Option.getD_none] at known
    cases known
  | some field =>
    rw [found, Option.getD_some] at known
    refine ⟨(below_field found).trans (below_field known), ?_⟩
    obtain ⟨_, _, rfl⟩ := Option.map_eq_some_iff.mp known
    obtain ⟨_, _, rfl⟩ := Option.map_eq_some_iff.mp found
    simp

/-- The root of the tree of an effect is below its card. -/
theorem Located.Grows.below {part effect root : Located} (grows : part.Grows effect root) : part.Below root := by
  obtain ⟨list, found, member⟩ := grows.listed
  exact ((below_field found).trans (below_item member)).trans (below_field grows.rooted)

/-- What is wrong with a node that is read is at a part of the effect or of the subeffect that was entered last. -/
theorem Visit.faults_place {part effect root : Located} {visit : Visit} {targets : Nat}
    (grows : part.Grows effect root) (reached : (Visit.mk [] root).Reaches part.subeffectPart visit)
    {issue : Issue} (member : issue ∈ visit.faults part.subeffectPart targets) :
    (∃ below, part.Below below ∧ issue.path = below.path) ∧
      visit.entered.head?.elim root.path (fun name => part.path ++ [.key "subeffects", .key name]) <+:
        issue.path := by
  obtain ⟨source, below, stands, lower, path⟩ := faults_within reached member
  rcases source?_cases stands with ⟨entered, rfl⟩ | ⟨name, entered, known⟩
  · rw [entered]
    exact ⟨⟨below, grows.below.trans lower, path⟩, path ▸ lower.path_starts⟩
  · obtain ⟨inside, place⟩ := Located.below_subeffect known
    refine ⟨⟨below, inside.trans lower, path⟩, ?_⟩
    rw [entered, Option.elim_some, path, ← place]
    exact lower.path_starts

/-- The place of an issue is its path, and a dollar sign stands for the card itself. -/
theorem Issue.place_cases (issue : Issue) :
    issue.place = issue.path.render ∨ issue.path = [] ∧ issue.place = "$" := by
  rw [place]
  split
  · next path _ => exact .inr ⟨path, rfl⟩
  · exact .inl rfl

/--
Every issue of a rejected card is at a part of the card that is there, and its place is the written path of that
part; the card itself is written as nothing or as a dollar. An issue that is found at a node of a tree is below the
root of the tree as long as no reference was followed, and below the subeffect that was entered last from then on.
-/
theorem CardTemplate.rejected_places {index : Nat} {value : Json} {rejected : RejectedCard}
    (failed : read index value = .error rejected) :
    (∀ issue ∈ rejected.issues, (∃ stored, issue.path.follow? value = some stored) ∧
      (issue.place = issue.path.render ∨ issue.path = [] ∧ issue.place = "$")) ∧
    ∀ kind effect root visit, (Located.root value).identified = true →
      (Located.root value).kind.value? = some kind → (Located.root value).Grows effect root →
      (Visit.mk [] root).Reaches (Located.root value).subeffectPart visit →
      ∀ issue ∈ visit.faults (Located.root value).subeffectPart (effect.available kind),
        issue ∈ rejected.issues ∧
          visit.entered.head?.elim root.path (fun name => [.key "subeffects", .key name]) <+: issue.path := by
  rw [issues_rejected failed, reported_eq]
  refine ⟨fun issue member => ⟨?_, issue.place_cases⟩, ?_⟩
  · have inside : ∃ below, (Located.root value).Below below ∧ issue.path = below.path := by
      rcases Located.card_cases member with blames | ⟨_, _, effect, root, _, grows, told⟩
      · exact blames.inside
      · obtain ⟨visit, reached, fault⟩ := Located.mem_issues_tree.mp told
        exact (Visit.faults_place grows reached fault).1
    obtain ⟨below, ⟨path, same, taken⟩, place⟩ := inside
    exact ⟨below.value, by rw [place, same]; exact taken⟩
  · intro kind effect root visit identified typed grows reached issue fault
    refine ⟨?_, (Visit.faults_place grows reached fault).2⟩
    exact Located.tree_card identified typed grows (Located.mem_issues_tree.mpr ⟨visit, reached, fault⟩)

/-- This describes a spell whose effect does twice what its subeffect does, which is nothing that is known. -/
def Json.stutter : Json :=
  .object [
    ("effects", .array [.object [
      ("effect", .object [("sequence", .array [.object [("ref", .string "mumble")],
        .object [("action", .string "draw"), ("count", .number (.integer 0))],
        .object [("ref", .string "mumble")]])]),
      ("type", .string "activate")]]),
    ("id", .number (.integer 1)), ("kind", .string "spell"), ("name", .string "Stutter"),
    ("subeffects", .object [("mumble", .object [("sequence",
      .array [.object [("action", .string "mutter")]])])])]

/-- Of a stutter the node of the subeffect is told twice, and neither reference is. -/
theorem CardTemplate.stutter_places : ∃ rejected, read 0 .stutter = .error rejected ∧
    rejected.issues.map Issue.place = ["subeffects.mumble.sequence[0].action",
      "effects[0].effect.sequence[1].count", "subeffects.mumble.sequence[0].action"] ∧
    ∀ issue ∈ rejected.issues, ∃ stored, issue.path.follow? .stutter = some stored := by
  have told : reported .stutter =
      [⟨[.key "subeffects", .key "mumble", .key "sequence", .index 0, .key "action"], .unknownAction "mutter"⟩,
        ⟨[.key "effects", .index 0, .key "effect", .key "sequence", .index 1, .key "count"], .zeroCount⟩,
        ⟨[.key "subeffects", .key "mumble", .key "sequence", .index 0, .key "action"],
          .unknownAction "mutter"⟩] := by
    decide +kernel
  obtain ⟨rejected, failed, issues⟩ := rejected_of_reported told (List.cons_ne_nil _ _) 0
  refine ⟨rejected, failed, ?_, fun issue member => ((rejected_places failed).1 issue member).1⟩
  rw [issues]
  decide +kernel

end CardDuel
