/-
This file follows the reading of an effect tree from node to node. A node is read by reporting what is wrong with
it alone and then reading its children, or the subeffect that it refers to unless that is being inlined already;
every such reading ends.
-/

import CardDuel.Proofs.Catalog.Blame
import Mathlib.Logic.Relation
import Mathlib.Order.WellFounded

namespace CardDuel

namespace Located

open Checked

/-- This is what a node of a tree is. -/
inductive Form where
  | other
  | reference (field : Located)
  | sequence (list : Located)
  | branch (question : Located) (yes no : Option Located)
  | instruction
  | unknown

namespace Form

/-- These are the nodes below a node, in the order in which they are read. -/
def children : Form → List Located
  | sequence list => list.items
  | branch _ yes no => yes.toList ++ no.toList
  | _ => []

def reference? : Form → Option Located
  | reference field => some field
  | _ => none

def name? (form : Form) : Option String := form.reference?.bind fun field => field.value.string?

/-- These are the issues about a node itself, apart from those about a reference. -/
def faults (targets : Nat) (node : Located) : Form → List Issue
  | other => [⟨node.path, .expected "object"⟩]
  | reference _ => []
  | sequence list => list.array.issues
  | branch question yes _ =>
    question.condition.issues ++ if yes.isNone then [⟨node.path, .missingField "then"⟩] else []
  | instruction => (node.act targets).issues
  | unknown => [⟨node.path, .unknownNode⟩]

/-- A node that refers to a subeffect is nothing else. -/
theorem of_reference {form : Form} {field : Located} (refers : form.reference? = some field) :
    form = reference field := by
  cases form <;> simp_all [reference?]

end Form

/-- This tells what a node is; of several keys that say it, the first in this order counts. -/
def form (node : Located) : Form :=
  if node.value.members?.isNone then .other
  else
    match node.field? "ref" with
    | some field => .reference field
    | none =>
    match node.field? "sequence" with
    | some list => .sequence list
    | none =>
    match node.field? "if" with
    | some question => .branch question (node.field? "then") (node.field? "else")
    | none => if (node.field? "action").isSome then .instruction else .unknown

/-- The parts of the form of a node are fields of the node. -/
theorem form_cases (node : Located) :
    node.form = .other ∨ (∃ field, node.field? "ref" = some field ∧ node.form = .reference field) ∨
      (∃ list, node.field? "sequence" = some list ∧ node.form = .sequence list) ∨
      (∃ question, node.field? "if" = some question ∧
        node.form = .branch question (node.field? "then") (node.field? "else")) ∨
      node.form = .instruction ∨ node.form = .unknown := by
  rw [form]
  cases node.value.members?.isNone <;> cases node.field? "ref" <;> cases node.field? "sequence" <;>
    cases node.field? "if" <;> cases node.field? "action" <;> simp

/-- This reads a node of a form. -/
def readForm (inline : Located → String → Checked EffectTree) (targets : Nat) (node : Located) :
    Form → Checked EffectTree
  | .other => node.fail (.expected "object")
  | .reference field => do
    inline field (← field.string)
  | .sequence list => do
    list.array
    let results ← each (treeWith inline targets) list.items
    return .sequence (← require (complete? results))
  | .branch question yes no => do
    let condition ← question.condition.attempt
    let yes ← Checked.attempt do
      match yes with
      | some branch => treeWith inline targets branch
      | none => node.fail (.missingField "then")
    let no ← Checked.attempt do
      match no with
      | some branch => do
        return some (← treeWith inline targets branch)
      | none => pure none
    return .branch (← require condition) (← require yes) (← require no)
  | .instruction => node.act targets
  | .unknown => node.fail .unknownNode

/-- A reading that needs an object fails on any other value and goes on otherwise. -/
theorem object_bind {α : Type} (node : Located) (next : Unit → Checked α) :
    (node.object >>= next) =
      if node.value.members?.isNone then node.fail (.expected "object") else next () := by
  rw [object]
  cases node.value.members? <;> rfl

/-- A tree is read by what its root is. -/
theorem treeWith_eq (inline : Located → String → Checked EffectTree) (targets : Nat) (node : Located) :
    node.treeWith inline targets = readForm inline targets node node.form := by
  rw [treeWith, object_bind]
  split
  · next other =>
    rw [form, if_pos other]
    rfl
  next object =>
  split
  · next field found =>
    rw [form, if_neg object, found]
    rfl
  next unreferenced =>
  split
  · next list found =>
    rw [form, if_neg object, unreferenced, found]
    simp only [readForm, Checked.each, List.map_attach_eq_pmap, List.pmap_eq_map]
  next unsequenced =>
  rw [form, if_neg object, unreferenced, unsequenced]
  cases node.field? "if" with
  | some question =>
    simp only [readForm]
    cases node.field? "then" <;> cases node.field? "else" <;> rfl
  | none => cases node.field? "action" <;> rfl

/--
A tree reports what is wrong with its root and then what is wrong with the nodes below it; a root that is a
reference has no nodes below it.
-/
theorem issues_treeWith (inline : Located → String → Checked EffectTree) (targets : Nat) (node : Located) :
    (node.treeWith inline targets).issues = node.form.faults targets node ++
      node.form.children.flatMap (fun child => (child.treeWith inline targets).issues) ++
      node.form.reference?.elim [] fun field => (field.string >>= inline field).issues := by
  rw [treeWith_eq]
  cases node.form with
  | other => rfl
  | reference field => rfl
  | sequence list =>
    simp [readForm, issues_bind, Form.faults, Form.children, Form.reference?, Checked.each, List.flatMap_map]
  | branch question yes no =>
    cases yes <;> cases no <;>
      simp [readForm, issues_bind, Form.faults, Form.children, Form.reference?, fail]
  | instruction => exact (List.append_nil _).symm.trans (List.append_nil _).symm
  | unknown => rfl

/-- What is below a node is reached from it by a key, or by a key and a position. -/
theorem mem_children {node child : Located} (member : child ∈ node.form.children) :
    ∃ field name, node.field? name = some field ∧ (child = field ∨ child ∈ field.items) := by
  obtain other | ⟨_, _, reference⟩ | ⟨list, found, sequence⟩ | ⟨_, _, branch⟩ | instruction | unknown :=
    node.form_cases
  · rw [other] at member
    cases member
  · rw [reference] at member
    cases member
  · rw [sequence] at member
    exact ⟨list, "sequence", found, .inr member⟩
  · rw [branch] at member
    rcases List.mem_append.mp member with yes | no
    · exact ⟨child, "then", Option.mem_toList.mp yes, .inl rfl⟩
    · exact ⟨child, "else", Option.mem_toList.mp no, .inl rfl⟩
  · rw [instruction] at member
    cases member
  · rw [unknown] at member
    cases member

/-- The parts of a node are smaller than the node. -/
theorem children_size {node child : Located} (member : child ∈ node.form.children) :
    sizeOf child.value < sizeOf node.value := by
  obtain ⟨field, name, found, below⟩ := mem_children member
  have smaller := field?_size found
  rcases below with rfl | item
  · exact smaller
  · exact (items_size item).trans smaller

/-- These are the names of the subeffects other than those that are being inlined. -/
def free (subeffects : Located) (entered : List String) : List String :=
  ((subeffects.value.members?.getD []).map Prod.fst).filter (· ∉ entered)

/-- A subeffect that is found has a name in the list of all names. -/
theorem mem_names {subeffects body : Located} {name : String} (known : subeffects.field? name = some body) :
    name ∈ (subeffects.value.members?.getD []).map Prod.fst := by
  have inside := subeffects.field?_value known
  cases value : subeffects.value with
  | object members =>
    rw [value] at inside
    obtain ⟨_, _, stored, _⟩ := List.lookup_eq_some_iff.mp inside
    simp [Json.members?, stored]
  | _ => simp [value, Json.field?] at inside

/-- A subeffect may be entered unless it was entered before. -/
theorem mem_free {subeffects body : Located} {entered : List String} {name : String}
    (known : subeffects.field? name = some body) : name ∈ free subeffects entered ↔ name ∉ entered := by
  have listed := mem_names known
  simp [free, listed]

/-- Entering a subeffect takes its name from those that may be entered. -/
theorem without_free (subeffects : Located) (entered : List String) (name : String) :
    without (free subeffects entered) name = free subeffects (name :: entered) := by
  simp [without, free, List.filter_filter]

end Located

/-- This is a node that is read while subeffects are being inlined, the innermost one first. -/
structure Visit where
  entered : List String
  node : Located

namespace Visit

open Checked

variable (subeffects : Located) (targets : Nat) (visit : Visit)

/-- This reads a node; no subeffect that is being inlined is entered again. -/
def read : Checked EffectTree :=
  visit.node.treeWith (Located.inlineRef subeffects targets (Located.free subeffects visit.entered)) targets

/-- This is the subeffect with a name, if it can be entered. -/
def inlined (entered : List String) (name : String) : List Visit :=
  if name ∈ entered then [] else (subeffects.field? name).toList.map (Visit.mk (name :: entered))

/-- These are the nodes that are read as parts of a node, in order. -/
def next : List Visit :=
  visit.node.form.children.map (Visit.mk visit.entered) ++
    visit.node.form.name?.elim [] (inlined subeffects visit.entered)

/-- These are the issues about a reference itself. -/
def referenceFaults (entered : List String) (field : Located) : List Issue :=
  match field.value.string? with
  | none => [⟨field.path, .expected "string"⟩]
  | some name =>
    if (subeffects.field? name).isNone then [⟨field.path, .unknownRef name⟩]
    else if name ∈ entered then [⟨field.path, .cyclicRef name⟩]
    else []

/-- These are the issues about a node itself, whatever its parts are. -/
def faults : List Issue :=
  visit.node.form.faults targets visit.node ++
    visit.node.form.reference?.elim [] (referenceFaults subeffects visit.entered)

variable {subeffects targets visit}

/-- A reference is wrong if it is no text, if it names nothing, or if it names a subeffect entered before. -/
theorem mem_referenceFaults {entered : List String} {field : Located} {issue : Issue} :
    issue ∈ referenceFaults subeffects entered field ↔ issue.path = field.path ∧
      (field.value.string? = none ∧ issue.fault = .expected "string" ∨
        ∃ name, field.value.string? = some name ∧
          (subeffects.field? name = none ∧ issue.fault = .unknownRef name ∨
            (∃ body, subeffects.field? name = some body) ∧ name ∈ entered ∧
              issue.fault = .cyclicRef name)) := by
  obtain ⟨path, fault⟩ := issue
  rw [referenceFaults]
  cases field.value.string? with
  | none => simp
  | some name =>
    cases known : subeffects.field? name with
    | none => simp [known]
    | some body => by_cases again : name ∈ entered <;> simp [known, again]

/-- A reference is read as the subeffect that it names if that can be entered. -/
theorem inlineRef_free {entered : List String} {name : String} {body : Located} (field : Located)
    (known : subeffects.field? name = some body) (fresh : name ∉ entered) :
    Located.inlineRef subeffects targets (Located.free subeffects entered) field name =
      (Visit.mk (name :: entered) body).read subeffects targets := by
  rw [Located.inlineRef, known]
  simp only [(Located.mem_free known).mpr fresh, dite_true, Located.without_free]
  rfl

/-- A reference that is not read on is reported. -/
theorem issues_reference (entered : List String) (field : Located) :
    (field.string >>= Located.inlineRef subeffects targets (Located.free subeffects entered) field).issues =
      referenceFaults subeffects entered field ++
        (field.value.string?.elim [] (inlined subeffects entered)).flatMap
          fun next => (next.read subeffects targets).issues := by
  rw [issues_bind, Located.string, Located.value?_orFail, referenceFaults]
  cases named : field.value.string? with
  | none => rfl
  | some name =>
    show (Located.inlineRef _ _ _ field name).issues = _ ++ (inlined subeffects entered name).flatMap _
    cases known : subeffects.field? name with
    | none =>
      rw [Located.inlineRef, known, inlined, known]
      simp [Located.fail, known]
    | some body =>
      by_cases fresh : name ∈ entered
      · rw [Located.inlineRef, known, inlined, if_pos fresh]
        simp [Located.fail, fresh, known, Located.mem_free known]
      · rw [inlineRef_free field known fresh, inlined, if_neg fresh, known]
        simp [fresh, known]

/-- The reading of a node reports what is wrong with it alone, and then what its parts report, in order. -/
theorem issues_read : (visit.read subeffects targets).issues =
    visit.faults subeffects targets ++
      (visit.next subeffects).flatMap fun next => (next.read subeffects targets).issues := by
  rw [read, Located.issues_treeWith, faults, next, List.flatMap_append, List.flatMap_map]
  cases refers : visit.node.form.reference? with
  | none => simp [Located.Form.name?, refers, read]
  | some field =>
    rw [Located.Form.of_reference refers]
    exact issues_reference visit.entered field

/-- A reference leads to the subeffect that it names if it was not entered before. -/
theorem mem_inlined {entered : List String} {name : String} {next : Visit} :
    next ∈ inlined subeffects entered name ↔
      name ∉ entered ∧ ∃ body, subeffects.field? name = some body ∧ next = ⟨name :: entered, body⟩ := by
  rw [inlined]
  split
  · next again => simp [again]
  · next fresh => cases subeffects.field? name <;> simp [fresh]

/-- From a node its children are read, or the subeffect that it names unless that is being inlined. -/
theorem mem_next {next : Visit} : next ∈ visit.next subeffects ↔
    (∃ child ∈ visit.node.form.children, next = ⟨visit.entered, child⟩) ∨
      ∃ name body, visit.node.form.name? = some name ∧ name ∉ visit.entered ∧
        subeffects.field? name = some body ∧ next = ⟨name :: visit.entered, body⟩ := by
  rw [Visit.next, List.mem_append, List.mem_map]
  refine or_congr ⟨?_, ?_⟩ ?_
  · rintro ⟨child, member, rfl⟩
    exact ⟨child, member, rfl⟩
  · rintro ⟨child, member, rfl⟩
    exact ⟨child, member, rfl⟩
  cases visit.node.form.name? with
  | none => simp
  | some name => simp [mem_inlined]

variable (subeffects) in
/-- Every reading ends: a subeffect that is entered is out of reach below, and children are smaller. -/
theorem next_wellFounded : WellFounded fun next visit : Visit => next ∈ visit.next subeffects := by
  -- A part leaves the free names as they are and is smaller; a subeffect may be larger but takes a name.
  let measure (visit : Visit) : Nat × Nat :=
    ((Located.free subeffects visit.entered).length, sizeOf visit.node.value)
  refine Subrelation.wf (fun {next visit} member => ?_)
    (InvImage.wf measure (WellFounded.prod_lex Nat.lt_wfRel.wf Nat.lt_wfRel.wf))
  rcases mem_next.mp member with ⟨child, below, rfl⟩ | ⟨name, body, _, fresh, known, rfl⟩
  · exact .right _ (Located.children_size below)
  · refine .left _ _ ?_
    rw [← Located.without_free]
    exact Located.length_without_lt ((Located.mem_free known).mpr fresh)

variable (subeffects) in
/-- This tells that a node is read in the course of the reading of another one. -/
def Reaches : Visit → Visit → Prop := Relation.ReflTransGen fun visit next => next ∈ visit.next subeffects

/-- What is reported of a node is what is wrong with the nodes that are read in the course of its reading. -/
theorem mem_issues_read {issue : Issue} : issue ∈ (visit.read subeffects targets).issues ↔
    ∃ below, visit.Reaches subeffects below ∧ issue ∈ below.faults subeffects targets := by
  induction visit using (next_wellFounded subeffects).induction with
  | _ visit ih =>
    rw [issues_read, List.mem_append, List.mem_flatMap]
    constructor
    · rintro (here | ⟨next, member, told⟩)
      · exact ⟨visit, .refl, here⟩
      · obtain ⟨below, reached, told⟩ := (ih next member).mp told
        exact ⟨below, .head member reached, told⟩
    · rintro ⟨below, reached, told⟩
      rcases reached.cases_head with rfl | ⟨next, member, reached⟩
      · exact .inl told
      · exact .inr ⟨next, member, (ih next member).mpr ⟨below, reached, told⟩⟩

end Visit

/-- The tree of an effect is read from its root on, where no subeffect is being inlined. -/
theorem Located.tree_eq_read (root subeffects : Located) (targets : Nat) :
    root.tree subeffects targets = (Visit.mk [] root).read subeffects targets := by
  simp [tree, Visit.read, free]

/-- The issues of a tree are those of all nodes that are visited from its root. -/
theorem Located.mem_issues_tree {root subeffects : Located} {targets : Nat} {issue : Issue} :
    issue ∈ (root.tree subeffects targets).issues ↔
      ∃ visit, (Visit.mk [] root).Reaches subeffects visit ∧ issue ∈ visit.faults subeffects targets := by
  rw [tree_eq_read, Visit.mem_issues_read]

end CardDuel
