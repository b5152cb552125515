/-
This file shows what the references in an effect tree do. A reference to a subeffect is read as the body of that
subeffect in its place. It is reported as cyclic exactly if some path of child nodes and references enters a
subeffect twice, and as unknown exactly if such a path comes to a name without a subeffect.
-/

import CardDuel.Proofs.Catalog.Moved
import CardDuel.Proofs.Catalog.Place
import Mathlib.Data.List.Perm.Subperm

namespace CardDuel

/--
This is a path of child nodes and references from a node to another one, with the subeffects that are entered on
it, the last one first. Nothing keeps a path from entering a subeffect again.
-/
inductive Walk (subeffects root : Located) : List String → Located → Prop where
  | start : Walk subeffects root [] root
  | child {entered : List String} {node child : Located} (walk : Walk subeffects root entered node)
      (below : child ∈ node.form.children) : Walk subeffects root entered child
  | enter {entered : List String} {node body : Located} {name : String} (walk : Walk subeffects root entered node)
      (refers : node.form.name? = some name) (known : subeffects.field? name = some body) :
      Walk subeffects root (name :: entered) body

namespace Walk

variable {subeffects root : Located}

/-- A walk that ends where another one begins goes on with it. -/
theorem append {middle node : Located} {first second : List String} (walk : Walk subeffects root first middle)
    (next : Walk subeffects middle second node) : Walk subeffects root (second ++ first) node := by
  induction next with
  | start => exact walk
  | child _ below ih => exact ih.child below
  | enter _ refers known ih => exact ih.enter refers known

/-- A path that enters a subeffect passes its body. -/
theorem cut {node body : Located} {name : String} (known : subeffects.field? name = some body)
    {entered later earlier : List String} (walk : Walk subeffects root entered node)
    (split : entered = later ++ name :: earlier) : Walk subeffects root (name :: earlier) body := by
  induction walk generalizing later with
  | start => simp at split
  | child _ _ ih => exact ih split
  | enter walk refers stored ih =>
    cases later with
    | nil =>
      obtain ⟨rfl, rfl⟩ := List.cons.inj split
      obtain rfl := Option.some.inj (known.symm.trans stored)
      exact walk.enter refers stored
    | cons _ later => exact ih (List.cons.inj split).2

/-- A walk enters subeffects that exist. -/
theorem known {node : Located} {entered : List String} (walk : Walk subeffects root entered node) :
    entered ⊆ (subeffects.value.members?.getD []).map Prod.fst := by
  induction walk with
  | start => exact List.nil_subset _
  | child _ _ ih => exact ih
  | enter _ _ known ih => exact List.cons_subset.mpr ⟨Located.mem_names known, ih⟩

/-- Wherever a path leads, there leads one that enters no subeffect twice. -/
theorem simple {node : Located} {entered : List String} (walk : Walk subeffects root entered node) :
    ∃ entered, Walk subeffects root entered node ∧ entered.Nodup := by
  induction walk with
  | start => exact ⟨[], .start, .nil⟩
  | child _ below ih =>
    obtain ⟨entered, walk, nodup⟩ := ih
    exact ⟨entered, walk.child below, nodup⟩
  | @enter _ _ _ name _ refers known ih =>
    obtain ⟨entered, walk, nodup⟩ := ih
    by_cases again : name ∈ entered
    · obtain ⟨later, earlier, split⟩ := List.append_of_mem again
      exact ⟨name :: earlier, walk.cut known split, (List.nodup_append.mp (split ▸ nodup)).2.1⟩
    · exact ⟨name :: entered, walk.enter refers known, List.nodup_cons.mpr ⟨again, nodup⟩⟩

end Walk

/-- This tells that names are different from each other and from those of a list. -/
structure Fresh (base entered : List String) : Prop where
  nodup : entered.Nodup
  disjoint : ∀ name ∈ entered, name ∉ base

theorem Fresh.nil (base : List String) : Fresh base [] :=
  ⟨.nil, fun _ member => absurd member List.not_mem_nil⟩

/-- A name that is entered is fresh if it is new among those entered and those before. -/
theorem fresh_cons {base entered : List String} {name : String} :
    Fresh base (name :: entered) ↔ name ∉ entered ++ base ∧ Fresh base entered := by
  constructor
  · rintro ⟨nodup, disjoint⟩
    obtain ⟨new, nodup⟩ := List.nodup_cons.mp nodup
    refine ⟨?_, nodup, fun other member => disjoint other (List.mem_cons_of_mem _ member)⟩
    intro again
    exact (List.mem_append.mp again).elim new (disjoint name List.mem_cons_self)
  · rintro ⟨new, nodup, disjoint⟩
    rw [List.mem_append, not_or] at new
    exact ⟨List.nodup_cons.mpr ⟨new.1, nodup⟩, List.forall_mem_cons.mpr ⟨new.2, disjoint⟩⟩

/-- A node with the name of a reference is a reference. -/
theorem Located.Form.isSome_reference? {form : Form} {name : String} (refers : form.name? = some name) :
    form.reference?.isSome = true := by
  obtain ⟨field, found, _⟩ := Option.bind_eq_some_iff.mp refers
  exact Option.isSome_of_eq_some found

namespace Visit

variable {subeffects root : Located} {base : List String} {visit : Visit} {targets : Nat}

/-- The nodes that are read are those to which a path leads that enters no subeffect twice. -/
theorem reaches_iff : (Visit.mk base root).Reaches subeffects visit ↔
    ∃ entered, visit.entered = entered ++ base ∧ Walk subeffects root entered visit.node ∧ Fresh base entered := by
  constructor
  · intro reached
    induction reached with
    | refl => exact ⟨[], rfl, .start, .nil base⟩
    | tail _ member ih =>
      obtain ⟨entered, same, walk, fresh⟩ := ih
      rcases mem_next.mp member with ⟨child, below, rfl⟩ | ⟨name, body, refers, new, known, rfl⟩
      · exact ⟨entered, same, walk.child below, fresh⟩
      · refine ⟨name :: entered, congrArg (name :: ·) same, walk.enter refers known, ?_⟩
        exact fresh_cons.mpr ⟨same ▸ new, fresh⟩
  · rintro ⟨entered, same, walk, fresh⟩
    obtain ⟨whole, node⟩ := visit
    obtain rfl : whole = entered ++ base := same
    replace walk : Walk subeffects root entered node := walk
    induction walk with
    | start => exact .refl
    | child _ below ih => exact (ih fresh).tail (mem_next.mpr (.inl ⟨_, below, rfl⟩))
    | enter _ refers known ih =>
      obtain ⟨new, fresh⟩ := fresh_cons.mp fresh
      exact (ih fresh).tail (mem_next.mpr (.inr ⟨_, _, refers, new, known, rfl⟩))

/-- No reading goes through more subeffects at a time than there are. -/
theorem Reaches.bounded (reached : (Visit.mk [] root).Reaches subeffects visit) :
    visit.entered.Nodup ∧ visit.entered.length ≤ (subeffects.value.members?.getD []).length := by
  obtain ⟨entered, same, walk, fresh⟩ := reaches_iff.mp reached
  rw [List.append_nil] at same
  rw [same, ← List.length_map Prod.fst]
  exact ⟨fresh.nodup, (List.Nodup.subperm fresh.nodup walk.known).length_le⟩

/-- This tells that the reference of a node, if it is one, can be followed. -/
def Follows (subeffects : Located) (visit : Visit) : Prop :=
  visit.node.form.reference?.isSome = true → ∃ name body, visit.node.form.name? = some name ∧
    subeffects.field? name = some body ∧ name ∉ visit.entered

/-- This tells that all references can be followed in the course of a reading. -/
def Clear (subeffects : Located) (visit : Visit) : Prop :=
  ∀ below, visit.Reaches subeffects below → below.Follows subeffects

/-- Where all that is reached from a node is clear, so is all that is reached from its parts. -/
theorem Clear.next {next : Visit} (clear : visit.Clear subeffects) (member : next ∈ visit.next subeffects) :
    next.Clear subeffects := fun below reached => clear below (.head member reached)

variable (base) in
/-- A path enters no subeffect twice, or a reference is read that cannot be followed for that reason. -/
theorem fresh_or_cyclic {entered : List String} {node : Located} (walk : Walk subeffects root entered node) :
    Fresh base entered ∨ ∃ visit name body, (Visit.mk base root).Reaches subeffects visit ∧
      visit.node.form.name? = some name ∧ subeffects.field? name = some body ∧ name ∈ visit.entered := by
  induction walk with
  | start => exact .inl (.nil base)
  | child _ _ ih => exact ih
  | @enter entered node body name walk refers known ih =>
    refine ih.elim ?_ .inr
    intro fresh
    by_cases again : name ∈ entered ++ base
    · exact .inr ⟨⟨entered ++ base, node⟩, name, body, reaches_iff.mpr ⟨entered, rfl, walk, fresh⟩, refers, known,
        again⟩
    · exact .inl (fresh_cons.mpr ⟨again, fresh⟩)

/-- All references can be followed exactly if every name is known and no path enters a subeffect twice. -/
theorem clear_iff : (Visit.mk base root).Clear subeffects ↔ ∀ entered node, Walk subeffects root entered node →
    Fresh base entered ∧ (node.form.reference?.isSome = true → ∃ name body, node.form.name? = some name ∧
      subeffects.field? name = some body) := by
  constructor
  · intro clear entered node walk
    have fresh : Fresh base entered := by
      rcases fresh_or_cyclic base walk with fresh | ⟨visit, name, body, reached, refers, _, again⟩
      · exact fresh
      · obtain ⟨other, _, same, _, new⟩ := clear visit reached (Located.Form.isSome_reference? refers)
        obtain rfl := Option.some.inj (refers.symm.trans same)
        exact absurd again new
    refine ⟨fresh, ?_⟩
    intro refers
    obtain ⟨name, body, named, known, _⟩ := clear ⟨entered ++ base, node⟩
      (reaches_iff.mpr ⟨entered, rfl, walk, fresh⟩) refers
    exact ⟨name, body, named, known⟩
  · intro walks below reached refers
    obtain ⟨entered, same, walk, _⟩ := reaches_iff.mp reached
    obtain ⟨name, body, named, known⟩ := (walks entered below.node walk).2 refers
    refine ⟨name, body, named, known, ?_⟩
    rw [same]
    exact (fresh_cons.mp (walks _ _ (walk.enter named known)).1).1

/-- A subeffect whose references can be followed comes to no reference to itself. -/
theorem Clear.enter {body : Located} {name : String} (clear : (Visit.mk base body).Clear subeffects)
    (known : subeffects.field? name = some body) : (Visit.mk (name :: base) body).Clear subeffects := by
  rw [clear_iff] at clear ⊢
  intro entered node walk
  obtain ⟨fresh, follows⟩ := clear entered node walk
  refine ⟨⟨fresh.nodup, ?_⟩, follows⟩
  intro other member
  rw [List.mem_cons, not_or]
  refine ⟨?_, fresh.disjoint other member⟩
  intro same
  subst same
  -- The path up to where it enters the subeffect again can be taken twice.
  obtain ⟨later, earlier, split⟩ := List.append_of_mem member
  have loop := walk.cut known split
  have twice := (clear _ _ (loop.append loop)).1.nodup
  exact (List.nodup_append.mp twice).2.2 other List.mem_cons_self other List.mem_cons_self rfl

end Visit

namespace Located

open Checked

variable {inline other : Located → String → Checked EffectTree} {targets : Nat} {node : Located} {form : Form}

/-- A node is read into a tree only if all that it has below or refers to is. -/
theorem value?_readForm {tree : EffectTree} (read : (readForm inline targets node form).value? = some tree) :
    (∀ child ∈ form.children, ((treeWith inline targets child).value?).isSome = true) ∧
      ∀ field, form.reference? = some field →
        ∃ name, field.value.string? = some name ∧ (inline field name).value? = some tree := by
  cases form with
  | other => cases read
  | unknown => cases read
  | instruction => exact ⟨fun _ member => absurd member List.not_mem_nil, fun _ same => by cases same⟩
  | reference field =>
    refine ⟨fun _ member => absurd member List.not_mem_nil, ?_⟩
    intro other same
    obtain rfl := Option.some.inj same
    simp only [readForm, string, value?_bind, value?_orFail] at read
    exact Option.bind_eq_some_iff.mp read
  | sequence list =>
    refine ⟨?_, fun _ same => by cases same⟩
    intro child member
    simp only [readForm, value?_bind, value?_array, value?_each, value?_require, Option.bind_some,
      Option.bind_eq_some_iff] at read
    obtain ⟨trees, complete, _⟩ := read
    have listed : (treeWith inline targets child).value? ∈ trees.map some :=
      complete?_eq_some.mp complete ▸ List.mem_map_of_mem member
    obtain ⟨_, _, same⟩ := List.mem_map.mp listed
    exact Option.isSome_of_eq_some same.symm
  | branch question yes no =>
    refine ⟨?_, fun _ same => by cases same⟩
    intro child member
    simp only [readForm, value?_bind, value?_attempt, value?_require, Option.bind_some,
      Option.bind_eq_some_iff] at read
    obtain ⟨_, _, _, first, _, second, _⟩ := read
    rcases List.mem_append.mp member with here | here
    · obtain rfl := Option.mem_toList.mp here
      exact Option.isSome_of_eq_some first
    · obtain rfl := Option.mem_toList.mp here
      simp only [value?_bind, Option.bind_eq_some_iff] at second
      obtain ⟨_, grown, _⟩ := second
      exact Option.isSome_of_eq_some grown

/-- A node is read alike if all that it has below or refers to is. -/
theorem readForm_congr
    (children : ∀ child ∈ form.children, treeWith inline targets child = treeWith other targets child)
    (reference : ∀ field name, form.reference? = some field → field.value.string? = some name →
      inline field name = other field name) :
    readForm inline targets node form = readForm other targets node form := by
  cases form with
  | other => rfl
  | unknown => rfl
  | instruction => rfl
  | reference field =>
    simp only [readForm, string]
    cases named : field.value.string? with
    | none => rfl
    | some name => exact reference field name rfl named
  | sequence list =>
    have items : list.items.map (treeWith inline targets) = list.items.map (treeWith other targets) :=
      List.map_congr_left children
    simp only [readForm, each, items]
  | branch question yes no =>
    have same {branch : Option Located} {child : Located} (given : branch = some child)
        (member : branch.toList ⊆ yes.toList ++ no.toList) :
        treeWith inline targets child = treeWith other targets child :=
      children child (member (Option.mem_toList.mpr given))
    have first := @same yes
    have second := @same no
    cases yes <;> cases no <;> simp_all [readForm]

end Located

namespace Visit

variable {subeffects root : Located} {visit : Visit} {targets : Nat}

/-- This is what a reading makes of a node. -/
theorem read_eq : visit.read subeffects targets = Located.readForm
    (Located.inlineRef subeffects targets (Located.free subeffects visit.entered)) targets visit.node
    visit.node.form := by
  rw [read, Located.treeWith_eq]

/-- What a node is read into is there only if all its references can be followed. -/
theorem Clear.of_value {tree : EffectTree} (read : (visit.read subeffects targets).value? = some tree) :
    visit.Clear subeffects := by
  -- The induction is on the visits below: a part is smaller, and an entered name is free no longer.
  induction visit using (next_wellFounded subeffects).induction generalizing tree with
  | _ visit ih =>
    rw [read_eq] at read
    obtain ⟨children, refers⟩ := Located.value?_readForm read
    have follows : visit.Follows subeffects := by
      intro reference
      obtain ⟨field, found⟩ := Option.isSome_iff_exists.mp reference
      obtain ⟨name, named, inlined⟩ := refers field found
      rw [Located.inlineRef] at inlined
      cases known : subeffects.field? name with
      | none => simp [known, Located.fail] at inlined
      | some body =>
        refine ⟨name, body, by rw [Located.Form.name?, found, Option.bind_some, named], known, ?_⟩
        intro again
        simp [known, Located.mem_free known, again, Located.fail] at inlined
    intro below reached
    rcases reached.cases_head with rfl | ⟨next, member, reached⟩
    · exact follows
    rcases mem_next.mp member with ⟨child, listed, rfl⟩ | ⟨name, body, named, new, known, rfl⟩
    · obtain ⟨grown, there⟩ := Option.isSome_iff_exists.mp (children child listed)
      exact ih _ member there below reached
    · obtain ⟨field, found, text⟩ := Option.bind_eq_some_iff.mp named
      obtain ⟨other, same, inlined⟩ := refers field found
      obtain rfl := Option.some.inj (text.symm.trans same)
      rw [inlineRef_free field known new] at inlined
      exact ih _ member inlined below reached

/-- Where all references can be followed, it does not matter that less is being inlined. -/
theorem Clear.read_eq (clear : visit.Clear subeffects) {fewer : List String} (less : fewer ⊆ visit.entered) :
    (Visit.mk fewer visit.node).read subeffects targets = visit.read subeffects targets := by
  induction visit using (next_wellFounded subeffects).induction generalizing fewer with
  | _ visit ih =>
    rw [Visit.read_eq, Visit.read_eq]
    apply Located.readForm_congr
    · intro child listed
      have member : ⟨visit.entered, child⟩ ∈ visit.next subeffects := mem_next.mpr (.inl ⟨child, listed, rfl⟩)
      exact ih _ member (clear.next member) less
    · intro field name found text
      have named : visit.node.form.name? = some name := by
        rw [Located.Form.name?, found, Option.bind_some, text]
      obtain ⟨other, body, same, known, new⟩ := clear visit .refl (Option.isSome_of_eq_some found)
      obtain rfl := Option.some.inj (named.symm.trans same)
      have member : ⟨name :: visit.entered, body⟩ ∈ visit.next subeffects :=
        mem_next.mpr (.inr ⟨name, body, named, new, known, rfl⟩)
      rw [inlineRef_free field known new, inlineRef_free field known fun inside => new (less inside)]
      exact ih _ member (clear.next member) (List.cons_subset_cons name less)

/-- A reference to a subeffect that is not being inlined is read as its body is in its place. -/
theorem value?_reference {entered : List String} {node body : Located} {name : String}
    (refers : node.form.name? = some name) (known : subeffects.field? name = some body) (new : name ∉ entered) :
    ((Visit.mk entered node).read subeffects targets).value? =
      ((Visit.mk entered (body.moved node.path)).read subeffects targets).value? := by
  obtain ⟨field, found, text⟩ := Option.bind_eq_some_iff.mp refers
  have inlined : (Visit.mk entered node).read subeffects targets =
      (Visit.mk (name :: entered) body).read subeffects targets := by
    rw [Visit.read_eq, Located.Form.of_reference found]
    simp only [Located.readForm, Located.string, text, Located.orFail]
    exact inlineRef_free field known new
  have clear {tree : EffectTree} (read : ((Visit.mk (name :: entered) body).read subeffects targets).value? =
      some tree ∨ ((Visit.mk entered body).read subeffects targets).value? = some tree) :
      (Visit.mk (name :: entered) body).Clear subeffects :=
    read.elim .of_value fun read => (Clear.of_value read).enter known
  have same (clear : (Visit.mk (name :: entered) body).Clear subeffects) :
      (Visit.mk entered body).read subeffects targets =
        (Visit.mk (name :: entered) body).read subeffects targets :=
    clear.read_eq (List.subset_cons_self name entered)
  rw [inlined, read_moved]
  apply Option.ext
  intro tree
  constructor
  · intro read
    rw [same (clear (.inl read))]
    exact read
  · intro read
    rw [← same (clear (.inr read))]
    exact read

/-- A reference makes a tree exactly if it can be followed and the body in its place makes that tree. -/
theorem reference_compiles {entered : List String} {node : Located} {name : String} {tree : EffectTree}
    (refers : node.form.name? = some name) :
    ((Visit.mk entered node).read subeffects targets).value? = some tree ↔
      name ∉ entered ∧ ∃ body, subeffects.field? name = some body ∧
        ((Visit.mk entered (body.moved node.path)).read subeffects targets).value? = some tree := by
  constructor
  · intro read
    obtain ⟨other, body, same, known, new⟩ := Clear.of_value read _ .refl (Located.Form.isSome_reference? refers)
    obtain rfl := Option.some.inj (refers.symm.trans same)
    exact ⟨new, body, known, value?_reference refers known new ▸ read⟩
  · rintro ⟨new, body, known, read⟩
    rw [value?_reference refers known new, read]

/-! Faults -/

/-- A fault about a reference of a node is one of its reference. -/
theorem mem_faults_reference {issue : Issue} (reference : issue.fault.isOfReference = true) :
    issue ∈ visit.faults subeffects targets ↔ ∃ field, visit.node.form.reference? = some field ∧
      issue ∈ referenceFaults subeffects visit.entered field := by
  have own : issue ∉ visit.node.form.faults targets visit.node := fun member => by
    have plain := (visit.node.faults_blames targets issue member).plain
    exact absurd reference (by rw [plain]; exact Bool.false_ne_true)
  rw [faults, List.mem_append, or_iff_right own]
  cases visit.node.form.reference? <;> simp

/-- A reference is cyclic exactly if it names a subeffect that was entered before. -/
theorem cyclicRef_mem {entered : List String} {field : Located} {path : Path} {name : String} :
    ⟨path, .cyclicRef name⟩ ∈ referenceFaults subeffects entered field ↔ path = field.path ∧
      field.value.string? = some name ∧ (∃ body, subeffects.field? name = some body) ∧ name ∈ entered := by
  simp only [mem_referenceFaults, reduceCtorEq, and_false, false_or, Fault.cyclicRef.injEq]
  grind

/-- A reference is unknown exactly if it names no subeffect. -/
theorem unknownRef_mem {entered : List String} {field : Located} {path : Path} {name : String} :
    ⟨path, .unknownRef name⟩ ∈ referenceFaults subeffects entered field ↔ path = field.path ∧
      field.value.string? = some name ∧ subeffects.field? name = none := by
  simp only [mem_referenceFaults, reduceCtorEq, and_false, or_false, false_or, Fault.unknownRef.injEq]
  grind

/-- A tree has a cyclic reference exactly if some path from its root enters a subeffect twice. -/
theorem cyclicRef_iff : (∃ path name, ⟨path, .cyclicRef name⟩ ∈ (root.tree subeffects targets).issues) ↔
    ∃ entered node, Walk subeffects root entered node ∧ ¬entered.Nodup := by
  constructor
  · rintro ⟨path, name, told⟩
    obtain ⟨visit, reached, fault⟩ := Located.mem_issues_tree.mp told
    obtain ⟨field, found, fault⟩ := (mem_faults_reference rfl).mp fault
    obtain ⟨_, text, ⟨body, known⟩, again⟩ := cyclicRef_mem.mp fault
    obtain ⟨entered, same, walk, _⟩ := reaches_iff.mp reached
    rw [List.append_nil] at same
    refine ⟨name :: entered, body, walk.enter ?_ known, ?_⟩
    · rw [Located.Form.name?, found, Option.bind_some, text]
    · intro nodup
      exact (List.nodup_cons.mp nodup).1 (same ▸ again)
  · rintro ⟨entered, node, walk, twice⟩
    rcases fresh_or_cyclic [] walk with fresh | ⟨visit, name, body, reached, refers, known, again⟩
    · exact absurd fresh.nodup twice
    · obtain ⟨field, found, text⟩ := Option.bind_eq_some_iff.mp refers
      refine ⟨field.path, name, Located.mem_issues_tree.mpr ⟨visit, reached, ?_⟩⟩
      exact (mem_faults_reference rfl).mpr ⟨field, found, cyclicRef_mem.mpr ⟨rfl, text, ⟨body, known⟩, again⟩⟩

/-- A tree has an unknown reference exactly if some path from its root comes to a name without a subeffect. -/
theorem unknownRef_iff : (∃ path name, ⟨path, .unknownRef name⟩ ∈ (root.tree subeffects targets).issues) ↔
    ∃ entered node name, Walk subeffects root entered node ∧ node.form.name? = some name ∧
      subeffects.field? name = none := by
  constructor
  · rintro ⟨path, name, told⟩
    obtain ⟨visit, reached, fault⟩ := Located.mem_issues_tree.mp told
    obtain ⟨field, found, fault⟩ := (mem_faults_reference rfl).mp fault
    obtain ⟨_, text, unknown⟩ := unknownRef_mem.mp fault
    obtain ⟨entered, _, walk, _⟩ := reaches_iff.mp reached
    refine ⟨entered, visit.node, name, walk, ?_, unknown⟩
    rw [Located.Form.name?, found, Option.bind_some, text]
  · rintro ⟨_, node, name, walk, refers, unknown⟩
    obtain ⟨entered, walk, nodup⟩ := walk.simple
    obtain ⟨field, found, text⟩ := Option.bind_eq_some_iff.mp refers
    refine ⟨field.path, name, Located.mem_issues_tree.mpr ⟨⟨entered, node⟩, ?_, ?_⟩⟩
    · exact reaches_iff.mpr ⟨entered, (List.append_nil _).symm, walk, nodup, fun _ _ => List.not_mem_nil⟩
    · exact (mem_faults_reference rfl).mpr ⟨field, found, unknownRef_mem.mpr ⟨rfl, text, unknown⟩⟩

end Visit

/-- References are reported for the trees of effects and for nothing else. -/
theorem Located.reference_reported {part : Located} {kind : CardKind} (identified : part.identified = true)
    (typed : part.kind.value? = some kind) {fault : Fault} (reference : fault.isOfReference = true) {path : Path} :
    ⟨path, fault⟩ ∈ part.card.issues ↔ ∃ effect root, part.Grows effect root ∧
      ⟨path, fault⟩ ∈ (root.tree part.subeffectPart (effect.available kind)).issues := by
  constructor
  · intro member
    rcases card_cases member with blames | ⟨_, other, effect, root, same, grows, told⟩
    · exact absurd reference (by rw [blames.plain]; exact Bool.false_ne_true)
    · obtain rfl := Option.some.inj (typed.symm.trans same)
      exact ⟨effect, root, grows, told⟩
  · rintro ⟨effect, root, grows, told⟩
    exact tree_card identified typed grows told

/--
Whatever the subeffects of a card refer to, its reading ends, and never more subeffects are being inlined than
there are. A reference makes a tree exactly if its subeffect is there and not being inlined and the body of that
subeffect makes the tree in the place of the reference. For a card with a number, a name and a kind, a cyclic
reference is reported exactly if a path from the root of some effect enters a subeffect twice, and an unknown one
exactly if such a path comes to a name without a subeffect.
-/
theorem CardTemplate.references_exact (value : Json) :
    (WellFounded fun next visit : Visit => next ∈ visit.next (Located.root value).subeffectPart) ∧
    (∀ (root : Located) (visit : Visit), (Visit.mk [] root).Reaches (Located.root value).subeffectPart visit →
      visit.entered.Nodup ∧
        visit.entered.length ≤ ((Located.root value).subeffectPart.value.members?.getD []).length) ∧
    (∀ (visit : Visit) (targets : Nat), (visit.read (Located.root value).subeffectPart targets).issues =
      visit.faults (Located.root value).subeffectPart targets ++
        (visit.next (Located.root value).subeffectPart).flatMap fun next =>
          (next.read (Located.root value).subeffectPart targets).issues) ∧
    (∀ entered node name targets tree, node.form.name? = some name →
      (((Visit.mk entered node).read (Located.root value).subeffectPart targets).value? = some tree ↔
        name ∉ entered ∧ ∃ body, (Located.root value).subeffectPart.field? name = some body ∧
          ((Visit.mk entered (body.moved node.path)).read (Located.root value).subeffectPart targets).value? =
            some tree)) ∧
    ∀ kind, (Located.root value).identified = true → (Located.root value).kind.value? = some kind →
      ((∃ path name, ⟨path, .cyclicRef name⟩ ∈ reported value) ↔
        ∃ effect root entered node, (Located.root value).Grows effect root ∧
          Walk (Located.root value).subeffectPart root entered node ∧ ¬entered.Nodup) ∧
      ((∃ path name, ⟨path, .unknownRef name⟩ ∈ reported value) ↔
        ∃ effect root entered node name, (Located.root value).Grows effect root ∧
          Walk (Located.root value).subeffectPart root entered node ∧ node.form.name? = some name ∧
          (Located.root value).subeffectPart.field? name = none) := by
  refine ⟨Visit.next_wellFounded _, fun _ _ reached => reached.bounded, fun _ _ => Visit.issues_read,
    fun _ _ _ _ _ refers => Visit.reference_compiles refers, ?_⟩
  intro kind identified typed
  rw [reported_eq]
  refine ⟨⟨?_, ?_⟩, ⟨?_, ?_⟩⟩
  · rintro ⟨path, name, told⟩
    obtain ⟨effect, root, grows, told⟩ := (Located.reference_reported identified typed rfl).mp told
    obtain ⟨entered, node, walk, twice⟩ := Visit.cyclicRef_iff.mp ⟨path, name, told⟩
    exact ⟨effect, root, entered, node, grows, walk, twice⟩
  · rintro ⟨effect, root, entered, node, grows, walk, twice⟩
    obtain ⟨path, name, told⟩ := Visit.cyclicRef_iff.mpr ⟨entered, node, walk, twice⟩
    exact ⟨path, name, (Located.reference_reported identified typed rfl).mpr ⟨effect, root, grows, told⟩⟩
  · rintro ⟨path, name, told⟩
    obtain ⟨effect, root, grows, told⟩ := (Located.reference_reported identified typed rfl).mp told
    obtain ⟨entered, node, other, walk, refers, unknown⟩ := Visit.unknownRef_iff.mp ⟨path, name, told⟩
    exact ⟨effect, root, entered, node, other, grows, walk, refers, unknown⟩
  · rintro ⟨effect, root, entered, node, other, grows, walk, refers, unknown⟩
    obtain ⟨path, name, told⟩ := Visit.unknownRef_iff.mpr ⟨entered, node, other, walk, refers, unknown⟩
    exact ⟨path, name, (Located.reference_reported identified typed rfl).mpr ⟨effect, root, grows, told⟩⟩

/-- This describes a spell that does one of its subeffects, of which one does another twice and one never ends. -/
def Json.weaver (start : String) : Json :=
  .object [
    ("effects", .array [.object [("effect", .object [("ref", .string start)]), ("type", .string "activate")]]),
    ("id", .number (.integer 1)), ("kind", .string "spell"), ("name", .string "Weaver"),
    ("subeffects", .object [("knot", .object [("sequence", .array [.object [("ref", .string "knot")]])]),
      ("stitch", .object [("action", .string "draw")]),
      ("thread", .object [("sequence",
        .array [.object [("ref", .string "stitch")], .object [("ref", .string "stitch")]])])])]

/-- A weaver of threads has no cyclic reference, since no path comes to the knot; a weaver of knots has one. -/
theorem CardTemplate.weaver_knots : reported (.weaver "thread") = [] ∧
    (¬∃ effect root entered node, (Located.root (.weaver "thread")).Grows effect root ∧
      Walk (Located.root (.weaver "thread")).subeffectPart root entered node ∧ ¬entered.Nodup) ∧
    ∃ effect root entered node, (Located.root (.weaver "knot")).Grows effect root ∧
      Walk (Located.root (.weaver "knot")).subeffectPart root entered node ∧ ¬entered.Nodup := by
  have silent : reported (.weaver "thread") = [] := by decide +kernel
  have told : ⟨[.key "subeffects", .key "knot", .key "sequence", .index 0, .key "ref"], .cyclicRef "knot"⟩ ∈
      reported (.weaver "knot") := by
    decide +kernel
  refine ⟨silent, ?_, ?_⟩
  · intro tangled
    obtain ⟨path, name, member⟩ := ((references_exact (.weaver "thread")).2.2.2.2 (.spell .normal)
      (by decide +kernel) (by decide +kernel)).1.mpr tangled
    rw [silent] at member
    cases member
  · exact ((references_exact (.weaver "knot")).2.2.2.2 (.spell .normal)
      (by decide +kernel) (by decide +kernel)).1.mp ⟨_, "knot", told⟩

end CardDuel
