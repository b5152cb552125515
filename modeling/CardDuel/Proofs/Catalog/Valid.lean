/-
This file tells what is asked of every card that is taken into a catalog: its effects have the speed and the
parts of their kind, and every instruction, however deep and through references, acts on what it can act on.
-/

import CardDuel.Proofs.Catalog.Faultless

namespace CardDuel

namespace Instruction

/-- This tells that a selector stands for what an instruction acts on; discards may act on both sorts. -/
def ActsOn (selector : Selector) : Instruction → Prop
  | draw _ | mill _ | search .. | damage _ | gainLife _ => selector.selectsPlayers = true
  | discard _ => True
  | _ => selector.selectsCards = true

def count? : Instruction → Option Nat
  | draw count | mill count | discard count | search _ count => some count
  | _ => none

/-- This tells that an instruction asks for at least one card if it asks for a number of them. -/
def Counted (instruction : Instruction) : Prop := ∀ count ∈ instruction.count?, 1 ≤ count

/-- This tells that an instruction with a selector is valid where a number of targets is chosen. -/
structure Valid (targets : Nat) (instruction : Instruction) (selector : Selector) : Prop where
  fits : instruction.ActsOn selector
  bound : ∀ index, selector = .chosen index → index < targets
  counted : instruction.Counted
  ending : ∀ duration ∈ instruction.duration?, duration = .endOfTurn ∨ duration = .untilLeavesField

/-- An instruction that accepts a selector acts on what it selects. -/
theorem actsOn_of_accepts {instruction : Instruction} {selector : Selector}
    (accepted : Located.accepts instruction selector = true) : instruction.ActsOn selector := by
  cases instruction <;>
    simp_all [Located.accepts, ActsOn, takesPlayers, Selector.selectsCards]

end Instruction

structure CardEffect.Valid (card : CardKind) (effect : CardEffect) : Prop where
  speed : effect.speed = card.speedOf effect.kind
  activation : effect.kind = .activate → card.isMonster = false
  following : effect.kind = .trigger → effect.trigger.isSome = true ∧ effect.targets = []
  alone : effect.PaysAlone
  priced : ∀ cost ∈ effect.cost, cost.resource = .hand ∨ cost.resource = .field → 1 ≤ cost.amount
  aimed : ∀ spec ∈ effect.targets, 1 ≤ spec.count
  root : effect.root.Each (Instruction.Valid effect.targetCount)

/-- An activation that does nothing is valid on a spell or trap. -/
theorem CardEffect.valid_empty {card : CardKind} (other : card.isMonster = false) :
    (CardEffect.plain .activate (card.speedOf .activate) .empty).Valid card where
  speed := rfl
  activation := fun _ => other
  following := fun follows => by simp [plain] at follows
  alone := paysAlone_empty _
  priced := by simp [plain]
  aimed := by simp [plain]
  root := by simp [plain, EffectTree.empty]

/-- This tells that a card is valid. -/
structure CardTemplate.Valid (template : CardTemplate) : Prop where
  effects : ∀ effect ∈ template.effects, effect.Valid template.kind
  activated : template.kind.isMonster = false → ∃ effect ∈ template.effects, effect.kind = .activate
  summoned : template.specialSummon.isSome = true → template.kind.isMonster = true
  level : ∀ level attack defense, template.kind = .monster level attack defense → level ≤ 255

namespace Located

open Checked

variable {targets : Nat} (part : Located) (kind : Option EffectKind) (card : CardKind)

/-! Instructions -/

/-- A positive number is at least one. -/
theorem positive_only (name : String) : (part.positive name).Only (1 ≤ ·) := by
  rw [positive]
  split
  · simp
  · simp only [only_bind, only_ite, only_fail, only_pure, implies_true, true_and]
    intro value _ nonzero
    have counted : value.toNat ≠ 0 := fun none => nonzero (UInt32.toNat_inj.mp none)
    exact UInt32.le_iff_toNat_le.mpr (Nat.one_le_iff_ne_zero.mpr counted)

theorem counted_of_positive {count : UInt32} (read : (part.positive "count").value? = some count) :
    1 ≤ count.toNat :=
  UInt32.le_iff_toNat_le.mp (part.positive_only "count" count read)

theorem modifyStat_counted : part.modifyStat.Only Instruction.Counted := by
  simp [modifyStat, Instruction.Counted, Instruction.count?]

theorem setStat_counted : part.setStat.Only Instruction.Counted := by
  simp [setStat, Instruction.Counted, Instruction.count?]

theorem search_counted : part.search.Only Instruction.Counted := by
  simpa [search, Instruction.Counted, Instruction.count?] using
    fun _ _ _ read => part.counted_of_positive read

/-- No instruction is read that asks for no cards at all. -/
theorem instruction_counted (field : Located) (name : String) :
    (part.instruction field name).Only Instruction.Counted := by
  simp only [Located.instruction, only_ite, only_bind, only_pure, search_counted, modifyStat_counted,
    setStat_counted, only_fail]
  simp only [Instruction.Counted, Instruction.count?, Option.mem_def, Option.some_inj, forall_eq',
    reduceCtorEq, false_imp_iff, implies_true, and_true]
  exact ⟨fun _ _ => part.counted_of_positive, fun _ => ⟨fun _ _ => part.counted_of_positive,
    fun _ _ _ => part.counted_of_positive⟩⟩

/-- Every instruction that is read is valid. -/
theorem act_valid : (part.act targets).Only (·.Each (Instruction.Valid targets)) := by
  intro tree read
  obtain ⟨field, name, instruction, selector, made, rfl, accepted, bound⟩ := part.act_cases read
  refine (EffectTree.each_act _ _).mpr ⟨Instruction.actsOn_of_accepts accepted, bound,
    part.instruction_counted field name instruction made, ?_⟩
  intro duration lasts
  have ends := part.instruction_only field name instruction made
  cases duration with
  | whileSourceActive => exact absurd lasts ends
  | endOfTurn => exact .inl rfl
  | untilLeavesField => exact .inr rfl

/-! Effects -/

/-- Only spells and traps have activations. -/
theorem effectKind_only : (part.effectKind card).Only (· = .activate → card.isMonster = false) := by
  simp only [effectKind, only_bind, only_ite, only_fail, only_pure, implies_true, true_and]
  intro _ _ _ _ kind _ allowed activates
  simpa [activates] using allowed

/-- A trigger has a description of what it answers to. -/
theorem effectTrigger_only :
    (part.effectTrigger kind).Only fun trigger => kind = some .trigger → trigger.isSome = true := by
  rw [effectTrigger]
  split
  · simp
  · simp only [only_ite, only_fail, only_pure, implies_true, true_and]
    exact fun other follows => absurd follows other

/-- A description of targets asks for at least one. -/
theorem targetSpec_only : part.targetSpec.Only (1 ≤ ·.count) := by
  simp only [targetSpec, only_bind, only_pure, value?_attempt, value?_require, Option.mem_some_iff]
  rintro _ - _ rfl _ - _ - count read
  exact part.counted_of_positive read

/-- Every description of targets of an effect asks for at least one. -/
theorem effectTargets_counted :
    (part.effectTargets kind).Only fun listed => ∀ spec, some spec ∈ listed → 1 ≤ spec.count := by
  rw [effectTargets]
  split
  · simp
  · next list _ =>
    have read : (list.array >>= fun _ => each targetSpec list.items).Only
        fun listed => ∀ spec, some spec ∈ listed → 1 ≤ spec.count :=
      only_bind.mpr fun _ _ => only_each targetSpec_only
    rw [only_ite]
    exact ⟨fun _ => only_bind.mpr fun _ _ => read, fun _ => read⟩

/-- A cost that names cards names at least one. -/
theorem cost_only : part.cost.Only fun cost =>
    cost.resource = .hand ∨ cost.resource = .field → 1 ≤ cost.amount := by
  simp only [cost, only_bind, only_ite, only_pure, only_fail, implies_true, and_true]
  intro _ _ _ _ _ _
  refine ⟨?_, fun _ => ⟨?_, fun _ => ⟨?_, ?_⟩⟩⟩
  · simp
  · exact fun _ amount read _ => part.positive_only "amount" amount read
  · exact fun _ amount read _ => part.positive_only "amount" amount read
  · simp

/-- An effect that is read is valid if it is paid for as effects of its kind are. -/
theorem effect_valid_of_alone (subeffects : Located) :
    (effect subeffects card part).Only fun effect => effect.PaysAlone → effect.Valid card := by
  simp only [effect, only_bind, value?_attempt, value?_require, only_pure, Option.mem_some_iff]
  rintro _ - _ rfl _ rfl _ - cost priced _ - trigger following listed read _ - root grown kind known speed
    timed tree rfl _ - cost rfl _ - trigger rfl targets allowed alone
  obtain ⟨rfl, untargeted⟩ := part.effectTargets_only _ listed read targets allowed
  have valid (count : Nat) : (part.required "effect" >>= fun field => field.tree subeffects count).Only
      (·.Each (Instruction.Valid count)) := by
    simpa using fun field _ => field.tree_only act_valid subeffects
  exact {
    speed := part.effectSpeed_only _ card speed timed _ known
    activation := part.effectKind_only card kind known
    following := fun follows => ⟨part.effectTrigger_only _ trigger following (follows ▸ known),
      untargeted (follows ▸ known)⟩
    alone := alone
    priced := part.only_optional cost_only cost priced
    aimed := fun spec member => part.effectTargets_counted _ listed read spec (by simpa using member)
    root := valid _ tree grown }

/-- An effect that is read without an issue is valid. -/
theorem effect_valid (subeffects : Located) :
    (effect subeffects card part).Clean (CardEffect.Valid card) := fun silent effect read =>
  part.effect_valid_of_alone card subeffects effect read
    (part.effect_clean subeffects card silent effect read)

/-! Cards -/

/-- Every spell or trap has an activation. -/
theorem withActivation_activates {kind : CardKind} (other : kind.isMonster = false)
    (effects : List CardEffect) :
    ∃ effect ∈ withActivation kind effects, effect.kind = .activate := by
  rw [withActivation]
  split
  · exact ⟨_, List.mem_append_right _ (List.mem_singleton_self _), rfl⟩
  · next printed => simpa [other] using printed

/-- Only monsters have a condition for a special summon. -/
theorem specialSummon_only (kind : CardKind) :
    (part.specialSummon kind).Only fun condition => condition.isSome = true → kind.isMonster = true := by
  rw [specialSummon]
  split
  · simp
  · simp only [only_ite, only_bind, only_pure]
    exact ⟨fun monster _ _ _ => monster, fun _ _ _ missing => absurd missing Bool.false_ne_true⟩

/-- A level is read only if it is there, and it is bounded then. -/
theorem kind_only : part.kind.Only fun kind => ∀ level attack defense,
    kind = .monster level attack defense → level ≤ 255 := by
  simp only [Located.kind, monster, only_bind, only_ite, only_pure, only_fail, value?_attempt,
    value?_require, Option.mem_some_iff, reduceCtorEq, false_imp_iff, implies_true, and_true]
  rintro _ - _ - _ _ rfl _ - _ - _ rfl level read _ - _ - _ _ _ same
  obtain ⟨rfl, _, _⟩ := CardKind.monster.inj same
  refine @Only.of_value? _ (· ≤ 255) _ (only_bind.mpr ?_) _ read
  intro value written
  split
  · simp only [only_ite, only_fail, only_pure, implies_true, true_and]
    exact fun bounded => UInt32.not_lt.mp bounded
  · next absent =>
    rw [value?_bind, value?_required, absent] at written
    cases written

/-- A card that is read without an issue is valid. -/
theorem card_valid : part.card.Clean CardTemplate.Valid := by
  simp only [Located.card, clean_bind, clean_attempt, clean_require, clean_pure]
  refine .of_forall (fun _ => .of_forall (fun subeffects _ _ _ _ _ _ _ kind known => ?_) _) _
  intro silent effects read
  refine .of_forall ?_ _
  intro _ _ condition asked
  exact {
    effects := withActivation_all CardEffect.valid_empty
      (part.entries_clean (effect_valid · kind subeffects) "effects" silent effects read)
    activated := fun other => withActivation_activates other effects
    summoned := part.specialSummon_only kind condition asked
    level := part.kind_only kind known }

end Located

/--
Every card that is taken is valid. Its effects have the speed of their kind; activations are those of spells
and traps, each of which has one; triggers wait for something, choose no targets and cost no cards; every
instruction fits its selector, asks for at least one card and lasts until the end of the turn or until its
target leaves; only monsters, of level 255 at most, have a condition to be special summoned.
-/
theorem CardTemplate.read_valid {index : Nat} {value : Json} {template : CardTemplate}
    (read : CardTemplate.read index value = .ok template) : template.Valid :=
  read_clean (Located.card_valid _) read

/-- This describes a monster that can be special summoned and has a quick effect with a reference. -/
def Json.warden : Json :=
  .object [("atk", .number (.integer 1200)), ("def", .number (.integer 900)),
    ("effects", .array [
      .object [("cost", .object [("resource", .string "hand")]),
        ("effect", .object [("sequence", .array [.object [("ref", .string "strike")],
          .object [("action", .string "draw")]])]),
        ("targets", .array [.object [("count", .number (.integer 2))]]), ("type", .string "quick")],
      .object [("effect", .object [("action", .string "gain_life"), ("amount", .number (.integer 300))]),
        ("trigger", .object [("event", .string "summoned")]), ("type", .string "trigger")]]),
    ("id", .number (.integer 1)), ("kind", .string "monster"), ("level", .number (.integer 4)),
    ("name", .string "Warden"), ("special_summon", .string "always"),
    ("subeffects", .object [("strike", .object [("action", .string "destroy"),
      ("target", .string "chosen:1")])])]

/-- The effects of a warden are valid, the one with a reference included. -/
theorem CardTemplate.warden_valid : ∃ template, CardTemplate.read 0 .warden = .ok template ∧
    template.effects.map CardEffect.targetCount = [2, 0] ∧ template.Valid := by
  have taken : (CardTemplate.read 0 .warden).toOption.any (fun template =>
      decide (template.effects.map CardEffect.targetCount = [2, 0])) = true := by
    decide +kernel
  obtain ⟨template, read, targets⟩ := any_toOption_iff.mp taken
  exact ⟨template, read, of_decide_eq_true targets, read_valid read⟩

end CardDuel
