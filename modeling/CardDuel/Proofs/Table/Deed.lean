/-
This file says what can happen to the table in one go, and shows that effects, sweeps and costs are
nothing but such deeds one after the other. A deed never counts a use and never tells of an effect.
-/

import CardDuel.Proofs.Effect.Plan
import CardDuel.Proofs.Table.Agreement
import CardDuel.Play.Step
import Mathlib.Logic.Relation

namespace CardDuel

/-- This tells whether an event is about cards and life points only. -/
def GameEvent.isTabled : GameEvent → Bool
  | cardDrawn .. | summoned .. | cardSet .. | positionChanged .. | attackNegated _ | damage ..
  | lifeGained .. | lifePaid .. | cardMoved .. | destroyed .. | deckShuffled _ => true
  | _ => false

def GameEvent.isOfAttack : GameEvent → Bool
  | attackDeclared .. | attackNegated _ | attackCancelled _ | battleResolved .. => true
  | _ => false

namespace GameState

/-- This is one deed: a change that may be made in its state, a recomputation or a destruction. -/
inductive Deed (may : GameState → Change → Prop) : GameState → GameState → Prop where
  | change {before after : GameState} (change : Change) (allowed : may before change)
      (made : change.apply before = .ok after) : Deed may before after
  | refresh (state : GameState) (catalog : Catalog) : Deed may state (state.refresh catalog)
  | destroy (state : GameState) (entry : InstanceId × Destruction) :
      Deed may state (destroyMarked state entry)

def Deeds (may : GameState → Change → Prop) : GameState → GameState → Prop :=
  Relation.ReflTransGen (Deed may)

/-- This tells that a modifier may be granted in some state. -/
def Grants (may : GameState → Change → Prop) (modifier : Modifier) : Prop :=
  ∃ state, may state (.grant modifier)

namespace Deeds

variable {may : GameState → Change → Prop} {before middle after : GameState}

theorem refl (state : GameState) : Deeds may state state := Relation.ReflTransGen.refl

theorem trans (first : Deeds may before middle) (second : Deeds may middle after) :
    Deeds may before after := Relation.ReflTransGen.trans first second

/-- One deed is a run of deeds. -/
theorem of_deed (deed : Deed may before after) : Deeds may before after :=
  Relation.ReflTransGen.single deed

/-- A change that is allowed and succeeds is a deed. -/
theorem change {change : Change} (allowed : may before change)
    (made : change.apply before = .ok after) : Deeds may before after :=
  of_deed (.change change allowed made)

/-- A refresh is a deed. -/
theorem refresh (state : GameState) (catalog : Catalog) :
    Deeds may state (state.refresh catalog) := of_deed (.refresh state catalog)

/-- A fold of steps that are deeds is made of deeds. -/
theorem foldl {α : Type} {step : GameState → α → GameState} {items : List α}
    (each : ∀ state, ∀ item ∈ items, Deeds may state (step state item)) (state : GameState) :
    Deeds may state (items.foldl step state) := by
  refine List.foldlRecOn (motive := Deeds may state) items step (refl state) ?_
  intro before deeds item member
  exact deeds.trans (each before item member)

end Deeds

end GameState

open GameState

namespace Change

variable {may : GameState → Change → Prop} {changes : List Change}

/-- The changes that are made until one fails are deeds, if all of them are allowed. -/
theorem applyUntil_deeds (allowed : ∀ state, ∀ change ∈ changes, may state change)
    (state : GameState) : Deeds may state (applyUntil state changes).1 := by
  induction changes generalizing state with
  | nil => exact .refl state
  | cons change rest ih =>
    rw [applyUntil]
    cases made : change.apply state with
    | error violation => exact .refl state
    | ok next =>
      have first := Deeds.change (allowed state change (List.mem_cons_self ..)) made
      exact first.trans
        (ih (fun state other member => allowed state other (List.mem_cons_of_mem change member)) next)

/-- All changes of a list are deeds, if they are allowed. -/
theorem applyAll_deeds (allowed : ∀ state, ∀ change ∈ changes, may state change)
    {state next : GameState} (made : applyAll changes state = .ok next) : Deeds may state next := by
  have deeds := applyUntil_deeds allowed state
  unfold applyAll at made
  split at made
  · next reached same =>
    obtain rfl : reached = next := by simpa using made
    rwa [same] at deeds
  · simp at made

/-- The possible changes of a list are deeds, if all of them are allowed. -/
theorem applyPossible_deeds (allowed : ∀ state, ∀ change ∈ changes, may state change)
    (state : GameState) : Deeds may state (applyPossible changes state) := by
  refine Deeds.foldl ?_ state
  intro current change member
  cases made : change.apply current with
  | error violation => exact .refl current
  | ok next => exact .change (allowed current change member) made

end Change

namespace EffectTree

variable {may : GameState → Change → Prop} {catalog : Catalog} {link : ChainLink}

/-- An instruction is carried out by deeds, if all that it can plan is allowed. -/
theorem runInstruction_deeds {instruction : Instruction} {target : Selector}
    {state next : GameState} (makes : instruction.MakesOnly may)
    (made : runInstruction catalog link instruction target state = .ok next) :
    Deeds may state next := by
  simp only [runInstruction, bind_eq_ok, pure_eq_ok] at made
  obtain ⟨resolved, _, changes, planned, changed, applied, rfl⟩ := made
  have within : ∀ change ∈ changes, change.Within (fun _ => True) instruction.duration? :=
    plan_within planned (fun _ _ _ _ => trivial) (fun _ _ _ _ => trivial)
  have deeds := Change.applyAll_deeds (fun state change member =>
    makes state change (within change member)) applied
  exact deeds.trans (.refresh changed catalog)

mutual

/-- A whole effect tree makes nothing but deeds. -/
theorem run_deeds : (tree : EffectTree) →
    (∀ instruction ∈ tree.instructions, instruction.MakesOnly may) →
    {state next : GameState} → run catalog link tree state = .ok next → Deeds may state next
  | .act instruction _, makes, _, _, made =>
    runInstruction_deeds (makes instruction (by simp [instructions]))
      (by simpa only [run] using made)
  | .sequence children, makes, _, _, made =>
    runAll_deeds children (by simpa only [instructions] using makes)
      (by simpa only [run] using made)
  | .branch condition yes no, makes, state, _, made => by
    rw [instructions] at makes
    rw [run] at made
    split at made
    · exact run_deeds yes (fun instruction member =>
        makes instruction (List.mem_append_left _ member)) made
    · exact runOption_deeds no (fun instruction member =>
        makes instruction (List.mem_append_right _ member)) made

/-- Trees one after the other are carried out by deeds, if their instructions make only what is allowed. -/
theorem runAll_deeds : (children : List EffectTree) →
    (∀ instruction ∈ instructionsOfAll children, instruction.MakesOnly may) →
    {state next : GameState} → runAll catalog link children state = .ok next →
      Deeds may state next
  | [], _, state, next, made => by
    obtain rfl : state = next := by simpa [runAll] using made
    exact .refl state
  | child :: rest, makes, _, _, made => by
    rw [instructionsOfAll] at makes
    simp only [runAll, bind_eq_ok] at made
    obtain ⟨middle, first, others⟩ := made
    exact (run_deeds child (fun instruction member =>
      makes instruction (List.mem_append_left _ member)) first).trans
        (runAll_deeds rest (fun instruction member =>
          makes instruction (List.mem_append_right _ member)) others)

theorem runOption_deeds : (child : Option EffectTree) →
    (∀ instruction ∈ instructionsOfOption child, instruction.MakesOnly may) →
    {state next : GameState} → runOption catalog link child state = .ok next →
      Deeds may state next
  | none, _, state, next, made => by
    obtain rfl : state = next := by simpa [runOption] using made
    exact .refl state
  | some child, makes, _, _, made =>
    run_deeds child (by simpa only [instructionsOfOption] using makes)
      (by simpa only [runOption] using made)

end

end EffectTree

namespace GameState

/-! Sweeps, costs and battles -/

section Play

variable {may : GameState → Change → Prop} (state : GameState) (catalog : Catalog)

/-- One round of destruction is made of deeds. -/
theorem razedRound_deeds : Deeds may state (state.razedRound catalog) := by
  have fresh : Deeds may state (state.refresh catalog) := .refresh state catalog
  exact fresh.trans (Deeds.foldl (fun current entry _ => .of_deed (.destroy current entry)) _)

/-- However many rounds it takes, the destruction of marked cards is made of deeds that change nothing else. -/
theorem destroyAllMarked_deeds : Deeds may state (state.destroyAllMarked catalog) := by
  rw [destroyAllMarked]
  generalize maxRounds = rounds
  induction rounds generalizing state with
  | zero => exact .refresh state catalog
  | succ rounds ih =>
    by_cases clean : (state.refresh catalog).marked = []
    · rw [destroyInRounds_of_unmarked clean]
      exact .refresh state catalog
    · rw [destroyInRounds_of_marked clean]
      exact (state.razedRound_deeds catalog).trans (ih _)

/-- A resolved card is sent away by a deed. -/
theorem finishActivation_deeds (link : ChainLink)
    (spend : ∀ state, may state (.toGraveyard link.source)) :
    Deeds may state (state.finishActivation catalog link) := by
  rw [finishActivation]
  split
  · exact .refl state
  · dsimp only
    split
    · exact Change.applyPossible_deeds
        (fun current => List.forall_mem_singleton.mpr (spend current)) state
    · exact .refl state

/-- The target of an attack is turned by a deed. -/
theorem revealTarget_deeds (target : Option InstanceId)
    (turn : ∀ card ∈ target, may state (.changePosition card .faceUpDefense)) :
    Deeds may state (state.revealTarget catalog target) := by
  rw [revealTarget.eq_def]
  split
  · exact .refl state
  · next card =>
    split
    · refine Deeds.trans ?_ (.refresh _ catalog)
      rw [Change.applyPossible, List.foldl_cons, List.foldl_nil]
      split
      · next made => exact .change (turn card rfl) made
      · exact .refl state
    · exact .refl state

variable {state} {next : GameState}

/-- A change of the rules is a deed with its refresh. -/
theorem applyChange_deeds {change : Change} (allowed : may state change)
    (made : state.applyChange change = .ok next) : Deeds may state next :=
  .change allowed (mapError_eq_ok.mp made)

/-- Changes of the rules are deeds with one refresh. -/
theorem applyChanges_deeds {changes : List Change}
    (allowed : ∀ state, ∀ change ∈ changes, may state change)
    (made : state.applyChanges changes = .ok next) : Deeds may state next := by
  induction changes generalizing state with
  | nil =>
    obtain rfl : state = next := by simpa [applyChanges, pure_eq_ok] using made
    exact .refl state
  | cons change rest ih =>
    simp only [applyChanges, List.foldlM_cons, bind_eq_ok] at made
    obtain ⟨middle, first, others⟩ := made
    exact (applyChange_deeds (allowed state change (List.mem_cons_self ..)) first).trans
      (ih (fun state other member => allowed state other (List.mem_cons_of_mem change member)) others)

/-- The cost of a trigger is paid by deeds. -/
theorem payTriggerCost_deeds {cost : Option Cost} {trigger : TriggeredEffect}
    (spend : may state (.toGraveyard trigger.source))
    (pay : ∀ amount ≤ (state.player trigger.controller).life,
      may state (.payLife trigger.controller amount))
    (paid : state.payTriggerCost cost trigger = .ok next) : Deeds may state next := by
  rw [payTriggerCost.eq_def] at paid
  split at paid
  · obtain rfl : state = next := by simpa using paid
    exact .refl state
  · split at paid
    · obtain ⟨enough, made⟩ := ite_error_eq_ok.mp paid
      exact applyChange_deeds (pay _ (UInt32.not_lt.mp enough)) made
    · exact applyChange_deeds spend paid

end Play

/-! What deeds leave alone -/

/-- A change of a card of the field needs that card. -/
theorem onField_eq_ok {state next : GameState} {card : InstanceId}
    {change : CardInstance → CardInstance} :
    Change.onField state card change = .ok next ↔ ∃ found, state.card? card = some found ∧
      found.isOnField = true ∧ next = state.modifyCard card change := by
  simp only [Change.onField, bind_eq_ok, requireCard_eq_ok]
  constructor
  · rintro ⟨found, known, rest⟩
    split at rest
    · next field => exact ⟨found, known, field, (pure_eq_ok.mp rest).symm⟩
    · exact (throw_eq_ok.mp rest).elim
  · rintro ⟨found, known, field, rfl⟩
    exact ⟨found, known, by rw [if_pos field]; rfl⟩

/-- These are the events in a part of the log that effects can follow. -/
def triggering (log : List LoggedEvent) : List GameEvent :=
  (log.map LoggedEvent.event).filter GameEvent.canTrigger

@[simp] theorem triggering_nil : triggering [] = [] := rfl

@[simp] theorem triggering_append (early late : List LoggedEvent) :
    triggering (early ++ late) = triggering early ++ triggering late := by
  simp [triggering]

@[simp] theorem triggering_singleton (entry : LoggedEvent) :
    triggering [entry] = if entry.event.canTrigger then [entry.event] else [] := by
  cases follows : entry.event.canTrigger <;> simp [triggering, follows]

/--
This tells that nothing changes but the cards, the life points and the modifiers, that nothing is told
but what is about the table and not about an attack, and that all of it waits that effects can follow.
-/
structure OnTable (may : Modifier → Prop) (before after : GameState) : Prop where
  version : after.version = before.version
  turn : after.turn = before.turn
  phase : after.phase = before.phase
  turnPlayer : after.turnPlayer = before.turnPlayer
  chain : after.chain = before.chain
  window : after.window = before.window
  attack : after.pendingAttack = before.pendingAttack
  activations : after.activations = before.activations
  outcome : after.outcome = before.outcome
  told : ∃ told, after.log = before.log ++ told ∧
    after.pendingEvents = before.pendingEvents ++ triggering told ∧
    ∀ entry ∈ told, entry.event.isTabled = true ∧ entry.event.isOfAttack = false
  granted : ∀ modifier ∈ after.granted, modifier ∈ before.granted ∨ may modifier

namespace OnTable

variable {may : Modifier → Prop} {before middle after : GameState}

theorem refl (state : GameState) : OnTable may state state :=
  ⟨rfl, rfl, rfl, rfl, rfl, rfl, rfl, rfl, rfl, ⟨[], by simp, by simp, by simp⟩,
    fun _ member => .inl member⟩

theorem trans (first : OnTable may before middle) (second : OnTable may middle after) :
    OnTable may before after where
  version := second.version.trans first.version
  turn := second.turn.trans first.turn
  phase := second.phase.trans first.phase
  turnPlayer := second.turnPlayer.trans first.turnPlayer
  chain := second.chain.trans first.chain
  window := second.window.trans first.window
  attack := second.attack.trans first.attack
  activations := second.activations.trans first.activations
  outcome := second.outcome.trans first.outcome
  told := by
    obtain ⟨early, same, waits, table⟩ := first.told
    obtain ⟨late, sameToo, waitsToo, tableToo⟩ := second.told
    refine ⟨early ++ late, by simp [sameToo, same], by simp [waitsToo, waits], ?_⟩
    intro entry member
    exact (List.mem_append.mp member).elim (table entry) (tableToo entry)
  granted := by
    intro modifier member
    rcases second.granted modifier member with earlier | allowed
    · exact first.granted modifier earlier
    · exact .inr allowed

/-- New cards, players, shuffles and counting modifiers are all on the table. -/
theorem table (state : GameState) (cards : List CardInstance) (players : PerSeat PlayerState)
    (shuffler : Shuffler) (active : List Modifier) : OnTable may state { state with
      cards := cards, players := players, shuffler := shuffler, active := active } :=
  ⟨rfl, rfl, rfl, rfl, rfl, rfl, rfl, rfl, rfl, ⟨[], by simp, by simp, by simp⟩,
    fun _ member => .inl member⟩

/-- What happens on the table can be told. -/
theorem record (state : GameState) {event : GameEvent} (table : event.isTabled = true)
    (peaceful : event.isOfAttack = false) : OnTable may state (state.record event) := by
  refine ⟨rfl, rfl, rfl, rfl, rfl, rfl, rfl, rfl, rfl, ⟨[_], rfl, ?_, ?_⟩, fun _ member => .inl member⟩
  · rw [triggering_singleton, GameState.record]
    split <;> simp
  · simpa using ⟨table, peaceful⟩

/-- A changed card is a change of the table. -/
theorem modifyCard (state : GameState) (card : InstanceId) (change : CardInstance → CardInstance) :
    OnTable may state (state.modifyCard card change) := table state _ _ _ _

/-- A new number of life points is a change of the table. -/
theorem setLife (state : GameState) (player : Seat) (life : UInt32) :
    OnTable may state (Change.setLife state player life) := table state _ _ _ _

/-- A relocation is a change of the table. -/
theorem relocate {state next : GameState} {card : InstanceId} {zone origin : Zone} {place : Place}
    {position : Position}
    (moved : state.relocate card zone place position = .ok (origin, next)) :
    OnTable may state next := by
  obtain ⟨_, _, _, _, _, _, rfl⟩ := relocate_cases moved
  exact table state _ _ _ _

/-- A change of a card of the field is a change of the table. -/
theorem onField {state next : GameState} {card : InstanceId} {change : CardInstance → CardInstance}
    (made : Change.onField state card change = .ok next) : OnTable may state next := by
  obtain ⟨_, _, _, rfl⟩ := onField_eq_ok.mp made
  exact modifyCard state card change

/-- The mark of a set card is a change of the table. -/
theorem markSet (state : GameState) (card : InstanceId) (owner : Seat) :
    OnTable may state (Change.markSet state card owner) :=
  (modifyCard state card _).trans (record _ rfl rfl)

/-- A destroyed card is a change of the table. -/
theorem destroyMarked (state : GameState) (entry : InstanceId × Destruction) :
    OnTable may state (state.destroyMarked entry) := by
  obtain ⟨card, cause⟩ := entry
  rw [GameState.destroyMarked]
  split
  · next moved =>
    exact ((OnTable.relocate moved).trans (record _ rfl rfl)).trans (record _ rfl rfl)
  · exact modifyCard state card _

/-- A refresh grants nothing; it only drops what is over. -/
theorem refresh (state : GameState) (catalog : Catalog) :
    OnTable may state (state.refresh catalog) :=
  ⟨rfl, rfl, rfl, rfl, rfl, rfl, rfl, rfl, rfl,
    ⟨[], by simp [GameState.refresh, withResults], by simp [GameState.refresh, withResults], by simp⟩,
    fun _ member => .inl (List.mem_filter.mp member).1⟩

end OnTable

/-- This is a state in which the attack that waited was negated. -/
def withoutAttack (state : GameState) (attack : PendingAttack) : GameState :=
  { state with pendingAttack := none }.record (.attackNegated attack.attacker)

end GameState

/-- A change stays on the table, or it negates a link, or it negates the attack. -/
theorem Change.apply_cases {may : Modifier → Prop} {change : Change} {state next : GameState}
    (granted : ∀ modifier ∈ change.modifier?, may modifier)
    (made : change.apply state = .ok next) : OnTable may state next ∨
      (∃ number chain, state.chain.negate? number = some chain ∧
        next = { state with chain := chain }) ∨
      ∃ attack, state.pendingAttack = some attack ∧ next = state.withoutAttack attack := by
  cases change with
  | moveCard card destination place =>
    simp only [apply, bind_eq_ok, pure_eq_ok] at made
    obtain ⟨⟨_, middle⟩, moved, rfl⟩ := made
    exact .inl ((OnTable.relocate moved).trans (.record middle rfl rfl))
  | draw player card =>
    simp only [apply, bind_eq_ok, pure_eq_ok, guard_eq_ok] at made
    obtain ⟨_, ⟨_, middle⟩, moved, rfl⟩ := made
    exact .inl ((OnTable.relocate moved).trans (.record middle rfl rfl))
  | shuffleDeck player =>
    obtain rfl := Except.ok.inj made
    exact .inl ((OnTable.table state _ _ _ _).trans (.record _ rfl rfl))
  | summon card position kind =>
    simp only [apply, bind_eq_ok, pure_eq_ok, guard_eq_ok] at made
    obtain ⟨_, _, _, ⟨_, middle⟩, moved, rfl⟩ := made
    exact .inl (((OnTable.relocate moved).trans (.modifyCard middle card _)).trans (.record _ rfl rfl))
  | setMonster card =>
    simp only [apply, bind_eq_ok, pure_eq_ok] at made
    obtain ⟨_, _, ⟨_, middle⟩, moved, rfl⟩ := made
    exact .inl ((OnTable.relocate moved).trans (.markSet middle card _))
  | placeSpell card faceUp =>
    simp only [apply, bind_eq_ok, pure_eq_ok] at made
    obtain ⟨_, _, ⟨_, middle⟩, moved, rfl⟩ := made
    refine .inl ((OnTable.relocate moved).trans ?_)
    split
    · exact .refl middle
    · exact .markSet middle card _
  | changePosition card position =>
    simp only [apply, bind_eq_ok, pure_eq_ok] at made
    obtain ⟨middle, turned, rfl⟩ := made
    exact .inl ((OnTable.onField turned).trans (.record middle rfl rfl))
  | damage player amount byBattle =>
    obtain rfl := Except.ok.inj made
    refine .inl ?_
    split
    · exact (OnTable.setLife state player _).trans (.record _ rfl rfl)
    · exact .setLife state player _
  | gainLife player amount =>
    obtain rfl := Except.ok.inj made
    exact .inl ((OnTable.setLife state player _).trans (.record _ rfl rfl))
  | payLife player amount =>
    obtain rfl := Except.ok.inj made
    exact .inl ((OnTable.setLife state player _).trans (.record _ rfl rfl))
  | grant modifier =>
    obtain rfl := Except.ok.inj made
    refine .inl ⟨rfl, rfl, rfl, rfl, rfl, rfl, rfl, rfl, rfl, ⟨[], by simp, by simp, by simp⟩, ?_⟩
    intro other member
    rcases List.mem_append.mp member with earlier | new
    · exact .inl earlier
    · obtain rfl := List.mem_singleton.mp new
      exact .inr (granted other rfl)
  | markDestroyed card cause => exact .inl (.onField made)
  | negateLink number =>
    simp only [apply] at made
    split at made
    · next chain negated =>
      obtain rfl := Except.ok.inj made
      exact .inr (.inl ⟨number, chain, negated, rfl⟩)
    · simp at made
  | negateAttack =>
    simp only [apply] at made
    split at made
    · next attack waiting =>
      obtain rfl := Except.ok.inj made
      exact .inr (.inr ⟨attack, waiting, rfl⟩)
    · simp at made

/-- Only a grant has a modifier. -/
theorem Change.eq_grant {change : Change} {modifier : Modifier}
    (given : modifier ∈ change.modifier?) : change = .grant modifier := by
  cases change <;> simp_all [modifier?]

namespace GameState

variable {may : GameState → Change → Prop} {grants : Modifier → Prop} {before middle after : GameState}

/-- A deed stays on the table, or it negates a link, or it negates the attack. -/
theorem Deed.cases (deed : Deed may before after) : OnTable (Grants may) before after ∨
    (∃ number chain, before.chain.negate? number = some chain ∧
      after = { before with chain := chain }) ∨
    ∃ attack, before.pendingAttack = some attack ∧ after = before.withoutAttack attack := by
  cases deed with
  | change change allowed made =>
    exact Change.apply_cases (fun _ given => ⟨before, Change.eq_grant given ▸ allowed⟩) made
  | refresh catalog => exact .inl (.refresh before catalog)
  | destroy entry => exact .inl (.destroyMarked before entry)

/-- This tells that no use is counted and that only the table is told of. -/
structure Quiet (grants : Modifier → Prop) (before after : GameState) : Prop where
  activations : after.activations = before.activations
  log : ∃ told, after.log = before.log ++ told ∧ ∀ entry ∈ told, entry.event.isTabled = true
  granted : ∀ modifier ∈ after.granted, modifier ∈ before.granted ∨ grants modifier

namespace Quiet

theorem refl (state : GameState) : Quiet grants state state :=
  ⟨rfl, ⟨[], by simp, by simp⟩, fun _ member => .inl member⟩

theorem trans (first : Quiet grants before middle) (second : Quiet grants middle after) :
    Quiet grants before after where
  activations := second.activations.trans first.activations
  log := by
    obtain ⟨early, same, table⟩ := first.log
    obtain ⟨late, sameToo, tableToo⟩ := second.log
    refine ⟨early ++ late, by rw [sameToo, same, List.append_assoc], ?_⟩
    intro entry member
    rcases List.mem_append.mp member with inEarly | inLate
    · exact table entry inEarly
    · exact tableToo entry inLate
  granted := by
    intro modifier member
    rcases second.granted modifier member with earlier | allowed
    · exact first.granted modifier earlier
    · exact .inr allowed

end Quiet

/-- What happens on the table is quiet. -/
theorem OnTable.quiet (table : OnTable grants before after) : Quiet grants before after := by
  obtain ⟨told, same, _, about⟩ := table.told
  exact ⟨table.activations, ⟨told, same, fun entry member => (about entry member).1⟩, table.granted⟩

/-- Nothing but the table is told of by deeds. -/
theorem Deeds.quiet (deeds : Deeds may before after) : Quiet (Grants may) before after := by
  induction deeds with
  | refl => exact .refl before
  | tail _ deed ih =>
    refine ih.trans ?_
    rcases deed.cases with table | ⟨number, chain, _, rfl⟩ | ⟨attack, _, rfl⟩
    · exact table.quiet
    · exact ⟨rfl, ⟨[], by simp, by simp⟩, fun _ member => .inl member⟩
    · exact ⟨rfl, ⟨[_], rfl, by simp [GameEvent.isTabled]⟩, fun _ member => .inl member⟩

end GameState

end CardDuel
