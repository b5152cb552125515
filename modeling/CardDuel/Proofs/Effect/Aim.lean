/-
This file shows that effects which fit their links are refused by the table only: their selectors find
players or cards that exist, whatever the effect has done so far.
-/

import CardDuel.Proofs.Effect.Refusal

namespace CardDuel

namespace GameState

variable {state before after : GameState} {link : ChainLink}

/-! Selectors -/

/-- This tells that the links and the attack of a duel are about cards that exist. -/
structure Grounded (state : GameState) : Prop where
  anchored : state.Anchored
  linked : ∀ link ∈ state.chain.links, state.Knows link.source
  attacker : ∀ attack ∈ state.pendingAttack, state.Knows attack.attacker
  attacked : ∀ attack ∈ state.pendingAttack, ∀ target ∈ attack.target, state.Knows target

/-- This tells that the source of a link exists, and as many targets as there are to be. -/
structure Aims (state : GameState) (targets : Nat) (link : ChainLink) : Prop where
  source : state.Knows link.source
  count : link.targets.length = targets
  known : ∀ target ∈ link.targets, state.Knows target.card

/-- Source and targets of a link exist as long as cards are only shifted. -/
theorem Aims.shifts {targets : Nat} (aims : before.Aims targets link)
    (shifts : Shifts before after) : after.Aims targets link where
  source := shifts.knows_iff.mpr aims.source
  count := aims.count
  known := fun target member => shifts.knows_iff.mpr (aims.known target member)

/-- Deeds keep links and attack about cards that exist. -/
theorem Grounded.deeds {may : GameState → Change → Prop} (grounded : before.Grounded)
    (deeds : Deeds may before after) : after.Grounded := by
  have known {card : InstanceId} : after.Knows card ↔ before.Knows card := deeds.shifts.knows_iff
  have attacks : ∀ attack ∈ after.pendingAttack, attack ∈ before.pendingAttack := by
    rcases deeds.frame.attack with same | free
    · simp [same]
    · simp [free]
  refine ⟨deeds.shifts.anchored grounded.anchored, ?_,
    fun attack member => known.mpr (grounded.attacker attack (attacks attack member)),
    fun attack member target aimed => known.mpr (grounded.attacked attack (attacks attack member) target aimed)⟩
  intro link member
  obtain ⟨old, there, same⟩ : ∃ old ∈ before.chain.links, old.bare = link.bare := by
    rw [← List.mem_map, ← deeds.frame.links]
    exact List.mem_map_of_mem member
  have source : old.source = link.source := (congrArg ChainLink.source same :)
  exact known.mpr (source ▸ grounded.linked old there)

/-- A known card is never missing, though it may be another object by now. -/
theorem Knows.sameObject {card : InstanceId} (known : state.Knows card) (moves : UInt32) :
    Regular (state.sameObject card moves) := by
  simp [GameState.sameObject, known.require, Violation.isStructural]

/-- The same object is the card itself. -/
theorem sameObject_eq_ok {card same : InstanceId} {moves : UInt32}
    (given : state.sameObject card moves = .ok same) : same = card := by
  simp only [sameObject, bind_eq_ok] at given
  obtain ⟨found, _, rest⟩ := given
  split at rest
  · exact (pure_eq_ok.mp rest).symm
  · exact (throw_eq_ok.mp rest).elim

/-- This tells that a selector finds what suits it, or that the table refuses it. -/
def Finds (state : GameState) (selectsPlayers : Bool) (attempt : Except Violation Resolved) : Prop :=
  Regular attempt ∧ ∀ resolved, attempt = .ok resolved → resolved.Suits state selectsPlayers

namespace Finds

/-- What the table refuses is a find of any sort. -/
theorem error {selectsPlayers : Bool} {violation : Violation}
    (table : violation.isStructural = false) : state.Finds selectsPlayers (.error violation) :=
  ⟨by simpa using table, by simp⟩

/-- Players are a find for an instruction on players. -/
theorem players (seats : List Seat) : state.Finds true (.ok (.players seats)) := by
  refine ⟨by simp, ?_⟩
  rintro _ ⟨⟩
  exact ⟨fun _ => ⟨seats, rfl⟩, by simp⟩

/-- Known cards are a find for an instruction on cards. -/
theorem cards {resolved : Resolved} {cards : List InstanceId} (acted : resolved.cards? = .ok cards)
    (known : ∀ card ∈ cards, state.Knows card) : state.Finds false (.ok resolved) := by
  refine ⟨by simp, ?_⟩
  rintro _ ⟨⟩
  exact ⟨by simp, fun _ => ⟨cards, acted, known⟩⟩

/-- The same object of a known card is a find. -/
theorem object {card : InstanceId} (known : state.Knows card) (moves : UInt32) :
    state.Finds false (do return .cards [← state.sameObject card moves]) := by
  refine ⟨by simp [known.sameObject], ?_⟩
  intro resolved given
  simp only [bind_eq_ok, pure_eq_ok] at given
  obtain ⟨same, found, rfl⟩ := given
  rw [sameObject_eq_ok found]
  exact ⟨by simp, fun _ => ⟨[card], rfl, by simpa using known⟩⟩

end Finds

/-- A selector of a link finds what suits it, or the table refuses it. -/
theorem resolve_finds {targets : Nat} {selector : Selector} (grounded : state.Grounded)
    (aims : state.Aims targets link) (bound : ∀ index, selector = .chosen index → index < targets) :
    state.Finds selector.selectsPlayers (state.resolve link selector) := by
  cases selector with
  | this => exact .object aims.source _
  | controller => exact .players _
  | opponent => exact .players _
  | bothPlayers => exact .players _
  | chosen index =>
    have inside : index < link.targets.length := aims.count ▸ bound index rfl
    simp only [resolve, List.getElem?_eq_getElem inside]
    exact .object (aims.known _ (List.getElem_mem inside)) _
  | previousLink =>
    rw [resolve]
    cases found : state.chain.link? (link.number - 1) with
    | none => exact .error rfl
    | some below =>
      have there : below ∈ state.chain.links := by
        rw [Chain.link?] at found
        split at found
        · cases found
        · exact List.mem_of_getElem? found
      exact .cards rfl (by simpa using grounded.linked below there)
  | attacker =>
    rw [resolve, requireAttack]
    cases attacked : state.pendingAttack with
    | none => exact .error rfl
    | some attack => exact .object (grounded.attacker attack attacked) _
  | attackTarget =>
    show state.Finds false (state.resolve link .attackTarget)
    rw [resolve, requireAttack]
    cases attacked : state.pendingAttack with
    | none => exact .error rfl
    | some attack =>
      cases aimed : attack.target with
      | none =>
        have missing : state.Finds false (throw .noAttack) := .error rfl
        simpa [aimed, bind, Except.bind] using missing
      | some target =>
        have found := Finds.object (grounded.attacked attack attacked target aimed) attack.targetMoves
        simpa [aimed, bind, Except.bind] using found
  | all filter =>
    refine .cards rfl ?_
    intro card member
    obtain ⟨found, there, rfl⟩ := List.mem_map.mp member
    exact grounded.anchored.knows_id (List.mem_filter.mp there).1

end GameState

namespace EffectTree

open GameState

variable {catalog : Catalog} {link : ChainLink} {targets : Nat} {state : GameState}

/-- An instruction that fits its selector is refused by the table only. -/
theorem runInstruction_regular {instruction : Instruction} {selector : Selector}
    (fits : instruction.Fits targets selector) (grounded : state.Grounded)
    (aims : state.Aims targets link) :
    Regular (runInstruction catalog link instruction selector state) := by
  obtain ⟨found, suits⟩ := resolve_finds grounded aims fits.bound
  simp only [runInstruction, regular_bind, regular_pure, implies_true, and_true]
  refine ⟨found, ?_⟩
  intro resolved given
  have suited := suits resolved given
  refine ⟨regular_plan fits.accepted suited, ?_⟩
  intro changes planned
  apply Change.applyAll_regular
  intro change member
  refine (plan_within planned (fun seat zone => grounded.anchored.listed seat zone) ?_ change
    member).subject
  intro cards acted
  cases kind : selector.selectsPlayers with
  | true =>
    obtain ⟨seats, rfl⟩ := suited.players kind
    cases acted
  | false =>
    obtain ⟨same, actedToo, known⟩ := suited.cards kind
    obtain rfl := Except.ok.inj (acted.symm.trans actedToo)
    exact known

mutual

/-- A tree whose instructions all fit their selectors is refused by the table only. -/
theorem run_regular : (tree : EffectTree) → tree.Each (Instruction.Fits targets) →
    {state : GameState} → state.Grounded → state.Aims targets link →
      Regular (run catalog link tree state)
  | .act instruction selector, fits, _, grounded, aims => by
    rw [run]
    exact runInstruction_regular ((each_act _ _).mp fits) grounded aims
  | .sequence children, fits, _, grounded, aims => by
    rw [Each] at fits
    rw [run]
    exact runAll_regular children fits grounded aims
  | .branch condition yes no, fits, _, grounded, aims => by
    rw [Each] at fits
    rw [run, regular_ite]
    exact ⟨fun _ => run_regular yes fits.1 grounded aims,
      fun _ => runOption_regular no fits.2 grounded aims⟩

/-- Trees one after the other are not refused for their own fault, if their instructions fit. -/
theorem runAll_regular : (children : List EffectTree) →
    EachOfAll (Instruction.Fits targets) children →
    {state : GameState} → state.Grounded → state.Aims targets link →
      Regular (runAll catalog link children state)
  | [], _, _, _, _ => by simp [runAll]
  | child :: rest, fits, state, grounded, aims => by
    rw [EachOfAll] at fits
    rw [runAll, regular_bind]
    refine ⟨run_regular child fits.1 grounded aims, ?_⟩
    intro next made
    have deeds : Deeds (fun _ _ => True) state next :=
      run_deeds child (fun _ _ _ _ _ => trivial) made
    exact runAll_regular rest fits.2 (grounded.deeds deeds) (aims.shifts deeds.shifts)

theorem runOption_regular : (child : Option EffectTree) →
    EachOfOption (Instruction.Fits targets) child →
    {state : GameState} → state.Grounded → state.Aims targets link →
      Regular (runOption catalog link child state)
  | none, _, _, _, _ => by simp [runOption]
  | some child, fits, _, grounded, aims => by
    rw [EachOfOption] at fits
    rw [runOption]
    exact run_regular child fits grounded aims

end

end EffectTree

end CardDuel
