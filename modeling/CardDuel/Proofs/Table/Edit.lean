/-
This file says what can happen to the table in one go, and shows that effects, sweeps and battles are
nothing but such edits one after the other.
-/

import CardDuel.Proofs.Table.Deed

namespace CardDuel

namespace GameState

/-- This is one edit: a change, a recomputation, a destruction or a note in the log. -/
inductive Edit : GameState → GameState → Prop where
  | change {before after : GameState} (change : Change) (made : change.apply before = .ok after) :
      Edit before after
  | refresh (state : GameState) (catalog : Catalog) : Edit state (state.refresh catalog)
  | destroy (state : GameState) (entry : InstanceId × Destruction) :
      Edit state (destroyMarked state entry)
  | note (state : GameState) (event : GameEvent) : Edit state (state.record event)

def Edits : GameState → GameState → Prop := Relation.ReflTransGen Edit

namespace Edits

variable {before middle after : GameState}

theorem refl (state : GameState) : Edits state state := Relation.ReflTransGen.refl

theorem trans (first : Edits before middle) (second : Edits middle after) : Edits before after :=
  Relation.ReflTransGen.trans first second

/-- One edit is a run of edits. -/
theorem of_edit (edit : Edit before after) : Edits before after :=
  Relation.ReflTransGen.single edit

/-- A change that succeeds is an edit. -/
theorem change {change : Change} (made : change.apply before = .ok after) : Edits before after :=
  of_edit (.change change made)

theorem note (state : GameState) (event : GameEvent) : Edits state (state.record event) :=
  of_edit (.note state event)

/-- A fold of steps that are edits is made of edits. -/
theorem foldl {α : Type} {step : GameState → α → GameState}
    (each : ∀ state item, Edits state (step state item)) (items : List α) (state : GameState) :
    Edits state (items.foldl step state) := by
  refine List.foldlRecOn (motive := Edits state) items step (refl state) ?_
  intro before edits item _
  exact edits.trans (each before item)

end Edits

/-- Deeds are edits, whatever may be done. -/
theorem Deeds.edits {may : GameState → Change → Prop} {before after : GameState}
    (deeds : Deeds may before after) : Edits before after := by
  induction deeds with
  | refl => exact .refl before
  | tail _ deed ih =>
    refine ih.trans (.of_edit ?_)
    cases deed with
    | change change _ made => exact .change change made
    | refresh catalog => exact .refresh _ catalog
    | destroy entry => exact .destroy _ entry

/-- An edit is a deed that may be anything, or it is a note. -/
theorem Edit.deed_or_note {before after : GameState} (edit : Edit before after) :
    Deed (fun _ _ => True) before after ∨ ∃ event, after = before.record event := by
  cases edit with
  | change change made => exact .inl (.change change trivial made)
  | refresh catalog => exact .inl (.refresh before catalog)
  | destroy entry => exact .inl (.destroy before entry)
  | note event => exact .inr ⟨event, rfl⟩

/-- Deeds that may be anything are edits. -/
theorem Edits.of_deeds {before after : GameState} (deeds : Deeds (fun _ _ => True) before after) :
    Edits before after := deeds.edits

end GameState

open GameState

/-- The possible changes of a list are edits. -/
theorem Change.applyPossible_edits (changes : List Change) (state : GameState) :
    Edits state (applyPossible changes state) :=
  .of_deeds (applyPossible_deeds (fun _ _ _ => trivial) state)

namespace GameState

variable (state : GameState) (catalog : Catalog)

/-- A sweep of the marked cards is made of edits. -/
theorem destroyAllMarked_edits : Edits state (state.destroyAllMarked catalog) :=
  .of_deeds (state.destroyAllMarked_deeds catalog)

/-- The effect of a link is carried out by edits. -/
theorem carryOut_edits (link : ChainLink) : Edits state (state.carryOut catalog link).1 := by
  rw [carryOut]
  split
  · exact .refl state
  · next effect _ =>
    split
    · exact .refl state
    · split
      · next run => exact .of_deeds (EffectTree.run_deeds effect.root (fun _ _ _ _ _ => trivial) run)
      · exact .note state _

/-- A resolved card is sent away by edits. -/
theorem finishActivation_edits (link : ChainLink) :
    Edits state (state.finishActivation catalog link) :=
  .of_deeds (state.finishActivation_deeds catalog link fun _ => trivial)

/-- This is a resolved link just before the look for a loser. -/
def resolved (link : ChainLink) : GameState :=
  ((((state.carryOut catalog link).1.record (.chainLinkResolved link.number link.source
    (state.carryOut catalog link).2)).finishActivation catalog link).destroyAllMarked catalog)

theorem resolveLink_eq (link : ChainLink) :
    (state.resolveLink catalog link).1 = (state.resolved catalog link).checkLoss := rfl

/-- A link is resolved by edits. -/
theorem resolved_edits (link : ChainLink) : Edits state (state.resolved catalog link) :=
  (((state.carryOut_edits catalog link).trans (.note _ _)).trans
    (finishActivation_edits _ catalog link)).trans (destroyAllMarked_edits _ catalog)

/-- This is the state of a new turn just before the look for a loser. -/
def drawn (rules : Rules) : GameState :=
  let begun := (state.passTurn state.nextPlayer).enterPhase .draw
  if begun.drawsThisTurn rules.config then begun.drawForTurn begun.turnPlayer else begun

theorem startTurn_eq (rules : Rules) :
    state.startTurn rules =
      if ((state.drawn rules).sweep rules.catalog).outcome.isSome then
        (state.drawn rules).sweep rules.catalog
      else (((state.drawn rules).sweep rules.catalog).enterPhase .standby).enterPhase .main1 := rfl

/-- This is the state at the end of a turn just before the sweep. -/
def wound (rules : Rules) : GameState :=
  ((state.enterPhase .ending).discardToLimit state.turnPlayer rules.config.handLimit).expire
    .endOfTurn

/-- A turn ends in a phase that can be played, by sweep and handover, unless the sweep ends the duel. -/
theorem endTurn_eq_ok (rules : Rules) {next : GameState} :
    state.endTurn rules = .ok next ↔ state.phase.isPlayable = true ∧
      next = if ((state.wound rules).sweep rules.catalog).outcome.isSome then
        (state.wound rules).sweep rules.catalog
      else ((state.wound rules).sweep rules.catalog).startTurn rules := by
  have reads : state.endTurn rules =
      if !state.phase.isPlayable then .error (.wrongPhase .endTurn state.phase)
      else .ok (if ((state.wound rules).sweep rules.catalog).outcome.isSome then
        (state.wound rules).sweep rules.catalog
        else ((state.wound rules).sweep rules.catalog).startTurn rules) := rfl
  rw [reads, ite_error_eq_ok]
  constructor
  · rintro ⟨playable, same⟩
    exact ⟨by simpa using playable, (Except.ok.inj same).symm⟩
  · rintro ⟨playable, rfl⟩
    exact ⟨by simpa using playable, rfl⟩

/-- These are the state after all links of a chain and the number of those that were resolved. -/
def drained : GameState × Nat :=
  resolveLinks catalog state.chain.beginResolving.links.length
    { state with chain := state.chain.beginResolving } 0

/-- A resolved chain is drained, and then it is idle and its window closed. -/
theorem resolveChain_eq :
    state.resolveChain catalog =
      ({ (state.drained catalog).1 with
        chain := .idle (state.drained catalog).1.turnPlayer }.record
          (.chainResolved (state.drained catalog).2)).closeWindow := rfl

/-- The target of an attack is turned by edits. -/
theorem revealTarget_edits (target : Option InstanceId) :
    Edits state (state.revealTarget catalog target) :=
  .of_deeds (state.revealTarget_deeds catalog target fun _ _ => trivial)

/-- A battle is fought and swept, unless its attacker is not there any more. -/
theorem fight_cases (attack : PendingAttack) :
    state.fight catalog attack = state.revealTarget catalog attack.target ∨
      ∃ fought, Edits state fought ∧ state.fight catalog attack = fought.sweep catalog := by
  have revealed := state.revealTarget_edits catalog attack.target
  rw [fight]
  split
  · exact .inl rfl
  · exact .inr ⟨_, (revealed.trans (Change.applyPossible_edits _ _)).trans (.note _ _), rfl⟩

/-- The discards at the end of a turn are edits. -/
theorem discardToLimit_edits (player : Seat) (limit : Nat) :
    Edits state (state.discardToLimit player limit) := by
  refine Edits.foldl ?_ _ state
  intro current card
  rw [discardExcess]
  split
  · next made => exact (Edits.change made).trans (.note _ _)
  · exact .refl current

variable {state} {next : GameState}

theorem applyChange_edits {change : Change} (made : state.applyChange change = .ok next) :
    Edits state next := .of_deeds (applyChange_deeds trivial made)

theorem applyChanges_edits {changes : List Change} (made : state.applyChanges changes = .ok next) :
    Edits state next := .of_deeds (applyChanges_deeds (fun _ _ _ => trivial) made)

/-- The cost of a trigger is paid by edits. -/
theorem payTriggerCost_edits {cost : Option Cost} {trigger : TriggeredEffect}
    (paid : state.payTriggerCost cost trigger = .ok next) : Edits state next :=
  .of_deeds (payTriggerCost_deeds trivial (fun _ _ => trivial) paid)

end GameState

end CardDuel
