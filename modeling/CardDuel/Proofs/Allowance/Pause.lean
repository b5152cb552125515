/-
This file shows that a lull is all that there is between the actions of a turn: sweeps, chains, windows,
battles and passes do nothing that is allowed only once in a turn.
-/

import CardDuel.Proofs.Allowance.Lull
import CardDuel.Proofs.Flow.Shape
import CardDuel.Proofs.Flow.Trigger

namespace CardDuel

namespace GameState

namespace Lull

variable {catalog : Catalog} {state next : GameState} {player : Seat} {rules : Rules}

/-- Changes that are all gentle in every state make a lull. -/
theorem applyPossible {changes : List Change}
    (gentle : ∀ state, ∀ change ∈ changes, change.Gentle state) (state : GameState) :
    Lull catalog state (Change.applyPossible changes state) :=
  .of_deeds (Change.applyPossible_deeds gentle state)

/-! Sweeps -/

theorem endDuel (state : GameState) (result : GameResult) : Lull catalog state (state.endDuel result) := by
  rw [GameState.endDuel]
  split
  · exact .refl state
  · have ended : Lull catalog state { state with outcome := some result } := .rearrange rfl rfl rfl rfl
    exact ended.trans (.note _ rfl rfl)

theorem checkLoss (state : GameState) : Lull catalog state state.checkLoss := by
  rw [GameState.checkLoss]
  split
  · exact .endDuel state _
  · exact .refl state

/-- A sweep is a lull. -/
theorem sweep (state : GameState) : Lull catalog state (state.sweep catalog) :=
  (Lull.of_deeds (state.destroyAllMarked_deeds catalog)).trans (.checkLoss _)

theorem enterPhase (state : GameState) (phase : Phase) : Lull catalog state (state.enterPhase phase) := by
  have entered : Lull catalog state { state with phase := phase } := .rearrange rfl rfl rfl rfl
  exact entered.trans (.note _ rfl rfl)

/-! Chains -/

/-- The effect of a link is a lull, however it turns out. -/
theorem carryOut (state : GameState) (link : ChainLink) :
    Lull catalog state (state.carryOut catalog link).1 := by
  rw [GameState.carryOut]
  split
  · exact .refl state
  · next effect known =>
    split
    · exact .refl state
    · split
      · next run => exact .of_deeds (EffectTree.run_gentle effect.root run)
      · exact .note state rfl rfl

/-- A link is resolved in a lull. -/
theorem resolveLink (state : GameState) (link : ChainLink) :
    Lull catalog state (state.resolveLink catalog link).1 := by
  have told : Lull catalog state ((state.carryOut catalog link).1.record
      (.chainLinkResolved link.number link.source (state.carryOut catalog link).2)) :=
    (Lull.carryOut state link).trans (.note _ rfl rfl)
  exact (told.trans (.of_deeds (finishActivation_deeds _ catalog link fun _ => trivial))).trans (.sweep _)

theorem resolveLinks (links : Nat) (state : GameState) (resolved : Nat) :
    Lull catalog state (GameState.resolveLinks catalog links state resolved).1 := by
  refine resolveLinks_keeps (Lull catalog state) ?_ links resolved (.refl state)
  intro before link chain lull _ _
  exact (lull.trans (.setChain before chain)).trans (.resolveLink _ link)

theorem closeWindow (state : GameState) : Lull catalog state state.closeWindow := by
  rw [GameState.closeWindow]
  split
  · exact (Lull.setWindow state none).trans (.note _ rfl rfl)
  · exact .refl state

/-- A chain is resolved in a lull. -/
theorem resolveChain (state : GameState) : Lull catalog state (state.resolveChain catalog) := by
  have drained : Lull catalog state (state.drained catalog).1 :=
    (Lull.setChain state state.chain.beginResolving).trans (.resolveLinks _ _ 0)
  rw [resolveChain_eq]
  exact ((drained.trans (.setChain _ _)).trans (.note _ rfl rfl)).trans (.closeWindow _)

/-! Windows -/

theorem announceClosing (state : GameState) : Lull catalog state state.announceClosing := by
  rw [GameState.announceClosing]
  split
  · exact .note state rfl rfl
  · exact .refl state

theorem announceWindow (state : GameState) : Lull catalog state state.announceWindow := by
  rw [GameState.announceWindow]
  split
  · exact .note state rfl rfl
  · exact .refl state

/-- A trigger that was collected is no activation of a card. -/
theorem not_isActivation {events : List GameEvent} {trigger : TriggeredEffect}
    (numbered : state.Numbered) (member : trigger ∈ state.collectTriggers catalog events) :
    ¬state.IsActivation catalog trigger.source trigger.effect := by
  obtain ⟨card, effect, spec, follows⟩ := collectTriggers_follows member
  rintro ⟨found, other, known, given, kind⟩
  rw [follows.source, numbered.card?_id follows.there] at known
  obtain rfl := Option.some.inj known
  obtain rfl := Option.some.inj (follows.known.symm.trans given)
  simp [follows.kind] at kind

theorem linked (state : GameState) (link : ChainLink) : Lull catalog state (state.linked link) :=
  (Lull.setChain state _).trans (.note _ rfl rfl)

/-- A trigger that is no activation of a card goes on the chain in a lull. -/
theorem chainTrigger {trigger : TriggeredEffect}
    (idle : state.Numbered → ¬state.IsActivation catalog trigger.source trigger.effect) :
    Lull catalog state (GameState.chainTrigger catalog state trigger) := by
  rcases chainTrigger_cases catalog state trigger with same | ⟨_, paid, _, pays, same⟩
  · rw [same]
    exact .refl state
  · have payed : Lull catalog state paid :=
      .of_deeds (payTriggerCost_deeds trivial (fun _ _ => trivial) pays)
    have told : Lull catalog paid
        (paid.record (.effectActivated trigger.source trigger.effect trigger.controller)) := by
      refine .record paid rfl ?_
      intro config agrees card index given
      obtain ⟨rfl, rfl⟩ := Prod.mk.inj (Option.some.inj given)
      rw [payed.shifts.isActivation_iff]
      exact idle (payed.shifts.numbered_iff.mp agrees.numbered)
    have counted : Lull catalog
        (paid.record (.effectActivated trigger.source trigger.effect trigger.controller))
        (paid.countedFor trigger) := .rearrange rfl rfl rfl rfl
    rw [same]
    exact ((payed.trans told).trans counted).trans (.linked _ _)

/-- Triggers are put on the chain in a lull, unless they are activations of cards. -/
theorem chainTriggers {triggers : List TriggeredEffect} (idle : ∀ trigger ∈ triggers,
      state.Numbered → ¬state.IsActivation catalog trigger.source trigger.effect) :
    Lull catalog state (triggers.foldl (GameState.chainTrigger catalog) state) := by
  induction triggers generalizing state with
  | nil => exact .refl state
  | cons trigger rest ih =>
    obtain ⟨own, others⟩ := List.forall_mem_cons.mp idle
    have first := Lull.chainTrigger own
    refine first.trans (ih ?_)
    intro other member numbered
    rw [first.shifts.isActivation_iff]
    exact others other member (first.shifts.numbered_iff.mp numbered)

/-- A window is opened in a lull. -/
theorem openWindow (state : GameState) : Lull catalog state (state.openWindow catalog) := by
  have taken : Lull catalog state { state with pendingEvents := [] } := .rearrange rfl rfl rfl rfl
  have chained : Lull catalog { state with pendingEvents := [] } (state.triggered catalog) :=
    .chainTriggers fun trigger member numbered =>
      not_isActivation numbered (List.mem_filter.mp member).1
  obtain ⟨window, _, same⟩ := state.openWindow_eq catalog
  rw [same]
  exact ((taken.trans chained).trans (.setWindow _ window)).trans (.announceWindow _)

/-! Battles -/

theorem fight (state : GameState) (attack : PendingAttack) :
    Lull catalog state (state.fight catalog attack) := by
  have revealed : Lull catalog state (state.revealTarget catalog attack.target) :=
    .of_deeds (state.revealTarget_deeds catalog attack.target fun _ _ => trivial)
  rw [GameState.fight]
  split
  · exact revealed
  · refine ((revealed.trans (.applyPossible ?_ _)).trans (.note _ rfl rfl)).trans (.sweep _)
    intro current change member
    rcases List.mem_append.mp member with marked | hurt
    · obtain ⟨_, _, rfl⟩ := List.mem_map.mp marked
      trivial
    · obtain ⟨_, _, rfl⟩ := List.mem_map.mp hurt
      trivial

/-- An attack is resolved in a lull. -/
theorem resolveAttack (state : GameState) : Lull catalog state (state.resolveAttack catalog) := by
  rw [GameState.resolveAttack]
  split
  · exact .refl state
  · next attack _ =>
    have freed : Lull catalog state { state with pendingAttack := none } := .setAttack state none
    dsimp only
    split
    · exact freed.trans (.fight _ attack)
    · exact freed.trans (.note _ rfl rfl)

/-! Settling -/

/-- Settling is a lull. -/
theorem settle (state : GameState) : Lull catalog state (state.settle catalog) := by
  refine settle_keeps (Lull catalog state) (Lull catalog state) ?_ (fun _ lull => lull) ?_ (.refl state)
  · intro last lull _
    exact lull.trans (.rearrange rfl rfl rfl rfl)
  · intro before after lull _ taken
    obtain ⟨_, ⟨_, rfl⟩ | ⟨_, _, rfl⟩⟩ := settleStep?_eq_some taken
    · exact lull.trans (.openWindow before)
    · exact lull.trans (.resolveAttack before)

/-- Whatever follows from an action by itself is a lull. -/
theorem handedBack (acted : GameState) : Lull catalog acted (acted.handedBack catalog) := by
  have settled : Lull catalog acted ((acted.sweep catalog).settle catalog) :=
    (Lull.sweep acted).trans (.settle _)
  have counted (state : GameState) : Lull catalog state { state with version := state.version + 1 } :=
    .rearrange rfl rfl rfl rfl
  exact settled.trans (counted _)

/-! Passes -/

theorem passChain (passed : state.passChain rules player = .ok next) :
    Lull rules.catalog state next := by
  obtain ⟨_, chain, _, rfl⟩ := passChain_eq_ok.mp passed
  have told : Lull rules.catalog state ({ state with chain := chain }.record (.priorityPassed player)) :=
    (Lull.setChain state chain).trans (.note _ rfl rfl)
  split
  · exact told.trans (.resolveChain _)
  · exact told

theorem passWindow {window : ResponseWindow}
    (passed : state.passWindow catalog player window = .ok next) : Lull catalog state next := by
  obtain ⟨_, remaining, _, result⟩ := passWindow_eq_ok passed
  have told : Lull catalog state
      ({ state with window := some remaining }.record (.priorityPassed player)) :=
    (Lull.setWindow state (some remaining)).trans (.note _ rfl rfl)
  rcases result with rfl | rfl
  · exact told.trans (.closeWindow _)
  · obtain ⟨left, _, same⟩ := advanceWindow_eq catalog maxPasses
      ({ state with window := some remaining }.record (.priorityPassed player))
    rw [same]
    exact (told.trans (.setWindow _ left)).trans (.announceClosing _)

/-- A pass is a lull, whatever it answers. -/
theorem passPriority (passed : state.passPriority rules player = .ok next) :
    Lull rules.catalog state next := by
  rw [GameState.passPriority.eq_def] at passed
  split at passed
  · split at passed
    · exact .passWindow passed
    · cases passed
  · exact .passChain passed

/-! Turns -/

theorem drawForTurn (state : GameState) (seat : Seat) : Lull catalog state (state.drawForTurn seat) := by
  rw [GameState.drawForTurn]
  split
  · refine .applyPossible ?_ state
    intro current change drawn
    obtain rfl := List.mem_singleton.mp drawn
    trivial
  · exact .modifyPlayer state seat (fun _ => rfl) fun _ => rfl

/-- The end of a turn is a lull up to the next one. -/
theorem wound (state : GameState) (rules : Rules) : Lull catalog state (state.wound rules) := by
  have discarded : Lull catalog (state.enterPhase .ending)
      ((state.enterPhase .ending).discardToLimit state.turnPlayer rules.config.handLimit) := by
    refine .foldl ?_ _ _
    intro current card
    rw [discardExcess]
    split
    · next made =>
      have gentle : (Change.toGraveyard card).Gentle current := trivial
      exact (Lull.of_change gentle made).trans (.note _ rfl rfl)
    · exact .refl current
  exact ((Lull.enterPhase state .ending).trans discarded).trans (.rearrange rfl rfl rfl rfl)

end Lull

end GameState

end CardDuel
