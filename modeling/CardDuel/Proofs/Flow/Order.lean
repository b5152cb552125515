/-
This file defines when a running duel is in order, and shows that every action keeps it so or ends it.
-/

import CardDuel.Proofs.Dispatch
import CardDuel.Proofs.Flow.Frame

namespace CardDuel

namespace GameState

/-- This tells that a running duel is in order, whatever still has to happen by itself. -/
structure Orderly (state : GameState) : Prop where
  chained : state.chain.links = [] ∧ state.chain.status = .idle ∨
    state.chain.links ≠ [] ∧ state.chain.status = .awaitingResponse
  playing : state.phase.isPlayable = true
  fighting : state.pendingAttack.isSome = true → state.phase = .battle

namespace Orderly

variable {before after state : GameState}

/-- An ordered state stays ordered in the course of things. -/
theorem course (orderly : before.Orderly) (course : Course before after) : after.Orderly where
  chained := by
    rw [ne_eq, course.links_eq_nil_iff, course.status]
    exact orderly.chained
  playing := by
    rw [course.phase]
    exact orderly.playing
  fighting := by
    intro attacked
    rw [course.phase]
    rcases course.attack with same | finished
    · exact orderly.fighting (same ▸ attacked)
    · simp [finished] at attacked

/-- A link can always be put on the chain. -/
theorem linked (orderly : state.Orderly) (link : ChainLink) : (state.linked link).Orderly where
  chained := .inr ⟨by simp [GameState.linked, record], rfl⟩
  playing := orderly.playing
  fighting := orderly.fighting

/-- An idle chain has no links. -/
theorem links_eq_nil (orderly : state.Orderly) (idle : state.chain.status = .idle) :
    state.chain.links = [] := by
  rcases orderly.chained with ⟨empty, _⟩ | ⟨_, awaiting⟩
  · exact empty
  · simp [idle] at awaiting

theorem setWindow (orderly : state.Orderly) (window : Option ResponseWindow) :
    ({ state with window := window } : GameState).Orderly :=
  ⟨orderly.chained, orderly.playing, orderly.fighting⟩

theorem closeWindow (orderly : state.Orderly) : state.closeWindow.Orderly := by
  rw [GameState.closeWindow]
  split
  · exact ⟨orderly.chained, orderly.playing, orderly.fighting⟩
  · exact orderly

theorem announceClosing (orderly : state.Orderly) : state.announceClosing.Orderly := by
  rw [GameState.announceClosing]
  split
  · exact orderly.course (Frame.record _ _).toCourse
  · exact orderly

end Orderly

/-- The player may act freely where no chain, no window and no attack waits. -/
theorem isOpen_iff {state : GameState} : state.isOpen = true ↔
    state.chain.status = .idle ∧ state.window = none ∧ state.pendingAttack = none := by
  simp [isOpen, and_assoc]

/-! Actions -/

section Actions

variable {state next : GameState} {catalog : Catalog} {rules : Rules} {config : DuelConfig}
  {player : Seat} {card : InstanceId}

theorem normalSummon_frame {tributes : List InstanceId} {isSet : Bool}
    (summoned : state.normalSummon config player card tributes isSet = .ok next) :
    Frame state next := by
  obtain ⟨_, _, _, _, placed, made, rfl⟩ := normalSummon_eq_ok.mp summoned
  exact (applyChanges_edits made).frame.trans (.modifyPlayer placed player _)

theorem setCard_frame {tributes : List InstanceId}
    (placed : state.setCard config player card tributes = .ok next) : Frame state next := by
  obtain ⟨_, _, ⟨_, summoned⟩ | ⟨_, _, _, _, _, made⟩⟩ := setCard_eq_ok.mp placed
  · exact normalSummon_frame summoned
  · exact (applyChange_edits made).frame

theorem specialSummon_frame (summoned : state.specialSummon catalog player card = .ok next) :
    Frame state next := by
  obtain ⟨_, _, _, made⟩ := specialSummon_eq_ok.mp summoned
  exact (applyChange_edits made).frame

theorem changePosition_frame (changed : state.changePosition player card = .ok next) :
    Frame state next := by
  obtain ⟨_, _, _, _, turned, made, rfl⟩ := changePosition_eq_ok.mp changed
  have noted := (applyChange_edits made).frame.trans
    (.modifyCard turned card fun found => { found with positionChanged := true })
  rw [turnedBy]
  split
  · exact noted.trans (.record _ _)
  · exact noted

/-- An attack that is declared leaves an ordered state. -/
theorem declareAttack_orderly (orderly : state.Orderly) {target : Option InstanceId}
    (declared : state.declareAttack player card target = .ok next) : next.Orderly := by
  obtain ⟨_, fights, _, _, _, rfl⟩ := declareAttack_eq_ok.mp declared
  exact ⟨orderly.chained, orderly.playing, fun _ => fights⟩

/-- An activation leaves an ordered state. -/
theorem activate_orderly (orderly : state.Orderly) {index : Nat} {targets paid : List InstanceId}
    (activated : state.activate catalog player card index targets paid = .ok next) :
    next.Orderly := by
  obtain ⟨_, _, _, placed, places, payed, pays, _, _, _, pushed, rfl⟩ :=
    activate_eq_ok.mp activated
  obtain ⟨_, rfl⟩ := pushLink_eq_ok.mp pushed
  have ready := orderly.course (((Frame.record state (.effectActivated card index player)).trans
    (applyChanges_edits places).frame).trans (applyChanges_edits pays).frame).toCourse
  have noted : (payed.noteActivation card index).Orderly :=
    ⟨ready.chained, ready.playing, ready.fighting⟩
  exact (noted.linked _).course (sweep_course _ catalog)

/-- A new turn begins in order unless its draw ends the duel. -/
theorem startTurn_orderly (free : state.pendingAttack = none)
    (running : (state.startTurn rules).outcome = none) : (state.startTurn rules).Orderly := by
  have swept := (drawn_frame state rules).toCourse.trans
    (sweep_course (state.drawn rules) rules.catalog)
  have idle : ((state.drawn rules).sweep rules.catalog).chain.links = [] ∧
      ((state.drawn rules).sweep rules.catalog).chain.status = .idle :=
    ⟨swept.links_eq_nil_iff.mpr rfl, swept.status⟩
  have finished := swept.attack_eq_none free
  rw [startTurn_eq] at running ⊢
  generalize (state.drawn rules).sweep rules.catalog = begun at running idle finished ⊢
  split
  · next ended =>
    rw [if_pos ended] at running
    simp [running] at ended
  · exact ⟨.inl idle, rfl, fun attacked => by simp [enterPhase, record, finished] at attacked⟩

/-- A turn that ends without an attack leaves an ordered state. -/
theorem endTurn_orderly (free : state.pendingAttack = none)
    (ended : state.endTurn rules = .ok next) (running : next.outcome = none) : next.Orderly := by
  obtain ⟨_, rfl⟩ := (endTurn_eq_ok state rules).mp ended
  have swept := (wound_frame state rules).toCourse.trans
    (sweep_course (state.wound rules) rules.catalog)
  split
  · next finished =>
    rw [if_pos finished] at running
    simp [running] at finished
  · next goesOn =>
    rw [if_neg goesOn] at running
    exact startTurn_orderly (swept.attack_eq_none free) running

/-! Passes -/

/-- While a chain resolves the phase stays, and an attack stays or is called off. -/
theorem resolveLinks_phase (catalog : Catalog) (links : Nat) (state : GameState) (resolved : Nat) :
    (resolveLinks catalog links state resolved).1.phase = state.phase ∧
      ((resolveLinks catalog links state resolved).1.pendingAttack = state.pendingAttack ∨
        (resolveLinks catalog links state resolved).1.pendingAttack = none) := by
  refine resolveLinks_keeps (fun later => later.phase = state.phase ∧
    (later.pendingAttack = state.pendingAttack ∨ later.pendingAttack = none)) ?_ links resolved
    ⟨rfl, .inl rfl⟩
  rintro before link chain ⟨phase, attack⟩ _ _
  have course := resolveLink_course { before with chain := chain } catalog link
  refine ⟨course.phase.trans phase, ?_⟩
  rcases course.attack with same | finished
  · rw [same]
    exact attack
  · exact .inr finished

/-- After its resolution a chain is idle. -/
theorem resolveChain_orderly (playing : state.phase.isPlayable = true)
    (fighting : state.pendingAttack.isSome = true → state.phase = .battle) :
    (state.resolveChain catalog).Orderly := by
  obtain ⟨phase, attack⟩ := resolveLinks_phase catalog state.chain.beginResolving.links.length
    { state with chain := state.chain.beginResolving } 0
  rw [resolveChain_eq]
  refine Orderly.closeWindow ⟨.inl ⟨rfl, rfl⟩, ?_, ?_⟩
  · show (state.drained catalog).1.phase.isPlayable = true
    rw [drained, phase]
    exact playing
  · intro attacked
    show (state.drained catalog).1.phase = .battle
    change (state.drained catalog).1.pendingAttack.isSome = true at attacked
    rw [drained] at attacked ⊢
    rw [phase]
    rcases attack with same | finished
    · rw [same] at attacked
      exact fighting attacked
    · simp [finished] at attacked

/-- A pass in a chain leaves an ordered state. -/
theorem passChain_orderly (orderly : state.Orderly) (linked : state.chain.links ≠ [])
    (passed : state.passChain rules player = .ok next) : next.Orderly := by
  obtain ⟨outcome, chain, accepted, rfl⟩ := passChain_eq_ok.mp passed
  obtain ⟨_, links, waits⟩ := pass_eq_ok accepted
  split
  · exact resolveChain_orderly orderly.playing orderly.fighting
  · next goesOn =>
    have waiting : chain.status = .awaitingResponse := waits.resolve_left goesOn
    exact ⟨.inr ⟨fun empty => linked (links.symm.trans empty), waiting⟩, orderly.playing,
      orderly.fighting⟩

/-- A pass leaves an ordered state. -/
theorem passPriority_orderly (orderly : state.Orderly)
    (passed : state.passPriority rules player = .ok next) : next.Orderly := by
  rw [passPriority.eq_def] at passed
  split at passed
  · split at passed
    · next window _ =>
      obtain ⟨_, remaining, _, same⟩ := passWindow_eq_ok passed
      have told : ({ state with window := some remaining }.record
          (.priorityPassed player)).Orderly :=
        (orderly.setWindow (some remaining)).course (Frame.record _ _).toCourse
      rcases same with rfl | rfl
      · exact told.closeWindow
      · obtain ⟨left, _, moved⟩ := advanceWindow_eq rules.catalog maxPasses
          ({ state with window := some remaining }.record (.priorityPassed player))
        rw [moved]
        exact (told.setWindow left).announceClosing
    · simp at passed
  · next nonempty =>
    exact passChain_orderly orderly (by simpa [Chain.isEmpty] using nonempty) passed

/-- Every action keeps a duel in order or ends it. -/
theorem dispatch_orderly (orderly : state.Orderly) {action : Action}
    (acted : state.dispatch rules player action = .ok next) (running : next.outcome = none) :
    next.Orderly := by
  cases action with
  | forfeit =>
    obtain rfl := Except.ok.inj acted
    exact orderly.course (state.endDuel_course _)
  | passPriority => exact passPriority_orderly orderly acted
  | activateEffect card index targets paid =>
    exact activate_orderly orderly (ite_error_eq_ok.mp acted).2
  | declareAttack attacker target => exact declareAttack_orderly orderly acted
  | normalSummon card tributes => exact orderly.course (normalSummon_frame acted).toCourse
  | setCard card tributes => exact orderly.course (setCard_frame acted).toCourse
  | specialSummon card => exact orderly.course (specialSummon_frame acted).toCourse
  | changePosition card => exact orderly.course (changePosition_frame acted).toCourse
  | enterBattlePhase =>
    obtain ⟨_, opened, entered⟩ := bind_eq_ok.mp acted
    obtain ⟨_, _, rfl⟩ := enterBattlePhase_eq_ok.mp entered
    exact ⟨orderly.chained, rfl, fun _ => rfl⟩
  | enterMainPhase2 =>
    obtain ⟨_, opened, entered⟩ := bind_eq_ok.mp acted
    obtain ⟨_, rfl⟩ := enterMainPhase2_eq_ok.mp entered
    have free := (isOpen_iff.mp (openTurn_eq_ok.mp opened).quiet).2.2
    exact ⟨orderly.chained, rfl, fun attacked => by simp [enterPhase, record, free] at attacked⟩
  | endTurn =>
    obtain ⟨_, opened, ended⟩ := bind_eq_ok.mp acted
    exact endTurn_orderly (isOpen_iff.mp (openTurn_eq_ok.mp opened).quiet).2.2 ended running

end Actions

end GameState

end CardDuel
