/-
This file tells in which shapes a duel waits for its players: it is over, a chain or a window waits
for an answer, or the turn player acts. Some player can always act until the duel is over.
-/

import CardDuel.Proofs.Flow.Order
import CardDuel.Proofs.Table.Setup
import Mathlib.Logic.ExistsUnique

namespace CardDuel

namespace GameState

variable {state : GameState} {catalog : Catalog} {rules : Rules}

/-- Nobody is asked exactly if there is neither a chain nor a window. -/
theorem canPass_eq_false_iff :
    state.canPass = false ↔ state.chain.links = [] ∧ state.window = none := by
  simp [canPass, Chain.isEmpty]

/-! What happens by itself -/

/-- This bounds how often something can happen by itself: a window, and an attack before one. -/
def waits (state : GameState) : Nat :=
  (if state.pendingEvents.isEmpty then 0 else 1) + (if state.pendingAttack.isSome then 2 else 0)

/-- The steps that settling is given are enough for all that waits. -/
theorem waits_le (state : GameState) : state.waits ≤ maxSettleSteps := by
  rw [waits, maxSettleSteps]
  split <;> split <;> decide

/-- Nothing waits without events and without an attack. -/
theorem waits_eq_zero_iff :
    state.waits = 0 ↔ state.pendingEvents = [] ∧ state.pendingAttack = none := by
  rw [waits]
  cases events : state.pendingEvents with
  | nil => simp
  | cons event rest => simp

/-- A trigger that is chained leaves an ordered state. -/
theorem chainTrigger_orderly (orderly : state.Orderly) (trigger : TriggeredEffect) :
    (chainTrigger catalog state trigger).Orderly := by
  rcases chainTrigger_cases catalog state trigger with same | ⟨_, paid, _, pays, same⟩
  · rw [same]
    exact orderly
  · rw [same]
    have ready := orderly.course (payTriggerCost_edits pays).frame.toCourse
    have counted : (paid.countedFor trigger).Orderly :=
      ⟨ready.chained, ready.playing, ready.fighting⟩
    exact counted.linked _

theorem chainTrigger_outcome (catalog : Catalog) (state : GameState) (trigger : TriggeredEffect) :
    (chainTrigger catalog state trigger).outcome = state.outcome := by
  rcases chainTrigger_cases catalog state trigger with same | ⟨_, paid, _, pays, same⟩
  · rw [same]
  · rw [same]
    exact (payTriggerCost_edits pays).frame.outcome

/-- Mandatory triggers put a link on the chain or do nothing. -/
theorem chainTriggers_cases (catalog : Catalog) (triggers : List TriggeredEffect)
    (state : GameState) :
    triggers.foldl (chainTrigger catalog) state = state ∨
      (triggers.foldl (chainTrigger catalog) state).chain.links ≠ [] := by
  induction triggers generalizing state with
  | nil => exact .inl rfl
  | cons trigger rest ih =>
    rw [List.foldl_cons]
    rcases ih (chainTrigger catalog state trigger) with same | linked
    · rw [same]
      rcases chainTrigger_cases catalog state trigger with skipped | ⟨_, _, _, _, chained⟩
      · exact .inl skipped
      · rw [chained]
        exact .inr (by simp [linked, record])
    · exact .inr linked

/-- This is the state after the mandatory triggers of pending events, without a window. -/
def triggered (state : GameState) (catalog : Catalog) : GameState :=
  let taken := { state with pendingEvents := [] }
  let triggers := taken.collectTriggers catalog state.pendingEvents
  (triggers.filter fun trigger => !trigger.optional).foldl (chainTrigger catalog) taken

/-- What every mandatory trigger of pending events keeps is kept by all of them. -/
theorem triggered_keeps (kept : GameState → Prop)
    (chains : ∀ before, kept before →
      ∀ trigger ∈ ({ state with pendingEvents := [] } : GameState).collectTriggers catalog state.pendingEvents,
        trigger.optional = false → kept (chainTrigger catalog before trigger))
    (start : kept { state with pendingEvents := [] }) : kept (state.triggered catalog) := by
  refine List.foldlRecOn (motive := kept) _ (chainTrigger catalog) start ?_
  intro before held trigger member
  obtain ⟨collected, asked⟩ := List.mem_filter.mp member
  exact chains before held trigger collected (by simpa using asked)

/-- A window is opened for all pending events. -/
theorem gatherTriggers_eq (state : GameState) (catalog : Catalog) :
    ∃ window, window.events = state.pendingEvents ∧ state.gatherTriggers catalog =
      { state.triggered catalog with window := some window } := ⟨_, rfl, rfl⟩

/-- The triggers that are chained leave an ordered state. -/
theorem triggered_orderly (orderly : state.Orderly) : (state.triggered catalog).Orderly := by
  refine triggered_keeps Orderly ?_ ⟨orderly.chained, orderly.playing, orderly.fighting⟩
  intro before ready trigger _ _
  exact chainTrigger_orderly ready trigger

theorem triggered_outcome (state : GameState) (catalog : Catalog) :
    (state.triggered catalog).outcome = state.outcome := by
  refine triggered_keeps (fun later => later.outcome = state.outcome) ?_ rfl
  intro before same trigger _ _
  exact (chainTrigger_outcome catalog before trigger).trans same

/-- Nothing comes of the pending events, or a link is put on the chain. -/
theorem triggered_cases (state : GameState) (catalog : Catalog) :
    state.triggered catalog = { state with pendingEvents := [] } ∨
      (state.triggered catalog).chain.links ≠ [] :=
  chainTriggers_cases catalog _ _

/--
To open a window is to put the mandatory triggers on the chain, and to change the window. If one stays
open, it holds what was pending.
-/
theorem openWindow_eq (state : GameState) (catalog : Catalog) :
    ∃ window, (∀ opened ∈ window, opened.events = state.pendingEvents) ∧
      state.openWindow catalog =
        ({ state.triggered catalog with window := window } : GameState).announceWindow := by
  obtain ⟨offered, events, gathered⟩ := state.gatherTriggers_eq catalog
  rw [openWindow, gathered]
  split
  · obtain ⟨window, kept, same⟩ := advanceWindow_eq catalog maxPasses
      { state.triggered catalog with window := some offered }
    refine ⟨window, ?_, by rw [same]⟩
    intro opened member
    obtain ⟨earlier, there, holds⟩ := kept opened member
    obtain rfl := Option.some.inj there
    exact holds.trans events
  · refine ⟨some offered, ?_, rfl⟩
    intro opened member
    obtain rfl := Option.some.inj member
    exact events

theorem Orderly.announceWindow (orderly : state.Orderly) : state.announceWindow.Orderly := by
  rw [GameState.announceWindow]
  split
  · exact orderly.course (Frame.record _ _).toCourse
  · exact orderly

theorem waits_announceWindow (state : GameState) : state.announceWindow.waits = state.waits := by
  rw [announceWindow]
  split
  · rfl
  · rfl

theorem outcome_announceWindow (state : GameState) :
    state.announceWindow.outcome = state.outcome := by
  rw [announceWindow]
  split
  · rfl
  · rfl

theorem links_announceWindow (state : GameState) :
    state.announceWindow.chain.links = state.chain.links := by
  rw [announceWindow]
  split
  · rfl
  · rfl

theorem openWindow_outcome (state : GameState) (catalog : Catalog) :
    (state.openWindow catalog).outcome = state.outcome := by
  obtain ⟨window, _, same⟩ := state.openWindow_eq catalog
  rw [same, outcome_announceWindow]
  exact state.triggered_outcome catalog

/-- A window that opens leaves an ordered state. -/
theorem openWindow_orderly (orderly : state.Orderly) : (state.openWindow catalog).Orderly := by
  obtain ⟨window, _, same⟩ := state.openWindow_eq catalog
  rw [same]
  exact ((triggered_orderly orderly).setWindow window).announceWindow

/-- An open window is followed by a pass, or its events are over and nothing came instead. -/
theorem openWindow_waits (waiting : state.pendingEvents ≠ []) :
    (state.openWindow catalog).canPass = true ∨
      (state.openWindow catalog).waits < state.waits := by
  obtain ⟨window, _, same⟩ := state.openWindow_eq catalog
  rcases state.triggered_cases catalog with quiet | linked
  · right
    rw [same, waits_announceWindow, quiet, waits, waits]
    simp [waiting]
  · left
    have kept : (state.openWindow catalog).chain.links ≠ [] := by
      rw [same, links_announceWindow]
      exact linked
    cases chained : (state.openWindow catalog).chain.links with
    | nil => exact absurd chained kept
    | cons link rest => simp [canPass, Chain.isEmpty, chained]

/-- Less waits after an attack was resolved. -/
theorem resolveAttack_waits (quiet : state.pendingEvents = [])
    (attacked : state.pendingAttack.isSome = true) :
    (state.resolveAttack catalog).waits < state.waits := by
  have finished := (state.resolveAttack_course catalog).2
  rw [waits, waits, finished, quiet]
  simp only [attacked]
  split <;> decide

/-! Rest -/

/-- This tells that nothing more happens by itself. -/
structure AtRest (state : GameState) : Prop where
  finished : state.outcome.isSome = true → state.chain.links = [] ∧ state.chain.status = .idle ∧
    state.window = none ∧ state.pendingAttack = none ∧ state.pendingEvents = []
  running : state.outcome = none → state.Orderly ∧
    (state.canPass = true ∨ state.pendingEvents = [] ∧ state.pendingAttack = none)

/-- Nothing waits in a duel that has ended and was cleared. -/
theorem clearWaiting_atRest (ended : state.outcome.isSome = true) : state.clearWaiting.AtRest where
  finished := fun _ => ⟨rfl, rfl, rfl, rfl, rfl⟩
  running := fun running => by
    change state.outcome = none at running
    simp [running] at ended

/-- A step that happens by itself keeps a duel in order, and then less can happen or a pass waits. -/
theorem settleStep?_spec (orderly : state.Orderly) {next : GameState}
    (taken : state.settleStep? catalog = some next) :
    next.Orderly ∧ (next.canPass = true ∨ next.waits < state.waits) := by
  obtain ⟨_, ⟨waiting, rfl⟩ | ⟨quiet, attacked, rfl⟩⟩ := settleStep?_eq_some taken
  · exact ⟨openWindow_orderly orderly, openWindow_waits waiting⟩
  · exact ⟨orderly.course (state.resolveAttack_course catalog).1, .inr (resolveAttack_waits quiet attacked)⟩

/-- Settling stops only where a player is asked or nothing waits. -/
theorem settleStep?_eq_none (still : state.settleStep? catalog = none) :
    state.canPass = true ∨ state.pendingEvents = [] ∧ state.pendingAttack = none := by
  rw [settleStep?] at still
  split at still
  · next waits => exact .inl waits
  · split at still
    · simp at still
    · next quiet =>
      split at still
      · simp at still
      · next free => exact .inr ⟨by simpa using quiet, by simpa using free⟩

theorem settleStep?_of_canPass (waits : state.canPass = true) :
    state.settleStep? catalog = none := by
  rw [settleStep?, if_pos waits]

/-- Enough steps settle every state in order. -/
theorem settleWithin_atRest (steps : Nat) {state : GameState}
    (orderly : state.outcome = none → state.Orderly)
    (enough : state.canPass = true ∨ state.waits ≤ steps) :
    (settleWithin catalog steps state).AtRest := by
  induction steps generalizing state with
  | zero =>
    rw [settleWithin]
    split
    · next ended => exact clearWaiting_atRest ended
    · next goesOn =>
      refine ⟨fun ended => absurd ended goesOn, fun running => ⟨orderly running, ?_⟩⟩
      exact enough.imp_right fun few => waits_eq_zero_iff.mp (Nat.le_zero.mp few)
  | succ steps ih =>
    rw [settleWithin]
    split
    · next ended => exact clearWaiting_atRest ended
    · next goesOn =>
      have ready := orderly (by simpa using goesOn)
      split
      · next after taken =>
        obtain ⟨kept, less⟩ := settleStep?_spec ready taken
        refine ih (fun _ => kept) ?_
        rcases less with passes | fewer
        · exact .inl passes
        · rcases enough with passes | few
          · rw [settleStep?_of_canPass passes] at taken
            simp at taken
          · exact .inr (by omega)
      · next still =>
        exact ⟨fun ended => absurd ended goesOn, fun _ => ⟨ready, settleStep?_eq_none still⟩⟩

/-- A state that was settled is at rest. -/
theorem settle_atRest (orderly : state.outcome = none → state.Orderly) :
    (state.settle catalog).AtRest :=
  settleWithin_atRest maxSettleSteps orderly (.inr state.waits_le)

/-- The count of actions does not matter. -/
theorem AtRest.counted (rest : state.AtRest) (version : UInt64) :
    ({ state with version := version } : GameState).AtRest := by
  refine ⟨rest.finished, ?_⟩
  intro running
  obtain ⟨orderly, waits⟩ := rest.running running
  exact ⟨⟨orderly.chained, orderly.playing, orderly.fighting⟩, waits⟩

/-- A state that is handed back after an action is at rest. -/
theorem handedBack_atRest (orderly : state.outcome = none → state.Orderly) :
    (state.handedBack catalog).AtRest := by
  have settled : ((state.sweep catalog).settle catalog).AtRest := by
    apply settle_atRest
    intro running
    rw [sweep_outcome, Option.or_eq_none_iff] at running
    exact (orderly running.1).course (state.sweep_course catalog)
  rw [handedBack]
  generalize (state.sweep catalog).settle catalog = reached at settled ⊢
  exact settled.counted _

/-- Every step brings a duel to rest. -/
theorem step_atRest {next : GameState} {player : Seat} {action : Action}
    (stepped : state.step rules player action = .ok next) (rest : state.AtRest) : next.AtRest := by
  obtain ⟨running, acted, dispatched, rfl⟩ := step_eq_ok.mp stepped
  exact handedBack_atRest (dispatch_orderly (rest.running running).1 dispatched)

/-- While nothing waits for an answer in a duel at rest, the holder of the priority may act. -/
theorem AtRest.mayAct (rest : state.AtRest) (running : state.outcome = none)
    (still : state.canPass = false) : state.MayAct state.priorityHolder := by
  obtain ⟨orderly, waits⟩ := rest.running running
  obtain ⟨unlinked, closed⟩ := canPass_eq_false_iff.mp still
  obtain ⟨_, free⟩ := waits.resolve_left (by simp [still])
  have idle := (orderly.chained.resolve_right fun linked => linked.1 unlinked).2
  have holder : state.priorityHolder = state.turnPlayer := by
    rw [priorityHolder, Chain.isEmpty, unlinked, closed]
    rfl
  exact ⟨holder, isOpen_iff.mpr ⟨idle, closed, free⟩⟩

/-- Whoever may act in a running duel at rest has something to do. -/
theorem AtRest.legalActions_ne_nil (rest : state.AtRest) (running : state.outcome = none)
    (rules : Rules) : state.legalActions rules state.priorityHolder ≠ [] := by
  rw [legalActions, if_neg (by simp [running])]
  cases passes : state.canPass with
  | true => simp
  | false =>
    have may := rest.mayAct running passes
    have playing := (rest.running running).1.playing
    have ends : Action.endTurn ∈ state.phaseActions rules.config := by
      rw [phaseActions.eq_def]
      cases phase : state.phase <;> simp [phase, Phase.isPlayable] at playing ⊢
    have listed : Action.endTurn ∈ state.turnActions rules state.priorityHolder := by
      rw [turnActions]
      exact List.mem_append_right _ ends
    intro nothing
    rw [may.quiet, may.turn] at nothing
    simp only [decide_true, Bool.and_self, if_true, List.append_eq_nil_iff] at nothing
    rw [may.turn, nothing.2] at listed
    simp at listed

end GameState

namespace DuelSetup

variable {setup : DuelSetup} {requests : List Request} {duel : Duel}

theorem withDecks_frame (setup : DuelSetup) :
    GameState.Frame (.initial setup.rules.config setup.seed setup.firstPlayer) setup.withDecks :=
  setup.withDecks_keeps (GameState.Frame _) (.refl _) fun _ _ _ _ frame =>
    frame.trans ⟨⟨rfl, rfl, rfl, rfl, rfl, rfl, .inl rfl⟩, rfl⟩

/-- The first turn is brought to rest. -/
theorem build_atRest (built : setup.build = .ok duel) : duel.state.AtRest := by
  obtain ⟨_, _, _, dealt, hands, rfl⟩ := build_eq_ok.mp built
  have free := (setup.withDecks_frame.trans (dealHands_edits hands).frame).attack_eq_none rfl
  show ((dealt.startTurn setup.rules).settle setup.rules.catalog).AtRest
  exact GameState.settle_atRest (GameState.startTurn_orderly free)

/-- Every state of a run is at rest. -/
theorem Run.atRest (run : setup.Run requests duel) : duel.state.AtRest :=
  run.keeps build_atRest GameState.step_atRest

end DuelSetup

/-- This is a shape in which a duel waits for the next request. -/
inductive Shape where
  | finished
  | chained
  | windowed
  | quiet
deriving DecidableEq

/-- This tells whether a state has a shape. -/
def Shape.Holds (state : GameState) : Shape → Prop
  | finished => state.outcome.isSome = true ∧ state.chain.links = [] ∧ state.chain.status = .idle ∧
      state.window = none ∧ state.pendingAttack = none ∧ state.pendingEvents = []
  | chained => state.outcome = none ∧ state.chain.links ≠ [] ∧
      state.chain.status = .awaitingResponse
  | windowed => state.outcome = none ∧ state.chain.links = [] ∧ state.chain.status = .idle ∧
      state.window.isSome = true
  | quiet => state.outcome = none ∧ state.chain.links = [] ∧ state.chain.status = .idle ∧
      state.window = none ∧ state.pendingAttack = none ∧ state.pendingEvents = []

/-- No state has two shapes. -/
theorem Shape.unique {state : GameState} {left right : Shape} (holdsLeft : left.Holds state)
    (holdsRight : right.Holds state) : left = right := by
  cases left <;> cases right <;> simp_all [Shape.Holds]

/-- A state at rest has one of the shapes. -/
theorem GameState.AtRest.has_shape {state : GameState} (rest : state.AtRest) :
    ∃ shape : Shape, shape.Holds state := by
  cases ended : state.outcome with
  | some result =>
    have finished : state.outcome.isSome = true := by simp [ended]
    exact ⟨.finished, finished, rest.finished finished⟩
  | none =>
    obtain ⟨orderly, waits⟩ := rest.running ended
    rcases orderly.chained with ⟨unlinked, idle⟩ | ⟨linked, waiting⟩
    · cases opened : state.window with
      | some window => exact ⟨.windowed, ended, unlinked, idle, by simp [opened]⟩
      | none =>
        have still : state.canPass = false := canPass_eq_false_iff.mpr ⟨unlinked, opened⟩
        obtain ⟨quiet, free⟩ := waits.resolve_left (by simp [still])
        exact ⟨.quiet, ended, unlinked, idle, opened, free, quiet⟩
    · exact ⟨.chained, ended, linked, waiting⟩

/--
Every state of a run has exactly one shape. While the duel goes on, the phase is one in which players
act and the player with priority has something to do. Attacks wait in battle phases only.
-/
theorem DuelSetup.Run.shape {setup : DuelSetup} {requests : List Request} {duel : Duel}
    (run : setup.Run requests duel) :
    (∃! shape : Shape, shape.Holds duel.state) ∧
      (duel.state.outcome = none →
        (duel.state.phase = .main1 ∨ duel.state.phase = .battle ∨ duel.state.phase = .main2) ∧
          duel.legalActions duel.state.priorityHolder ≠ []) ∧
      (duel.state.pendingAttack.isSome = true → duel.state.phase = .battle) := by
  have rest := run.atRest
  refine ⟨?_, ?_, ?_⟩
  · obtain ⟨shape, holds⟩ := rest.has_shape
    exact ⟨shape, holds, fun other holdsToo => Shape.unique holdsToo holds⟩
  · intro running
    refine ⟨?_, rest.legalActions_ne_nil running duel.rules⟩
    have playing := (rest.running running).1.playing
    cases phase : duel.state.phase <;> simp [phase, Phase.isPlayable] at playing ⊢
  · intro attacked
    cases ended : duel.state.outcome with
    | some result =>
      have free := (rest.finished (by simp [ended])).2.2.2.1
      simp [free] at attacked
    | none => exact (rest.running ended).1.fighting attacked

/-- A duel of sentries has one shape when the first one is set. -/
theorem sentries_shape :
    ∃ duel, DuelSetup.sentries.Run [.act .first (.setCard ⟨1⟩ [])] duel ∧
      (∃! shape : Shape, shape.Holds duel.state) ∧ duel.state.outcome = none ∧
      duel.legalActions duel.state.priorityHolder ≠ [] := by
  have run : DuelSetup.sentries.Run [.act .first (.setCard ⟨1⟩ [])] _ := .next (.start rfl) rfl
  have shape := run.shape
  exact ⟨_, run, shape.1, rfl, (shape.2.1 rfl).2⟩

end CardDuel
