/-
This file notes the batches of events for which windows open, and shows that in every run each event that
effects can follow is in exactly one batch or still waits, in the order of the log.
-/

import CardDuel.Proofs.Chain.Resolution

namespace CardDuel

namespace GameState

/-! Batches -/

/--
This is the next thing that happens by itself, with the events for which a window opens then. A window
opens nowhere else, and the triggers in it are collected for all events that wait.
-/
def settleStepNoting? (state : GameState) (catalog : Catalog) :
    Option (GameState × List (List GameEvent)) :=
  if state.canPass then none
  else if !state.pendingEvents.isEmpty then
    some (state.openWindow catalog, [state.pendingEvents])
  else if state.pendingAttack.isSome then some (state.resolveAttack catalog, [])
  else none

/-- This settles a state and notes the events for which windows open, in order. -/
def settleNoting (catalog : Catalog) :
    (steps : Nat) → GameState → GameState × List (List GameEvent)
  | 0, state => (if state.outcome.isSome then state.clearWaiting else state, [])
  | steps + 1, state =>
    if state.outcome.isSome then (state.clearWaiting, [])
    else
      match state.settleStepNoting? catalog with
      | some (next, batches) =>
        ((settleNoting catalog steps next).1, batches ++ (settleNoting catalog steps next).2)
      | none => (state, [])

/-- These are the events for which windows open while a state settles. -/
def batches (state : GameState) (catalog : Catalog) : List (List GameEvent) :=
  (settleNoting catalog maxSettleSteps state).2

/-- These are the events for which windows open after an action. -/
def batchesAfter (state : GameState) (rules : Rules) (player : Seat) (action : Action) :
    List (List GameEvent) :=
  match state.dispatch rules player action with
  | .ok acted => (acted.sweep rules.catalog).batches rules.catalog
  | .error _ => []

variable {state next before after : GameState} {rules : Rules} {catalog : Catalog} {player : Seat}
  {collected more : List (List GameEvent)}

theorem settleStepNoting?_map (state : GameState) (catalog : Catalog) :
    (state.settleStepNoting? catalog).map Prod.fst = state.settleStep? catalog := by
  rw [settleStepNoting?, settleStep?]
  split
  · rfl
  · split
    · rfl
    · split
      · rfl
      · rfl

/-- To note the batches changes nothing. -/
theorem settleNoting_fst (catalog : Catalog) (steps : Nat) (state : GameState) :
    (settleNoting catalog steps state).1 = settleWithin catalog steps state := by
  induction steps generalizing state with
  | zero => rfl
  | succ steps ih =>
    rw [settleNoting, settleWithin, ← settleStepNoting?_map]
    split
    · rfl
    · cases state.settleStepNoting? catalog with
      | none => rfl
      | some taken => exact ih taken.1

/-! The order of events -/

/--
This tells that all events that effects can follow were collected for or wait, in the order of the log,
and that an open window holds the last batch.
-/
structure Collects (state : GameState) (collected : List (List GameEvent)) : Prop where
  whole : collected.flatten ++ state.pendingEvents = triggering state.log
  last : ∀ window ∈ state.window, collected.getLast? = some window.events

/-- What is newly told of waits. -/
theorem Collects.queued (collects : before.Collects collected) (queued : Queued before after) :
    after.Collects collected := by
  obtain ⟨told, log, waits⟩ := queued.told
  constructor
  · rw [log, waits, triggering_append, ← collects.whole, List.append_assoc]
  · intro window opened
    obtain ⟨earlier, there, same⟩ := queued.window window opened
    rw [same]
    exact collects.last earlier there

/-- A window takes all that waits as one more batch. -/
theorem Collects.openWindow (collects : state.Collects collected) (anchored : state.Anchored) :
    (state.openWindow rules.catalog).Collects (collected ++ [state.pendingEvents]) := by
  obtain ⟨window, events, same⟩ := state.openWindow_eq rules.catalog
  have chained : Acts rules (fun _ => True) { state with pendingEvents := [] }
      (state.triggered rules.catalog) := triggered_acts trivial anchored
  obtain ⟨told, log, waits⟩ := chained.queued.told
  have opened : ({ state.triggered rules.catalog with window := window } : GameState).Collects
      (collected ++ [state.pendingEvents]) := by
    constructor
    · show _ ++ (state.triggered rules.catalog).pendingEvents =
        triggering (state.triggered rules.catalog).log
      rw [log, waits, triggering_append, ← collects.whole]
      simp
    · intro window opened
      rw [events window opened, List.getLast?_concat]
  have announced : Acts rules (fun _ => True)
      { state.triggered rules.catalog with window := window } _ := announceWindow_acts _
  rw [same]
  exact opened.queued announced.queued

theorem settleStepNoting?_collects (collects : state.Collects collected) (anchored : state.Anchored)
    (taken : state.settleStepNoting? rules.catalog = some (next, more)) :
    next.Anchored ∧ next.Collects (collected ++ more) := by
  have moves : Moves rules (fun _ => True) state next := settleStep?_moves trivial anchored (by
    rw [← settleStepNoting?_map, taken]
    rfl)
  refine ⟨moves.shifts.anchored anchored, ?_⟩
  rw [settleStepNoting?] at taken
  split at taken
  · cases taken
  · split at taken
    · obtain ⟨rfl, rfl⟩ := Prod.mk.inj (Option.some.inj taken)
      exact collects.openWindow anchored
    · split at taken
      · obtain ⟨rfl, rfl⟩ := Prod.mk.inj (Option.some.inj taken)
        rw [List.append_nil]
        have acts : Acts rules (fun _ => True) state _ := resolveAttack_acts state
        exact collects.queued acts.queued
      · cases taken

/-- Settling collects for events in their order, unless the duel is over. -/
theorem settleNoting_collects (steps : Nat) {state : GameState} {collected : List (List GameEvent)}
    (collects : state.Collects collected) (anchored : state.Anchored)
    (running : (settleNoting rules.catalog steps state).1.outcome = none) :
    (settleNoting rules.catalog steps state).1.Collects
      (collected ++ (settleNoting rules.catalog steps state).2) := by
  induction steps generalizing state collected with
  | zero =>
    rw [settleNoting] at running ⊢
    rw [List.append_nil]
    dsimp only at running ⊢
    split at running
    · next ended => exact absurd running (Option.isSome_iff_ne_none.mp ended)
    · next goesOn =>
      rw [if_neg goesOn]
      exact collects
  | succ steps ih =>
    rw [settleNoting] at running ⊢
    split at running
    · next ended => exact absurd running (Option.isSome_iff_ne_none.mp ended)
    · next goesOn =>
      rw [if_neg goesOn]
      cases taken : state.settleStepNoting? rules.catalog with
      | none =>
        rw [List.append_nil]
        exact collects
      | some entry =>
        obtain ⟨next, more⟩ := entry
        obtain ⟨anchoredNext, grown⟩ := settleStepNoting?_collects collects anchored taken
        simp only [taken] at running ⊢
        rw [← List.append_assoc]
        exact ih grown anchoredNext running

/-- Settled without an end, a state has collected for all events in their order. -/
theorem Collects.settle (collects : state.Collects collected) (anchored : state.Anchored)
    (running : (state.settle rules.catalog).outcome = none) :
    (state.settle rules.catalog).Collects (collected ++ state.batches rules.catalog) := by
  rw [GameState.settle, ← settleNoting_fst] at running ⊢
  exact settleNoting_collects maxSettleSteps collects anchored running

/-- A step that does not end the duel collects for all events in their order. -/
theorem Collects.step (collects : state.Collects collected) (orderly : state.Orderly)
    (anchored : state.Anchored) {action : Action}
    (stepped : state.step rules player action = .ok next) (running : next.outcome = none) :
    next.Collects (collected ++ state.batchesAfter rules player action) := by
  obtain ⟨_, acted, dispatched, rfl⟩ := step_eq_ok.mp stepped
  have acts : Acts rules (fun _ => True) state (acted.sweep rules.catalog) :=
    (dispatch_acts orderly (fun _ _ _ _ _ _ _ => trivial) dispatched).trans (sweep_acts acted _)
  have settled := (collects.queued acts.queued).settle ((Moves.of_acts acts).shifts.anchored anchored)
    running
  rw [batchesAfter, dispatched]
  exact ⟨settled.whole, settled.last⟩

end GameState

/-! Runs -/

namespace Duel

def batchesAfter (duel : Duel) : Request → List (List GameEvent)
  | .act player action => duel.state.batchesAfter duel.rules player action
  | .timeout player =>
    match duel.state.timeoutAction player with
    | .ok action => duel.state.batchesAfter duel.rules player action
    | .error _ => []

/-- These are the events for which windows open while requests are served, in order. -/
def batches : Duel → List Request → List (List GameEvent)
  | _, [] => []
  | duel, request :: rest =>
    match duel.serve request with
    | .ok (_, after) => duel.batchesAfter request ++ after.batches rest
    | .error _ => []

variable {duel middle after : Duel} {report : StepReport} {requests : List Request}
  {request : Request}

/-- A request that is served is one step, whose batches are noted. -/
theorem batchesAfter_eq (served : duel.serve request = .ok (report, after)) :
    ∃ player action, duel.state.step duel.rules player action = .ok after.state ∧
      duel.batchesAfter request = duel.state.batchesAfter duel.rules player action := by
  cases request with
  | act player action => exact ⟨player, action, (perform_eq_ok served).1, rfl⟩
  | timeout player =>
    have timed := (forceTimeout_eq_ok served).1
    simp only [GameState.timeout, bind_eq_ok] at timed
    obtain ⟨_, _, action, given, stepped⟩ := timed
    refine ⟨player, action, stepped, ?_⟩
    rw [batchesAfter, given]

/-- The last request adds its own batches. -/
theorem batches_concat (followed : DuelSetup.followUp? duel requests = some middle)
    (served : middle.serve request = .ok (report, after)) :
    duel.batches (requests ++ [request]) = duel.batches requests ++ middle.batchesAfter request := by
  induction requests generalizing duel with
  | nil =>
    obtain rfl := Option.some.inj followed
    simp [batches, served]
  | cons first rest ih =>
    rw [DuelSetup.followUp?, List.foldlM_cons] at followed
    obtain ⟨next, answered, others⟩ := Option.bind_eq_some_iff.mp followed
    obtain ⟨⟨report, _⟩, accepted, rfl⟩ := Option.map_eq_some_iff.mp answered
    have given := toOption_eq_some.mp accepted
    rw [List.cons_append, batches, batches, given]
    dsimp only
    rw [ih others, List.append_assoc]

end Duel

namespace DuelSetup

open GameState

/-- These are the events for which windows open in the first turn. -/
def firstBatches (setup : DuelSetup) : List (List GameEvent) :=
  match (Seat.startingWith setup.firstPlayer).foldlM setup.dealHand setup.withDecks with
  | .ok dealt => (dealt.startTurn setup.rules).batches setup.rules.catalog
  | .error _ => []

/-- These are the events for which windows open in a duel with requests, in order. -/
def batches (setup : DuelSetup) (requests : List Request) : List (List GameEvent) :=
  match setup.build with
  | .ok start => setup.firstBatches ++ start.batches requests
  | .error _ => []

variable {setup : DuelSetup} {requests : List Request} {duel : Duel}

theorem withDecks_queued (setup : DuelSetup) :
    Queued (.initial setup.rules.config setup.seed setup.firstPlayer) setup.withDecks :=
  setup.withDecks_keeps (Queued _) (.refl _)
    fun _ _ _ _ queued => queued.trans (.untold rfl rfl (.refl _))

/-- The first turn collects for all events in their order. -/
theorem build_collects (built : setup.build = .ok duel) (running : duel.state.outcome = none) :
    duel.state.Collects setup.firstBatches := by
  obtain ⟨_, _, _, dealt, hands, rfl⟩ := build_eq_ok.mp built
  have nothing : (GameState.initial setup.rules.config setup.seed setup.firstPlayer).Collects [] :=
    ⟨rfl, fun _ opened => by cases opened⟩
  have acts : Acts setup.rules (fun _ => True) setup.withDecks _ := firstTurn_acts hands
  have begun := (nothing.queued setup.withDecks_queued).queued acts.queued
  have anchored := (Moves.of_acts acts).shifts.anchored setup.withDecks_anchored
  rw [firstBatches, hands]
  exact begun.settle anchored running

theorem Run.collects (run : setup.Run requests duel) (running : duel.state.outcome = none) :
    duel.state.Collects (setup.batches requests) := by
  induction run with
  | start built =>
    rw [batches, built]
    simpa [Duel.batches] using build_collects built running
  | @next requests request duel after report earlier served ih =>
    obtain ⟨start, built, followed⟩ := earlier.followed
    obtain ⟨player, action, stepped, noted⟩ := Duel.batchesAfter_eq served
    have goesOn := (step_eq_ok.mp stepped).1
    have collects := ih goesOn
    have orderly := (earlier.atRest.running goesOn).1
    have anchored := earlier.moves.shifts.anchored setup.withDecks_anchored
    rw [batches, built] at collects ⊢
    dsimp only at collects ⊢
    rw [Duel.batches_concat followed served, noted, ← List.append_assoc]
    exact collects.step orderly anchored stepped running

/--
In a run that has not ended, the batches for which windows opened and then the events that still wait are
exactly the events of the log that effects can follow, in the order of the log. An open window holds the
last batch.
-/
theorem Run.collects_in_order (run : setup.Run requests duel) (running : duel.state.outcome = none) :
    (setup.batches requests).flatten ++ duel.state.pendingEvents = triggering duel.state.log ∧
      ∀ window ∈ duel.state.window, (setup.batches requests).getLast? = some window.events :=
  ⟨(run.collects running).whole, (run.collects running).last⟩

/-- The window under the chain of a beacon was opened for its summon, the only event to follow. -/
theorem beacons_collect_in_order :
    ∃ duel window, beacons.Run beaconRequests duel ∧ duel.state.window = some window ∧
      window.events = [.summoned ⟨0⟩ .first .normal] ∧
      triggering duel.state.log = .summoned ⟨0⟩ .first .normal :: duel.state.pendingEvents := by
  have played : (beacons.play? beaconRequests).any (fun duel =>
      decide (duel.state.outcome = none ∧ duel.state.window.isSome = true)) = true := by
    decide +kernel
  have noted : beacons.batches beaconRequests = [[.summoned ⟨0⟩ .first .normal]] := by
    decide +kernel
  obtain ⟨duel, followed, facts⟩ := (Option.any_eq_true _ _).mp played
  obtain ⟨running, opened⟩ := of_decide_eq_true facts
  obtain ⟨window, there⟩ := Option.isSome_iff_exists.mp opened
  have run : beacons.Run beaconRequests duel := .of_play followed
  obtain ⟨whole, last⟩ := run.collects_in_order running
  rw [noted] at whole last
  refine ⟨duel, window, run, there, ?_, whole.symm⟩
  exact (Option.some.inj (last window there)).symm

end DuelSetup

end CardDuel
