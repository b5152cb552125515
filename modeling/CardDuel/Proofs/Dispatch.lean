/-
This file opens the actions of players: it tells when each of them is accepted and what it does then.
-/

import CardDuel.Play.Step
import CardDuel.Proofs.Accepted
import Mathlib.Logic.Basic
import Mathlib.Logic.Unique

namespace CardDuel

namespace ResponseWindow

/-- This tells that a window that is open holds the events of the one that was open before. -/
def Kept (before after : Option ResponseWindow) : Prop :=
  ∀ window ∈ after, ∃ earlier ∈ before, window.events = earlier.events

namespace Kept

variable {before middle after : Option ResponseWindow}

theorem refl (window : Option ResponseWindow) : Kept window window :=
  fun window opened => ⟨window, opened, rfl⟩

theorem none (window : Option ResponseWindow) : Kept window none :=
  fun _ opened => by simp at opened

theorem some {window remaining : ResponseWindow} (same : remaining.events = window.events) :
    Kept (some window) (some remaining) := by
  intro other opened
  obtain rfl := Option.some.inj opened
  exact ⟨window, rfl, same⟩

theorem trans (first : Kept before middle) (second : Kept middle after) : Kept before after := by
  intro window opened
  obtain ⟨between, there, same⟩ := second window opened
  obtain ⟨earlier, present, sameToo⟩ := first between there
  exact ⟨earlier, present, same.trans sameToo⟩

theorem map {change : ResponseWindow → ResponseWindow} (window : Option ResponseWindow)
    (same : ∀ window, (change window).events = window.events) : Kept window (window.map change) := by
  intro changed opened
  obtain ⟨earlier, there, rfl⟩ := Option.map_eq_some_iff.mp opened
  exact ⟨earlier, there, same earlier⟩

end Kept

/-- A pass leaves the events and the offers of a window alone. -/
theorem pass_same {window remaining : ResponseWindow} {player : Seat} {outcome : WindowPass}
    (passed : window.pass player = .ok (outcome, remaining)) :
    remaining.events = window.events ∧ remaining.optional = window.optional := by
  rw [pass, ite_error_eq_ok] at passed
  obtain ⟨_, rest⟩ := passed
  dsimp only at rest
  split at rest
  · obtain ⟨_, rfl⟩ := Prod.mk.inj (Except.ok.inj rest)
    exact ⟨rfl, rfl⟩
  · obtain ⟨_, rfl⟩ := Prod.mk.inj (Except.ok.inj rest)
    exact ⟨rfl, rfl⟩

theorem pass_events {window remaining : ResponseWindow} {player : Seat} {outcome : WindowPass}
    (passed : window.pass player = .ok (outcome, remaining)) :
    remaining.events = window.events := (pass_same passed).1

end ResponseWindow

namespace GameState

variable {state next : GameState} {rules : Rules} {config : DuelConfig} {catalog : Catalog}
  {player : Seat} {card : InstanceId}

/-! Demands of all actions of a turn -/

/-- This tells that a player may take the actions of a turn. -/
structure MayAct (state : GameState) (player : Seat) : Prop where
  turn : player = state.turnPlayer
  quiet : state.isOpen = true

theorem openTurn_eq_ok {result : Unit} :
    state.openTurn player = .ok result ↔ state.MayAct player := by
  rw [openTurn, ite_error_eq_ok, ite_error_eq_ok]
  constructor
  · rintro ⟨own, quiet, _⟩
    exact ⟨by simpa using own, by simpa using quiet⟩
  · rintro ⟨own, quiet⟩
    exact ⟨by simpa using own, by simpa using quiet, rfl⟩

theorem mainPhase_eq_ok {kind : ActionKind} {result : Unit} :
    state.mainPhase kind = .ok result ↔ state.phase.isMain = true := by
  rw [mainPhase, ite_ok_error_eq_ok]
  simp

theorem ensureRunning_eq_ok {result : Unit} :
    state.ensureRunning = .ok result ↔ state.outcome = none := by
  rw [ensureRunning, ite_error_eq_ok]
  simp

theorem knownCard_eq_ok {found : CardInstance} :
    state.knownCard card = .ok found ↔ state.card? card = some found := by
  rw [knownCard]
  cases state.card? card with
  | none => simp
  | some other => simp

theorem ownCard_eq_ok {found : CardInstance} :
    state.ownCard player card = .ok found ↔
      state.card? card = some found ∧ found.owner = player := by
  simp only [ownCard, bind_eq_ok, knownCard_eq_ok]
  constructor
  · rintro ⟨other, known, rest⟩
    split at rest
    · next own =>
      obtain rfl := pure_eq_ok.mp rest
      exact ⟨known, own⟩
    · exact (throw_eq_ok.mp rest).elim
  · rintro ⟨known, own⟩
    refine ⟨found, known, ?_⟩
    rw [if_pos own]
    rfl

theorem handCard_eq_ok {found : CardInstance} :
    state.handCard player card = .ok found ↔
      state.card? card = some found ∧ found.owner = player ∧ found.zone = .hand := by
  simp only [handCard, bind_eq_ok, ownCard_eq_ok]
  constructor
  · rintro ⟨other, ⟨known, own⟩, rest⟩
    split at rest
    · next held =>
      obtain rfl := pure_eq_ok.mp rest
      exact ⟨known, own, held⟩
    · exact (throw_eq_ok.mp rest).elim
  · rintro ⟨known, own, held⟩
    refine ⟨found, ⟨known, own⟩, ?_⟩
    rw [if_pos held]
    rfl

/-! Cards from the hand -/

theorem normalSummon_eq_ok {tributes : List InstanceId} {isSet : Bool} :
    state.normalSummon config player card tributes isSet = .ok next ↔
      state.MayAct player ∧ state.phase.isMain = true ∧
      ∃ plan, state.validateNormalSummon config player card tributes = .ok plan ∧
      ∃ placed, state.applyChanges (plan.tributes.map .toGraveyard ++ [placement plan isSet]) =
          .ok placed ∧
        placed.modifyPlayer player (fun entry => { entry with normalSummonUsed := true }) =
          next := by
  simp only [normalSummon, bind_eq_ok, pure_eq_ok, openTurn_eq_ok, mainPhase_eq_ok,
    Unique.exists_iff]

theorem setCard_eq_ok {tributes : List InstanceId} :
    state.setCard config player card tributes = .ok next ↔
      ∃ found, state.card? card = some found ∧
        ((found.isMonster = true ∧
            state.normalSummon config player card tributes true = .ok next) ∨
          (found.isMonster = false ∧ state.MayAct player ∧ state.phase.isMain = true ∧
            tributes = [] ∧ state.validateSpellSet player card = .ok () ∧
            state.applyChange (.placeSpell card false) = .ok next)) := by
  simp only [setCard, bind_eq_ok, knownCard_eq_ok]
  apply exists_congr
  intro found
  apply and_congr_right
  intro _
  by_cases monster : found.isMonster = true
  · simp [monster]
  · cases tributes with
    | nil => simp [monster, bind_eq_ok, openTurn_eq_ok, mainPhase_eq_ok, Unique.exists_iff]
    | cons tribute rest => simp [monster, bind_eq_ok, throw_eq_ok]

theorem specialSummon_eq_ok :
    state.specialSummon catalog player card = .ok next ↔
      state.MayAct player ∧ state.phase.isMain = true ∧
      state.validateSpecialSummon catalog player card = .ok () ∧
      state.applyChange (.summon card .faceUpAttack .special) = .ok next := by
  simp only [specialSummon, bind_eq_ok, openTurn_eq_ok, mainPhase_eq_ok,
    Unique.exists_iff]

/-! Monsters on the field -/

def turnedBy (turned : GameState) (player : Seat) (card : InstanceId) (flips : Bool) : GameState :=
  let noted := turned.modifyCard card fun found => { found with positionChanged := true }
  if flips then noted.record (.summoned card player .flip) else noted

theorem changePosition_eq_ok :
    state.changePosition player card = .ok next ↔
      state.MayAct player ∧ state.phase.isMain = true ∧
      ∃ position, state.positionChange player card = .ok position ∧
      ∃ turned, state.applyChange (.changePosition card position) = .ok turned ∧
        turned.turnedBy player card
          ((state.card? card).any fun found => found.position = .faceDownDefense) = next := by
  simp only [changePosition, bind_eq_ok, pure_eq_ok, openTurn_eq_ok, mainPhase_eq_ok,
    Unique.exists_iff]
  rfl

def declaredBy (state : GameState) (found : CardInstance) (attacker : InstanceId)
    (target : Option InstanceId) : GameState :=
  { state.modifyCard attacker (fun card => { card with hasAttacked := true }) with
    pendingAttack := some (.declare found (target.bind state.card?)) }.record
      (.attackDeclared attacker target)

theorem declareAttack_eq_ok {attacker : InstanceId} {target : Option InstanceId} :
    state.declareAttack player attacker target = .ok next ↔
      state.MayAct player ∧ state.phase = .battle ∧
      state.validateAttack player attacker target = .ok () ∧
      ∃ found, state.card? attacker = some found ∧
        state.declaredBy found attacker target = next := by
  simp only [declareAttack, bind_eq_ok, pure_eq_ok, guard_eq_ok, openTurn_eq_ok, mapError_eq_ok,
    Unique.exists_iff, not_not]
  apply and_congr_right
  intro _
  apply and_congr_right
  intro _
  apply and_congr_right
  intro _
  apply exists_congr
  intro found
  rw [requireCard]
  cases state.card? attacker with
  | none => simp
  | some other => simp [declaredBy]

/-! Effects -/

/-- This is the link of an activated effect before it has a number. -/
def linkOf (state : GameState) (source : CardInstance) (card : InstanceId) (index : Nat)
    (player : Seat) (speed : Speed) (targets : List InstanceId) : ChainLink :=
  ⟨0, card, source.moves, source.card, index, player, speed, state.bindTargets targets, false⟩

theorem activate_eq_ok {index : Nat} {targets paid : List InstanceId} :
    state.activate catalog player card index targets paid = .ok next ↔
      ∃ plan, state.checkActivation catalog player card index = .ok plan ∧
        state.checkChoices plan.effect player card targets paid = .ok () ∧
      ∃ placed, (state.record (.effectActivated card index player)).applyChanges
          (placementChanges card plan.placement) = .ok placed ∧
      ∃ payed, placed.applyChanges (costChanges player card paid plan.effect.cost) = .ok payed ∧
      ∃ source, payed.card? card = some source ∧
      ∃ chained, (payed.noteActivation card index).pushLink
          ((payed.noteActivation card index).linkOf source card index player plan.effect.speed
            targets) = .ok chained ∧
        chained.sweep catalog = next := by
  simp only [activate, bind_eq_ok, pure_eq_ok, mapError_eq_ok, Unique.exists_iff]
  apply exists_congr
  intro plan
  apply and_congr_right
  intro _
  apply and_congr_right
  intro _
  apply exists_congr
  intro placed
  apply and_congr_right
  intro _
  apply exists_congr
  intro payed
  apply and_congr_right
  intro _
  apply exists_congr
  intro source
  rw [requireCard]
  change _ ↔ (payed.noteActivation card index).card? card = some source ∧ _
  cases (payed.noteActivation card index).card? card with
  | none => simp
  | some other => simp [linkOf]

/-! Phases -/

theorem enterBattlePhase_eq_ok :
    state.enterBattlePhase config = .ok next ↔
      state.phase = .main1 ∧ (state.turn = 1 → config.firstTurnBattle = true) ∧
        state.enterPhase .battle = next := by
  rw [enterBattlePhase, ite_error_eq_ok]
  by_cases early : state.turn = 1
  · simp [early, and_assoc]
  · simp [early]

theorem enterMainPhase2_eq_ok :
    state.enterMainPhase2 = .ok next ↔ state.phase = .battle ∧ state.enterPhase .main2 = next := by
  rw [enterMainPhase2, ite_error_eq_ok]
  simp

/-! Answers -/

/-- A chain takes every effect that is fast enough while it does not resolve. -/
theorem canActivate_eq_ok {chain : Chain} {speed : Speed} {result : Unit} :
    chain.canActivate speed = .ok result ↔ chain.status ≠ .resolving ∧
      ∀ top, chain.top? = some top → top.speed.value ≤ speed.value := by
  rw [Chain.canActivate, ite_error_eq_ok]
  apply and_congr_right
  intro _
  cases chain.top? with
  | none => simp
  | some top => simp

def linked (state : GameState) (link : ChainLink) : GameState :=
  { state with chain :=
    ⟨state.chain.links ++ [{ link with number := state.chain.links.length + 1 }],
      .awaitingResponse, link.controller.opponent, 0⟩ }.record
        (.chainLinkAdded (state.chain.links.length + 1) link.source link.speed.value)

theorem pushLink_eq_ok {link : ChainLink} :
    state.pushLink link = .ok next ↔
      state.chain.canActivate link.speed = .ok () ∧ state.linked link = next := by
  simp only [pushLink, Chain.push, bind_eq_ok, pure_eq_ok, Unique.exists_iff]
  constructor
  · rintro ⟨_, ⟨fast, rfl⟩, rfl⟩
    exact ⟨fast, rfl⟩
  · rintro ⟨fast, rfl⟩
    exact ⟨_, ⟨fast, rfl⟩, rfl⟩

/-- This is a state after the activation of a paid trigger was counted. -/
def countedFor (paid : GameState) (trigger : TriggeredEffect) : GameState :=
  { paid.record (.effectActivated trigger.source trigger.effect trigger.controller) with
    activations := paid.activations.record trigger.source trigger.effect }

/-- This is the link of a paid trigger before it has a number. -/
def triggerLink (paid : GameState) (trigger : TriggeredEffect) : ChainLink :=
  ⟨0, trigger.source,
    ((paid.card? trigger.source).map CardInstance.moves).getD trigger.sourceMoves, trigger.card,
    trigger.effect, trigger.controller, trigger.speed, [], false⟩

theorem activateTrigger_eq_ok {cost : Option Cost} {trigger : TriggeredEffect} :
    state.activateTrigger cost trigger = .ok next ↔
      ∃ paid, state.payTriggerCost cost trigger = .ok paid ∧
        (paid.countedFor trigger).pushLink (paid.triggerLink trigger) = .ok next := by
  rw [activateTrigger, bind_eq_ok]
  exact Iff.rfl

/-- A mandatory trigger is skipped, or it is paid and goes on the chain. -/
theorem chainTrigger_cases (catalog : Catalog) (state : GameState) (trigger : TriggeredEffect) :
    chainTrigger catalog state trigger = state ∨
      ∃ effect paid, catalog.effect? trigger.card trigger.effect = some effect ∧
        state.payTriggerCost effect.cost trigger = .ok paid ∧
        chainTrigger catalog state trigger =
          (paid.countedFor trigger).linked (paid.triggerLink trigger) := by
  rw [chainTrigger]
  split
  · exact .inl rfl
  · next effect known =>
    split
    · next activated =>
      obtain ⟨paid, pays, pushed⟩ := activateTrigger_eq_ok.mp activated
      exact .inr ⟨effect, paid, known, pays, (pushLink_eq_ok.mp pushed).2.symm⟩
    · exact .inl rfl

/-- Automatic passes touch nothing but the window, and its events stay. -/
theorem advanceWindow_eq (catalog : Catalog) (passes : Nat) (state : GameState) :
    ∃ window, ResponseWindow.Kept state.window window ∧
      advanceWindow catalog passes state = { state with window := window } := by
  induction passes generalizing state with
  | zero => exact ⟨state.window, .refl _, rfl⟩
  | succ passes ih =>
    rw [advanceWindow]
    split
    · exact ⟨state.window, .refl _, rfl⟩
    · next window opened =>
      split
      · exact ⟨state.window, .refl _, rfl⟩
      · split
        · next _ remaining passed =>
          obtain ⟨left, kept, same⟩ := ih { state with window := some remaining }
          have stays : ResponseWindow.Kept state.window (some remaining) :=
            opened ▸ .some (ResponseWindow.pass_events passed)
          exact ⟨left, stays.trans kept, same⟩
        · exact ⟨none, .none _, rfl⟩

/-- A pass leaves the links alone and starts the resolution or waits on. -/
theorem pass_eq_ok {chain passed : Chain} {rule : PassRule} {outcome : PassOutcome}
    (accepted : chain.pass player rule = .ok (outcome, passed)) :
    player = chain.priority ∧ passed.links = chain.links ∧
      (outcome = .resolve ∨ passed.status = .awaitingResponse) := by
  simp only [Chain.pass, ite_error_eq_ok, not_not] at accepted
  obtain ⟨waits, own, rest⟩ := accepted
  refine ⟨own, ?_⟩
  cases rule with
  | consecutive =>
    dsimp only at rest
    split at rest
    · obtain ⟨rfl, rfl⟩ := Prod.mk.inj (Except.ok.inj rest)
      exact ⟨rfl, .inl rfl⟩
    · obtain ⟨_, rfl⟩ := Prod.mk.inj (Except.ok.inj rest)
      exact ⟨rfl, .inr waits⟩
  | singleFlip =>
    obtain ⟨rfl, rfl⟩ := Prod.mk.inj (Except.ok.inj rest)
    exact ⟨rfl, .inl rfl⟩

theorem passChain_eq_ok :
    state.passChain rules player = .ok next ↔
      ∃ outcome chain, state.chain.pass player rules.config.passRule = .ok (outcome, chain) ∧
        (if outcome = .resolve then
          ({ state with chain := chain }.record (.priorityPassed player)).resolveChain rules.catalog
        else { state with chain := chain }.record (.priorityPassed player)) = next := by
  simp only [passChain, bind_eq_ok, pure_eq_ok, Prod.exists]

theorem passWindow_eq_ok {window : ResponseWindow}
    (passed : state.passWindow catalog player window = .ok next) :
    player = window.holder ∧ ∃ remaining, remaining.events = window.events ∧
      (next = ({ state with window := some remaining }.record (.priorityPassed player)).closeWindow ∨
      next = (advanceWindow catalog maxPasses
        ({ state with window := some remaining }.record (.priorityPassed player))).announceClosing) := by
  simp only [passWindow, bind_eq_ok, Prod.exists] at passed
  obtain ⟨outcome, remaining, accepted, rest⟩ := passed
  have own : player = window.holder := by
    rw [ResponseWindow.pass, ite_error_eq_ok] at accepted
    simpa using accepted.1
  refine ⟨own, remaining, ResponseWindow.pass_events accepted, ?_⟩
  split at rest
  · exact .inl (pure_eq_ok.mp rest).symm
  · exact .inr (pure_eq_ok.mp rest).symm

/-! What follows by itself -/

/-- What each link keeps while the duel goes on is kept by links one after the other. -/
theorem resolveLinks_keeps (kept : GameState → Prop)
    (resolves : ∀ (state : GameState) (link : ChainLink) (chain : Chain), kept state →
      state.outcome = none → state.chain.pop? = some (link, chain) →
        kept ({ state with chain := chain }.resolveLink catalog link).1)
    (links : Nat) (resolved : Nat) (start : kept state) :
    kept (resolveLinks catalog links state resolved).1 := by
  induction links generalizing state resolved with
  | zero => exact start
  | succ links ih =>
    rw [resolveLinks]
    split
    · exact start
    · next goesOn =>
      split
      · exact start
      · next link chain popped =>
        exact ih (resolved + 1) (resolves state link chain start (by simpa using goesOn) popped)

/-- Settling opens a window for pending events, or resolves the attack if there are none. -/
theorem settleStep?_eq_some (taken : state.settleStep? catalog = some next) :
    state.canPass = false ∧
      (state.pendingEvents ≠ [] ∧ next = state.openWindow catalog ∨
        state.pendingEvents = [] ∧ state.pendingAttack.isSome = true ∧
          next = state.resolveAttack catalog) := by
  rw [settleStep?] at taken
  split at taken
  · cases taken
  · next free =>
    refine ⟨by simpa using free, ?_⟩
    split at taken
    · next waiting => exact .inl ⟨by simpa using waiting, (Option.some.inj taken).symm⟩
    · next quiet =>
      split at taken
      · next attacked =>
        exact .inr ⟨by simpa using quiet, attacked, (Option.some.inj taken).symm⟩
      · cases taken

/--
What each step of settling keeps while the duel goes on is kept until the end, be it the end of the duel, after
which nothing waits, or a state in which nothing more happens by itself.
-/
theorem settle_keeps (kept settled : GameState → Prop)
    (ends : ∀ state, kept state → state.outcome.isSome = true → settled state.clearWaiting)
    (rests : ∀ state, kept state → settled state)
    (steps : ∀ state next, kept state → state.outcome = none →
      state.settleStep? catalog = some next → kept next)
    (start : kept state) : settled (state.settle catalog) := by
  rw [settle]
  generalize maxSettleSteps = bound
  induction bound generalizing state with
  | zero =>
    rw [settleWithin]
    split
    · next ended => exact ends state start ended
    · exact rests state start
  | succ bound ih =>
    rw [settleWithin]
    split
    · next ended => exact ends state start ended
    · next goesOn =>
      split
      · next next taken => exact ih (steps state next start (by simpa using goesOn) taken)
      · exact rests state start

/-! Whole steps -/

/-- This is the state that is handed back after an action. -/
def handedBack (acted : GameState) (catalog : Catalog) : GameState :=
  let settled := (acted.sweep catalog).settle catalog
  { settled with version := settled.version + 1 }

theorem step_eq_ok {action : Action} :
    state.step rules player action = .ok next ↔
      state.outcome = none ∧ ∃ acted, state.dispatch rules player action = .ok acted ∧
        acted.handedBack rules.catalog = next := by
  simp only [step, bind_eq_ok, pure_eq_ok, ensureRunning_eq_ok, exists_const]
  rfl

/-- Only a pass and the end of a turn are done for a player who is out of time. -/
theorem timeoutAction_eq_ok {action : Action} (given : state.timeoutAction player = .ok action) :
    action = .passPriority ∨ action = .endTurn := by
  rw [timeoutAction.eq_def] at given
  split at given
  · exact .inl (Except.ok.inj given).symm
  · split at given
    · exact .inr (Except.ok.inj given).symm
    · simp at given

theorem timeout_eq_ok (accepted : state.timeout rules player = .ok next) :
    ∃ action, (action = .passPriority ∨ action = .endTurn) ∧
      state.step rules player action = .ok next := by
  simp only [timeout, bind_eq_ok] at accepted
  obtain ⟨_, _, action, given, stepped⟩ := accepted
  exact ⟨action, timeoutAction_eq_ok given, stepped⟩

end GameState

end CardDuel
