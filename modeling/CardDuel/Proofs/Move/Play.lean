/-
This file shows that every action, everything that follows from it by itself and so every run of a duel
is made of moves.
-/

import CardDuel.Proofs.Flow.Loss
import CardDuel.Proofs.Flow.Shape
import CardDuel.Proofs.Flow.Trigger
import CardDuel.Proofs.Legal.Activations
import CardDuel.Proofs.Legal.Turns
import CardDuel.Proofs.Limit.Records
import CardDuel.Proofs.Move.Basic

namespace CardDuel

/-- The link that is taken off a chain is its last one. -/
theorem Chain.pop?_eq_some {chain rest : Chain} {link : ChainLink}
    (popped : chain.pop? = some (link, rest)) :
    chain.links = rest.links ++ [link] ∧ rest.status = chain.status := by
  obtain ⟨top, last, same⟩ := Option.map_eq_some_iff.mp popped
  obtain ⟨rfl, rfl⟩ := Prod.mk.inj same
  obtain ⟨others, split⟩ := List.getLast?_eq_some_iff.mp last
  refine ⟨?_, rfl⟩
  rw [split, List.dropLast_concat]

theorem Chain.beginResolving_links (chain : Chain) : chain.beginResolving.links = chain.links := by
  rw [beginResolving]
  split <;> rfl

namespace GameState

variable {state next : GameState} {rules : Rules} {ways : Placement → Prop} {player : Seat}
  {card : InstanceId}

/-! Sweeps -/

/-- The end of a duel is an act. -/
theorem endDuel_acts (state : GameState) (result : GameResult) :
    Acts rules ways state (state.endDuel result) := by
  rw [endDuel]
  split
  · exact .refl state
  · next running => exact .of_act (.finish (by simpa using running) result)

/-- The check for a loss is made of acts. -/
theorem checkLoss_acts (state : GameState) : Acts rules ways state state.checkLoss := by
  rw [checkLoss]
  split
  · exact endDuel_acts state _
  · exact .refl state

/-- The sweep is made of acts. -/
theorem sweep_acts (state : GameState) (catalog : Catalog) :
    Acts rules ways state (state.sweep catalog) :=
  (Acts.of_deeds (state.destroyAllMarked_deeds catalog)).trans (checkLoss_acts _)

theorem sweep_moves (state : GameState) (catalog : Catalog) :
    Moves rules ways state (state.sweep catalog) := .of_acts (sweep_acts state catalog)

/-! Turns -/

/-- In an open state of a duel in order nothing waits. -/
theorem Orderly.free (orderly : state.Orderly) (quiet : state.isOpen = true) : state.Free := by
  obtain ⟨idle, _, peaceful⟩ := isOpen_iff.mp quiet
  refine ⟨?_, peaceful⟩
  rcases orderly.chained with ⟨unlinked, _⟩ | ⟨_, waiting⟩
  · exact unlinked
  · simp [idle] at waiting

/-- From a free state, a phase is entered by acts. -/
theorem enterPhase_acts (free : state.Free) (phase : Phase) :
    Acts rules ways state (state.enterPhase phase) := .of_act (.enter state free phase)

theorem Free.enterPhase (free : state.Free) (phase : Phase) : (state.enterPhase phase).Free :=
  ⟨free.unlinked, free.peaceful⟩

/-- A turn is passed without a new chain or attack. -/
theorem Free.passTurn (free : state.Free) (seat : Seat) : (state.passTurn seat).Free :=
  ⟨rfl, free.peaceful⟩

/-- The draw of a turn is made of acts. -/
theorem drawForTurn_acts (state : GameState) (seat : Seat) :
    Acts rules ways state (state.drawForTurn seat) := by
  rw [drawForTurn]
  split
  · refine .of_deeds (Change.applyPossible_deeds ?_ state)
    intro current change drawn
    obtain rfl := List.mem_singleton.mp drawn
    exact .plain current _ rfl rfl
  · exact .of_aside (.modifyPlayer state seat (fun _ => rfl) fun _ => rfl)

/-- Up to its draw a turn is made of acts, and nothing waits then. -/
theorem drawn_acts (free : state.Free) :
    Acts rules ways state (state.drawn rules) ∧ (state.drawn rules).Free := by
  have passed := free.passTurn state.nextPlayer
  have begun : Acts rules ways state ((state.passTurn state.nextPlayer).enterPhase .draw) :=
    (Acts.of_act (.newTurn state free state.nextPlayer)).trans (enterPhase_acts passed .draw)
  refine ⟨?_, (passed.enterPhase .draw).course (drawn_frame state rules).toCourse⟩
  rw [drawn]
  split
  · exact begun.trans (drawForTurn_acts _ _)
  · exact begun

/-- From a free state, a turn is started by acts. -/
theorem startTurn_acts (free : state.Free) : Acts rules ways state (state.startTurn rules) := by
  obtain ⟨acts, still⟩ : Acts rules ways state (state.drawn rules) ∧ (state.drawn rules).Free :=
    drawn_acts free
  have swept := acts.trans (sweep_acts (state.drawn rules) rules.catalog)
  have ready := still.course (sweep_course (state.drawn rules) rules.catalog)
  rw [startTurn_eq]
  split
  · exact swept
  · exact (swept.trans (enterPhase_acts ready .standby)).trans
      (enterPhase_acts (ready.enterPhase .standby) .main1)

/-- The discards at the end of a turn are acts. -/
theorem discardToLimit_acts (state : GameState) (seat : Seat) (limit : Nat) :
    Acts rules ways state (state.discardToLimit seat limit) := by
  refine Acts.foldl ?_ _ state
  intro current card
  rw [discardExcess]
  split
  · next made =>
    exact (Acts.of_deeds (.change (.plain current _ rfl rfl) made)).trans (.note _ rfl)
  · exact .refl current

/-- From a free state, the end of a turn up to the sweep is made of acts. -/
theorem wound_acts (free : state.Free) : Acts rules ways state (state.wound rules) := by
  have discarded : Acts rules ways state
      ((state.enterPhase .ending).discardToLimit state.turnPlayer rules.config.handLimit) :=
    (enterPhase_acts free .ending).trans (discardToLimit_acts _ _ _)
  exact discarded.trans (.of_aside (.expire .endOfTurn))

/-- From a free state, a turn is ended by acts. -/
theorem endTurn_acts (free : state.Free) (ended : state.endTurn rules = .ok next) :
    Acts rules ways state next := by
  obtain ⟨_, rfl⟩ := (endTurn_eq_ok state rules).mp ended
  have swept : Acts rules ways state ((state.wound rules).sweep rules.catalog) :=
    (wound_acts free).trans (sweep_acts (state.wound rules) rules.catalog)
  have course := (wound_frame state rules).toCourse.trans
    (sweep_course (state.wound rules) rules.catalog)
  split
  · exact swept
  · exact swept.trans (startTurn_acts ((free.enterPhase .ending).course course))

/-! Chains -/

/-- A link is resolved by acts, whether its effect works, is negated or fails. -/
theorem resolveLink_acts {link : ChainLink} {chain : Chain} (running : state.outcome = none)
    (popped : state.chain.pop? = some (link, chain)) :
    Acts rules ways state ({ state with chain := chain }.resolveLink rules.catalog link).1 := by
  have resolved : Acts rules ways state ({ state with chain := chain }.spent rules.catalog link) :=
    .of_act (.resolve running popped)
  exact resolved.trans (sweep_acts _ rules.catalog)

/-- Links are resolved one after the other by acts. -/
theorem resolveLinks_acts (links : Nat) (state : GameState) (resolved : Nat) :
    Acts rules ways state (resolveLinks rules.catalog links state resolved).1 := by
  refine resolveLinks_keeps (Acts rules ways state) ?_ links resolved (.refl state)
  intro before link chain acts running popped
  exact acts.trans (resolveLink_acts running popped)

/-- While the duel goes on, all links are resolved. -/
theorem resolveLinks_drains (catalog : Catalog) {links : Nat} {state : GameState} (resolved : Nat)
    (count : state.chain.links.length = links) :
    (resolveLinks catalog links state resolved).1.outcome = none →
      (resolveLinks catalog links state resolved).1.chain.links = [] := by
  induction links generalizing state resolved with
  | zero => exact fun _ => List.length_eq_zero_iff.mp count
  | succ links ih =>
    rw [resolveLinks]
    split
    · next ended =>
      intro running
      dsimp only at running
      simp [running] at ended
    · split
      · next still =>
        intro _
        rw [Chain.pop?, Option.map_eq_none_iff, Chain.top?] at still
        exact List.getLast?_eq_none_iff.mp still
      · next link chain popped =>
        have split := congrArg List.length (Chain.pop?_eq_some popped).1
        have same := congrArg List.length
          (resolveLink_course { state with chain := chain } catalog link).links
        simp only [List.length_map, List.length_append, List.length_singleton] at split same
        exact ih (resolved + 1) (by omega)

/-- A window is closed by acts. -/
theorem closeWindow_acts (state : GameState) : Acts rules ways state state.closeWindow := by
  rw [closeWindow]
  split
  · exact (Acts.of_aside (.setWindow (.none _))).trans (.note _ rfl)
  · exact .refl state

/-- A chain is resolved by acts. -/
theorem resolveChain_acts (state : GameState) :
    Acts rules ways state (state.resolveChain rules.catalog) := by
  have begun : Acts rules ways state { state with chain := state.chain.beginResolving } :=
    .of_act (.answer state state.chain.beginResolving_links)
  have drained : Acts rules ways state (state.drained rules.catalog).1 :=
    begun.trans (resolveLinks_acts _ _ 0)
  have empties : (state.drained rules.catalog).1.outcome = none →
      (state.drained rules.catalog).1.chain.links = [] := resolveLinks_drains rules.catalog 0 rfl
  have cleared := drained.trans (.of_act (.clear empties (state.drained rules.catalog).1.turnPlayer))
  rw [resolveChain_eq]
  exact (cleared.trans (.note _ rfl)).trans (closeWindow_acts _)

/-- A pass on a chain is made of acts. -/
theorem passChain_acts (passed : state.passChain rules player = .ok next) :
    Acts rules ways state next := by
  obtain ⟨_, chain, accepted, rfl⟩ := passChain_eq_ok.mp passed
  have told : Acts rules ways state ({ state with chain := chain }.record (.priorityPassed player)) :=
    (Acts.of_act (.answer state (pass_eq_ok accepted).2.1)).trans (.note _ rfl)
  split
  · exact told.trans (resolveChain_acts _)
  · exact told

/-! Windows -/

theorem announceClosing_acts (state : GameState) : Acts rules ways state state.announceClosing := by
  rw [announceClosing]
  split
  · exact .note state rfl
  · exact .refl state

theorem announceWindow_acts (state : GameState) : Acts rules ways state state.announceWindow := by
  rw [announceWindow]
  split
  · exact .note state rfl
  · exact .refl state

/-- A pass in a window is made of acts. -/
theorem passWindow_acts {window : ResponseWindow} {catalog : Catalog}
    (opened : state.window = some window)
    (passed : state.passWindow catalog player window = .ok next) : Acts rules ways state next := by
  obtain ⟨_, remaining, same, result⟩ := passWindow_eq_ok passed
  have told : Acts rules ways state
      ({ state with window := some remaining }.record (.priorityPassed player)) :=
    (Acts.of_aside (.setWindow (opened ▸ .some same))).trans (.note _ rfl)
  rcases result with rfl | rfl
  · exact told.trans (closeWindow_acts _)
  · obtain ⟨left, kept, moved⟩ := advanceWindow_eq catalog maxPasses
      ({ state with window := some remaining }.record (.priorityPassed player))
    rw [moved]
    exact (told.trans (.of_aside (.setWindow kept))).trans (announceClosing_acts _)

/-- A pass is made of acts, whatever it answers. -/
theorem passPriority_acts (passed : state.passPriority rules player = .ok next) :
    Acts rules ways state next := by
  rw [passPriority.eq_def] at passed
  split at passed
  · split at passed
    · next opened => exact passWindow_acts opened passed
    · simp at passed
  · exact passChain_acts passed

/-! Mandatory triggers -/

/-- This tells that a trigger may be used as it was collected. -/
structure Ready (state : GameState) (catalog : Catalog) (trigger : TriggeredEffect)
    (effect : CardEffect) : Prop where
  known : catalog.effect? trigger.card trigger.effect = some effect
  kind : effect.kind = .trigger
  speed : trigger.speed = effect.speed
  allowed : state.activations.check trigger.source trigger.effect effect.limit = .ok ()
  printed : ∃ found, state.card? trigger.source = some found ∧ trigger.card = found.card

variable {catalog : Catalog} {trigger other : TriggeredEffect} {effect : CardEffect}

/-- A trigger goes on the chain with its own speed, at any time. -/
theorem Ready.timely (ready : state.Ready catalog trigger effect) {listed : CardEffect}
    (known : catalog.effect? trigger.card trigger.effect = some listed) :
    trigger.speed = listed.speed ∧
      (listed.kind = .trigger ∨ listed.speed ≠ .one ∨ state.Leisure trigger.controller) := by
  obtain rfl := Option.some.inj (ready.known.symm.trans known)
  exact ⟨ready.speed, .inl ready.kind⟩

/-- A trigger that is ready is put on the chain by acts. -/
theorem chainTrigger_acts (stays : ways .stay) (ready : state.Ready rules.catalog trigger effect) :
    Acts rules ways state (chainTrigger rules.catalog state trigger) := by
  rcases chainTrigger_cases rules.catalog state trigger with same | ⟨_, paid, _, pays, same⟩
  · rw [same]
    exact .refl state
  · rw [same]
    obtain ⟨found, known, printed⟩ := ready.printed
    have may : state.MayUse rules.catalog (paid.triggerLink trigger) :=
      ⟨⟨found, effect, known, printed, ready.known, ready.allowed, .inl ⟨rfl, ready.kind⟩⟩,
        fun other listed => ready.timely listed, fun target member => by simp [triggerLink] at member⟩
    have waits : ∀ listed, rules.catalog.effect? trigger.card trigger.effect = some listed →
        listed.kind ≠ .activate := by
      intro listed given
      obtain rfl := Option.some.inj (ready.known.symm.trans given)
      simp [ready.kind]
    refine .of_act (.use may (payTriggerCost_deeds (.plain state _ rfl rfl)
      (fun amount enough => .free enough rfl) pays) (.stay _ waits) (.refl _) ?_ stays)
    intro later there
    change paid.card? trigger.source = some later at there
    simp [triggerLink, there]

/-- A trigger stays ready while another one goes on the chain. -/
theorem Ready.chainTrigger (ready : state.Ready catalog other effect)
    (different : other.subject ≠ trigger.subject) :
    (chainTrigger catalog state trigger).Ready catalog other effect := by
  obtain ⟨found, known, printed⟩ := ready.printed
  obtain ⟨same, there, stays⟩ := (chainTrigger_shifts state catalog trigger).printed known
  refine ⟨ready.known, ready.kind, ready.speed, ?_, same, there, printed.trans stays.symm⟩
  rcases chainTrigger_cases catalog state trigger with skipped | ⟨_, paid, _, pays, chained⟩
  · rw [skipped]
    exact ready.allowed
  · have deeds : Deeds (fun _ _ => True) state paid :=
      payTriggerCost_deeds trivial (fun _ _ => trivial) pays
    have counted := deeds.quiet.activations
    rw [chained]
    show (paid.activations.record trigger.source trigger.effect).check other.source other.effect
      effect.limit = .ok ()
    rw [counted, Activations.check_record_of_ne _ _ _ _ _ different]
    exact ready.allowed

/-- Triggers that are ready are put on the chain by acts, one after the other. -/
theorem chainTriggers_acts (stays : ways .stay) {triggers : List TriggeredEffect}
    (single : (triggers.map TriggeredEffect.subject).Nodup)
    (ready : ∀ trigger ∈ triggers, ∃ effect, state.Ready rules.catalog trigger effect) :
    Acts rules ways state (triggers.foldl (chainTrigger rules.catalog) state) := by
  induction triggers generalizing state with
  | nil => exact .refl state
  | cons trigger rest ih =>
    obtain ⟨fresh, others⟩ := List.nodup_cons.mp single
    obtain ⟨effect, first⟩ := ready trigger (List.mem_cons_self ..)
    refine (chainTrigger_acts stays first).trans (ih others ?_)
    intro other member
    obtain ⟨own, waits⟩ := ready other (List.mem_cons_of_mem trigger member)
    refine ⟨own, waits.chainTrigger fun same => fresh ?_⟩
    exact same ▸ List.mem_map_of_mem member

/-- Whatever watches an event is not in the deck. -/
theorem canWatch_away {found : CardInstance} {subject : TriggerSubject}
    (watches : canWatch found subject = true) : found.zone ≠ .deck := by
  intro hidden
  cases subject with
  | this => simp [canWatch, hidden] at watches
  | any => simp [canWatch, CardInstance.isFaceUpOnField, CardInstance.isOnField, hidden,
      Zone.isField] at watches

/-- What is collected is ready. -/
theorem Anchored.ready (anchored : state.Anchored) {events : List GameEvent}
    (member : trigger ∈ state.collectTriggers catalog events) :
    ∃ effect, state.Ready catalog trigger effect := by
  obtain ⟨card, effect, spec, follows⟩ := collectTriggers_follows member
  obtain ⟨_, allowed⟩ := follows.allowed
  refine ⟨effect, follows.printed ▸ follows.known, follows.kind, follows.speed,
    follows.source ▸ allowed, card, ?_, follows.printed⟩
  rw [follows.source]
  exact anchored.card?_id follows.there (canWatch_away follows.watches)

/-- Once the events are taken, the mandatory triggers are acts. -/
theorem triggered_acts (stays : ways .stay) (anchored : state.Anchored) :
    Acts rules ways { state with pendingEvents := [] } (state.triggered rules.catalog) := by
  have still : Still state { state with pendingEvents := [] } := ⟨rfl, fun _ => rfl⟩
  apply chainTriggers_acts stays
  · exact (nodup_collectTriggers _ _ _).sublist (List.filter_sublist.map _)
  · intro trigger member
    exact (anchored.still still).ready (List.mem_filter.mp member).1

/-- A window is opened by moves. -/
theorem openWindow_moves (stays : ways .stay) (anchored : state.Anchored) :
    Moves rules ways state (state.openWindow rules.catalog) := by
  obtain ⟨window, _, same⟩ := state.openWindow_eq rules.catalog
  have taken : Moves rules ways state { state with pendingEvents := [] } :=
    .of_move (.offer state [] state.window)
  have offered := (taken.trans (.of_acts (triggered_acts stays anchored))).trans
    (.of_move (.offer _ (state.triggered rules.catalog).pendingEvents window))
  rw [same]
  exact offered.trans (.of_acts (announceWindow_acts _))

/-! Battles -/

/-- A card that still stands is there. -/
theorem stillStands_knows {moves : UInt32} (stands : state.stillStands card moves = true) :
    state.Knows card := by
  rw [stillStands, Option.any_eq_true] at stands
  obtain ⟨found, known, _⟩ := stands
  exact knows_iff.mpr (by simp [known])

/-- A battle changes only what the rules allow. -/
theorem battleChanges_mayMake (catalog : Catalog) (outcome : BattleOutcome) (state : GameState) :
    ∀ change ∈ outcome.changes, catalog.MayMake state change := by
  intro change member
  rcases List.mem_append.mp member with marked | hurt
  · obtain ⟨target, _, rfl⟩ := List.mem_map.mp marked
    exact .plain state _ rfl rfl
  · obtain ⟨damage, _, rfl⟩ := List.mem_map.mp hurt
    exact .plain state _ rfl rfl

/-- A battle of cards that stand is made of deeds; then it is told of and swept. -/
theorem fight_deeds {attack : PendingAttack} (catalog : Catalog)
    (there : state.stillStands attack.attacker attack.attackerMoves = true)
    (stands : state.targetStands attack = true) :
    ∃ fought, Deeds catalog.MayMake state fought ∧ state.fight catalog attack =
      (fought.record (.battleResolved attack.attacker attack.target)).sweep catalog := by
  have revealed : Deeds catalog.MayMake state (state.revealTarget catalog attack.target) := by
    apply revealTarget_deeds _ catalog attack.target
    intro target aimed
    refine .free ⟨rfl, ?_⟩ rfl
    intro found known
    rw [targetStands.eq_def, Option.mem_def.mp aimed] at stands
    simp [stillStands, known] at stands
    exact stands.1
  have stays := revealed.shifts.knows_iff.mpr (stillStands_knows there)
  rw [fight]
  split
  · next gone => simp [knows_iff, gone] at stays
  · exact ⟨_, revealed.trans (Change.applyPossible_deeds (battleChanges_mayMake catalog _) _), rfl⟩

/-- An attack is resolved by acts. -/
theorem resolveAttack_acts (state : GameState) :
    Acts rules ways state (state.resolveAttack rules.catalog) := by
  rw [resolveAttack]
  split
  · exact .refl state
  · next attack waits =>
    dsimp only
    split
    · next both =>
      obtain ⟨there, stands⟩ := Bool.and_eq_true_iff.mp both
      obtain ⟨fought, deeds, same⟩ := fight_deeds rules.catalog there stands
      rw [same]
      exact (Acts.of_act (.conclude waits deeds (.inr rfl))).trans (sweep_acts _ _)
    · exact .of_act (.conclude waits (.refl _) (.inl rfl))

/-! Settling -/

/-- Each step of settling is made of moves. -/
theorem settleStep?_moves (stays : ways .stay) (anchored : state.Anchored)
    (taken : state.settleStep? rules.catalog = some next) : Moves rules ways state next := by
  obtain ⟨_, ⟨_, rfl⟩ | ⟨_, _, rfl⟩⟩ := settleStep?_eq_some taken
  · exact openWindow_moves stays anchored
  · exact .of_acts (resolveAttack_acts state)

/-- Settling is made of moves. -/
theorem settle_moves (stays : ways .stay) (anchored : state.Anchored) :
    Moves rules ways state (state.settle rules.catalog) := by
  refine settle_keeps (Moves rules ways state) (Moves rules ways state) ?_ (fun _ moves => moves) ?_
    (.refl state)
  · intro last moves ended
    exact moves.trans (.of_move (.drop ended))
  · intro before after moves _ taken
    exact moves.trans (settleStep?_moves stays (moves.shifts.anchored anchored) taken)

/-! Actions -/

/-- A cost that was checked may be paid as long as the life points are as they were. -/
theorem costChanges_deeds {catalog : Catalog} {cost : Option Cost} {paid : List InstanceId}
    {placed : GameState} (checked : state.checkCost cost player card paid = .ok ())
    (lives : SameLife state placed)
    (pays : placed.applyChanges (costChanges player card paid cost) = .ok next) :
    Deeds catalog.MayMake placed next := by
  cases cost with
  | none => exact applyChanges_deeds (by simp [costChanges]) pays
  | some cost =>
    rw [checkCost.eq_def, guard_eq_ok] at checked
    obtain ⟨_, rest⟩ := checked
    rw [costChanges.eq_def] at pays
    cases resource : cost.resource with
    | lifePoints =>
      simp only [resource] at rest pays
      rw [applyChanges_singleton] at pays
      refine applyChange_deeds (.free ?_ rfl) pays
      show cost.amount ≤ (placed.player player).life
      rw [(lives player).1, ← UInt32.not_lt]
      intro poor
      simp [poor, throw_eq_ok] at rest
    | this =>
      simp only [resource] at pays
      rw [applyChanges_singleton] at pays
      exact applyChange_deeds (.plain placed _ rfl rfl) pays
    | _ =>
      simp only [resource] at pays
      refine applyChanges_deeds ?_ pays
      intro current change member
      obtain ⟨id, _, rfl⟩ := List.mem_map.mp member
      exact .plain current _ rfl rfl

/-- A card is placed as it was checked. -/
theorem placementChanges_placing {catalog : Catalog} {link : ChainLink} {found : CardInstance}
    {template : CardTemplate} {effect : CardEffect} {placement : Placement} {told placed : GameState}
    (known : told.card? link.source = some found)
    (printed : catalog.get? link.card = some template)
    (listed : catalog.effect? link.card link.effect = some effect)
    (places : Places state player found template.kind effect placement)
    (made : told.applyChanges (placementChanges link.source placement) = .ok placed) :
    Placing catalog link placement told placed := by
  have activates (kind : effect.kind = .activate) (spell : template.kind.isMonster = false) :
      catalog.Activates link :=
    ⟨⟨effect, listed, kind⟩, fun other given => Option.some.inj (printed.symm.trans given) ▸ spell⟩
  cases places with
  | stay otherwise =>
    obtain rfl : told = placed := by simpa [placementChanges, applyChanges, pure_eq_ok] using made
    exact .stay told fun other given => Option.some.inj (listed.symm.trans given) ▸ otherwise
  | fromHand kind spell hand room =>
    exact .enter (activates kind spell) known hand
      (mapError_eq_ok.mp (applyChanges_singleton.mp made))
  | flip kind spell spells =>
    exact .turn (activates kind spell) known spells
      (mapError_eq_ok.mp (applyChanges_singleton.mp made))

/-- A card is placed without a change of life points. -/
theorem Placing.sameLife {catalog : Catalog} {link : ChainLink} {way : Placement} {placed : GameState}
    (placing : Placing catalog link way state placed) : SameLife state placed := by
  cases placing with
  | stay otherwise => exact .refl state
  | enter activates known hand made => exact .placeSpell made
  | turn activates known spells made => exact .changePosition made

/-- Targets that exist are all bound. -/
theorem length_bindTargets {targets : List InstanceId} (all : ∀ target ∈ targets, state.Knows target) :
    (state.bindTargets targets).length = targets.length := by
  induction targets with
  | nil => rfl
  | cons target rest ih =>
    obtain ⟨found, known⟩ := Option.isSome_iff_exists.mp
      (knows_iff.mp (all target (List.mem_cons_self ..)))
    have others := ih fun other member => all other (List.mem_cons_of_mem target member)
    rw [bindTargets] at others ⊢
    simp [known, others]

/-- Only cards that exist are bound. -/
theorem bindTargets_knows {targets : List InstanceId} :
    ∀ bound ∈ state.bindTargets targets, state.Knows bound.card := by
  intro bound member
  obtain ⟨target, _, given⟩ := List.mem_filterMap.mp member
  obtain ⟨found, known, rfl⟩ := Option.map_eq_some_iff.mp given
  exact knows_iff.mpr (by simp [known])

/-- While the moment is open nothing waits. -/
theorem timing_eq_whenOpen (now : state.timing = .ok .whenOpen) :
    state.chain.links = [] ∧ state.window = none ∧ state.pendingAttack = none := by
  rw [timing.eq_def] at now
  split at now
  · simp at now
  · next empty =>
    split at now
    · simp at now
    · next closed =>
      obtain ⟨peaceful, _⟩ := ite_error_eq_ok.mp now
      exact ⟨List.getLast?_eq_none_iff.mp empty, by simpa using closed, by simpa using peaceful⟩

/-- An effect of the lowest speed that is not a trigger is activated at leisure only. -/
theorem checkTiming_leisure {effect : CardEffect} {moment : Timing}
    (now : state.timing = .ok moment) (fast : state.checkTiming effect player moment = .ok ()) :
    effect.kind = .trigger ∨ effect.speed ≠ .one ∨ state.Leisure player := by
  by_cases trigger : effect.kind = .trigger
  · exact .inl trigger
  by_cases slow : effect.speed = .one
  · right; right
    rw [checkTiming.eq_def, if_neg trigger, if_pos slow] at fast
    cases moment with
    | onChain top => simp at fast
    | inWindow => simp at fast
    | whenOpen =>
      simp only [ite_error_eq_ok, not_not, Bool.not_eq_true', Bool.not_eq_false] at fast
      obtain ⟨own, main, _⟩ := fast
      obtain ⟨unlinked, closed, peaceful⟩ := timing_eq_whenOpen now
      exact ⟨⟨unlinked, peaceful⟩, closed, own, main⟩
  · exact .inr (.inl slow)

/-- An accepted activation is a use, after which the window may offer less and the table is swept. -/
theorem activate_use {index : Nat} {targets paid : List InstanceId}
    (activated : state.activate rules.catalog player card index targets paid = .ok next)
    (allowed : ∀ plan, state.checkActivation rules.catalog player card index = .ok plan →
      ways plan.placement) :
    ∃ used window, Act rules ways state used ∧ ResponseWindow.Kept used.window window ∧
      next = { used with window := window }.sweep rules.catalog := by
  obtain ⟨plan, checked, chosen, placed, places, payed, pays, source, held, _, pushed, rfl⟩ :=
    activate_eq_ok.mp activated
  obtain ⟨_, rfl⟩ := pushLink_eq_ok.mp pushed
  obtain ⟨found, template, moment, ⟨known, _⟩, printed, listed, now, fast, checkedPlace⟩ :=
    checkActivation_eq_ok checked
  obtain ⟨_, targeted, affords⟩ := bind_eq_ok.mp chosen
  obtain ⟨count, exist⟩ := checkTargets_known targeted
  have shifts : Shifts state payed := ((Shifts.of_still (.record state _)).trans
    (applyChanges_edits places).shifts).trans (applyChanges_edits pays).shifts
  obtain ⟨_, heldToo, same⟩ := shifts.printed known
  obtain rfl := Option.some.inj (held.symm.trans heldToo)
  have there : rules.catalog.effect? source.card index = some plan.effect := by
    rw [Catalog.effect?, same, printed]
    exact listed
  have bound : (payed.bindTargets targets).length = plan.effect.targetCount :=
    (length_bindTargets fun target member =>
      shifts.knows_iff.mpr (knows_iff.mpr (exist target member))).trans count
  have may : state.MayUse rules.catalog
      ((payed.noteActivation card index).linkOf source card index player plan.effect.speed
        targets) := by
    refine ⟨⟨found, plan.effect, known, same, there, checkActivation_limit checked, .inr bound⟩, ?_,
      fun target member => shifts.knows_iff.mp (bindTargets_knows target member)⟩
    intro effect given
    obtain rfl := Option.some.inj (there.symm.trans given)
    exact ⟨rfl, checkTiming_leisure now fast⟩
  have placing : Placing rules.catalog ((payed.noteActivation card index).linkOf source card index
      player plan.effect.speed targets) plan.placement
      (state.record (.effectActivated card index player)) placed := by
    refine placementChanges_placing known ?_ there (placementFor_places checkedPlace) places
    show rules.catalog.get? source.card = some template
    rw [same]
    exact printed
  have costs : Deeds rules.catalog.MayMake placed payed :=
    costChanges_deeds affords placing.sameLife pays
  have used : Act rules ways state (payed.used ((payed.noteActivation card index).linkOf source card
      index player plan.effect.speed targets)) := by
    refine .use may (.refl state) placing costs ?_ (allowed plan checked)
    intro later known
    obtain rfl := Option.some.inj (held.symm.trans known)
    rfl
  exact ⟨_, payed.window.map fun window => window.take card index, used, .map _ fun _ => rfl,
    congrArg (fun acted : GameState => acted.sweep rules.catalog) rfl⟩

/-- An activation that is allowed is made of acts. -/
theorem activate_acts {index : Nat} {targets paid : List InstanceId}
    (activated : state.activate rules.catalog player card index targets paid = .ok next)
    (allowed : ∀ plan, state.checkActivation rules.catalog player card index = .ok plan →
      ways plan.placement) : Acts rules ways state next := by
  obtain ⟨used, window, act, kept, rfl⟩ := activate_use activated allowed
  exact ((Acts.of_act act).trans (.of_aside (.setWindow kept))).trans (sweep_acts _ _)

/-- A monster stays a monster while cards are moved. -/
theorem Shifts.isMonster {before after : GameState} (shifts : Shifts before after)
    {found later : CardInstance} (known : before.card? card = some found)
    (there : after.card? card = some later) : later.isMonster = found.isMonster := by
  obtain ⟨kept, present, same⟩ := shifts.card_at known
  obtain rfl := Option.some.inj (there.symm.trans present)
  rw [CardInstance.isMonster, CardInstance.isMonster,
    show later.category = found.category from congrArg CardIdentity.category same]

/-- A normal summon is made of acts. -/
theorem normalSummon_acts {config : DuelConfig} {tributes : List InstanceId} {isSet : Bool}
    (summoned : state.normalSummon config player card tributes isSet = .ok next) :
    Acts rules ways state next := by
  obtain ⟨_, _, plan, checked, placed, made, rfl⟩ := normalSummon_eq_ok.mp summoned
  obtain ⟨found, may, rfl⟩ := validateNormalSummon_eq_ok.mp checked
  obtain ⟨tributed, first, last⟩ := applyChanges_append.mp made
  have tributing : Deeds rules.catalog.MayMake state tributed := by
    refine applyChanges_deeds ?_ first
    intro current change member
    obtain ⟨tribute, _, rfl⟩ := List.mem_map.mp member
    exact .plain current _ rfl rfl
  have placing : Deeds rules.catalog.MayMake tributed placed := by
    refine applyChange_deeds ?_ (applyChanges_singleton.mp last)
    cases isSet with
    | true =>
      refine .free ?_ rfl
      intro later there
      rw [tributing.shifts.isMonster may.known there]
      exact may.monster
    | false =>
      refine .plain tributed _ ?_ rfl
      simp only [placement, summonPlan, Bool.false_eq_true, if_false]
      split <;> rfl
  exact (Acts.of_deeds (tributing.trans placing)).trans
    (.of_aside (.modifyPlayer placed player (fun _ => rfl) fun _ => rfl))

/-- A set card is placed by acts. -/
theorem setCard_acts {config : DuelConfig} {tributes : List InstanceId}
    (placed : state.setCard config player card tributes = .ok next) : Acts rules ways state next := by
  obtain ⟨found, known, ⟨_, summoned⟩ | ⟨spell, _, _, _, _, made⟩⟩ := setCard_eq_ok.mp placed
  · exact normalSummon_acts summoned
  · have lawful : (Change.placeSpell card false).Lawful state :=
      ⟨rfl, fun other there => Option.some.inj (known.symm.trans there) ▸ spell⟩
    exact .of_deeds (applyChange_deeds (.free lawful rfl) made)

/-- A special summon is made of acts. -/
theorem specialSummon_acts (summoned : state.specialSummon catalog player card = .ok next) :
    Acts rules ways state next := by
  obtain ⟨_, _, _, made⟩ := specialSummon_eq_ok.mp summoned
  exact .of_deeds (applyChange_deeds (.plain state _ rfl rfl) made)

/-- A card stays in its zone while it is turned. -/
theorem changePosition_zone {found later : CardInstance} {position : Position}
    (made : state.applyChange (.changePosition card position) = .ok next)
    (known : state.card? card = some found) (there : next.card? card = some later) :
    later.zone = found.zone := by
  simp only [applyChange, mapError_eq_ok, Change.apply, bind_eq_ok, pure_eq_ok,
    onField_eq_ok] at made
  obtain ⟨_, ⟨_, _, _, rfl⟩, rfl⟩ := made
  rw [card?_record, card?_modifyCard, if_pos rfl, known] at there
  obtain rfl := Option.some.inj there
  rfl

/-- A change of position is made of acts. -/
theorem changePosition_acts (changed : state.changePosition player card = .ok next) :
    Acts rules ways state next := by
  obtain ⟨_, _, position, checked, turned, made, rfl⟩ := changePosition_eq_ok.mp changed
  obtain ⟨found, ⟨known, _⟩, monsters, upright⟩ := positionChange_eq_ok checked
  have lawful : (Change.changePosition card position).Lawful state :=
    ⟨upright, fun other given => Option.some.inj (known.symm.trans given) ▸ monsters⟩
  have deeds : Deeds rules.catalog.MayMake state turned := applyChange_deeds (.free lawful rfl) made
  have marked : Aside turned
      (turned.modifyCard card fun found => { found with positionChanged := true }) := by
    refine .modifyCard turned ?_ fun _ => rfl
    intro later present
    rw [CardInstance.isOnField, changePosition_zone made known present, monsters]
    rfl
  have noted : Acts rules ways state _ := (Acts.of_deeds deeds).trans (.of_aside marked)
  rw [turnedBy]
  split
  · exact noted.trans (.note _ rfl)
  · exact noted

/-- A declared attack is made of acts. -/
theorem declareAttack_acts {target : Option InstanceId}
    (declared : state.declareAttack player card target = .ok next) : Acts rules ways state next := by
  obtain ⟨may, _, checked, found, known, rfl⟩ := declareAttack_eq_ok.mp declared
  obtain ⟨_, ⟨there, _⟩, monsters, _⟩ := validateAttack_eq_ok checked
  have aimed : ∀ other ∈ target.bind state.card?, other ∈ state.cards := by
    intro other member
    obtain ⟨aim, _, present⟩ := Option.bind_eq_some_iff.mp member
    exact List.mem_of_getElem? present
  have attacks : Acts rules ways state
      ({ state with pendingAttack := some (.declare found (target.bind state.card?)) }.record
        (.attackDeclared card target)) :=
    .of_act (.attack state target (isOpen_iff.mp may.quiet).2.2 known aimed)
  refine attacks.trans (.of_aside (.modifyCard _ ?_ fun _ => rfl))
  intro attacker present
  obtain rfl := Option.some.inj (there.symm.trans present)
  rw [CardInstance.isOnField, monsters]
  rfl

/-- Every action of a running duel is made of acts. -/
theorem dispatch_acts (orderly : state.Orderly) {action : Action}
    (allowed : ∀ card index targets paid, action = .activateEffect card index targets paid →
      ∀ plan, state.checkActivation rules.catalog player card index = .ok plan → ways plan.placement)
    (acted : state.dispatch rules player action = .ok next) : Acts rules ways state next := by
  cases action with
  | forfeit =>
    obtain rfl := Except.ok.inj acted
    exact endDuel_acts state _
  | passPriority => exact passPriority_acts acted
  | activateEffect card index targets paid =>
    exact activate_acts (ite_error_eq_ok.mp acted).2 (allowed card index targets paid rfl)
  | declareAttack attacker target => exact declareAttack_acts acted
  | normalSummon card tributes => exact normalSummon_acts acted
  | setCard card tributes => exact setCard_acts acted
  | specialSummon card => exact specialSummon_acts acted
  | changePosition card => exact changePosition_acts acted
  | enterBattlePhase =>
    obtain ⟨_, opened, entered⟩ := bind_eq_ok.mp acted
    obtain ⟨_, _, rfl⟩ := enterBattlePhase_eq_ok.mp entered
    exact enterPhase_acts (orderly.free (openTurn_eq_ok.mp opened).quiet) .battle
  | enterMainPhase2 =>
    obtain ⟨_, opened, entered⟩ := bind_eq_ok.mp acted
    obtain ⟨_, rfl⟩ := enterMainPhase2_eq_ok.mp entered
    exact enterPhase_acts (orderly.free (openTurn_eq_ok.mp opened).quiet) .main2
  | endTurn =>
    obtain ⟨_, opened, ended⟩ := bind_eq_ok.mp acted
    exact endTurn_acts (orderly.free (openTurn_eq_ok.mp opened).quiet) ended

/-- Every request that is accepted is carried out by moves. -/
theorem step_moves (orderly : state.outcome = none → state.Orderly) (anchored : state.Anchored)
    {action : Action} (stays : ways .stay)
    (allowed : ∀ card index targets paid, action = .activateEffect card index targets paid →
      ∀ plan, state.checkActivation rules.catalog player card index = .ok plan → ways plan.placement)
    (stepped : state.step rules player action = .ok next) : Moves rules ways state next := by
  obtain ⟨running, acted, dispatched, rfl⟩ := step_eq_ok.mp stepped
  have swept : Moves rules ways state (acted.sweep rules.catalog) :=
    (Moves.of_acts (dispatch_acts (orderly running) allowed dispatched)).trans
      (sweep_moves acted rules.catalog)
  have settled := swept.trans (settle_moves stays (swept.shifts.anchored anchored))
  exact settled.trans (.of_acts (.of_aside (.setVersion _)))

end GameState

namespace DuelSetup

open GameState

variable {setup : DuelSetup} {ways : Placement → Prop} {requests : List Request} {duel : Duel}

/-- After the hands are dealt, the first turn begins by acts. -/
theorem firstTurn_acts {dealt : GameState}
    (hands : (Seat.startingWith setup.firstPlayer).foldlM setup.dealHand setup.withDecks = .ok dealt) :
    Acts setup.rules ways setup.withDecks (dealt.startTurn setup.rules) := by
  have deeds : Deeds setup.rules.catalog.MayMake setup.withDecks dealt :=
    dealHands_deeds (fun state _ => .plain state _ rfl rfl) (fun state _ _ => .plain state _ rfl rfl) hands
  have free : dealt.Free :=
    Free.course ⟨rfl, rfl⟩ (setup.withDecks_frame.trans deeds.frame).toCourse
  exact (Acts.of_deeds deeds).trans (startTurn_acts free)

/-- A duel begins by moves from the decks. -/
theorem build_moves (stays : ways .stay) (built : setup.build = .ok duel) :
    Moves setup.rules ways setup.withDecks duel.state := by
  obtain ⟨_, _, _, dealt, hands, rfl⟩ := build_eq_ok.mp built
  have begun : Moves setup.rules ways setup.withDecks (dealt.startTurn setup.rules) :=
    .of_acts (firstTurn_acts hands)
  exact begun.trans (settle_moves stays (begun.shifts.anchored setup.withDecks_anchored))

/-- In every reached state the shared card numbers belong to cards that never leave the deck. -/
theorem Run.anchored (run : setup.Run requests duel) : duel.state.Anchored :=
  run.shifts.anchored setup.withDecks_anchored

/-- A request is served by moves; cards are placed only as the plan of an activation asks for. -/
theorem Run.serve_moves (run : setup.Run requests duel) {request : Request} {after : Duel}
    {report : StepReport} (stays : ways .stay)
    (allowed : ∀ player card index targets paid,
      request = .act player (.activateEffect card index targets paid) →
        ∀ plan, duel.state.checkActivation setup.rules.catalog player card index = .ok plan →
          ways plan.placement)
    (served : duel.serve request = .ok (report, after)) :
    Moves setup.rules ways duel.state after.state := by
  obtain ⟨_, player, action, stepped, given⟩ := Duel.serve_eq_ok served
  rw [run.rules] at stepped
  refine step_moves (fun running => (run.atRest.running running).1) run.anchored stays ?_ stepped
  rintro card index targets paid rfl
  exact allowed player card index targets paid (given.resolve_right (by simp))

/-- From the full decks to any state of a run, nothing but moves happen. -/
theorem Run.moves (run : setup.Run requests duel) :
    Moves setup.rules (fun _ => True) setup.withDecks duel.state := by
  induction run with
  | start built => exact build_moves trivial built
  | next earlier served ih =>
    exact ih.trans (earlier.serve_moves trivial (fun _ _ _ _ _ _ _ _ => trivial) served)

end DuelSetup

end CardDuel
