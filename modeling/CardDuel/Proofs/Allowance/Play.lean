/-
This file shows that every action is made of lulls and feats, and so is every run from its first turn on.
-/

import CardDuel.Proofs.Allowance.Feat

namespace CardDuel

namespace GameState

variable {catalog : Catalog} {config : DuelConfig} {rules : Rules} {before after state next : GameState}
  {player : Seat} {card : InstanceId} {event : GameEvent}

/-! Cards from the hand -/

/-- What becomes of a player besides is not told. -/
theorem ToldBy.modifyPlayer (told : ToldBy before event after) (seat : Seat)
    {update : PlayerState → PlayerState} (zones : ∀ player, (update player).zones = player.zones) :
    ToldBy before event (after.modifyPlayer seat update) :=
  ⟨told.shifts.then_still (.modifyPlayer after seat zones), told.events⟩

/-- What becomes of the players does not matter for the way of a card to the field. -/
theorem Enters.modifyPlayer (enters : Enters before card after) (seat : Seat)
    (update : PlayerState → PlayerState) : Enters before card (after.modifyPlayer seat update) :=
  ⟨enters.away, enters.others⟩

/-- The use of a normal summon that was saved spends it. -/
theorem Spends.of_saves (saves : Saves before after)
    (unused : (before.player before.turnPlayer).normalSummonUsed = false) :
    Spends before (after.modifyPlayer before.turnPlayer fun entry =>
      { entry with normalSummonUsed := true }) where
  turnPlayer := saves.turnPlayer
  unused := unused
  used := by rw [player_modifyPlayer, if_pos rfl]

/-- A monster that comes from elsewhere is summoned or set for the normal summon of its owner. -/
theorem placement_stages {found : CardInstance} {plan : SummonPlan} {isSet : Bool}
    (known : state.card? plan.card = some found) (monster : found.isMonster = true)
    (own : found.owner = state.turnPlayer) (away : state.IsAway plan.card)
    (unused : (state.player state.turnPlayer).normalSummonUsed = false)
    (comes : plan.kind = .normal ∨ plan.kind = .tribute)
    (made : (placement plan isSet).apply state = .ok next) :
    Stages catalog state (next.modifyPlayer state.turnPlayer fun entry =>
      { entry with normalSummonUsed := true }) := by
  cases isSet with
  | true =>
    simp only [placement, if_true, Change.apply, bind_eq_ok, pure_eq_ok, requireCard_eq_ok] at made
    obtain ⟨other, there, ⟨_, middle⟩, moved, rfl⟩ := made
    obtain rfl := Option.some.inj (known.symm.trans there)
    rw [own]
    exact .of_feat ((ToldBy.of_move moved (by exact fun _ => rfl) _).modifyPlayer _ fun _ => rfl)
      (.setMonster known monster ((Enters.of_move moved away _).modifyPlayer _ _)
        (.of_saves (.of_move moved _) unused)
        (bears_of_move moved rfl (.cardSet plan.card state.turnPlayer)))
  | false =>
    simp only [placement, Bool.false_eq_true, if_false, Change.apply, bind_eq_ok, pure_eq_ok,
      requireCard_eq_ok, guard_eq_ok] at made
    obtain ⟨other, there, _, ⟨_, middle⟩, moved, rfl⟩ := made
    obtain rfl := Option.some.inj (known.symm.trans there)
    rw [own]
    exact .of_feat ((ToldBy.of_move moved (by exact fun _ => rfl) _).modifyPlayer _ fun _ => rfl)
      (.summon ((Enters.of_move moved away _).modifyPlayer _ _)
        (.of_saves (.of_move moved _) unused) comes)

/-- A normal summon is made of stages. -/
theorem normalSummon_stages {tributes : List InstanceId} {isSet : Bool}
    (summoned : state.normalSummon config player card tributes isSet = .ok next) :
    Stages catalog state next := by
  obtain ⟨may, _, plan, checked, placed, made, rfl⟩ := normalSummon_eq_ok.mp summoned
  obtain ⟨found, can, rfl⟩ := validateNormalSummon_eq_ok.mp checked
  obtain ⟨tributed, first, last⟩ := applyChanges_append.mp made
  have tributing : Lull catalog state tributed := by
    refine .of_deeds (applyChanges_deeds ?_ first)
    intro current change member
    obtain ⟨_, _, rfl⟩ := List.mem_map.mp member
    trivial
  -- The tributes may have been anything, but the card of the hand is still away and its player's turn goes on.
  have away : tributed.IsAway card := (isAway_of_hand can.known can.held).toGraveyards first
  obtain ⟨later, there, same⟩ := tributing.shifts.card_at can.known
  have turn : player = tributed.turnPlayer := may.turn.trans tributing.turnPlayer.symm
  have own : later.owner = tributed.turnPlayer :=
    (congrArg CardIdentity.owner same).trans (can.own.trans turn)
  have monster : later.isMonster = true :=
    (tributing.shifts.isMonster can.known there).trans can.monster
  subst turn
  have unused := (tributing.used tributed.turnPlayer).trans can.unused
  have comes : (summonPlan config card tributes found).kind = .normal ∨
      (summonPlan config card tributes found).kind = .tribute := by
    rw [summonPlan]
    split
    · exact .inl rfl
    · exact .inr rfl
  exact (Stages.of_lull tributing).trans (placement_stages there monster own away unused comes
    (mapError_eq_ok.mp (applyChanges_singleton.mp last)))

/-- A set card is placed by stages. -/
theorem setCard_stages {tributes : List InstanceId}
    (placed : state.setCard config player card tributes = .ok next) : Stages catalog state next := by
  obtain ⟨found, known, ⟨_, summoned⟩ | ⟨spell, may, _, _, checked, made⟩⟩ := setCard_eq_ok.mp placed
  · exact normalSummon_stages summoned
  · obtain ⟨held, ⟨there, own, hand⟩, _⟩ := validateSpellSet_eq_ok.mp checked
    obtain rfl := Option.some.inj (known.symm.trans there)
    have away := isAway_of_hand known hand
    have turn : found.owner = state.turnPlayer := own.trans may.turn
    simp only [applyChange, mapError_eq_ok, Change.apply, bind_eq_ok, pure_eq_ok,
      requireCard_eq_ok, Bool.false_eq_true, if_false] at made
    obtain ⟨other, present, ⟨_, middle⟩, moved, rfl⟩ := made
    obtain rfl := Option.some.inj (known.symm.trans present)
    rw [turn]
    exact .of_feat (.of_move moved (by exact fun _ => rfl) _) (.setSpell known spell
      (.of_move moved away _) (.of_move moved _) (bears_of_move moved rfl _))

theorem specialSummon_stages (summoned : state.specialSummon rules.catalog player card = .ok next) :
    Stages catalog state next := by
  obtain ⟨_, _, checked, made⟩ := specialSummon_eq_ok.mp summoned
  obtain ⟨found, ⟨known, _, hand⟩, _⟩ := validateSpecialSummon_eq_ok checked
  have gentle : (Change.summon card .faceUpAttack .special).Gentle state :=
    ⟨rfl, fun _ => isAway_of_hand known hand⟩
  exact .of_lull (.of_change gentle (mapError_eq_ok.mp made))

/-! Monsters on the field -/

theorem changePosition_stages (changed : state.changePosition player card = .ok next) :
    Stages catalog state next := by
  obtain ⟨_, _, position, _, turned, made, rfl⟩ := changePosition_eq_ok.mp changed
  have gentle : (Change.changePosition card position).Gentle state := trivial
  have noted : Lull catalog state
      (turned.modifyCard card fun found => { found with positionChanged := true }) :=
    (Lull.of_change gentle (mapError_eq_ok.mp made)).trans
      (.modifyCard turned card (fun _ => rfl) fun _ flag => by cases flag <;> rfl)
  rw [turnedBy]
  split
  · exact .of_lull (noted.trans (.note _ rfl rfl))
  · exact .of_lull noted

/-- A monster declares no second attack. -/
theorem validateAttack_fresh {target : Option InstanceId}
    (checked : state.validateAttack player card target = .ok ()) : ¬state.Bears .attacked card := by
  simp only [validateAttack, bind_eq_ok, ownCard_eq_ok, guard_eq_ok, Bool.not_eq_true] at checked
  obtain ⟨found, ⟨known, _⟩, _, _, fresh, _⟩ := checked
  rintro ⟨other, there, _, attacked⟩
  obtain rfl := Option.some.inj (known.symm.trans there)
  simp [CardInstance.bears, fresh] at attacked

/-- A declared attack is made of stages. -/
theorem declareAttack_stages {target : Option InstanceId}
    (declared : state.declareAttack player card target = .ok next) : Stages catalog state next := by
  obtain ⟨_, _, checked, found, known, rfl⟩ := declareAttack_eq_ok.mp declared
  obtain ⟨attacker, ⟨there, _⟩, monsters, _⟩ := validateAttack_eq_ok checked
  have look (other : InstanceId) : (state.declaredBy found card target).card? other =
      if other = card then (state.card? other).map fun entry => { entry with hasAttacked := true }
      else state.card? other := state.card?_modifyCard card _ other
  have told : ToldBy state (.attackDeclared card target) (state.declaredBy found card target) :=
    ⟨.of_still ⟨(Still.modifyCard state card (fun entry => { entry with hasAttacked := true })
      fun _ => rfl).standings, fun _ => rfl⟩, events_record _ _⟩
  refine .of_feat told (.attack ⟨rfl, fun _ => rfl⟩ ?_ (validateAttack_fresh checked) ?_)
  · rintro flag other ⟨entry, present, field, bears⟩
    rw [Bears, look]
    split
    · refine ⟨{ entry with hasAttacked := true }, by rw [present]; rfl, field, ?_⟩
      cases flag with
      | attacked => rfl
      | set => exact bears
    · exact ⟨entry, present, field, bears⟩
  · rw [Bears, look, if_pos rfl, there]
    refine ⟨_, rfl, ?_, rfl⟩
    rw [CardInstance.isOnField, monsters]
    rfl

/-! Effects -/

/-- A trap or quick-play spell is not activated in the turn in which it was set. -/
theorem checkActivation_settled {index : Nat} {plan : ActivationPlan}
    (checked : state.checkActivation catalog player card index = .ok plan)
    (springs : state.Springs catalog card index) : ¬state.Bears .set card := by
  obtain ⟨found, template, _, ⟨known, _⟩, printed, listed, _, _, places⟩ := checkActivation_eq_ok checked
  obtain ⟨other, template', effect, there, printedToo, waits, listedToo, activates⟩ := springs
  rintro ⟨bearer, present, field, set⟩
  obtain rfl := Option.some.inj (known.symm.trans there)
  obtain rfl := Option.some.inj (known.symm.trans present)
  obtain rfl := Option.some.inj (printed.symm.trans printedToo)
  obtain rfl := Option.some.inj (listed.symm.trans listedToo)
  rw [placementFor.eq_def, activates] at places
  rw [activationPlacement.eq_def, ite_error_eq_ok] at places
  obtain ⟨_, rest⟩ := places
  split at rest
  · next hand =>
    rw [CardInstance.isOnField, hand] at field
    cases field
  · have late : template.kind ≠ .spell .normal ∧ template.kind ≠ .spell .continuous := by
      constructor <;> intro same <;> simp [same, CardKind.waits] at waits
    rw [CardInstance.bears] at set
    simp [late, set] at rest
  · cases rest
  · cases rest

/-- A card is placed for its activation by gentle deeds. -/
theorem placementChanges_gentle {found : CardInstance} {kind : CardKind} {effect : CardEffect}
    {way : Placement} (known : state.card? card = some found)
    (places : Places before player found kind effect way)
    (made : state.applyChanges (placementChanges card way) = .ok next) :
    Deeds (fun state change => change.Gentle state) state next := by
  cases places with
  | stay =>
    obtain rfl : state = next := by simpa [placementChanges, applyChanges, pure_eq_ok] using made
    exact .refl state
  | fromHand _ _ hand _ =>
    have gentle : (Change.placeSpell card true).Gentle state :=
      ⟨rfl, fun _ => isAway_of_hand known hand⟩
    exact .change gentle (mapError_eq_ok.mp (applyChanges_singleton.mp made))
  | flip _ _ _ =>
    have gentle : (Change.changePosition card .faceUp).Gentle state := trivial
    exact .change gentle (mapError_eq_ok.mp (applyChanges_singleton.mp made))

/-- An activation is made of stages. -/
theorem activate_stages {index : Nat} {targets paid : List InstanceId}
    (activated : state.activate rules.catalog player card index targets paid = .ok next) :
    Stages rules.catalog state next := by
  obtain ⟨plan, checked, _, placed, places, payed, pays, source, _, _, pushed, rfl⟩ :=
    activate_eq_ok.mp activated
  obtain ⟨_, rfl⟩ := pushLink_eq_ok.mp pushed
  have told : Stages rules.catalog state (state.record (.effectActivated card index player)) :=
    .of_feat ⟨.of_still (.record state _), events_record _ _⟩
      (.activate ⟨rfl, fun _ => rfl⟩ (fun _ _ bears => bears) (checkActivation_settled checked))
  obtain ⟨found, template, _, ⟨known, _⟩, _, _, _, _, placedSo⟩ := checkActivation_eq_ok checked
  have placing : Lull rules.catalog (state.record (.effectActivated card index player)) placed :=
    .of_deeds (placementChanges_gentle known (placementFor_places placedSo) places)
  have paying : Lull rules.catalog placed payed := .of_deeds (costChanges_gentle pays)
  have noted : Lull rules.catalog payed (payed.noteActivation card index) := .rearrange rfl rfl rfl rfl
  exact told.trans (.of_lull ((((placing.trans paying).trans noted).trans (.linked _ _)).trans (.sweep _)))

/-! Turns -/

/-- The start of a turn is made of stages, once the turn is passed. -/
theorem startTurn_stages (state : GameState) (rules : Rules) :
    ∃ seat, Stages rules.catalog (state.passTurn seat) (state.startTurn rules) := by
  have begun : Lull rules.catalog (state.passTurn state.nextPlayer) (state.drawn rules) := by
    rw [drawn]
    split
    · exact (Lull.enterPhase _ _).trans (.drawForTurn _ _)
    · exact .enterPhase _ _
  refine ⟨state.nextPlayer, .of_lull ?_⟩
  rw [startTurn_eq]
  split
  · exact begun.trans (.sweep _)
  · exact ((begun.trans (.sweep _)).trans (.enterPhase _ _)).trans (.enterPhase _ _)

theorem passTurn_stages (state : GameState) (seat : Seat) :
    Stages catalog state (state.passTurn seat) :=
  .of_feat ⟨.of_still (.passTurn state seat), events_record _ _⟩ (.turn seat rfl)

/-- The end of a turn is made of stages. -/
theorem endTurn_stages (ended : state.endTurn rules = .ok next) : Stages rules.catalog state next := by
  obtain ⟨_, rfl⟩ := (endTurn_eq_ok state rules).mp ended
  have ending : Lull rules.catalog state ((state.wound rules).sweep rules.catalog) :=
    (Lull.wound state rules).trans (.sweep _)
  split
  · exact .of_lull ending
  · obtain ⟨seat, begun⟩ := startTurn_stages ((state.wound rules).sweep rules.catalog) rules
    exact ((Stages.of_lull ending).trans (passTurn_stages _ seat)).trans begun

/-! Whole runs -/

/-- Every request is carried out by stages. -/
theorem dispatch_stages {action : Action} (acted : state.dispatch rules player action = .ok next) :
    Stages rules.catalog state next := by
  cases action with
  | forfeit =>
    obtain rfl := Except.ok.inj acted
    exact .of_lull (.endDuel state _)
  | passPriority => exact .of_lull (.passPriority acted)
  | activateEffect card index targets paid => exact activate_stages (ite_error_eq_ok.mp acted).2
  | declareAttack attacker target => exact declareAttack_stages acted
  | normalSummon card tributes => exact normalSummon_stages acted
  | setCard card tributes => exact setCard_stages acted
  | specialSummon card => exact specialSummon_stages acted
  | changePosition card => exact changePosition_stages acted
  | enterBattlePhase =>
    obtain ⟨_, _, entered⟩ := bind_eq_ok.mp acted
    obtain ⟨_, _, rfl⟩ := enterBattlePhase_eq_ok.mp entered
    exact .of_lull (.enterPhase state _)
  | enterMainPhase2 =>
    obtain ⟨_, _, entered⟩ := bind_eq_ok.mp acted
    obtain ⟨_, rfl⟩ := enterMainPhase2_eq_ok.mp entered
    exact .of_lull (.enterPhase state _)
  | endTurn =>
    obtain ⟨_, _, ended⟩ := bind_eq_ok.mp acted
    exact endTurn_stages ended

/-- Every request and all that settles after it is made of stages. -/
theorem step_stages {action : Action} (stepped : state.step rules player action = .ok next) :
    Stages rules.catalog state next := by
  obtain ⟨_, acted, dispatched, rfl⟩ := step_eq_ok.mp stepped
  exact (dispatch_stages dispatched).trans (.of_lull (.handedBack acted))

end GameState

namespace DuelSetup

open GameState

variable {setup : DuelSetup} {requests : List Request} {duel : Duel}

/-- A run begins with a lull in which the hands are dealt, and then its first turn begins. -/
theorem Run.stages (run : setup.Run requests duel) : ∃ dealt seat,
    Lull setup.rules.catalog setup.withDecks dealt ∧
      Stages setup.rules.catalog (dealt.passTurn seat) duel.state := by
  induction run with
  | start built =>
    obtain ⟨_, _, _, dealt, hands, rfl⟩ := build_eq_ok.mp built
    obtain ⟨seat, begun⟩ := startTurn_stages dealt setup.rules
    have settled : Lull setup.rules.catalog (dealt.startTurn setup.rules)
        ((dealt.startTurn setup.rules).settle setup.rules.catalog) := .settle _
    exact ⟨dealt, seat, .of_deeds (dealHands_deeds (fun _ _ => trivial) (fun _ _ _ => trivial) hands),
      begun.trans (.of_lull settled)⟩
  | next earlier served ih =>
    obtain ⟨dealt, seat, dealing, goesOn⟩ := ih
    obtain ⟨_, player, action, stepped, _⟩ := Duel.serve_eq_ok served
    rw [earlier.rules] at stepped
    exact ⟨dealt, seat, dealing, goesOn.trans (step_stages stepped)⟩

end DuelSetup

end CardDuel
