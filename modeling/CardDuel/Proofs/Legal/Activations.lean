/-
This file compares the activations that are listed with those that are accepted: a checked activation
cannot fail, and an accepted one is listed with its targets and its cost in some order.
-/

import CardDuel.Proofs.Flow.Order
import CardDuel.Proofs.Legal.Changes
import CardDuel.Proofs.Legal.Costs
import CardDuel.Proofs.Legal.Summons

namespace CardDuel

namespace GameState

variable {state next : GameState} {config : DuelConfig} {catalog : Catalog} {player : Seat}
  {card : InstanceId} {index : Nat} {targets paid : List InstanceId}

/-! What is checked -/

/-- This is what a checked activation says about its card and the moment. -/
theorem checkActivation_eq_ok {plan : ActivationPlan}
    (checked : state.checkActivation catalog player card index = .ok plan) :
    ∃ found template timing, (state.card? card = some found ∧ found.owner = player) ∧
      catalog.get? found.card = some template ∧ template.effect? index = some plan.effect ∧
      state.timing = .ok timing ∧ state.checkTiming plan.effect player timing = .ok () ∧
      state.placementFor template.kind plan.effect player found card index = .ok plan.placement := by
  simp only [checkActivation, bind_eq_ok, ownCard_eq_ok] at checked
  obtain ⟨found, owned, rest⟩ := checked
  split at rest
  · simp [throw_eq_ok] at rest
  · next template printed =>
    split at rest
    · simp [throw_eq_ok] at rest
    · next effect present =>
      simp only [bind_eq_ok, guard_eq_ok, pure_eq_ok] at rest
      obtain ⟨timing, now, _, placement, placed, _, fast, _, _, _, _, rfl⟩ := rest
      exact ⟨found, template, timing, owned, printed, present, now, fast, placed⟩

/-- A checked activation is within the limit of its effect. -/
theorem checkActivation_limit {plan : ActivationPlan}
    (checked : state.checkActivation catalog player card index = .ok plan) :
    state.activations.check card index plan.effect.limit = .ok () := by
  simp only [checkActivation, bind_eq_ok] at checked
  obtain ⟨found, _, rest⟩ := checked
  split at rest
  · simp [throw_eq_ok] at rest
  · split at rest
    · simp [throw_eq_ok] at rest
    · simp only [bind_eq_ok, guard_eq_ok, pure_eq_ok] at rest
      obtain ⟨_, _, _, _, _, _, _, _, _, limited, _, rfl⟩ := rest
      exact limited

/-- An effect that passes the check of the moment is fast enough for the chain. -/
theorem checkTiming_fast (orderly : state.Orderly) {effect : CardEffect} {moment : Timing}
    (now : state.timing = .ok moment) (fast : state.checkTiming effect player moment = .ok ()) :
    state.chain.canActivate effect.speed = .ok () := by
  have waiting : state.chain.status ≠ .resolving := by
    rcases orderly.chained with ⟨_, idle⟩ | ⟨_, awaiting⟩
    · simp [idle]
    · simp [awaiting]
  rw [timing.eq_def] at now
  cases last : state.chain.top? with
  | none => exact canActivate_eq_ok.mpr ⟨waiting, fun top found => by simp [last] at found⟩
  | some top =>
    simp only [last, Except.ok.injEq] at now
    rw [checkTiming.eq_def, ← now] at fast
    split at fast
    · exact fast
    · split at fast
      · simp at fast
      · exact fast

/-- Negations of links do not make an effect too slow. -/
theorem Course.canActivate {before after : GameState} (course : Course before after)
    {speed : Speed} (fast : before.chain.canActivate speed = .ok ()) :
    after.chain.canActivate speed = .ok () := by
  obtain ⟨waiting, slower⟩ := canActivate_eq_ok.mp fast
  refine canActivate_eq_ok.mpr ⟨course.status ▸ waiting, ?_⟩
  intro top last
  have same := congrArg List.getLast? course.links
  have present : after.chain.links.getLast? = some top := last
  rw [List.getLast?_map, List.getLast?_map, present, Option.map_some] at same
  obtain ⟨old, lastOld, bare⟩ := Option.map_eq_some_iff.mp same.symm
  have speeds := congrArg ChainLink.speed bare
  change old.speed = top.speed at speeds
  rw [← speeds]
  exact slower old lastOld

/--
This is what a checked placement says about a card: only a spell or trap that is activated moves, from the
hand to a free place or face-up where it lies.
-/
inductive Places (state : GameState) (player : Seat) (found : CardInstance) (kind : CardKind)
    (effect : CardEffect) : Placement → Prop where
  | stay (otherwise : effect.kind ≠ .activate) : Places state player found kind effect .stay
  | fromHand (activates : effect.kind = .activate) (spell : kind.isMonster = false)
      (hand : found.zone = .hand) (room : (state.zones player).HasRoom .spells) :
      Places state player found kind effect .fromHand
  | flip (activates : effect.kind = .activate) (spell : kind.isMonster = false)
      (spells : found.zone = .spells) : Places state player found kind effect .flip

/-- A checked activation of a card says what becomes of the card. -/
theorem activationPlacement_places {kind : CardKind} {effect : CardEffect} {found : CardInstance}
    {placement : Placement} (activates : effect.kind = .activate)
    (placed : state.activationPlacement kind player found card = .ok placement) :
    Places state player found kind effect placement := by
  rw [activationPlacement.eq_def, ite_error_eq_ok, Bool.not_eq_true] at placed
  obtain ⟨spell, rest⟩ := placed
  split at rest
  · next hand =>
    split at rest
    · simp at rest
    · simp only [ite_error_eq_ok, bind_eq_ok, pure_eq_ok] at rest
      obtain ⟨_, _, room, rfl⟩ := rest
      exact .fromHand activates spell hand ((needSlot_eq_ok rfl).mp room)
  · next spells _ =>
    obtain ⟨_, same⟩ := ite_error_eq_ok.mp rest
    obtain rfl := Except.ok.inj same
    exact .flip activates spell spells
  · simp at rest
  · simp at rest

/-- A checked placement says what becomes of the card. -/
theorem placementFor_places {kind : CardKind} {effect : CardEffect} {found : CardInstance}
    {placement : Placement}
    (placed : state.placementFor kind effect player found card index = .ok placement) :
    Places state player found kind effect placement := by
  have stays (otherwise : effect.kind ≠ .activate) {offered : Prop} [Decidable offered]
      {problem : Rejection}
      (given : (if offered then .ok .stay else .error problem : Except Rejection Placement) =
        .ok placement) : Places state player found kind effect placement :=
    Except.ok.inj (ite_ok_error_eq_ok.mp given).2 ▸ .stay otherwise
  rw [placementFor.eq_def] at placed
  split at placed
  · next trigger => exact stays (by simp [trigger]) placed
  · next activates => exact activationPlacement_places activates placed
  · next ignition => exact stays (by simp [ignition]) placed
  · next quick => exact stays (by simp [quick]) placed

/-! What is accepted -/

/-- Life points can always be paid. -/
theorem payLife_ok (state : GameState) (seat : Seat) (amount : UInt32) :
    ∃ next, state.applyChange (.payLife seat amount) = .ok next := ⟨_, rfl⟩

/-- A cost can be paid with cards that are on the table. -/
theorem costChanges_ok (agrees : state.Agrees config) (cost : Option Cost) (player : Seat)
    (source : ∃ found, state.card? card = some found)
    (known : ∀ id ∈ paid, ∃ found, state.card? id = some found) :
    ∃ payed, state.applyChanges (costChanges player card paid cost) = .ok payed := by
  rw [costChanges.eq_def]
  split
  · exact ⟨state, rfl⟩
  · next cost =>
    obtain ⟨found, here⟩ := source
    split
    · obtain ⟨next, made⟩ := payLife_ok state player cost.amount
      exact ⟨next, applyChanges_singleton.mpr made⟩
    · obtain ⟨next, made⟩ := toGraveyard_ok (agrees.lists _) here
      exact ⟨next, applyChanges_singleton.mpr made⟩
    · exact toGraveyards_ok agrees known
    · exact toGraveyards_ok agrees known

/-- A card can be placed as it was checked. -/
theorem placementChanges_ok (agrees : state.Agrees config) {found : CardInstance}
    (owned : state.card? card = some found ∧ found.owner = player) {placement : Placement}
    {kind : CardKind} {effect : CardEffect} (places : Places state player found kind effect placement) :
    ∃ placed, state.applyChanges (placementChanges card placement) = .ok placed := by
  obtain ⟨known, own⟩ := owned
  cases places with
  | stay otherwise => exact ⟨state, rfl⟩
  | fromHand activates spell hand room =>
    rw [← own] at room
    obtain ⟨next, made⟩ := placeSpell_ok agrees known room true
    exact ⟨next, applyChanges_singleton.mpr made⟩
  | flip activates spell spells =>
    have standing : found.isOnField = true := by
      rw [CardInstance.isOnField, spells]
      rfl
    obtain ⟨next, made⟩ := changePosition_ok known standing .faceUp
    exact ⟨next, applyChanges_singleton.mpr made⟩

/-- A checked activation cannot fail. -/
theorem activate_ok (agrees : state.Agrees config) (orderly : state.Orderly)
    {plan : ActivationPlan}
    (checked : state.checkActivation catalog player card index = .ok plan)
    (chosen : state.checkChoices plan.effect player card targets paid = .ok ()) :
    ∃ next, state.activate catalog player card index targets paid = .ok next := by
  obtain ⟨found, template, moment, owned, _, _, now, fast, places⟩ := checkActivation_eq_ok checked
  have told := Still.record state (.effectActivated card index player)
  obtain ⟨placed, placing⟩ : ∃ placed, (state.record (.effectActivated card index player)).applyChanges
      (placementChanges card plan.placement) = .ok placed :=
    placementChanges_ok (agrees.still told) owned (placementFor_places places)
  have placedShifts := (applyChanges_edits placing).shifts
  have payers : ∀ id ∈ paid, ∃ found, placed.card? id = some found := by
    rw [checkChoices, bind_eq_ok, Unique.exists_iff] at chosen
    intro id member
    obtain ⟨old, known⟩ := checkCost_known chosen.2 id member
    obtain ⟨kept, knownNow, _⟩ := placedShifts.card_at known
    exact ⟨kept, knownNow⟩
  obtain ⟨source, here, _⟩ := placedShifts.card_at owned.1
  obtain ⟨payed, paying⟩ := costChanges_ok (placedShifts.agrees (agrees.still told))
    plan.effect.cost player ⟨source, here⟩ payers
  obtain ⟨last, there, _⟩ := (applyChanges_edits paying).shifts.card_at here
  have course := ((Frame.record state (.effectActivated card index player)).trans
    (applyChanges_edits placing).frame).trans (applyChanges_edits paying).frame
  have ready := course.toCourse.canActivate (checkTiming_fast orderly now fast)
  exact ⟨_, activate_eq_ok.mpr ⟨plan, checked, chosen, placed, placing, payed, paying, last, there,
    _, pushLink_eq_ok.mpr ⟨ready, rfl⟩, rfl⟩⟩

/-! What is listed -/

/--
The activations of an effect are listed as far as it can be activated, for each choice of targets and costs.
-/
theorem mem_effectActivations {action : Action} :
    action ∈ state.effectActivations catalog player card index ↔
      ∃ plan, state.checkActivation catalog player card index = .ok plan ∧
        ∃ targets ∈ state.targetChoices plan.effect player card,
        ∃ paid ∈ state.costChoices plan.effect.cost player card,
          state.checkChoices plan.effect player card targets paid = .ok () ∧
            action = .activateEffect card index targets paid := by
  rw [effectActivations.eq_def]
  cases state.checkActivation catalog player card index with
  | error problem => simp
  | ok plan =>
    simp only [List.mem_flatMap, List.mem_map, List.mem_filter, isOk_iff, Unique.exists_iff,
      Except.ok.injEq, exists_eq_left', and_assoc, @eq_comm _ action]

/-- What is listed for an effect of a card is an activation of this effect. -/
theorem effectActivations_form {action : Action}
    (listed : action ∈ state.effectActivations catalog player card index) :
    ∃ targets paid, action = .activateEffect card index targets paid := by
  obtain ⟨_, _, targets, _, paid, _, _, same⟩ := mem_effectActivations.mp listed
  exact ⟨targets, paid, same⟩

/-- Only activations are listed as activations. -/
theorem legalActivations_form {action : Action}
    (listed : action ∈ state.legalActivations catalog player) :
    ∃ card index targets paid, action = .activateEffect card index targets paid := by
  obtain ⟨found, _, offered⟩ := List.mem_flatMap.mp listed
  rw [cardActivations.eq_def] at offered
  split at offered
  · simp at offered
  · obtain ⟨index, _, member⟩ := List.mem_flatMap.mp offered
    obtain ⟨targets, paid, same⟩ := effectActivations_form member
    exact ⟨found.id, index, targets, paid, same⟩

/-- The activations of all effects of all cards of a player are listed. -/
theorem mem_legalActivations (agrees : state.Agrees config) {action : Action} :
    action ∈ state.legalActivations catalog player ↔
      ∃ card index, action ∈ state.effectActivations catalog player card index := by
  simp only [legalActivations, List.mem_flatMap, List.mem_filter, decide_eq_true_eq]
  constructor
  · rintro ⟨found, _, listed⟩
    rw [cardActivations.eq_def] at listed
    split at listed
    · simp at listed
    · obtain ⟨index, _, member⟩ := List.mem_flatMap.mp listed
      exact ⟨found.id, index, member⟩
  · rintro ⟨card, index, member⟩
    obtain ⟨plan, checked, _⟩ := mem_effectActivations.mp member
    obtain ⟨found, template, _, ⟨known, own⟩, printed, present, _⟩ := checkActivation_eq_ok checked
    refine ⟨found, ⟨List.mem_of_getElem? known, own⟩, ?_⟩
    rw [cardActivations.eq_def, printed]
    obtain ⟨inside, _⟩ := List.getElem?_eq_some_iff.mp present
    refine List.mem_flatMap.mpr ⟨index, List.mem_range.mpr inside, ?_⟩
    rw [agrees.id_eq known]
    exact member

/-- Every activation that is listed is accepted. -/
theorem legalActivations_ok (agrees : state.Agrees config) (orderly : state.Orderly)
    {action : Action} (listed : action ∈ state.legalActivations catalog player) :
    ∃ card index targets paid, action = .activateEffect card index targets paid ∧
      ∃ next, state.activate catalog player card index targets paid = .ok next := by
  obtain ⟨card, index, member⟩ := (mem_legalActivations agrees).mp listed
  obtain ⟨plan, checked, targets, _, paid, _, chosen, rfl⟩ := mem_effectActivations.mp member
  exact ⟨card, index, targets, paid, rfl, activate_ok agrees orderly checked chosen⟩

/-- These are the descriptions of the targets of an effect of a card on the table. -/
def targetSpecs (state : GameState) (catalog : Catalog) (card : InstanceId) (index : Nat) :
    List TargetSpec :=
  (((state.card? card).bind fun found => catalog.effect? found.card index).map
    CardEffect.targets).getD []

/-- An activation that is accepted is listed with its targets and its cost in some order. -/
theorem activate_mem (agrees : state.Agrees config)
    (activated : state.activate catalog player card index targets paid = .ok next) :
    ∃ others named, SameTargets (state.targetSpecs catalog card index) targets others ∧
      paid.Perm named ∧
      .activateEffect card index others named ∈ state.legalActivations catalog player := by
  obtain ⟨plan, checked, chosen, _⟩ := activate_eq_ok.mp activated
  obtain ⟨found, template, _, ⟨known, _⟩, printed, present, _⟩ := checkActivation_eq_ok checked
  have specs : state.targetSpecs catalog card index = plan.effect.targets := by
    simp [targetSpecs, known, Catalog.effect?, printed, present]
  have both := chosen
  rw [checkChoices, bind_eq_ok, Unique.exists_iff] at both
  obtain ⟨others, listed, sameTargets⟩ := exists_targetChoice agrees both.1
  obtain ⟨named, offered, sameCost⟩ := exists_costChoice agrees both.2
  rw [specs]
  refine ⟨others, named, sameTargets, sameCost.symm, ?_⟩
  refine (mem_legalActivations agrees).mpr ⟨card, index, mem_effectActivations.mpr ?_⟩
  exact ⟨plan, checked, others, listed, named, offered,
    checkChoices_same agrees sameTargets sameCost chosen, rfl⟩

end GameState

end CardDuel
