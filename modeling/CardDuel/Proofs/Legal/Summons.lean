/-
This file compares the summons and sets that are listed with those that are accepted: a checked summon
cannot fail, and an accepted one is listed with its tributes in some order.
-/

import CardDuel.Proofs.Legal.Changes
import CardDuel.Proofs.Legal.Targets

namespace CardDuel

namespace GameState

variable {state next : GameState} {config : DuelConfig} {rules : Rules} {player : Seat}
  {card : InstanceId} {tributes : List InstanceId}

/-! What is checked -/

/-- Tributes are accepted if they are distinct candidates. -/
theorem checkTributes_eq_ok {candidates seen : List InstanceId} {result : Unit} :
    checkTributes candidates seen tributes = .ok result ↔
      tributes.Nodup ∧ ∀ tribute ∈ tributes, tribute ∈ candidates ∧ tribute ∉ seen := by
  induction tributes generalizing seen with
  | nil => simp [checkTributes]
  | cons tribute rest ih =>
    rw [checkTributes, ite_ok_error_eq_ok, ih, List.nodup_cons, List.forall_mem_cons]
    simp only [Bool.and_eq_true, Bool.not_eq_true', List.contains_eq_mem, decide_eq_true_eq,
      decide_eq_false_iff_not, List.mem_append, List.mem_singleton, not_or]
    constructor
    · rintro ⟨first, distinct, others⟩
      refine ⟨⟨fun again => (others tribute again).2.2 rfl, distinct⟩, first, ?_⟩
      exact fun other member => ⟨(others other member).1, (others other member).2.1⟩
    · rintro ⟨⟨new, distinct⟩, first, others⟩
      refine ⟨first, distinct, ?_⟩
      intro other member
      refine ⟨(others other member).1, (others other member).2, ?_⟩
      rintro rfl
      exact new member

/-- A slot is found in a row with room. -/
theorem needSlot_eq_ok {zone : Zone} (field : zone.isField = true) {result : Unit} :
    state.needSlot player zone = .ok result ↔ (state.zones player).HasRoom zone := by
  rw [needSlot, ite_error_eq_ok, PlayerZones.HasRoom]
  cases (state.zones player).freeSlot? zone with
  | none => simp [field]
  | some slot => simp

/-- This tells that a monster in the hand can be summoned or set for tributes. -/
structure CanSummon (state : GameState) (config : DuelConfig) (player : Seat) (card : InstanceId)
    (tributes : List InstanceId) (found : CardInstance) : Prop where
  known : state.card? card = some found
  own : found.owner = player
  held : found.zone = .hand
  monster : found.isMonster = true
  unused : (state.player player).normalSummonUsed = false
  enough : tributes.length = config.tributesForLevel found.base.level
  distinct : tributes.Nodup
  offered : ∀ tribute ∈ tributes, tribute ∈ state.tributeCandidates player
  room : config.tributesForLevel found.base.level = 0 → (state.zones player).HasRoom .monsters

/-- This is the summon of a monster from the hand that was checked. -/
def summonPlan (config : DuelConfig) (card : InstanceId) (tributes : List InstanceId)
    (found : CardInstance) : SummonPlan :=
  ⟨card, tributes, if config.tributesForLevel found.base.level = 0 then .normal else .tribute⟩

/-- A normal summon is planned exactly for what can be summoned. -/
theorem validateNormalSummon_eq_ok {plan : SummonPlan} :
    state.validateNormalSummon config player card tributes = .ok plan ↔
      ∃ found, state.CanSummon config player card tributes found ∧
        summonPlan config card tributes found = plan := by
  simp only [validateNormalSummon, bind_eq_ok, handCard_eq_ok, when_eq_ok, throw_eq_ok, imp_false,
    checkTributes_eq_ok, @needSlot_eq_ok state player .monsters rfl, pure_eq_ok, Unique.exists_iff,
    Bool.not_eq_true', Bool.not_eq_false, Bool.not_eq_true, not_not]
  apply exists_congr
  intro found
  constructor
  · rintro ⟨⟨known, own, held⟩, monster, unused, enough, ⟨distinct, offered⟩, room, same⟩
    exact ⟨⟨known, own, held, monster, unused, enough, distinct,
      fun tribute member => (offered tribute member).1, room⟩, same⟩
  · rintro ⟨⟨known, own, held, monster, unused, enough, distinct, offered, room⟩, same⟩
    exact ⟨⟨known, own, held⟩, monster, unused, enough,
      ⟨distinct, fun tribute member => ⟨offered tribute member, List.not_mem_nil⟩⟩, room, same⟩

/-- A spell or trap can be set exactly if it is in the hand and its row has room. -/
theorem validateSpellSet_eq_ok {result : Unit} :
    state.validateSpellSet player card = .ok result ↔
      ∃ found, (state.card? card = some found ∧ found.owner = player ∧ found.zone = .hand) ∧
        found.isMonster = false ∧ (state.zones player).HasRoom .spells := by
  simp only [validateSpellSet, bind_eq_ok, handCard_eq_ok, guard_eq_ok, Bool.not_eq_true,
    @needSlot_eq_ok state player .spells rfl]

theorem validateSpecialSummon_eq_ok {catalog : Catalog} {result : Unit}
    (checked : state.validateSpecialSummon catalog player card = .ok result) :
    ∃ found, (state.card? card = some found ∧ found.owner = player ∧ found.zone = .hand) ∧
      found.isMonster = true ∧ (state.zones player).HasRoom .monsters := by
  simp only [validateSpecialSummon, bind_eq_ok, handCard_eq_ok, guard_eq_ok, Bool.not_eq_true',
    Bool.not_eq_false] at checked
  obtain ⟨found, held, monster, rest⟩ := checked
  refine ⟨found, held, monster, ?_⟩
  split at rest
  · simp [throw_eq_ok] at rest
  · exact (needSlot_eq_ok rfl).mp (guard_eq_ok.mp rest).2

/-- The order of the tributes does not matter. -/
theorem CanSummon.perm {others : List InstanceId} {found : CardInstance}
    (can : state.CanSummon config player card tributes found) (same : others.Perm tributes) :
    state.CanSummon config player card others found where
  known := can.known
  own := can.own
  held := can.held
  monster := can.monster
  unused := can.unused
  enough := same.length_eq.trans can.enough
  distinct := same.nodup_iff.mpr can.distinct
  offered := fun tribute member => can.offered tribute (same.mem_iff.mp member)
  room := can.room

/-! What is accepted -/

/-- The tributes of a checked summon leave a place for the monster. -/
theorem CanSummon.makesRoom {found : CardInstance} (agrees : state.Agrees config)
    (can : state.CanSummon config player card tributes found)
    (made : state.applyChanges (tributes.map .toGraveyard) = .ok next) :
    (next.zones player).HasRoom .monsters := by
  by_cases free : config.tributesForLevel found.base.level = 0
  · exact toGraveyards_room made (can.room free)
  · have needed : tributes ≠ [] := by
      rintro rfl
      exact free can.enough.symm
    refine tributes_room needed ?_ made
    intro tribute member
    exact (agrees.listed player .monsters tribute).mp (can.offered tribute member)

/-- A checked summon or set of a monster cannot fail. -/
theorem normalSummon_ok {found : CardInstance} (agrees : state.Agrees config)
    (may : state.MayAct player) (main : state.phase.isMain = true)
    (can : state.CanSummon config player card tributes found) (isSet : Bool) :
    ∃ next, state.normalSummon config player card tributes isSet = .ok next := by
  have tributed : ∀ tribute ∈ tributes, ∃ found, state.card? tribute = some found := by
    intro tribute member
    obtain ⟨standing, known, _⟩ :=
      (agrees.listed player .monsters tribute).mp (can.offered tribute member)
    exact ⟨standing, known⟩
  obtain ⟨middle, made⟩ := toGraveyards_ok agrees tributed
  have shifts := (applyChanges_edits made).shifts
  obtain ⟨kept, known, same⟩ := shifts.card_at can.known
  have monster : kept.isMonster = true := by
    rw [CardInstance.isMonster, show kept.category = found.category from
      congrArg CardIdentity.category same]
    exact can.monster
  have room : (middle.zones kept.owner).HasRoom .monsters := by
    rw [show kept.owner = player from (congrArg CardIdentity.owner same).trans can.own]
    exact can.makesRoom agrees made
  have placed : ∃ placed,
      middle.applyChange (placement (summonPlan config card tributes found) isSet) =
        .ok placed := by
    cases isSet with
    | false => exact summon_ok (shifts.agrees agrees) known monster room _ _
    | true => exact setMonster_ok (shifts.agrees agrees) known room
  obtain ⟨placed, last⟩ := placed
  refine ⟨_, normalSummon_eq_ok.mpr
    ⟨may, main, summonPlan config card tributes found, ?_, placed, ?_, rfl⟩⟩
  · exact validateNormalSummon_eq_ok.mpr ⟨found, can, rfl⟩
  · exact applyChanges_append.mpr ⟨middle, made, applyChanges_singleton.mpr last⟩

/-- A spell or trap that is checked can be set. -/
theorem setSpell_ok (agrees : state.Agrees config) (may : state.MayAct player)
    (main : state.phase.isMain = true) (checked : state.validateSpellSet player card = .ok ()) :
    ∃ next, state.setCard config player card [] = .ok next := by
  obtain ⟨found, ⟨known, own, _⟩, spell, room⟩ := validateSpellSet_eq_ok.mp checked
  rw [← own] at room
  obtain ⟨next, made⟩ := placeSpell_ok agrees known room false
  exact ⟨next, setCard_eq_ok.mpr ⟨found, known, .inr ⟨spell, may, main, rfl, checked, made⟩⟩⟩

/-- A special summon that is checked can be made. -/
theorem specialSummon_ok {catalog : Catalog} (agrees : state.Agrees config)
    (may : state.MayAct player) (main : state.phase.isMain = true)
    (checked : state.validateSpecialSummon catalog player card = .ok ()) :
    ∃ next, state.specialSummon catalog player card = .ok next := by
  obtain ⟨found, ⟨known, own, _⟩, monster, room⟩ := validateSpecialSummon_eq_ok checked
  rw [← own] at room
  obtain ⟨next, made⟩ := summon_ok agrees known monster room .faceUpAttack .special
  exact ⟨next, specialSummon_eq_ok.mpr ⟨may, main, checked, made⟩⟩

/-! What is listed -/

theorem mem_monsterActions {level : UInt32} {action : Action} :
    action ∈ state.monsterActions config player card level ↔
      ∃ tributes ∈ combinations (state.tributeCandidates player) (config.tributesForLevel level),
        (∃ found, state.CanSummon config player card tributes found) ∧
        (action = .normalSummon card tributes ∨ action = .setCard card tributes) := by
  simp only [monsterActions, List.mem_flatMap, List.mem_filter, isOk_iff,
    validateNormalSummon_eq_ok, List.mem_cons, List.not_mem_nil, or_false, and_assoc]
  apply exists_congr
  intro tributes
  apply and_congr_right
  intro _
  apply and_congr_left
  intro _
  exact ⟨fun ⟨_, found, can, _⟩ => ⟨found, can⟩, fun ⟨found, can⟩ => ⟨_, found, can, rfl⟩⟩

theorem mem_handActions {action : Action} :
    action ∈ state.handActions rules player card ↔
      ∃ found, state.card? card = some found ∧
        (found.isMonster = true ∧
          (action ∈ state.monsterActions rules.config player card found.base.level ∨
            state.validateSpecialSummon rules.catalog player card = .ok () ∧
              action = .specialSummon card) ∨
        found.isMonster = false ∧ state.validateSpellSet player card = .ok () ∧
          action = .setCard card []) := by
  rw [handActions.eq_def]
  cases state.card? card with
  | none => simp
  | some found =>
    by_cases monster : found.isMonster = true
    · simp [monster, isOk_iff, Unique.exists_iff]
    · simp [monster, isOk_iff, Unique.exists_iff]

/-- Every summon and set that is listed is accepted. -/
theorem handActions_ok (agrees : state.Agrees rules.config) (may : state.MayAct player)
    (main : state.phase.isMain = true) {action : Action}
    (listed : action ∈ state.handActions rules player card) :
    ∃ next, state.dispatch rules player action = .ok next := by
  obtain ⟨found, known, ⟨monster, summons | ⟨checked, rfl⟩⟩ | ⟨_, checked, rfl⟩⟩ :=
    mem_handActions.mp listed
  · obtain ⟨tributes, _, ⟨summoned, can⟩, rfl | rfl⟩ := mem_monsterActions.mp summons
    · exact normalSummon_ok agrees may main can false
    · obtain ⟨next, set⟩ := normalSummon_ok agrees may main can true
      exact ⟨next, setCard_eq_ok.mpr ⟨found, known, .inl ⟨monster, set⟩⟩⟩
  · exact specialSummon_ok agrees may main checked
  · exact setSpell_ok agrees may main checked

theorem Agrees.mem_hand (agrees : state.Agrees config) {found : CardInstance}
    (held : state.card? card = some found ∧ found.owner = player ∧ found.zone = .hand) :
    card ∈ (state.zones player).hand :=
  (agrees.listed player .hand card).mpr ⟨found, held⟩

/-- A monster that is summoned or set is listed with its tributes in some order. -/
theorem normalSummon_listed (agrees : state.Agrees config) {isSet : Bool}
    (summoned : state.normalSummon config player card tributes isSet = .ok next) :
    ∃ found listed, state.CanSummon config player card listed found ∧ listed.Perm tributes ∧
      listed ∈ combinations (state.tributeCandidates player)
        (config.tributesForLevel found.base.level) := by
  obtain ⟨_, _, _, checked, _⟩ := normalSummon_eq_ok.mp summoned
  obtain ⟨found, can, rfl⟩ := validateNormalSummon_eq_ok.mp checked
  obtain ⟨listed, chosen, same⟩ := exists_combination_perm (agrees.once player .monsters)
    can.distinct can.offered
  rw [can.enough] at chosen
  exact ⟨found, listed, can.perm same, same, chosen⟩

/-- This lists the summons and sets of all cards in the hand of a player. -/
def allHandActions (state : GameState) (rules : Rules) (player : Seat) : List Action :=
  (state.zones player).hand.flatMap (state.handActions rules player)

/-- A normal summon that succeeds is listed, as is the set, up to the order of the tributes. -/
theorem normalSummon_mem (agrees : state.Agrees rules.config) {isSet : Bool}
    (summoned : state.normalSummon rules.config player card tributes isSet = .ok next) :
    ∃ listed, tributes.Perm listed ∧
      .normalSummon card listed ∈ state.allHandActions rules player ∧
      .setCard card listed ∈ state.allHandActions rules player := by
  obtain ⟨found, listed, can, same, chosen⟩ := normalSummon_listed agrees summoned
  have hand := agrees.mem_hand ⟨can.known, can.own, can.held⟩
  have member {action : Action}
      (kind : action = .normalSummon card listed ∨ action = .setCard card listed) :
      action ∈ state.allHandActions rules player := by
    refine List.mem_flatMap.mpr ⟨card, hand, mem_handActions.mpr ⟨found, can.known, .inl ?_⟩⟩
    exact ⟨can.monster, .inl (mem_monsterActions.mpr ⟨listed, chosen, ⟨found, can⟩, kind⟩)⟩
  exact ⟨listed, same.symm, member (.inl rfl), member (.inr rfl)⟩

/-- A card is set in an open main phase of its owner. -/
theorem setCard_open (set : state.setCard config player card tributes = .ok next) :
    state.MayAct player ∧ state.phase.isMain = true := by
  obtain ⟨_, _, ⟨_, summoned⟩ | ⟨_, may, main, _⟩⟩ := setCard_eq_ok.mp set
  · obtain ⟨may, main, _⟩ := normalSummon_eq_ok.mp summoned
    exact ⟨may, main⟩
  · exact ⟨may, main⟩

/-- A set that succeeds is listed, up to the order of its tributes. -/
theorem setCard_mem (agrees : state.Agrees rules.config)
    (set : state.setCard rules.config player card tributes = .ok next) :
    ∃ listed, tributes.Perm listed ∧ .setCard card listed ∈ state.allHandActions rules player := by
  obtain ⟨found, known, ⟨_, summoned⟩ | ⟨spell, _, _, rfl, checked, _⟩⟩ := setCard_eq_ok.mp set
  · obtain ⟨listed, same, _, member⟩ := normalSummon_mem agrees summoned
    exact ⟨listed, same, member⟩
  · obtain ⟨_, held, _⟩ := validateSpellSet_eq_ok.mp checked
    refine ⟨[], .refl [], List.mem_flatMap.mpr ⟨card, agrees.mem_hand held, ?_⟩⟩
    exact mem_handActions.mpr ⟨found, known, .inr ⟨spell, checked, rfl⟩⟩

/-- A special summon that succeeds is listed. -/
theorem specialSummon_mem (agrees : state.Agrees rules.config)
    (summoned : state.specialSummon rules.catalog player card = .ok next) :
    .specialSummon card ∈ state.allHandActions rules player := by
  obtain ⟨_, _, checked, _⟩ := specialSummon_eq_ok.mp summoned
  obtain ⟨found, held, monster, _⟩ := validateSpecialSummon_eq_ok checked
  refine List.mem_flatMap.mpr ⟨card, agrees.mem_hand held, ?_⟩
  exact mem_handActions.mpr ⟨found, held.1, .inl ⟨monster, .inr ⟨checked, rfl⟩⟩⟩

end GameState

end CardDuel
