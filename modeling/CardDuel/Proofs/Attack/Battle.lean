/-
This file tells exactly how an attack ends: it is cancelled if its cards are not what they were, and else it
is fought with the values that the cards have once the target is shown.
-/

import CardDuel.Proofs.Attack.Damage
import CardDuel.Proofs.Table.Posture

namespace CardDuel

namespace GameState

variable {state next : GameState} {catalog : Catalog} {attack : PendingAttack} {card : InstanceId}
  {found : CardInstance}

/-! Cards that still stand -/

/-- This tells that a card is the same object in a monster zone that it was after some moves. -/
def Endures (state : GameState) (card : InstanceId) (moves : UInt32) : Prop :=
  ∃ found, state.card? card = some found ∧ found.zone = .monsters ∧ found.moves = moves

/-- This tells that the cards of an attack are what they were and that nothing is in the way of a direct one. -/
structure Intact (state : GameState) (attack : PendingAttack) : Prop where
  attacker : state.Endures attack.attacker attack.attackerMoves
  target : ∀ target, attack.target = some target → state.Endures target attack.targetMoves
  unopposed : attack.target = none → ∀ attacker, state.card? attack.attacker = some attacker →
    (state.zones attacker.owner.opponent).cards .monsters = []

/-- A card still stands if it lies on the field unmoved. -/
theorem stillStands_iff {moves : UInt32} :
    state.stillStands card moves = true ↔ state.Endures card moves := by
  simp [stillStands, Endures, Option.any_eq_true]

/-- An attack goes on as long as attacker and target stand. -/
theorem intact_iff : state.Intact attack ↔
    (state.stillStands attack.attacker attack.attackerMoves && state.targetStands attack) = true := by
  rw [Bool.and_eq_true, stillStands_iff, targetStands]
  cases aim : attack.target with
  | some target =>
    dsimp only
    rw [stillStands_iff]
    refine ⟨fun intact => ⟨intact.attacker, intact.target target aim⟩, ?_⟩
    intro ⟨stays, there⟩
    refine ⟨stays, ?_, ?_⟩
    · intro other same
      obtain rfl := Option.some.inj (aim.symm.trans same)
      exact there
    · intro direct
      rw [aim] at direct
      cases direct
  | none =>
    dsimp only
    constructor
    · intro intact
      obtain ⟨attacker, known, _⟩ := intact.attacker
      refine ⟨intact.attacker, ?_⟩
      rw [known]
      exact List.isEmpty_iff.mpr (intact.unopposed aim attacker known)
    · rintro ⟨stays, free⟩
      refine ⟨stays, ?_, ?_⟩
      · intro other same
        rw [aim] at same
        cases same
      · intro _ attacker known
        rw [known] at free
        exact List.isEmpty_iff.mp free

/-! The target is shown -/

/-- This is a state in which a card was turned to face-up defense. -/
def flipped (state : GameState) (card : InstanceId) : GameState :=
  (state.modifyCard card fun entry => { entry with position := .faceUpDefense }).record
    (.positionChanged card .faceUpDefense)

/-- This is the state before a battle: a face-down target was turned and lasting changes were recomputed. -/
inductive Reveals (catalog : Catalog) (before : GameState) : Option InstanceId → GameState → Prop where
  | direct : Reveals catalog before none before
  | exposed {target : InstanceId} {found : CardInstance} (known : before.card? target = some found)
      (shown : found.position ≠ .faceDownDefense) : Reveals catalog before (some target) before
  | turned {target : InstanceId} {found : CardInstance} (known : before.card? target = some found)
      (hidden : found.position = .faceDownDefense) : Reveals catalog before (some target)
        ((before.flipped target).refresh catalog)

/-- A target that is known is revealed. -/
theorem reveals_revealTarget (known : ∀ target, attack.target = some target →
      ∃ found, state.card? target = some found ∧ found.zone = .monsters) (catalog : Catalog) :
    Reveals catalog state attack.target (state.revealTarget catalog attack.target) := by
  cases aim : attack.target with
  | none => exact .direct
  | some target =>
    obtain ⟨found, there, monsters⟩ := known target aim
    rw [revealTarget, there]
    by_cases hidden : found.position = .faceDownDefense
    · have field : found.isOnField = true := by
        rw [CardInstance.isOnField, monsters]
        rfl
      have turned : (Change.changePosition target .faceUpDefense).apply state =
          .ok (state.flipped target) := by
        rw [Change.apply, onField_eq_ok.mpr ⟨found, there, field, rfl⟩]
        rfl
      rw [if_pos (by simpa using hidden), Change.applyPossible, List.foldl_cons, List.foldl_nil, turned]
      exact .turned there hidden
    · rw [if_neg (by simpa using hidden)]
      exact .exposed there hidden

/-- A settled state is still settled after a card was turned. -/
theorem Settled.flipped (settled : state.Settled) (card : InstanceId) : (state.flipped card).Settled where
  consistent := by
    have still : Still state (state.flipped card) :=
      .trans (.modifyCard state card (fun entry => { entry with position := .faceUpDefense }) fun _ => rfl)
        (.record _ _)
    exact (Shifts.of_still still).consistent settled.consistent
  unmarked := by
    apply marked_eq_nil_iff.mpr
    intro new member
    obtain ⟨spot, there⟩ := List.mem_iff_getElem?.mp member
    obtain ⟨old, early, same⟩ := of_modifyCard (fun old new => new.mark? = old.mark?) (fun _ => rfl)
      (fun _ _ => by rfl) there
    rw [same]
    exact marked_eq_nil_iff.mp settled.unmarked old (List.mem_of_getElem? early)
  judged := settled.judged

namespace Reveals

variable {before after : GameState} {target : Option InstanceId}

/-- A revealed target leaves nothing for a sweep. -/
theorem settled (reveals : Reveals catalog before target after) (settled : before.Settled) :
    after.Settled := by
  cases reveals with
  | direct => exact settled
  | exposed => exact settled
  | turned => exact (settled.flipped _).refresh catalog

theorem fresh (reveals : Reveals catalog before target after) (fresh : before.Fresh catalog) :
    after.Fresh catalog := by
  cases reveals with
  | direct => exact fresh
  | exposed => exact fresh
  | turned => exact refresh_fresh _ catalog

theorem player (reveals : Reveals catalog before target after) (seat : Seat) :
    after.player seat = before.player seat := by
  cases reveals with
  | direct => rfl
  | exposed => rfl
  | turned => rfl

theorem outcome (reveals : Reveals catalog before target after) : after.outcome = before.outcome := by
  cases reveals with
  | direct => rfl
  | exposed => rfl
  | turned => rfl

/-- Every card is where it was, and a target that was in the position of a monster is shown. -/
theorem known (reveals : Reveals catalog before target after) (known : before.card? card = some found) :
    ∃ new, after.card? card = some new ∧ new.zone = found.zone ∧
      (target = some card → found.position ∈ Zone.monsters.poses →
        new.position = .faceUpAttack ∨ new.position = .faceUpDefense) := by
  cases reveals with
  | direct => exact ⟨found, known, rfl, fun aim => by cases aim⟩
  | @exposed target old there shown =>
    refine ⟨found, known, rfl, ?_⟩
    intro aim poses
    obtain rfl := Option.some.inj aim
    obtain rfl := Option.some.inj (known.symm.trans there)
    simpa [Zone.poses, shown] using poses
  | @turned target old there hidden =>
    have kept := whereabouts_refresh (before.flipped target) catalog card
    rw [flipped, card?_record, card?_modifyCard] at kept
    by_cases aimed : card = target
    · rw [if_pos aimed, known] at kept
      obtain ⟨new, present, same⟩ := Option.map_eq_some_iff.mp kept
      have position : new.position = .faceUpDefense := congrArg (fun place => place.2.2.1) same
      exact ⟨new, present, congrArg Prod.fst same, fun _ _ => .inr position⟩
    · rw [if_neg aimed, known] at kept
      obtain ⟨new, present, same⟩ := Option.map_eq_some_iff.mp kept
      exact ⟨new, present, congrArg Prod.fst same, fun aim => absurd (Option.some.inj aim).symm aimed⟩

end Reveals

/-! Attacks -/

/-- A battle makes its changes in the state in which the target is shown. -/
theorem fight_eq {attacker : CardInstance} {outcome : BattleOutcome}
    (shown : state.revealTarget catalog attack.target = next) (consistent : next.Consistent)
    (known : next.card? attack.attacker = some attacker)
    (decided : BattleOutcome.between attacker (attack.target.bind next.card?) = outcome)
    (field : ∀ card ∈ outcome.destroyed, ∃ found, next.card? card = some found ∧
      found.isOnField = true) :
    state.fight catalog attack =
      (next.fought attack outcome.destroyed outcome.damage).sweep catalog := by
  have changed : Change.applyPossible outcome.changes next =
      ((next.struck outcome.destroyed).charged outcome.damage).recordAll
        (next.chargeNews outcome.damage) := by
    rw [BattleOutcome.changes, Change.applyPossible, List.foldl_append]
    refine (congrArg (List.foldl _ · _) (applyPossible_marks consistent field)).trans ?_
    exact applyPossible_damage (next.struck outcome.destroyed) outcome.damage
  rw [fight, shown, known]
  dsimp only
  rw [decided, changed]
  rfl

/-- In a settled state an attack whose cards stand is fought by the table of battles. -/
theorem Settled.fights (settled : state.Settled) (running : state.outcome = none)
    (posed : ∀ found ∈ state.cards, found.zone = .monsters → found.position ∈ Zone.monsters.poses)
    (intact : state.Intact attack) (catalog : Catalog) : ∃ shown attacker defender fallen due,
      Reveals catalog state attack.target shown ∧ shown.card? attack.attacker = some attacker ∧
        attack.target.map shown.card? = defender.map some ∧ Clash attacker defender fallen due ∧
        Fought catalog attack fallen due shown (state.fight catalog attack) := by
  have aims : ∀ target, attack.target = some target →
      ∃ found, state.card? target = some found ∧ found.zone = .monsters := fun target aim => by
    obtain ⟨found, known, monsters, _⟩ := intact.target target aim
    exact ⟨found, known, monsters⟩
  obtain ⟨shown, reveals, revealed⟩ : ∃ shown, Reveals catalog state attack.target shown ∧
      state.revealTarget catalog attack.target = shown := ⟨_, reveals_revealTarget aims catalog, rfl⟩
  have calm := reveals.settled settled
  obtain ⟨old, known, monsters, _⟩ := intact.attacker
  obtain ⟨attacker, fights, stands, _⟩ := reveals.known known
  obtain ⟨defender, defends, faces⟩ : ∃ defender : Option CardInstance,
      attack.target.map shown.card? = defender.map some ∧ ∀ found ∈ defender, found ∈ shown.cards ∧
        found.zone = .monsters ∧ (found.position = .faceUpAttack ∨ found.position = .faceUpDefense) := by
    cases aim : attack.target with
    | none => exact ⟨none, rfl, by simp⟩
    | some target =>
      obtain ⟨found, there, inside⟩ := aims target aim
      obtain ⟨new, present, zone, lies⟩ := reveals.known there
      refine ⟨some new, ?_, ?_⟩
      · rw [Option.map_some, present]
        rfl
      · intro other same
        obtain rfl := Option.some.inj same
        exact ⟨List.mem_of_getElem? present, zone.trans inside,
          lies aim (posed found (List.mem_of_getElem? there) inside)⟩
  have clash : Clash attacker defender (BattleOutcome.between attacker defender).destroyed
      (BattleOutcome.between attacker defender).damage :=
    between_clash fun found there => (faces found there).2.2
  have falls : ∀ card ∈ (BattleOutcome.between attacker defender).destroyed,
      ∃ found, shown.card? card = some found ∧ found.zone = .monsters := by
    intro card fell
    rcases clash.fighter fell with rfl | ⟨found, same, rfl⟩
    · exact ⟨attacker, calm.consistent.numbered.card?_id (List.mem_of_getElem? fights),
        stands.trans monsters⟩
    · obtain ⟨member, inside, _⟩ := faces found same
      exact ⟨found, calm.consistent.numbered.card?_id member, inside⟩
  have aimed : attack.target.bind shown.card? = defender := by
    simpa [Option.bind_map, Function.comp_def] using congrArg (Option.bind · id) defends
  refine ⟨shown, attacker, defender, _, _, reveals, fights, defends, clash, ?_⟩
  rw [fight_eq revealed calm.consistent fights (congrArg _ aimed) fun card fell => ?_]
  · exact calm.fought falls (reveals.outcome.trans running)
  · obtain ⟨found, there, inside⟩ := falls card fell
    exact ⟨found, there, by rw [CardInstance.isOnField, inside]; rfl⟩

/--
In a settled state an attack whose cards are not what they were, or that is direct and opposed, is only
cancelled. Any other one is fought with the values that the cards have once the target is shown.
-/
theorem resolveAttack_exact (running : state.outcome = none) (consistent : state.Consistent)
    (posed : ∀ found ∈ state.cards, found.zone = .monsters → found.position ∈ Zone.monsters.poses)
    (stable : state.sweep catalog = state) (waits : state.pendingAttack = some attack) :
    Course state (state.resolveAttack catalog) ∧ (state.resolveAttack catalog).pendingAttack = none ∧
      (¬state.Intact attack → state.resolveAttack catalog =
        ({ state with pendingAttack := none } : GameState).record (.attackCancelled attack.attacker)) ∧
      (state.Intact attack → ∃ shown attacker defender fallen due,
        Reveals catalog { state with pendingAttack := none } attack.target shown ∧
        shown.Fresh catalog ∧ (∀ seat, shown.player seat = state.player seat) ∧
        shown.card? attack.attacker = some attacker ∧
        attack.target.map shown.card? = defender.map some ∧ Clash attacker defender fallen due ∧
        Fought catalog attack fallen due shown (state.resolveAttack catalog)) := by
  obtain ⟨course, ended⟩ := resolveAttack_course state catalog
  refine ⟨course, ended, ?_, ?_⟩
  · intro broken
    rw [resolveAttack, waits]
    exact if_neg fun stands => broken (intact_iff.mpr stands)
  · intro intact
    have cleared : Settled { state with pendingAttack := none } :=
      (Settled.of_sweep_eq consistent stable).same rfl rfl rfl
    have steady : state.Fresh catalog := by
      rw [← stable]
      exact state.sweep_fresh catalog
    have fought : state.resolveAttack catalog =
        ({ state with pendingAttack := none } : GameState).fight catalog attack := by
      rw [resolveAttack, waits]
      exact if_pos (intact_iff.mp intact)
    obtain ⟨shown, attacker, defender, fallen, due, reveals, known, aimed, clash, ends⟩ :=
      cleared.fights running posed ⟨intact.attacker, intact.target, intact.unopposed⟩ catalog
    rw [fought]
    exact ⟨shown, attacker, defender, fallen, due, reveals,
      reveals.fresh (steady.same rfl rfl rfl rfl rfl), reveals.player, known, aimed, clash, ends⟩

/-- This is the attack of a sentry of the first player on a sentry of the second one. -/
def raid : PendingAttack := ⟨⟨0⟩, 1, some ⟨3⟩, 1⟩

/-- This is a table on which the second sentry lies face-down. -/
def hideout : GameState :=
  Change.applyPossible [.summon ⟨0⟩ .faceUpAttack .normal, .setMonster ⟨3⟩] DuelSetup.sentries.withDecks

def ambush : GameState :=
  ({ hideout with pendingAttack := some raid } : GameState).sweep DuelSetup.sentries.rules.catalog

/-- The raid breaks the defense of the sentry that it turns, and no player has to pay for it. -/
theorem ambush_resolved :
    ambush.outcome = none ∧ ambush.Consistent ∧
      ambush.sweep DuelSetup.sentries.rules.catalog = ambush ∧ ambush.Intact raid ∧
      (∃ shown attacker defender fallen due,
        Reveals DuelSetup.sentries.rules.catalog { ambush with pendingAttack := none } (some ⟨3⟩) shown ∧
        shown.card? ⟨3⟩ = some defender ∧ Clash attacker (some defender) fallen due ∧
        Fought DuelSetup.sentries.rules.catalog raid fallen due shown
          (ambush.resolveAttack DuelSetup.sentries.rules.catalog)) ∧
      ((ambush.resolveAttack DuelSetup.sentries.rules.catalog).zones .second).graveyard = [⟨3⟩] ∧
      ((ambush.resolveAttack DuelSetup.sentries.rules.catalog).player .second).life = 8000 := by
  have fits : DuelSetup.sentries.Fits := by
    show 2 + 2 < UInt32.size
    decide
  have hidden : hideout.Consistent :=
    (Change.applyPossible_edits _ _).shifts.consistent (DuelSetup.withDecks_agrees fits).consistent
  have still : Still hideout { hideout with pendingAttack := some raid } := ⟨rfl, fun _ => rfl⟩
  have waiting := (Shifts.of_still still).consistent hidden
  have consistent : ambush.Consistent :=
    (sweep_shifts _ DuelSetup.sentries.rules.catalog).consistent waiting
  have stable := sweep_sweep waiting DuelSetup.sentries.rules.catalog
  have running : ambush.outcome = none := by decide
  have intact : ambush.Intact raid := intact_iff.mpr (by decide)
  obtain ⟨_, _, _, fights⟩ := resolveAttack_exact running consistent (by decide) stable
    (show ambush.pendingAttack = some raid by decide)
  obtain ⟨shown, attacker, defender, fallen, due, reveals, _, _, _, aimed, clash, fought⟩ := fights intact
  obtain ⟨defended, there, same⟩ := Option.map_eq_some_iff.mp aimed.symm
  obtain rfl := there
  exact ⟨running, consistent, stable, intact, ⟨shown, attacker, defended, fallen, due, reveals, same.symm,
    clash, fought⟩, by decide, by decide⟩

end GameState

end CardDuel
