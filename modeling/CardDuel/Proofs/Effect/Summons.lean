/-
This file tells when the effect of a card summons: only its instruction to summon does, and it summons cards
that are not on the field, each of them once.
-/

import CardDuel.Proofs.Effect.Plan
import CardDuel.Proofs.Table.Agreement

namespace CardDuel

def Change.isSummon : Change → Bool
  | summon .. => true
  | _ => false

/-- The first of several changes is made before the others. -/
theorem Change.applyAll_cons {change : Change} {others : List Change} {state : GameState} :
    applyAll (change :: others) state = change.apply state >>= applyAll others := by
  rw [applyAll, applyUntil]
  cases change.apply state with
  | error violation => rfl
  | ok next => rfl

/-- Changes that are all possible are made until the last one. -/
theorem Change.applyUntil_of_applyAll {changes : List Change} {state next : GameState}
    (made : applyAll changes state = .ok next) : (applyUntil state changes).1 = next := by
  rw [applyAll] at made
  split at made
  · next same =>
    rw [same]
    exact Except.ok.inj made
  · cases made

namespace GameState

variable {state next : GameState} {changes : List Change} {position : SummonPosition}
  {cards : List InstanceId} {link : ChainLink} {resolved : Resolved}

def IsAway (state : GameState) (card : InstanceId) : Prop :=
  ∀ found, state.card? card = some found → found.isOnField = false

/-- A card that is found outside the field is away. -/
theorem isAway_of_card? {found : CardInstance} (known : state.card? card = some found)
    (away : found.isOnField = false) : state.IsAway card := by
  intro other there
  obtain rfl := Option.some.inj (known.symm.trans there)
  exact away

/-- A card of the hand is away. -/
theorem isAway_of_hand {found : CardInstance} (known : state.card? card = some found)
    (hand : found.zone = .hand) : state.IsAway card :=
  isAway_of_card? known (by rw [CardInstance.isOnField, hand]; rfl)

/-- Only the instruction to summon plans summons. -/
theorem plan_isSummon {instruction : Instruction}
    (planned : state.plan link instruction resolved = .ok changes)
    (other : ∀ position, instruction ≠ .specialSummon position) :
    ∀ change ∈ changes, change.isSummon = false := by
  intro change member
  have made : change.Planned (fun _ => True) instruction :=
    plan_planned planned (fun _ _ _ _ => trivial) (fun _ _ _ _ => trivial) change member
  cases made with
  | summon asked => exact absurd asked (other _)
  | _ => rfl

/-- A plan for special summons summons some of the cards, which are monsters that are not on the field. -/
theorem planSummons_eq_ok (planned : planEach (state.planSummon position) cards = .ok changes) :
    ∃ kept : List InstanceId, kept.Sublist cards ∧
      (∀ card ∈ kept, ∃ found, state.card? card = some found ∧ found.isMonster = true ∧
        found.isOnField = false) ∧
      changes = kept.map fun card => .summon card (summonedPosition position) .special := by
  simp only [planEach, bind_eq_ok, pure_eq_ok] at planned
  obtain ⟨plans, made, rfl⟩ := planned
  induction cards generalizing plans with
  | nil =>
    obtain rfl : [] = plans := pure_eq_ok.mp made
    exact ⟨[], .slnil, by simp, rfl⟩
  | cons card rest ih =>
    simp only [List.mapM_cons, bind_eq_ok, pure_eq_ok] at made
    obtain ⟨own, first, others, remaining, rfl⟩ := made
    obtain ⟨kept, sublist, monsters, same⟩ := ih others remaining
    simp only [planSummon, bind_eq_ok, pure_eq_ok, guard_eq_ok, requireCard_eq_ok] at first
    obtain ⟨found, known, monster, rfl⟩ := first
    rw [List.flatten_cons, same]
    cases field : found.isOnField with
    | true => exact ⟨kept, sublist.cons card, monsters, rfl⟩
    | false =>
      refine ⟨card :: kept, sublist.cons_cons card, List.forall_mem_cons.mpr ⟨?_, monsters⟩, rfl⟩
      exact ⟨found, known, by simpa using monster, field⟩

/-- A summon leaves every other card as it is. -/
theorem card?_of_summon {card other : InstanceId} {position : Position} {kind : SummonKind}
    (made : (Change.summon card position kind).apply state = .ok next) (different : other ≠ card) :
    next.card? other = state.card? other := by
  simp only [Change.apply, bind_eq_ok, pure_eq_ok, guard_eq_ok] at made
  obtain ⟨_, _, _, ⟨_, middle⟩, moved, rfl⟩ := made
  obtain ⟨_, _, _, _, _, _, rfl⟩ := relocate_cases moved
  rw [card?_record, card?_modifyCard, if_neg different, card?_arrived, if_neg different]

/-- A selector finds different players, a card, the link below, or the cards that match a filter. -/
theorem resolve_cases {selector : Selector} (given : state.resolve link selector = .ok resolved) :
    (∃ seats : List Seat, seats.Nodup ∧ resolved = .players seats) ∨
    (∃ card, resolved = .cards [card]) ∨
    (∃ below, state.chain.link? (link.number - 1) = some below ∧
      resolved = .link below.number below.source) ∨
    ∃ keep : CardInstance → Bool, resolved = .cards ((state.cards.filter keep).map CardInstance.id) := by
  have single {card : InstanceId} {moves : UInt32}
      (found : (do return Resolved.cards [← state.sameObject card moves]) = .ok resolved) :
      ∃ card, resolved = .cards [card] := by
    simp only [bind_eq_ok, pure_eq_ok] at found
    obtain ⟨same, _, rfl⟩ := found
    exact ⟨same, rfl⟩
  cases selector with
  | controller => exact .inl ⟨_, List.nodup_singleton _, (Except.ok.inj given).symm⟩
  | opponent => exact .inl ⟨_, List.nodup_singleton _, (Except.ok.inj given).symm⟩
  | bothPlayers =>
    refine .inl ⟨_, ?_, (Except.ok.inj given).symm⟩
    cases link.controller <;> decide
  | this => exact .inr (.inl (single given))
  | chosen index =>
    simp only [resolve] at given
    split at given
    · exact .inr (.inl (single given))
    · cases given
  | previousLink =>
    simp only [resolve] at given
    split at given
    · next below there => exact .inr (.inr (.inl ⟨below, there, (Except.ok.inj given).symm⟩))
    · cases given
  | attacker =>
    obtain ⟨attack, _, given⟩ := bind_eq_ok.mp given
    exact .inr (.inl (single given))
  | attackTarget =>
    obtain ⟨attack, _, given⟩ := bind_eq_ok.mp given
    split at given
    · exact .inr (.inl (single given))
    · exact (throw_eq_ok.mp given).elim
  | all filter => exact .inr (.inr (.inr ⟨_, (Except.ok.inj given).symm⟩))

/-- A selector finds no card twice. -/
theorem resolve_nodup {selector : Selector} (given : state.resolve link selector = .ok resolved)
    (acted : resolved.cards? = .ok cards) (numbered : state.Numbered) : cards.Nodup := by
  obtain ⟨_, _, rfl⟩ | ⟨card, rfl⟩ | ⟨below, _, rfl⟩ | ⟨keep, rfl⟩ := resolve_cases given
  · cases acted
  · rw [← Except.ok.inj acted]
    exact List.nodup_singleton card
  · rw [← Except.ok.inj acted]
    exact List.nodup_singleton _
  · rw [← Except.ok.inj acted]
    exact (List.filter_sublist.map CardInstance.id).nodup numbered.nodup_ids

end GameState

end CardDuel
