/-
This file compares the check of a cost with its enumeration: cards that pay a cost are listed in some
order, and no way to pay is listed twice.
-/

import CardDuel.Proofs.Legal.Targets

namespace CardDuel

namespace GameState

variable {state : GameState} {config : DuelConfig} {player : Seat} {card : InstanceId}

/-- A cost is paid with distinct cards of the player in the zone that it names. -/
theorem paysWith_iff {zone : Zone} {paid : List InstanceId} :
    state.paysWith player card zone paid = true ↔ paid.Nodup ∧ ∀ id ∈ paid, id ≠ card ∧
      ∃ found, state.card? id = some found ∧ found.owner = player ∧ found.zone = zone := by
  simp only [paysWith, Bool.and_eq_true, Bool.not_eq_true', hasRepeats_eq_false_iff,
    List.all_eq_true, decide_eq_true_eq, Option.any_eq_true]

/-- The order of the cards that pay a cost does not matter. -/
theorem paysWith_perm {zone : Zone} {left right : List InstanceId} (same : left.Perm right) :
    state.paysWith player card zone left = state.paysWith player card zone right := by
  rw [Bool.eq_iff_iff, paysWith_iff, paysWith_iff, same.nodup_iff]
  apply and_congr_right
  intro _
  apply forall_congr'
  intro id
  rw [same.mem_iff]

/-- The order of the cards that pay a cost does not matter. -/
theorem checkCost_perm {cost : Option Cost} {left right : List InstanceId}
    (same : left.Perm right) :
    state.checkCost cost player card left = state.checkCost cost player card right := by
  rw [checkCost.eq_def, checkCost.eq_def, same.length_eq]
  simp only [paysWith_perm same]

/-- A cost sends cards to the graveyard, or life points are paid. -/
theorem mem_costChanges {cost : Option Cost} {paid : List InstanceId} {change : Change}
    (member : change ∈ costChanges player card paid cost) :
    (∃ other, change = .toGraveyard other) ∨ ∃ amount, change = .payLife player amount := by
  rw [costChanges.eq_def] at member
  split at member
  · simp at member
  · split at member
    · exact .inr ⟨_, List.mem_singleton.mp member⟩
    · exact .inl ⟨card, List.mem_singleton.mp member⟩
    · obtain ⟨id, _, rfl⟩ := List.mem_map.mp member
      exact .inl ⟨id, rfl⟩
    · obtain ⟨id, _, rfl⟩ := List.mem_map.mp member
      exact .inl ⟨id, rfl⟩

/-- These are the cards among which those that pay a cost are named. -/
def payers (state : GameState) (player : Seat) (card : InstanceId) (zone : Zone) :
    List InstanceId :=
  ((state.zones player).cards zone).filter (· ≠ card)

/-- Cards that pay are a choice among the payers. -/
theorem exists_payment (agrees : state.Agrees config) {zone : Zone} {paid : List InstanceId}
    (pays : state.paysWith player card zone paid = true) :
    ∃ listed ∈ combinations (state.payers player card zone) paid.length, listed.Perm paid := by
  obtain ⟨distinct, each⟩ := paysWith_iff.mp pays
  refine exists_combination_perm ((agrees.once player zone).filter _) distinct ?_
  intro id member
  obtain ⟨other, held⟩ := each id member
  rw [payers, List.mem_filter]
  exact ⟨(agrees.listed player zone id).mpr held, by simpa using other⟩

/-- A cost is paid without naming a card, or with cards of one zone, which are the ones listed. -/
theorem checkCost_cases {cost : Option Cost} {paid : List InstanceId}
    (checked : state.checkCost cost player card paid = .ok ()) :
    paid = [] ∧ state.costChoices cost player card = [[]] ∨
      ∃ zone, state.paysWith player card zone paid = true ∧ state.costChoices cost player card =
        combinations (state.payers player card zone) paid.length := by
  rw [checkCost.eq_def, guard_eq_ok, not_not] at checked
  obtain ⟨length, rest⟩ := checked
  cases cost with
  | none => exact .inl ⟨List.length_eq_zero_iff.mp length, rfl⟩
  | some cost =>
    change paid.length = cost.cardsNamed at length
    rw [costChoices.eq_def, length]
    rw [Cost.cardsNamed.eq_def] at length
    cases resource : cost.resource with
    | lifePoints =>
      rw [resource] at length
      exact .inl ⟨List.length_eq_zero_iff.mp length, by simp [resource]⟩
    | this =>
      rw [resource] at length
      exact .inl ⟨List.length_eq_zero_iff.mp length, by simp [resource]⟩
    | hand =>
      simp only [resource] at rest ⊢
      cases pays : state.paysWith player card .hand paid with
      | false => simp [pays, throw_eq_ok] at rest
      | true => exact .inr ⟨.hand, pays, rfl⟩
    | field =>
      simp only [resource] at rest ⊢
      cases pays : state.paysWith player card .monsters paid with
      | false => simp [pays, throw_eq_ok] at rest
      | true => exact .inr ⟨.monsters, pays, rfl⟩

/-- The cards that pay a cost are on the table. -/
theorem checkCost_known {cost : Option Cost} {paid : List InstanceId}
    (checked : state.checkCost cost player card paid = .ok ()) :
    ∀ id ∈ paid, ∃ found, state.card? id = some found := by
  intro id member
  rcases checkCost_cases checked with ⟨rfl, _⟩ | ⟨zone, pays, _⟩
  · simp at member
  · obtain ⟨_, found, known, _⟩ := (paysWith_iff.mp pays).2 id member
    exact ⟨found, known⟩

/-- Cards that pass the check of a cost are listed in some order. -/
theorem exists_costChoice (agrees : state.Agrees config) {cost : Option Cost}
    {paid : List InstanceId} (checked : state.checkCost cost player card paid = .ok ()) :
    ∃ listed ∈ state.costChoices cost player card, listed.Perm paid := by
  rcases checkCost_cases checked with ⟨rfl, free⟩ | ⟨zone, pays, choices⟩
  · rw [free]
    exact ⟨[], List.mem_singleton_self [], .refl []⟩
  · rw [choices]
    exact exists_payment agrees pays

/-- No way to pay is listed twice. -/
theorem nodup_costChoices (agrees : state.Agrees config) (cost : Option Cost) (player : Seat)
    (card : InstanceId) : (state.costChoices cost player card).Nodup := by
  rw [costChoices.eq_def]
  split
  · exact List.nodup_singleton []
  · split
    · exact nodup_combinations ((agrees.once player .hand).filter _) _
    · exact nodup_combinations ((agrees.once player .monsters).filter _) _
    · exact List.nodup_singleton []
    · exact List.nodup_singleton []

/-- Targets and cards that pay may be named in another order. -/
theorem checkChoices_same (agrees : state.Agrees config) {effect : CardEffect}
    {targets others paid named : List InstanceId} (same : SameTargets effect.targets targets others)
    (perm : named.Perm paid) (checked : state.checkChoices effect player card targets paid = .ok ()) :
    state.checkChoices effect player card others named = .ok () := by
  rw [checkChoices, bind_eq_ok, Unique.exists_iff] at checked ⊢
  refine ⟨checkTargets_same agrees same checked.1, ?_⟩
  rw [checkCost_perm perm]
  exact checked.2

end GameState

end CardDuel
