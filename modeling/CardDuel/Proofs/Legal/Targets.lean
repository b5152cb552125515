/-
This file compares the check of targets with their enumeration: targets that pass the check are listed
in some order within each description, and no choice of targets is listed twice.
-/

import CardDuel.Play.Legal
import CardDuel.Proofs.Accepted
import CardDuel.Proofs.Dispatch
import CardDuel.Proofs.Legal.Combination
import CardDuel.Proofs.Table.Agreement
import Mathlib.Data.List.Nodup

namespace CardDuel

/-- A list of checks is passed exactly when each of them is. -/
theorem forM_eq_ok {ε α : Type} {items : List α} {check : α → Except ε Unit} {result : Unit} :
    items.forM check = .ok result ↔ ∀ item ∈ items, check item = .ok () := by
  induction items with
  | nil => simp [pure, Except.pure]
  | cons item rest ih =>
    show (check item >>= fun _ => rest.forM check) = .ok result ↔ _
    rw [bind_eq_ok, Unique.exists_iff, List.forall_mem_cons]
    exact and_congr_right fun _ => ih

namespace GameState

variable {state : GameState} {config : DuelConfig} {player : Seat} {card : InstanceId}

/-! Repeats -/

/-- No card is listed twice among those without repeats. -/
theorem nodup_eraseDups (cards : List InstanceId) : cards.eraseDups.Nodup := by
  cases cards with
  | nil => exact List.nodup_nil
  | cons card rest =>
    rw [List.eraseDups_cons, List.nodup_cons]
    exact ⟨by simp [List.mem_eraseDups], nodup_eraseDups (rest.filter fun other => !other == card)⟩
termination_by cards.length
decreasing_by exact Nat.lt_succ_of_le (List.length_filter_le _ _)

/-- A list without repeats lists each card once. -/
theorem hasRepeats_eq_false_iff {cards : List InstanceId} :
    hasRepeats cards = false ↔ cards.Nodup := by
  rw [hasRepeats, decide_eq_false_iff_not, ne_eq, not_not]
  constructor
  · intro same
    rw [same]
    exact nodup_eraseDups cards
  · intro distinct
    induction cards with
    | nil => rfl
    | cons card rest ih =>
      obtain ⟨new, others⟩ := List.nodup_cons.mp distinct
      have kept : (rest.filter fun other => !other == card) = rest := by
        rw [List.filter_eq_self]
        intro other member
        have different : other ≠ card := fun same => new (same ▸ member)
        simp [different]
      rw [List.eraseDups_cons, kept, ← ih others]

/-! Targets -/

/-- A target is accepted if it is a card that fits. -/
theorem checkTarget_eq_ok {filter : CardFilter} {target : InstanceId} {result : Unit} :
    state.checkTarget player card filter target = .ok result ↔
      ∃ found, state.card? target = some found ∧ filter.matchesFor player card found = true := by
  simp only [checkTarget, bind_eq_ok, knownCard_eq_ok]
  apply exists_congr
  intro found
  apply and_congr_right
  intro _
  by_cases fits : filter.matchesFor player card found = true
  · simp [fits, pure_eq_ok]
  · simp [fits, throw_eq_ok]

/-- The candidates are the cards that fit. -/
theorem mem_candidates (agrees : state.Agrees config) {filter : CardFilter} {target : InstanceId} :
    target ∈ state.candidates player card filter ↔
      ∃ found, state.card? target = some found ∧ filter.matchesFor player card found = true := by
  simp only [candidates, List.mem_map, List.mem_filter]
  constructor
  · rintro ⟨found, ⟨member, fits⟩, rfl⟩
    exact ⟨found, agrees.card?_id member, fits⟩
  · rintro ⟨found, known, fits⟩
    exact ⟨found, ⟨List.mem_of_getElem? known, fits⟩, agrees.id_eq known⟩

/-- This tells that targets are candidates for their descriptions. -/
def MatchesSpecs (state : GameState) (player : Seat) (card : InstanceId) :
    List TargetSpec → List InstanceId → Prop
  | [], _ => True
  | spec :: rest, targets =>
    (∀ target ∈ targets.take spec.count, target ∈ state.candidates player card spec.filter) ∧
      state.MatchesSpecs player card rest (targets.drop spec.count)

/-- Targets are accepted exactly if they match their descriptions. -/
theorem checkTargetSpecs_eq_ok (agrees : state.Agrees config) {specs : List TargetSpec}
    {targets : List InstanceId} {result : Unit} :
    state.checkTargetSpecs player card specs targets = .ok result ↔
      state.MatchesSpecs player card specs targets := by
  induction specs generalizing targets with
  | nil => simp [checkTargetSpecs, MatchesSpecs]
  | cons spec rest ih =>
    simp only [checkTargetSpecs, bind_eq_ok, forM_eq_ok, Unique.exists_iff, MatchesSpecs, ih,
      checkTarget_eq_ok, mem_candidates agrees]

theorem checkTargets_eq_ok (agrees : state.Agrees config) {effect : CardEffect}
    {targets : List InstanceId} {result : Unit} :
    state.checkTargets effect player card targets = .ok result ↔
      targets.length = effect.targetCount ∧ targets.Nodup ∧
        state.MatchesSpecs player card effect.targets targets := by
  simp only [checkTargets, guard_eq_ok, not_not, Bool.not_eq_true, hasRepeats_eq_false_iff,
    checkTargetSpecs_eq_ok agrees]

/-- Targets that pass the check exist if there are not more of them than are described. -/
theorem checkTargetSpecs_known {specs : List TargetSpec} {targets : List InstanceId} {result : Unit}
    (checked : state.checkTargetSpecs player card specs targets = .ok result)
    (few : targets.length ≤ TargetSpec.total specs) :
    ∀ target ∈ targets, (state.card? target).isSome = true := by
  induction specs generalizing targets with
  | nil =>
    rw [TargetSpec.total, Nat.le_zero, List.length_eq_zero_iff] at few
    simp [few]
  | cons spec rest ih =>
    rw [TargetSpec.total] at few
    simp only [checkTargetSpecs, bind_eq_ok, forM_eq_ok, Unique.exists_iff,
      checkTarget_eq_ok] at checked
    intro target member
    rw [← List.take_append_drop spec.count targets, List.mem_append] at member
    rcases member with early | late
    · obtain ⟨found, known, _⟩ := checked.1 target early
      simp [known]
    · exact ih checked.2 (by rw [List.length_drop]; omega) target late

/-- Targets that pass the check exist, and there are as many as the effect asks for. -/
theorem checkTargets_known {effect : CardEffect} {targets : List InstanceId} {result : Unit}
    (checked : state.checkTargets effect player card targets = .ok result) :
    targets.length = effect.targetCount ∧ ∀ target ∈ targets, (state.card? target).isSome = true := by
  simp only [checkTargets, guard_eq_ok, not_not] at checked
  obtain ⟨count, _, specified⟩ := checked
  exact ⟨count, checkTargetSpecs_known specified (Nat.le_of_eq count)⟩

/-- This tells that two lists name the same targets for every description. -/
def SameTargets : List TargetSpec → List InstanceId → List InstanceId → Prop
  | [], left, right => left = right
  | spec :: rest, left, right =>
    (left.take spec.count).Perm (right.take spec.count) ∧
      SameTargets rest (left.drop spec.count) (right.drop spec.count)

/-- The same targets are named in some order. -/
theorem SameTargets.perm {specs : List TargetSpec} {left right : List InstanceId}
    (same : SameTargets specs left right) : left.Perm right := by
  induction specs generalizing left right with
  | nil => exact List.Perm.of_eq same
  | cons spec rest ih =>
    have parts := same.1.append (ih same.2)
    rwa [List.take_append_drop, List.take_append_drop] at parts

theorem MatchesSpecs.same {specs : List TargetSpec} {left right : List InstanceId}
    (fits : state.MatchesSpecs player card specs left) (same : SameTargets specs left right) :
    state.MatchesSpecs player card specs right := by
  induction specs generalizing left right with
  | nil => trivial
  | cons spec rest ih =>
    exact ⟨fun target member => fits.1 target (same.1.mem_iff.mpr member), ih fits.2 same.2⟩

/-- The order of the targets of each description does not matter. -/
theorem checkTargets_same (agrees : state.Agrees config) {effect : CardEffect}
    {left right : List InstanceId} (same : SameTargets effect.targets left right)
    (checked : state.checkTargets effect player card left = .ok ()) :
    state.checkTargets effect player card right = .ok () := by
  obtain ⟨enough, distinct, fits⟩ := (checkTargets_eq_ok agrees).mp checked
  refine (checkTargets_eq_ok agrees).mpr ⟨?_, ?_, fits.same same⟩
  · rw [← same.perm.length_eq, enough]
  · exact same.perm.nodup_iff.mp distinct

theorem nodup_candidates (agrees : state.Agrees config) (player : Seat) (card : InstanceId)
    (filter : CardFilter) : (state.candidates player card filter).Nodup :=
  agrees.nodup_ids.sublist (List.filter_sublist.map _)

/-- This is one step of the enumeration of targets. -/
def extendBy (state : GameState) (player : Seat) (card : InstanceId)
    (choices : List (List InstanceId)) (spec : TargetSpec) : List (List InstanceId) :=
  extendChoices choices (combinations (state.candidates player card spec.filter) spec.count)

/-- A choice is extended by a pick of other targets. -/
theorem mem_extendChoices {choices picks : List (List InstanceId)} {targets : List InstanceId} :
    targets ∈ extendChoices choices picks ↔ ∃ choice ∈ choices, ∃ pick ∈ picks,
      (∀ target ∈ pick, target ∉ choice) ∧ choice ++ pick = targets := by
  simp only [extendChoices, List.mem_flatMap, List.mem_map, List.mem_filter, Bool.not_eq_true',
    List.any_eq_false, List.contains_eq_mem, decide_eq_true_eq, and_assoc]

/-- Targets that pass the check are enumerated in some order after every choice that was made. -/
theorem exists_extension (agrees : state.Agrees config) (specs : List TargetSpec)
    {start : List (List InstanceId)} {first targets : List InstanceId} (chosen : first ∈ start)
    (distinct : (first ++ targets).Nodup)
    (enough : targets.length = TargetSpec.total specs)
    (fits : state.MatchesSpecs player card specs targets) :
    ∃ rest, SameTargets specs targets rest ∧
      first ++ rest ∈ specs.foldl (state.extendBy player card) start := by
  -- Description by description, the targets are picked in the order in which the candidates are listed.
  induction specs generalizing start first targets with
  | nil =>
    have empty : targets = [] := List.length_eq_zero_iff.mp enough
    exact ⟨targets, rfl, by simpa [empty] using chosen⟩
  | cons spec specs ih =>
    rw [TargetSpec.total] at enough
    have size : (targets.take spec.count).length = spec.count := by
      rw [List.length_take]
      omega
    have parts : first ++ (targets.take spec.count ++ targets.drop spec.count) =
        first ++ targets := by
      rw [List.take_append_drop]
    rw [← parts] at distinct
    obtain ⟨pick, picked, same⟩ := exists_combination_perm
      (nodup_candidates agrees player card spec.filter)
      (List.nodup_append.mp (List.nodup_append.mp distinct).2.1).1 fits.1
    rw [size] at picked
    have apart : ∀ target ∈ pick, target ∉ first := by
      intro target member early
      have later := List.mem_append_left (targets.drop spec.count) (same.mem_iff.mp member)
      exact (List.nodup_append.mp distinct).2.2 target early target later rfl
    have extended : first ++ pick ∈ state.extendBy player card start spec :=
      mem_extendChoices.mpr ⟨first, chosen, pick, picked, apart, rfl⟩
    have shuffled : (first ++ pick ++ targets.drop spec.count).Perm
        (first ++ (targets.take spec.count ++ targets.drop spec.count)) := by
      rw [List.append_assoc]
      exact (same.append_right _).append_left first
    obtain ⟨rest, sameRest, found⟩ := ih extended (shuffled.nodup_iff.mpr distinct)
      (by rw [List.length_drop]; omega) fits.2
    have length : pick.length = spec.count := same.length_eq.trans size
    refine ⟨pick ++ rest, ⟨?_, ?_⟩, ?_⟩
    · rw [List.take_left' length]
      exact same.symm
    · rw [List.drop_left' length]
      exact sameRest
    · rw [List.foldl_cons, ← List.append_assoc]
      exact found

/-- Targets that pass the check are listed in some order within every description. -/
theorem exists_targetChoice (agrees : state.Agrees config) {effect : CardEffect}
    {targets : List InstanceId} (checked : state.checkTargets effect player card targets = .ok ()) :
    ∃ listed ∈ state.targetChoices effect player card,
      SameTargets effect.targets targets listed := by
  obtain ⟨enough, distinct, fits⟩ := (checkTargets_eq_ok agrees).mp checked
  obtain ⟨listed, same, found⟩ := exists_extension agrees effect.targets
    (List.mem_singleton_self []) (by simpa using distinct) enough fits
  exact ⟨listed, found, same⟩

/-- Choices of one length are extended to choices of one length, without repeats. -/
theorem nodup_extendChoices {choices picks : List (List InstanceId)} {size count : Nat}
    (distinct : choices.Nodup) (sizes : ∀ choice ∈ choices, choice.length = size)
    (different : picks.Nodup) (counts : ∀ pick ∈ picks, pick.length = count) :
    (extendChoices choices picks).Nodup ∧
      ∀ choice ∈ extendChoices choices picks, choice.length = size + count := by
  constructor
  · refine nodup_flatMap_of_origin id (fun targets => some (targets.take size)) ?_ ?_ ?_
    · rw [List.map_id]
      exact distinct
    · intro choice _
      exact (different.filter _).map fun left right same => List.append_cancel_left same
    · intro choice chosen targets found
      obtain ⟨pick, _, rfl⟩ := List.mem_map.mp found
      rw [List.take_left' (sizes choice chosen)]
      rfl
  · intro targets found
    obtain ⟨choice, chosen, pick, picked, _, rfl⟩ := mem_extendChoices.mp found
    rw [List.length_append, sizes choice chosen, counts pick picked]

/-- No choice of targets is listed twice. -/
theorem nodup_targetChoices (agrees : state.Agrees config) (effect : CardEffect) (player : Seat)
    (card : InstanceId) : (state.targetChoices effect player card).Nodup := by
  have kept (specs : List TargetSpec) : ∀ {start : List (List InstanceId)} {size : Nat},
      start.Nodup → (∀ choice ∈ start, choice.length = size) →
        (specs.foldl (state.extendBy player card) start).Nodup := by
    induction specs with
    | nil => exact fun distinct _ => distinct
    | cons spec rest ih =>
      intro start size distinct sizes
      have picks := nodup_combinations (nodup_candidates agrees player card spec.filter) spec.count
      obtain ⟨more, longer⟩ := nodup_extendChoices distinct sizes picks
        fun pick picked => (mem_combinations.mp picked).2
      exact ih more longer
  have single : ∀ choice ∈ [([] : List InstanceId)], choice.length = 0 := by
    intro choice member
    rw [List.mem_singleton.mp member]
    rfl
  exact kept effect.targets (List.nodup_singleton []) single

end GameState

end CardDuel
