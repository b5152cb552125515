/-
This file tells what the results of lasting changes depend on: not on the results that are stored. So a
refresh stores what the next computation gives again.
-/

import CardDuel.Proofs.Table.Play

namespace CardDuel

/-- This is a card apart from what lasting changes have made of it. -/
def CardInstance.bare (card : CardInstance) : CardInstance :=
  { card with current := card.base, negated := false }

namespace Condition

variable {before after : GameState}

theorem someone_congr (players : after.players = before.players) (side : Side) (controller : Seat)
    (property : PlayerState → Bool) :
    someone after side controller property = someone before side controller property := by
  have seats : after.player = before.player := by
    funext seat
    rw [GameState.player, GameState.player, players]
  rw [someone, someone, seats]

mutual

/-- Conditions ask about cards, players and the phase only. -/
theorem holds_congr (cards : after.cards = before.cards) (players : after.players = before.players)
    (phase : after.phase = before.phase) (controller : Seat) (source : InstanceId) :
    (condition : Condition) →
      condition.holds after controller source = condition.holds before controller source
  | .always => by simp [holds]
  | .lifeAtMost side amount => by
    simp only [holds]
    exact someone_congr players side controller _
  | .lifeAtLeast side amount => by
    simp only [holds]
    exact someone_congr players side controller _
  | .handAtLeast side size => by
    simp only [holds]
    exact someone_congr players side controller _
  | .count filter atLeast atMost => by simp [holds, cards]
  | .phase wanted => by simp [holds, phase]
  | .all conditions => by
    simp only [holds]
    exact allHold_congr cards players phase controller source conditions
  | .any conditions => by
    simp only [holds]
    exact someHolds_congr cards players phase controller source conditions
  | .not condition => by
    simp only [holds]
    rw [holds_congr cards players phase controller source condition]

theorem allHold_congr (cards : after.cards = before.cards) (players : after.players = before.players)
    (phase : after.phase = before.phase) (controller : Seat) (source : InstanceId) :
    (conditions : List Condition) →
      allHold after controller source conditions = allHold before controller source conditions
  | [] => by simp [allHold]
  | condition :: rest => by
    rw [allHold, allHold, holds_congr cards players phase controller source condition,
      allHold_congr cards players phase controller source rest]

theorem someHolds_congr (cards : after.cards = before.cards)
    (players : after.players = before.players) (phase : after.phase = before.phase)
    (controller : Seat) (source : InstanceId) : (conditions : List Condition) →
      someHolds after controller source conditions = someHolds before controller source conditions
  | [] => by simp [someHolds]
  | condition :: rest => by
    rw [someHolds, someHolds, holds_congr cards players phase controller source condition,
      someHolds_congr cards players phase controller source rest]

end

end Condition

namespace GameState

variable {state before after : GameState} {catalog : Catalog}

/-! What the results depend on -/

/-- This tells that two states differ in nothing that lasting changes depend on. -/
structure SameBoard (before after : GameState) : Prop where
  cards : after.cards.map CardInstance.bare = before.cards.map CardInstance.bare
  players : after.players = before.players
  phase : after.phase = before.phase
  live : after.liveGranted = before.liveGranted

/-- New results replace all old ones. -/
theorem withResults_congr
    (same : after.cards.map CardInstance.bare = before.cards.map CardInstance.bare)
    (stats : List StatLine) (negated : List Bool) :
    (after.withResults stats negated).cards = (before.withResults stats negated).cards := by
  have bared (state : GameState) : (state.withResults stats negated).cards =
      (state.cards.map CardInstance.bare).zipWith
        (fun card results => { card with current := results.1, negated := results.2 })
        (stats.zip negated) := by
    rw [List.zipWith_map_left]
    rfl
  rw [bared, bared, same]

/-- Whether a modifier counts depends on where its target is. -/
theorem isLive_congr
    (same : after.cards.map CardInstance.bare = before.cards.map CardInstance.bare)
    (modifier : Modifier) : modifier.isLive after = modifier.isLive before := by
  have bared (state : GameState) : modifier.isLive state =
      (state.cards.map CardInstance.bare)[modifier.target.index]?.any
        fun card => card.isOnField && card.moves = modifier.targetMoves := by
    rw [List.getElem?_map, Option.any_map]
    rfl
  rw [bared, bared, same]

namespace SameBoard

variable (same : SameBoard before after)

include same

theorem statsUnder (modifiers : List Modifier) :
    after.statsUnder modifiers = before.statsUnder modifiers := by
  have base := congrArg (List.map CardInstance.base) same.cards
  simp only [List.map_map] at base
  rw [GameState.statsUnder, GameState.statsUnder]
  exact congrArg (List.foldl alterStats · (Modifier.inLayers modifiers)) base

theorem flagsOf (negated : List InstanceId) : after.flagsOf negated = before.flagsOf negated := by
  have flags := congrArg (List.map fun card : CardInstance => negated.contains card.id) same.cards
  simp only [List.map_map] at flags
  exact flags

theorem grantedBoard_cards : after.grantedBoard.cards = before.grantedBoard.cards := by
  rw [grantedBoard, grantedBoard, same.live, same.statsUnder, same.flagsOf]
  exact withResults_congr same.cards _ _

theorem staticModifiers : after.grantedBoard.staticModifiers catalog =
    before.grantedBoard.staticModifiers catalog := by
  have cards := same.grantedBoard_cards
  have ability (source : CardInstance) (ability : Ability) :
      after.grantedBoard.abilityModifiers source ability =
        before.grantedBoard.abilityModifiers source ability := by
    have asked : Condition.holdsIfAny ability.condition after.grantedBoard source.owner source.id =
        Condition.holdsIfAny ability.condition before.grantedBoard source.owner source.id := by
      cases ability.condition with
      | none => rfl
      | some condition =>
        exact Condition.holds_congr cards same.players same.phase source.owner source.id condition
    rw [abilityModifiers, abilityModifiers, asked, cards]
  have card (source : CardInstance) : after.grantedBoard.cardModifiers catalog source =
      before.grantedBoard.cardModifiers catalog source := by
    rw [cardModifiers.eq_def, cardModifiers.eq_def]
    cases catalog.get? source.card with
    | none => rfl
    | some template => exact congrArg (List.flatMap · template.continuous) (funext (ability source))
  rw [GameState.staticModifiers, GameState.staticModifiers, cards, funext card]

/-- The results of lasting changes do not depend on results that are stored. -/
theorem recompute (catalog : Catalog) : after.recompute catalog = before.recompute catalog := by
  simp only [GameState.recompute, same.live, same.staticModifiers, same.statsUnder, same.flagsOf]

end SameBoard

/-! Stored results -/

/-- This tells that the stored results of lasting changes are those that are computed again. -/
def Fresh (state : GameState) (catalog : Catalog) : Prop :=
  state.recompute catalog =
    ⟨state.active, state.cards.map CardInstance.current, state.cards.map CardInstance.negated⟩

section WithResults

variable {stats : List StatLine} {negated : List Bool}
  (lines : stats.length = state.cards.length) (flags : negated.length = state.cards.length)

include lines flags

theorem current_withResults :
    (state.withResults stats negated).cards.map CardInstance.current = stats := by
  apply List.ext_getElem
  · simp [withResults, lines, flags]
  · intro place inside insideToo
    simp [withResults]

theorem negated_withResults :
    (state.withResults stats negated).cards.map CardInstance.negated = negated := by
  apply List.ext_getElem
  · simp [withResults, lines, flags]
  · intro place inside insideToo
    simp [withResults]

theorem bare_withResults :
    (state.withResults stats negated).cards.map CardInstance.bare =
      state.cards.map CardInstance.bare := by
  apply List.ext_getElem
  · simp [withResults, lines, flags]
  · intro place inside insideToo
    simp [withResults, CardInstance.bare]

end WithResults

variable (state catalog)

theorem length_stats : (state.recompute catalog).stats.length = state.cards.length :=
  state.length_statsUnder _

theorem length_negated : (state.recompute catalog).negated.length = state.cards.length :=
  state.length_flagsOf _

/-- A refresh drops only modifiers that do not count any more. -/
theorem sameBoard_refresh : SameBoard state (state.refresh catalog) := by
  have cards : (state.refresh catalog).cards.map CardInstance.bare =
      state.cards.map CardInstance.bare :=
    bare_withResults (state.length_stats catalog) (state.length_negated catalog)
  refine ⟨cards, rfl, rfl, ?_⟩
  show state.liveGranted.filter (fun modifier => modifier.isLive (state.refresh catalog)) = _
  apply List.filter_eq_self.mpr
  intro modifier member
  rw [isLive_congr cards]
  exact (List.mem_filter.mp member).2

/-- A refresh stores fresh results. -/
theorem refresh_fresh : (state.refresh catalog).Fresh catalog := by
  rw [Fresh, (state.sameBoard_refresh catalog).recompute]
  have stats := current_withResults (state.length_stats catalog) (state.length_negated catalog)
  have negated := negated_withResults (state.length_stats catalog) (state.length_negated catalog)
  change ((state.refresh catalog).cards.map CardInstance.current) = _ at stats
  change ((state.refresh catalog).cards.map CardInstance.negated) = _ at negated
  rw [stats, negated]
  rfl

end GameState

end CardDuel
