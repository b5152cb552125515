/-
This file shows that whatever is handed back to the players is swept last, so that the stored results of
lasting changes are fresh. Only the costs of mandatory triggers are paid after the last sweep.
-/

import CardDuel.Proofs.Continuous.Recompute
import CardDuel.Proofs.Flow.Verdict

namespace CardDuel

/-- This tells that something is paid for an effect of a card. -/
def Catalog.HasCost (catalog : Catalog) (card : CardId) (index : Nat) : Prop :=
  ∃ effect, catalog.effect? card index = some effect ∧ effect.cost.isSome = true

namespace GameState

variable {state before after next : GameState} {catalog : Catalog} {rules : Rules} {player : Seat}

/-! Sweeps and battles -/

/-- What changes nothing that is stored or on which it depends keeps the results fresh. -/
theorem Fresh.same (fresh : before.Fresh catalog) (cards : after.cards = before.cards)
    (players : after.players = before.players) (phase : after.phase = before.phase)
    (granted : after.granted = before.granted) (active : after.active = before.active) :
    after.Fresh catalog := by
  have live : after.liveGranted = before.liveGranted := by
    rw [liveGranted, liveGranted, granted]
    exact List.filter_congr fun modifier _ => isLive_congr (by rw [cards]) modifier
  have board : SameBoard before after := ⟨by rw [cards], players, phase, live⟩
  rw [Fresh, board.recompute, active, cards]
  exact fresh

theorem destroyAllMarked_fresh (state : GameState) (catalog : Catalog) :
    (state.destroyAllMarked catalog).Fresh catalog := by
  rw [destroyAllMarked]
  generalize maxRounds = rounds
  induction rounds generalizing state with
  | zero => exact refresh_fresh state catalog
  | succ rounds ih =>
    by_cases clean : (state.refresh catalog).marked = []
    · rw [destroyInRounds_of_unmarked clean]
      exact refresh_fresh state catalog
    · rw [destroyInRounds_of_marked clean]
      exact ih _

/-- A sweep leaves fresh results. -/
theorem sweep_fresh (state : GameState) (catalog : Catalog) :
    (state.sweep catalog).Fresh catalog := by
  have fresh := state.destroyAllMarked_fresh catalog
  rw [sweep, checkLoss]
  split
  · rw [endDuel]
    split
    · exact fresh
    · exact fresh.same rfl rfl rfl rfl rfl
  · exact fresh

theorem Fresh.revealTarget (fresh : state.Fresh catalog) (target : Option InstanceId) :
    (state.revealTarget catalog target).Fresh catalog := by
  rw [revealTarget.eq_def]
  split
  · exact fresh
  · split
    · exact refresh_fresh _ catalog
    · exact fresh

theorem Fresh.resolveAttack (fresh : state.Fresh catalog) :
    (state.resolveAttack catalog).Fresh catalog := by
  rw [GameState.resolveAttack]
  split
  · exact fresh
  · next attack _ =>
    have cleared : ({ state with pendingAttack := none } : GameState).Fresh catalog :=
      fresh.same rfl rfl rfl rfl rfl
    dsimp only
    split
    · rcases fight_cases { state with pendingAttack := none } catalog attack with
        same | ⟨fought, _, same⟩
      · rw [same]
        exact cleared.revealTarget attack.target
      · rw [same]
        exact sweep_fresh fought catalog
    · exact cleared.same rfl rfl rfl rfl rfl

/-! Mandatory triggers -/

/-- This tells that only mandatory triggers are on the chain, unanswered, and one of them has a cost. -/
structure Unanswered (state : GameState) (catalog : Catalog) : Prop where
  mandatory : ∀ link ∈ state.chain.links, catalog.IsMandatory link.card link.effect
  passes : state.chain.passes = 0
  paid : ∃ link ∈ state.chain.links, catalog.HasCost link.card link.effect

/-- This tells how it is while mandatory triggers are put on the chain. -/
structure Chaining (state : GameState) (catalog : Catalog) : Prop where
  mandatory : ∀ link ∈ state.chain.links, catalog.IsMandatory link.card link.effect
  passes : state.chain.links ≠ [] → state.chain.passes = 0
  cached : state.Fresh catalog ∨ ∃ link ∈ state.chain.links, catalog.HasCost link.card link.effect

/-- Links that differ in their negation only are links of the same effects. -/
theorem exists_link {links others : List ChainLink}
    (same : others.map ChainLink.bare = links.map ChainLink.bare) {link : ChainLink}
    (member : link ∈ links) :
    ∃ other ∈ others, other.card = link.card ∧ other.effect = link.effect := by
  obtain ⟨other, there, equal⟩ : ∃ other ∈ others, other.bare = link.bare := by
    rw [← List.mem_map, same]
    exact List.mem_map_of_mem member
  exact ⟨other, there, (congrArg ChainLink.card equal :), (congrArg ChainLink.effect equal :)⟩

theorem Chaining.chainTrigger (chaining : state.Chaining catalog) {trigger : TriggeredEffect}
    (mandatory : catalog.IsMandatory trigger.card trigger.effect) :
    (chainTrigger catalog state trigger).Chaining catalog := by
  rcases chainTrigger_cases catalog state trigger with skipped | ⟨effect, paid, known, pays, chained⟩
  · rw [skipped]
    exact chaining
  · rw [chained]
    have bare := (payTriggerCost_edits pays).frame.links
    refine ⟨?_, fun _ => rfl, ?_⟩
    · intro link member
      rcases List.mem_append.mp member with earlier | new
      · obtain ⟨old, there, card, index⟩ := exists_link bare.symm earlier
        exact card ▸ index ▸ chaining.mandatory old there
      · obtain rfl := List.mem_singleton.mp new
        exact mandatory
    · cases cost : effect.cost with
      | none =>
        -- Nothing was paid for this trigger.
        rw [cost] at pays
        obtain rfl := Except.ok.inj pays
        rcases chaining.cached with fresh | ⟨link, there, costly⟩
        · exact .inl (fresh.same rfl rfl rfl rfl rfl)
        · exact .inr ⟨link, List.mem_append_left _ there, costly⟩
      | some price =>
        exact .inr ⟨_, List.mem_append_right _ (List.mem_singleton_self _), effect, known,
          by simp [cost]⟩

/-- The mandatory triggers go on a chain that was empty. -/
theorem Fresh.triggered (fresh : state.Fresh catalog) (unlinked : state.chain.links = []) :
    (state.triggered catalog).Chaining catalog := by
  refine triggered_keeps (Chaining · catalog) ?_ ⟨?_, ?_, .inl (fresh.same rfl rfl rfl rfl rfl)⟩
  · intro before chaining trigger collected asked
    exact chaining.chainTrigger (collectTriggers_mandatory collected asked)
  · simp [unlinked]
  · simp [unlinked]

/-! Settling -/

/-- This tells that the stored results of a running duel are fresh, or that triggers were just paid. -/
def Cached (state : GameState) (catalog : Catalog) : Prop :=
  state.outcome = none → state.Fresh catalog ∨ state.Unanswered catalog

theorem Chaining.cached_of_linked (chaining : state.Chaining catalog) :
    state.Fresh catalog ∨ state.Unanswered catalog := by
  rcases chaining.cached with fresh | ⟨link, there, costly⟩
  · exact .inl fresh
  · exact .inr ⟨chaining.mandatory, chaining.passes (List.ne_nil_of_mem there), link, there, costly⟩

/-- To open a window leaves fresh results, or a chain of triggers that have been paid. -/
theorem Fresh.openWindow (fresh : state.Fresh catalog) (unlinked : state.chain.links = []) :
    (state.openWindow catalog).Fresh catalog ∨ (state.openWindow catalog).Unanswered catalog := by
  obtain ⟨window, _, same⟩ := state.openWindow_eq catalog
  have chaining := fresh.triggered unlinked
  rw [same, announceWindow]
  rcases chaining.cached_of_linked with fresh | unanswered
  · left
    split
    · exact fresh.same rfl rfl rfl rfl rfl
    · exact fresh.same rfl rfl rfl rfl rfl
  · right
    split
    · exact ⟨unanswered.mandatory, unanswered.passes, unanswered.paid⟩
    · exact ⟨unanswered.mandatory, unanswered.passes, unanswered.paid⟩

theorem Fresh.settleStep? (fresh : state.Fresh catalog)
    (taken : state.settleStep? catalog = some next) :
    next.Fresh catalog ∨ next.Unanswered catalog := by
  obtain ⟨still, ⟨_, rfl⟩ | ⟨_, _, rfl⟩⟩ := settleStep?_eq_some taken
  · exact fresh.openWindow (canPass_eq_false_iff.mp still).1
  · exact .inl fresh.resolveAttack

theorem Unanswered.canPass (unanswered : state.Unanswered catalog) : state.canPass = true := by
  obtain ⟨link, there, _⟩ := unanswered.paid
  rw [GameState.canPass, Chain.isEmpty]
  simp [List.ne_nil_of_mem there]

/-- Settling goes on while the results are fresh, and it stops when triggers have been paid. -/
theorem Fresh.settle (fresh : state.Fresh catalog) : (state.settle catalog).Cached catalog := by
  -- A chain of triggers that were paid stops the settling before anything could rest on stale results.
  refine settle_keeps (fun later => later.Fresh catalog ∨ later.Unanswered catalog) (Cached · catalog)
    ?_ (fun _ cached _ => cached) ?_ (.inl fresh)
  · intro last _ decided running
    change last.outcome = none at running
    simp [running] at decided
  · rintro before after (fresh | unanswered) _ taken
    · exact fresh.settleStep? taken
    · rw [settleStep?_of_canPass unanswered.canPass] at taken
      cases taken

/-- Every step hands back fresh results, or a chain of triggers that have just been paid. -/
theorem step_cached {action : Action} (stepped : state.step rules player action = .ok next) :
    next.Cached rules.catalog := by
  obtain ⟨_, acted, _, rfl⟩ := step_eq_ok.mp stepped
  have settled := (sweep_fresh acted rules.catalog).settle
  intro running
  rcases settled running with fresh | unanswered
  · exact .inl (fresh.same rfl rfl rfl rfl rfl)
  · exact .inr ⟨unanswered.mandatory, unanswered.passes, unanswered.paid⟩

end GameState

end CardDuel
