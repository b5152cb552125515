/-
This file tells exactly in which states a duel goes on although a player has lost: a mandatory trigger
on the chain has cost the player the last life.
-/

import CardDuel.Proofs.Flow.Loss
import CardDuel.Proofs.Flow.Shape
import CardDuel.Proofs.Flow.Trigger

namespace CardDuel

/-- This tells that an effect of a card must follow its event. -/
def Catalog.IsMandatory (catalog : Catalog) (card : CardId) (index : Nat) : Prop :=
  ∃ effect spec, catalog.effect? card index = some effect ∧ effect.kind = .trigger ∧
    effect.trigger = some spec ∧ spec.optional = false

/-- This tells that life is paid for an effect of a card. -/
def Catalog.CostsLife (catalog : Catalog) (card : CardId) (index : Nat) : Prop :=
  ∃ effect cost, catalog.effect? card index = some effect ∧ effect.cost = some cost ∧
    cost.resource = .lifePoints ∧ 0 < cost.amount

namespace GameState

/-- This tells that a player has paid the last life for a mandatory trigger on the chain. -/
def PaidLastLife (state : GameState) (catalog : Catalog) (player : Seat) : Prop :=
  (state.player player).life = 0 ∧ ∃ link ∈ state.chain.links, link.controller = player ∧
    catalog.IsMandatory link.card link.effect ∧ catalog.CostsLife link.card link.effect

variable {state next paid : GameState} {catalog : Catalog} {rules : Rules} {player : Seat}
  {trigger : TriggeredEffect}

/-! Mandatory triggers -/

/-- A trigger that is not optional is an effect that must follow its event. -/
theorem collectTriggers_mandatory {events : List GameEvent}
    (member : trigger ∈ state.collectTriggers catalog events) (asked : trigger.optional = false) :
    catalog.IsMandatory trigger.card trigger.effect := by
  obtain ⟨card, effect, spec, follows⟩ := collectTriggers_follows member
  exact ⟨effect, spec, follows.printed ▸ follows.known, follows.kind, follows.waits,
    follows.optional.symm.trans asked⟩

/-- The cost of a trigger leaves all life alone, or it is paid with the life of its controller. -/
theorem payTriggerCost_cases {cost : Option Cost}
    (pays : state.payTriggerCost cost trigger = .ok paid) :
    SameLife state paid ∨ ∃ price, cost = some price ∧ price.resource = .lifePoints ∧
      0 < price.amount ∧ price.amount ≤ (state.player trigger.controller).life ∧
      (∀ seat, (paid.player seat).deckOut = (state.player seat).deckOut) ∧
      ∀ seat ≠ trigger.controller, (paid.player seat).life = (state.player seat).life := by
  rw [payTriggerCost.eq_def] at pays
  split at pays
  · obtain rfl := Except.ok.inj pays
    exact .inl (.refl state)
  · next price =>
    split at pays
    · next life =>
      obtain ⟨enough, made⟩ := ite_error_eq_ok.mp pays
      obtain rfl := Except.ok.inj (mapError_eq_ok.mp made)
      have changed (seat : Seat) := player_modifyPlayer state trigger.controller seat
        fun entry => { entry with
          life := Change.subtractLife (state.player trigger.controller).life price.amount }
      by_cases free : price.amount = 0
      · left
        intro seat
        change ((state.modifyPlayer _ _).player seat).life = _ ∧
          ((state.modifyPlayer _ _).player seat).deckOut = _
        rw [changed]
        split
        · next own => simp [own, free, Change.subtractLife]
        · exact ⟨rfl, rfl⟩
      · right
        refine ⟨price, rfl, life, ?_, UInt32.not_lt.mp enough, ?_, ?_⟩
        · exact UInt32.pos_iff_ne_zero.mpr free
        · intro seat
          change ((state.modifyPlayer _ _).player seat).deckOut = _
          rw [changed]
          split
          · rfl
          · rfl
        · intro seat other
          change ((state.modifyPlayer _ _).player seat).life = _
          rw [changed, if_neg other]
    · simp only [applyChange, mapError_eq_ok, Change.toGraveyard, Change.apply, bind_eq_ok,
        pure_eq_ok] at pays
      obtain ⟨⟨_, middle⟩, moved, rfl⟩ := pays
      exact .inl ((SameLife.relocate moved).trans fun _ => ⟨rfl, rfl⟩)

/-- This tells that whoever has lost while the duel goes on has paid the last life for a trigger. -/
def Told (state : GameState) (catalog : Catalog) : Prop :=
  state.outcome = none → ∀ player ∈ state.losers, state.PaidLastLife catalog player

/-- Links stay on the chain while triggers are paid. -/
theorem PaidLastLife.frame (held : state.PaidLastLife catalog player) (frame : Frame state next)
    (same : (next.player player).life = (state.player player).life) :
    next.PaidLastLife catalog player := by
  obtain ⟨spent, link, member, own, mandatory, costs⟩ := held
  have bared : link.bare ∈ next.chain.links.map ChainLink.bare := by
    rw [frame.links]
    exact List.mem_map_of_mem member
  obtain ⟨other, there, equal⟩ := List.mem_map.mp bared
  have card : other.card = link.card := (congrArg ChainLink.card equal :)
  have effect : other.effect = link.effect := (congrArg ChainLink.effect equal :)
  have controller : other.controller = link.controller := (congrArg ChainLink.controller equal :)
  refine ⟨same.trans spent, other, there, controller.trans own, ?_⟩
  rw [card, effect]
  exact ⟨mandatory, costs⟩

theorem PaidLastLife.linked (held : state.PaidLastLife catalog player) (link : ChainLink) :
    (state.linked link).PaidLastLife catalog player := by
  obtain ⟨spent, other, member, rest⟩ := held
  exact ⟨spent, other, List.mem_append_left _ member, rest⟩

/-- Whoever loses by a mandatory trigger has paid the last life for it. -/
theorem chainTrigger_told (mandatory : catalog.IsMandatory trigger.card trigger.effect)
    (told : ∀ player ∈ state.losers, state.PaidLastLife catalog player) :
    ∀ player ∈ (chainTrigger catalog state trigger).losers,
      (chainTrigger catalog state trigger).PaidLastLife catalog player := by
  intro player lost
  rcases chainTrigger_cases catalog state trigger with same | ⟨effect, paid, known, pays, same⟩
  · rw [same] at lost ⊢
    exact told player lost
  · rw [same] at lost ⊢
    have frame : Frame state (paid.countedFor trigger) :=
      (payTriggerCost_edits pays).frame.trans ⟨⟨rfl, rfl, rfl, rfl, rfl, rfl, .inl rfl⟩, rfl⟩
    have early (life : (paid.player player).life = (state.player player).life)
        (deckOut : (paid.player player).deckOut = (state.player player).deckOut) :
        ((paid.countedFor trigger).linked (paid.triggerLink trigger)).PaidLastLife catalog
          player := by
      have before : player ∈ state.losers := by
        rw [mem_losers, ← life, ← deckOut]
        exact mem_losers.mp lost
      exact ((told player before).frame frame life).linked _
    rcases payTriggerCost_cases pays with kept | ⟨price, cost, resource, positive, enough, decks, lives⟩
    · exact early (kept player).1 (kept player).2
    · by_cases own : player = trigger.controller
      · subst own
        -- A player who had lost before could not have paid.
        have alive : (state.player trigger.controller).life ≠ 0 := by
          intro spent
          rw [spent] at enough
          exact absurd (UInt32.lt_of_lt_of_le positive enough) (UInt32.lt_irrefl 0)
        have drew : (state.player trigger.controller).deckOut ≠ true := by
          intro out
          exact alive (told _ (mem_losers.mpr (.inr out))).1
        have spent : (paid.player trigger.controller).life = 0 := by
          rcases mem_losers.mp lost with zero | out
          · exact zero
          · exact absurd ((decks trigger.controller).symm.trans out) drew
        refine ⟨spent, _, List.mem_append_right _ (List.mem_singleton_self _), rfl, mandatory, ?_⟩
        exact ⟨effect, price, known, cost, resource, positive⟩
      · exact early (lives player own) (decks player)

/-- Where nobody had lost, a loser paid the last life points for a trigger. -/
theorem triggered_told (clean : state.losers = []) :
    ∀ player ∈ (state.triggered catalog).losers,
      (state.triggered catalog).PaidLastLife catalog player := by
  refine triggered_keeps (fun later => ∀ player ∈ later.losers, later.PaidLastLife catalog player) ?_ ?_
  · intro before told trigger collected asked
    exact chainTrigger_told (collectTriggers_mandatory collected asked) told
  · intro player lost
    change player ∈ state.losers at lost
    simp [clean] at lost

/-! Settling -/

theorem SameLife.announceWindow (state : GameState) : SameLife state state.announceWindow := by
  rw [GameState.announceWindow]
  split
  · exact fun _ => ⟨rfl, rfl⟩
  · exact .refl state

/-- After a window was opened nobody has lost, or a pass waits and all losers have paid. -/
theorem openWindow_told (clean : state.losers = []) :
    (state.openWindow catalog).losers = [] ∨
      (state.openWindow catalog).canPass = true ∧ (state.openWindow catalog).Told catalog := by
  obtain ⟨window, _, same⟩ := state.openWindow_eq catalog
  have lives : SameLife (state.triggered catalog) (state.openWindow catalog) := by
    have windowed : SameLife (state.triggered catalog)
        { state.triggered catalog with window := window } := fun _ => ⟨rfl, rfl⟩
    rw [same]
    exact windowed.trans (.announceWindow _)
  have links : (state.openWindow catalog).chain.links = (state.triggered catalog).chain.links := by
    rw [same, links_announceWindow]
  rcases state.triggered_cases catalog with quiet | linked
  · left
    rw [lives.losers, quiet]
    exact clean
  · right
    constructor
    · rw [canPass, Chain.isEmpty, links]
      simp [linked]
    · intro _ player lost
      rw [lives.losers] at lost
      obtain ⟨spent, link, member, rest⟩ := triggered_told clean player lost
      exact ⟨(lives player).1.trans spent, link, links ▸ member, rest⟩

/-- An attack that is resolved where nobody had lost is judged. -/
theorem resolveAttack_judged (running : state.outcome = none) (clean : state.losers = []) :
    (state.resolveAttack catalog).Judged := by
  have judged {other : GameState} (same : SameLife state other) (goesOn : other.outcome = none) :
      other.Judged := by
    rw [Judged, goesOn, same.losers, clean]
    rfl
  rw [resolveAttack]
  split
  · exact judged (.refl state) running
  · next attack _ =>
    have cleared : SameLife state { state with pendingAttack := none } := fun _ => ⟨rfl, rfl⟩
    dsimp only
    split
    · rcases fight_cases { state with pendingAttack := none } catalog attack with
        same | ⟨fought, edits, same⟩
      · rw [same]
        have revealed := revealTarget_edits { state with pendingAttack := none } catalog attack.target
        exact judged (cleared.trans (.revealTarget _ catalog attack.target))
          (revealed.frame.outcome.trans running)
      · rw [same]
        exact sweep_judged (.inl (edits.frame.outcome.trans running))
    · exact judged (fun _ => ⟨rfl, rfl⟩) running

/-- This tells that a duel is judged, or goes on although a trigger has cost a player the last life. -/
def Weighed (state : GameState) (catalog : Catalog) : Prop :=
  state.Judged ∨ state.outcome = none ∧ state.Told catalog

/-- In a weighed state whoever has lost while the duel goes on has paid the last life for a trigger. -/
theorem Weighed.told (weighed : state.Weighed catalog) : state.Told catalog := by
  rcases weighed with judged | ⟨_, told⟩
  · intro running player lost
    simp [judged.losers_eq_nil running] at lost
  · exact told

/-- This tells that a duel is judged, or that a pass waits although somebody has lost. -/
def Paused (state : GameState) (catalog : Catalog) : Prop :=
  state.Judged ∨ state.outcome = none ∧ state.canPass = true ∧ state.Told catalog

/-- A paused state is weighed. -/
theorem Paused.weighed (paused : state.Paused catalog) : state.Weighed catalog :=
  paused.imp_right fun ⟨running, _, told⟩ => ⟨running, told⟩

/-- A duel that ended and was cleared is judged. -/
theorem Paused.clearWaiting (paused : state.Paused catalog) (ended : state.outcome.isSome = true) :
    state.clearWaiting.Judged := by
  rcases paused with judged | ⟨running, _⟩
  · exact judged.same (fun _ => ⟨rfl, rfl⟩) rfl
  · simp [running] at ended

/-- A step of settling from a judged state leads to a paused one. -/
theorem settleStep?_paused (running : state.outcome = none) (judged : state.Judged)
    (taken : state.settleStep? catalog = some next) : next.Paused catalog := by
  have clean := judged.losers_eq_nil running
  obtain ⟨_, ⟨_, rfl⟩ | ⟨_, _, rfl⟩⟩ := settleStep?_eq_some taken
  · have goesOn := (state.openWindow_outcome catalog).trans running
    rcases openWindow_told clean with quiet | passes
    · left
      rw [Judged, goesOn, quiet]
      rfl
    · exact .inr ⟨goesOn, passes⟩
  · exact .inl (resolveAttack_judged running clean)

/-- A judged duel that settles is weighed; a pass that waits ends the settling. -/
theorem settle_weighed (judged : state.Judged) : (state.settle catalog).Weighed catalog := by
  -- Whoever paid the last life for a trigger has put a link on the chain, so a pass is waited for.
  refine settle_keeps (Paused · catalog) (Weighed · catalog) ?_ (fun _ paused => paused.weighed) ?_
    (.inl judged)
  · intro last paused ended
    exact .inl (paused.clearWaiting ended)
  · rintro before after (judged | ⟨_, passes, _⟩) running taken
    · exact settleStep?_paused running judged taken
    · rw [settleStep?_of_canPass passes] at taken
      cases taken

/-- Every step but one that gives up leaves a duel weighed. -/
theorem step_weighed {action : Action} (stays : action ≠ .forfeit)
    (stepped : state.step rules player action = .ok next) : next.Weighed rules.catalog := by
  obtain ⟨running, acted, dispatched, rfl⟩ := step_eq_ok.mp stepped
  exact settle_weighed (sweep_judged (dispatch_open running stays dispatched))

/-- A player who gives up ends the duel. -/
theorem forfeit_outcome (stepped : state.step rules player .forfeit = .ok next) :
    next.outcome.isSome = true := by
  obtain ⟨running, acted, dispatched, rfl⟩ := step_eq_ok.mp stepped
  obtain rfl := Except.ok.inj dispatched
  have finished : (state.endDuel (.winner player.opponent)).outcome.isSome = true := by
    rw [endDuel, running]
    rfl
  have swept : ((state.endDuel (.winner player.opponent)).sweep rules.catalog).outcome.isSome =
      true := by
    rw [sweep_outcome]
    simp [finished]
  rw [handedBack, settle, maxSettleSteps, settleWithin, if_pos swept]
  exact swept

/-- After a step whoever has lost while the duel goes on has paid the last life for a trigger. -/
theorem step_told {action : Action} (stepped : state.step rules player action = .ok next) :
    next.Told rules.catalog := by
  by_cases stays : action = .forfeit
  · subst stays
    intro running
    have finished := forfeit_outcome stepped
    simp [running] at finished
  · exact (step_weighed stays stepped).told

/-- This tells that a duel goes on although a player has paid the last life for a trigger. -/
def Overlooked (state : GameState) (catalog : Catalog) : Prop :=
  state.outcome = none ∧ ∃ player, state.PaidLastLife catalog player

/-- An overlooked state has a loser. -/
theorem Overlooked.losers_ne_nil (overlooked : state.Overlooked catalog) : state.losers ≠ [] := by
  obtain ⟨_, player, spent, _⟩ := overlooked
  exact List.ne_nil_of_mem (mem_losers.mpr (.inl spent))

/-- A duel in which nothing is overlooked has losers only when it is over. -/
theorem Told.losers_eq_nil (told : state.Told catalog) (running : state.outcome = none)
    (seen : ¬state.Overlooked catalog) : state.losers = [] := by
  rw [List.eq_nil_iff_forall_not_mem]
  intro player lost
  exact seen ⟨running, player, told running player lost⟩

/-- Nobody has lost, or one player, or both. -/
theorem losers_cases (state : GameState) : state.losers = [] ∨ state.losers = [.first] ∨
    state.losers = [.second] ∨ state.losers = Seat.both := by
  by_cases first : Seat.first ∈ state.losers <;> by_cases second : Seat.second ∈ state.losers <;>
    rw [mem_losers] at first second <;> simp_all [losers, Seat.both]

/-- This tells that the result of a duel is that of its losers. -/
def Fair (state : GameState) : Prop :=
  (∀ player, state.outcome = some (.winner player) ↔ state.losers = [player.opponent]) ∧
    (state.outcome = some .draw ↔ state.losers = Seat.both)

/-- A judged state is fair. -/
theorem Judged.fair (judged : state.Judged) : state.Fair := by
  rw [Fair, show state.outcome = resultFor? state.losers from judged]
  rcases state.losers_cases with same | same | same | same <;> rw [same]
  all_goals exact ⟨fun player => by cases player <;> decide, by decide⟩

/-- Nobody has lost in a fair state that goes on. -/
theorem Fair.losers_eq_nil (fair : state.Fair) (running : state.outcome = none) :
    state.losers = [] := by
  obtain ⟨wins, draws⟩ := fair
  rw [running] at draws
  rcases state.losers_cases with nobody | first | second | both
  · exact nobody
  · have won := (wins .second).mpr first
    simp [running] at won
  · have won := (wins .first).mpr second
    simp [running] at won
  · exact absurd (draws.mpr both) (by simp)

end GameState

namespace DuelSetup

variable {setup : DuelSetup} {requests : List Request} {duel : Duel}

/-- A duel that is built is weighed. -/
theorem build_weighed (built : setup.build = .ok duel) :
    duel.state.Weighed setup.rules.catalog := by
  obtain ⟨_, _, _, dealt, hands, rfl⟩ := build_eq_ok.mp built
  have running := (setup.withDecks_frame.trans (dealHands_edits hands).frame).outcome
  exact GameState.settle_weighed (GameState.startTurn_judged running)

/-- In every state of a run whoever has lost while the duel goes on has paid the last life for a trigger. -/
theorem Run.told (run : setup.Run requests duel) : duel.state.Told setup.rules.catalog :=
  run.keeps (fun built => (build_weighed built).told) fun stepped _ => GameState.step_told stepped

/-- A run in which nobody gives up leaves the duel weighed. -/
theorem Run.weighed (run : setup.Run requests duel)
    (peaceful : ∀ player, .act player .forfeit ∉ requests) :
    duel.state.Weighed setup.rules.catalog := by
  cases run with
  | start built => exact build_weighed built
  | next earlier served =>
    obtain ⟨_, player, action, stepped, given⟩ := Duel.serve_eq_ok served
    rw [earlier.rules] at stepped
    refine GameState.step_weighed ?_ stepped
    intro forfeits
    subst forfeits
    obtain rfl : _ = Request.act player .forfeit := given.resolve_right (by simp)
    exact peaceful player (by simp)

/--
Whoever has lost has lost at once, and without anybody giving up the result is that of the losers,
except exactly when a player has paid the last life for a mandatory trigger on the chain.
-/
theorem Run.verdict_iff (run : setup.Run requests duel) :
    ((duel.state.losers ≠ [] → duel.state.outcome.isSome = true) ↔
      ¬duel.state.Overlooked setup.rules.catalog) ∧
    ((∀ player, .act player .forfeit ∉ requests) →
      (duel.state.Fair ↔ ¬duel.state.Overlooked setup.rules.catalog)) := by
  refine ⟨⟨?_, ?_⟩, fun peaceful => ⟨?_, ?_⟩⟩
  · intro judged overlooked
    have finished := judged overlooked.losers_ne_nil
    simp [overlooked.1] at finished
  · intro seen lost
    rw [Option.isSome_iff_ne_none]
    intro running
    exact lost (run.told.losers_eq_nil running seen)
  · intro fair overlooked
    exact overlooked.losers_ne_nil (fair.losers_eq_nil overlooked.1)
  · intro seen
    rcases run.weighed peaceful with judged | ⟨running, told⟩
    · exact judged.fair
    · have clean := told.losers_eq_nil running seen
      refine GameState.Judged.fair ?_
      rw [GameState.Judged, running, clean]
      rfl

/-- This is a duel in which each player has one monster that costs its summoner a life point. -/
def heralds : DuelSetup where
  rules := ⟨⟨[⟨⟨1⟩, "Herald", .monster 1 100 100,
    [{ CardEffect.plain .trigger .one (.act (.gainLife 1) .controller) with
      cost := some ⟨.lifePoints, 1⟩
      trigger := some ⟨.summoned, .this, .either, false⟩ }], [], none⟩]⟩,
    { DuelConfig.standard with startingLife := 1, startingHand := 1, handLimit := 1 }⟩
  decks := .replicate [⟨1⟩]
  seed := 0
  shuffle := false
  firstPlayer := .first

/-- A duel of heralds goes on after the first one has cost its summoner the last life. -/
theorem heralds_overlooked :
    ∃ duel, heralds.Run [.act .first (.normalSummon ⟨0⟩ [])] duel ∧
      duel.state.losers = [.first] ∧ duel.state.outcome = none ∧ ¬duel.state.Fair ∧
      duel.state.Overlooked heralds.rules.catalog := by
  have played : heralds.build.toOption.any (fun start =>
      (start.serve (.act .first (.normalSummon ⟨0⟩ []))).toOption.any fun served =>
        decide (served.2.state.losers = [.first] ∧ served.2.state.outcome = none)) = true := by
    decide +kernel
  obtain ⟨start, built, followed⟩ := any_toOption_iff.mp played
  obtain ⟨⟨report, duel⟩, served, facts⟩ := any_toOption_iff.mp followed
  obtain ⟨lost, running⟩ : duel.state.losers = [.first] ∧ duel.state.outcome = none :=
    of_decide_eq_true facts
  have run : heralds.Run [.act .first (.normalSummon ⟨0⟩ [])] duel := .next (.start built) served
  obtain ⟨atOnce, fair⟩ := run.verdict_iff
  have overlooked : duel.state.Overlooked heralds.rules.catalog := by
    by_contra seen
    have finished := atOnce.mpr seen (by simp [lost])
    simp [running] at finished
  have unfair : ¬duel.state.Fair := fun given =>
    (fair (by intro player; cases player <;> decide)).mp given overlooked
  exact ⟨duel, run, lost, running, unfair, overlooked⟩

end DuelSetup

end CardDuel
