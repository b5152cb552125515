/-
This file tells when a duel ends: a player without life or without cards to draw has lost at the next
sweep. No sweep follows the costs of mandatory triggers, so a player who pays the last life for one
has lost while the duel goes on.
-/

import CardDuel.Proofs.Flow.Order
import CardDuel.Proofs.Table.Setup

namespace CardDuel

namespace GameState

variable {before middle after state next : GameState} {catalog : Catalog} {rules : Rules}
  {player : Seat}

/-! Losers -/

def SameLife (before after : GameState) : Prop :=
  ∀ seat, (after.player seat).life = (before.player seat).life ∧
    (after.player seat).deckOut = (before.player seat).deckOut

namespace SameLife

theorem refl (state : GameState) : SameLife state state := fun _ => ⟨rfl, rfl⟩

theorem trans (first : SameLife before middle) (second : SameLife middle after) :
    SameLife before after := fun seat =>
  ⟨(second seat).1.trans (first seat).1, (second seat).2.trans (first seat).2⟩

/-- The same life points and decks make the same losers. -/
theorem losers (same : SameLife before after) : after.losers = before.losers := by
  apply List.filter_congr
  intro seat _
  rw [(same seat).1, (same seat).2]

theorem setZones (state : GameState) (seat : Seat) (zones : PlayerZones) :
    SameLife state (state.setZones seat zones) := by
  intro other
  rw [GameState.setZones, player_modifyPlayer]
  split
  · exact ⟨rfl, rfl⟩
  · exact ⟨rfl, rfl⟩

/-- A card that moves changes no life points. -/
theorem relocate {card : InstanceId} {zone origin : Zone} {place : Place} {position : Position}
    (moved : state.relocate card zone place position = .ok (origin, next)) :
    SameLife state next := by
  simp only [GameState.relocate, bind_eq_ok, guard_eq_ok] at moved
  obtain ⟨found, _, _, rest⟩ := moved
  split at rest
  · exact (throw_eq_ok.mp rest).elim
  · obtain ⟨_, rfl⟩ := Prod.mk.inj (pure_eq_ok.mp rest)
    exact setZones state found.owner _

/-- The destruction of a card changes no life points. -/
theorem destroyMarked (state : GameState) (entry : InstanceId × Destruction) :
    SameLife state (state.destroyMarked entry) := by
  obtain ⟨card, cause⟩ := entry
  rw [GameState.destroyMarked]
  split
  · next moved => exact (relocate moved).trans fun _ => ⟨rfl, rfl⟩
  · exact fun _ => ⟨rfl, rfl⟩

theorem refresh (state : GameState) (catalog : Catalog) :
    SameLife state (state.refresh catalog) := fun _ => ⟨rfl, rfl⟩

theorem enterPhase (state : GameState) (phase : Phase) :
    SameLife state (state.enterPhase phase) := fun _ => ⟨rfl, rfl⟩

/-- The destruction of all marked cards changes no life points. -/
theorem destroyAllMarked (state : GameState) (catalog : Catalog) :
    SameLife state (state.destroyAllMarked catalog) := by
  have deeds : Deeds (fun _ _ => False) state (state.destroyAllMarked catalog) :=
    state.destroyAllMarked_deeds catalog
  generalize state.destroyAllMarked catalog = cleared at deeds ⊢
  induction deeds with
  | refl => exact refl state
  | tail _ deed ih =>
    refine ih.trans ?_
    cases deed with
    | change _ allowed _ => exact allowed.elim
    | refresh catalog => exact refresh _ catalog
    | destroy entry => exact destroyMarked _ entry

theorem endDuel (state : GameState) (result : GameResult) :
    SameLife state (state.endDuel result) := by
  rw [GameState.endDuel]
  split
  · exact refl state
  · exact fun _ => ⟨rfl, rfl⟩

theorem checkLoss (state : GameState) : SameLife state state.checkLoss := by
  rw [GameState.checkLoss]
  split
  · exact endDuel state _
  · exact refl state

/-- A sweep changes no life points. -/
theorem sweep (state : GameState) (catalog : Catalog) : SameLife state (state.sweep catalog) :=
  (destroyAllMarked state catalog).trans (checkLoss _)

/-- A card that is turned changes no life points. -/
theorem changePosition {card : InstanceId} {position : Position}
    (made : (Change.changePosition card position).apply state = .ok next) :
    SameLife state next := by
  simp only [Change.apply, bind_eq_ok, pure_eq_ok, onField_eq_ok] at made
  obtain ⟨_, ⟨_, _, _, rfl⟩, rfl⟩ := made
  exact fun _ => ⟨rfl, rfl⟩

theorem placeSpell {card : InstanceId} (made : (Change.placeSpell card true).apply state = .ok next) :
    SameLife state next := by
  simp only [Change.apply, bind_eq_ok, pure_eq_ok] at made
  obtain ⟨_, _, ⟨_, middle⟩, moved, rfl⟩ := made
  exact relocate moved

theorem revealTarget (state : GameState) (catalog : Catalog) (target : Option InstanceId) :
    SameLife state (state.revealTarget catalog target) := by
  have turned (target : InstanceId) : SameLife state
      (Change.applyPossible [.changePosition target .faceUpDefense] state) := by
    rw [Change.applyPossible, List.foldl_cons, List.foldl_nil]
    split
    · next made => exact changePosition made
    · exact refl state
  rw [GameState.revealTarget.eq_def]
  split
  · exact refl state
  · split
    · exact (turned _).trans (refresh _ catalog)
    · exact refl state

end SameLife

/-- A player has lost without life points or without a card to draw. -/
theorem mem_losers : player ∈ state.losers ↔
    (state.player player).life = 0 ∨ (state.player player).deckOut = true := by
  cases player <;> simp [losers, Seat.both]

/-- There is no result as long as nobody has lost. -/
theorem resultFor?_eq_none_iff {lost : List Seat} : resultFor? lost = none ↔ lost = [] := by
  cases lost with
  | nil => simp [resultFor?]
  | cons loser rest => cases rest <;> simp [resultFor?]

/-! Judgement -/

/-- This tells that a duel is over exactly for its losers. -/
def Judged (state : GameState) : Prop := state.outcome = resultFor? state.losers

/-- This tells that a duel goes on or is judged. -/
def Open (state : GameState) : Prop := state.outcome = none ∨ state.Judged

/-- A state stays judged if neither its life points nor its outcome change. -/
theorem Judged.same (judged : before.Judged) (same : SameLife before after)
    (outcome : after.outcome = before.outcome) : after.Judged := by
  rw [Judged, outcome, same.losers]
  exact judged

theorem Open.same (undecided : before.Open) (same : SameLife before after)
    (outcome : after.outcome = before.outcome) : after.Open :=
  undecided.imp (outcome.trans ·) fun judged => judged.same same outcome

/-- Nobody has lost in a judged state that goes on. -/
theorem Judged.losers_eq_nil (judged : state.Judged) (running : state.outcome = none) :
    state.losers = [] := resultFor?_eq_none_iff.mp (judged.symm.trans running)

/-- A sweep judges a duel. -/
theorem sweep_judged (undecided : state.Open) : (state.sweep catalog).Judged := by
  have swept := SameLife.sweep state catalog
  have destroyed := SameLife.destroyAllMarked state catalog
  rw [Judged, sweep_outcome, destroyed.losers, swept.losers]
  rcases undecided with running | judged
  · rw [running, Option.none_or]
  · rw [show state.outcome = resultFor? state.losers from judged, Option.or_self]

/-- A link that is resolved in a running duel leaves it judged. -/
theorem resolveLink_judged (running : state.outcome = none) (link : ChainLink) :
    (state.resolveLink catalog link).1.Judged := by
  have resolved : (state.resolved catalog link).outcome = none :=
    (state.resolved_edits catalog link).frame.outcome.trans running
  rw [resolveLink_eq, Judged, checkLoss_outcome, resolved, Option.none_or,
    (SameLife.checkLoss _).losers]

/-- A duel that goes on or is judged still does after links were resolved. -/
theorem resolveLinks_open (catalog : Catalog) (links : Nat) (undecided : state.Open)
    (resolved : Nat) : (resolveLinks catalog links state resolved).1.Open := by
  refine resolveLinks_keeps Open ?_ links resolved undecided
  intro before link chain _ running _
  have goesOn : ({ before with chain := chain } : GameState).outcome = none := running
  exact .inr (resolveLink_judged goesOn link)

theorem closeWindow_outcome (state : GameState) : state.closeWindow.outcome = state.outcome := by
  rw [closeWindow]
  split
  · rfl
  · rfl

theorem SameLife.closeWindow (state : GameState) : SameLife state state.closeWindow := by
  rw [GameState.closeWindow]
  split
  · exact fun _ => ⟨rfl, rfl⟩
  · exact refl state

/-- A running duel goes on or is judged after its chain was resolved. -/
theorem resolveChain_open (running : state.outcome = none) :
    (state.resolveChain catalog).Open := by
  have begun : ({ state with chain := state.chain.beginResolving } : GameState).Open :=
    .inl running
  have drained : (state.drained catalog).1.Open := resolveLinks_open catalog _ begun 0
  rw [resolveChain_eq]
  generalize state.drained catalog = reached at drained ⊢
  have idle : SameLife reached.1 ({ reached.1 with chain := .idle reached.1.turnPlayer }.record
      (.chainResolved reached.2)) := fun _ => ⟨rfl, rfl⟩
  exact drained.same (idle.trans (.closeWindow _)) (closeWindow_outcome _)

/-- A turn that starts in a running duel is judged. -/
theorem startTurn_judged (running : state.outcome = none) : (state.startTurn rules).Judged := by
  have drawn : (state.drawn rules).outcome = none := (state.drawn_frame rules).outcome.trans running
  have swept : ((state.drawn rules).sweep rules.catalog).Judged := sweep_judged (.inl drawn)
  rw [startTurn_eq]
  generalize (state.drawn rules).sweep rules.catalog = begun at swept ⊢
  split
  · exact swept
  · exact swept.same ((SameLife.enterPhase _ .standby).trans (.enterPhase _ .main1)) rfl

/-- A turn that ends in a running duel is judged. -/
theorem endTurn_judged (running : state.outcome = none) (ended : state.endTurn rules = .ok next) :
    next.Judged := by
  obtain ⟨_, rfl⟩ := (endTurn_eq_ok state rules).mp ended
  have wound : (state.wound rules).outcome = none := (state.wound_frame rules).outcome.trans running
  split
  · exact sweep_judged (.inl wound)
  · next goesOn => exact startTurn_judged (by simpa using goesOn)

/-- An activation in a running duel is judged. -/
theorem activate_judged (running : state.outcome = none) {card : InstanceId} {index : Nat}
    {targets paid : List InstanceId}
    (activated : state.activate catalog player card index targets paid = .ok next) :
    next.Judged := by
  obtain ⟨_, _, _, placed, places, payed, pays, _, _, _, pushed, rfl⟩ :=
    activate_eq_ok.mp activated
  obtain ⟨_, rfl⟩ := pushLink_eq_ok.mp pushed
  have kept := (applyChanges_edits places).frame.trans (applyChanges_edits pays).frame
  exact sweep_judged (.inl (kept.outcome.trans running))

/-- A running duel goes on or is judged after a pass. -/
theorem passPriority_open (running : state.outcome = none)
    (passed : state.passPriority rules player = .ok next) : next.Open := by
  rw [passPriority.eq_def] at passed
  split at passed
  · split at passed
    · next window _ =>
      left
      obtain ⟨_, remaining, _, same⟩ := passWindow_eq_ok passed
      rcases same with rfl | rfl
      · exact (closeWindow_outcome _).trans running
      · obtain ⟨left, _, moved⟩ := advanceWindow_eq rules.catalog maxPasses
          ({ state with window := some remaining }.record (.priorityPassed player))
        rw [moved, announceClosing]
        split
        · exact running
        · exact running
    · simp at passed
  · obtain ⟨outcome, chain, _, rfl⟩ := passChain_eq_ok.mp passed
    split
    · exact resolveChain_open running
    · exact .inl running

/-- No action but giving up ends a duel without a loser. -/
theorem dispatch_open (running : state.outcome = none) {action : Action}
    (stays : action ≠ .forfeit) (acted : state.dispatch rules player action = .ok next) :
    next.Open := by
  cases action with
  | forfeit => exact absurd rfl stays
  | passPriority => exact passPriority_open running acted
  | activateEffect card index targets paid =>
    exact .inr (activate_judged running (ite_error_eq_ok.mp acted).2)
  | declareAttack attacker target =>
    obtain ⟨_, _, _, _, _, rfl⟩ := declareAttack_eq_ok.mp acted
    exact .inl running
  | normalSummon card tributes => exact .inl ((normalSummon_frame acted).outcome.trans running)
  | setCard card tributes => exact .inl ((setCard_frame acted).outcome.trans running)
  | specialSummon card => exact .inl ((specialSummon_frame acted).outcome.trans running)
  | changePosition card => exact .inl ((changePosition_frame acted).outcome.trans running)
  | enterBattlePhase =>
    obtain ⟨_, _, entered⟩ := bind_eq_ok.mp acted
    obtain ⟨_, _, rfl⟩ := enterBattlePhase_eq_ok.mp entered
    exact .inl running
  | enterMainPhase2 =>
    obtain ⟨_, _, entered⟩ := bind_eq_ok.mp acted
    obtain ⟨_, rfl⟩ := enterMainPhase2_eq_ok.mp entered
    exact .inl running
  | endTurn =>
    obtain ⟨_, _, ended⟩ := bind_eq_ok.mp acted
    exact .inr (endTurn_judged running ended)

end GameState

/-- Nobody has gained or lost life before the first hand is dealt. -/
theorem DuelSetup.withDecks_sameLife (setup : DuelSetup) : GameState.SameLife
    (.initial setup.rules.config setup.seed setup.firstPlayer) setup.withDecks :=
  setup.withDecks_keeps (GameState.SameLife _) (.refl _)
    fun _ owner _ _ lives => lives.trans (.setZones _ owner _)

end CardDuel
