/-
This file shows when effects of the lowest speed go on a chain: triggers at any time, all others only as
the first link of a main phase, put there by the turn player.
-/

import CardDuel.Proofs.Move.Waiting

namespace CardDuel

theorem Phase.isMain_iff {phase : Phase} :
    phase.isMain = true ↔ phase = .main1 ∨ phase = .main2 := by
  cases phase <;> simp [isMain]

/-- A speed that is not the lowest one is at least the second. -/
theorem Speed.two_le {speed : Speed} (least : 1 ≤ speed.value) (other : speed ≠ .one) :
    2 ≤ speed.value := by
  obtain ⟨value⟩ := speed
  have different : value ≠ 1 := fun same => other (congrArg Speed.mk same)
  rw [UInt8.le_iff_toNat_le] at least ⊢
  have apart : value.toNat ≠ 1 := fun same => different (UInt8.toNat_inj.mp same)
  exact Nat.lt_of_le_of_ne least apart.symm

namespace GameState

variable {rules : Rules} {ways : Placement → Prop} {catalog : Catalog}
  {state next before after : GameState}
  {link old : ChainLink} {place : Nat} {player : Seat} {card : InstanceId}

/-! What waits on the chain -/

/-- This tells that a link has the speed of its effect, and answers nothing if that is the lowest one. -/
def InPace (state : GameState) (catalog : Catalog) (place : Nat) (link : ChainLink) : Prop :=
  ∃ effect, catalog.effect? link.card link.effect = some effect ∧ link.speed = effect.speed ∧
    (effect.kind = .trigger ∨ effect.speed ≠ .one ∨
      place = 0 ∧ link.controller = state.turnPlayer ∧ state.phase.isMain = true)

/-- A link stays in pace as long as it is the same phase of the same player's turn. -/
theorem InPace.stays (paced : before.InPace catalog place old) (same : old.bare = link.bare)
    (moment : after.turnPlayer = before.turnPlayer ∧ after.phase = before.phase) :
    after.InPace catalog place link := by
  obtain ⟨effect, known, speed, slow⟩ := paced
  cases link
  cases old
  obtain ⟨⟩ := same
  refine ⟨effect, known, speed, ?_⟩
  rw [moment.1, moment.2]
  exact slow

/-- A link that may be used now is in pace on top of the chain. -/
theorem MayUse.inPace (may : state.MayUse catalog link) (number : Nat) :
    state.InPace catalog state.chain.links.length { link with number := number } := by
  obtain ⟨_, effect, _, _, known, _⟩ := may.allowed
  obtain ⟨speed, slow⟩ := may.timely effect known
  refine ⟨effect, known, speed, ?_⟩
  rcases slow with trigger | fast | leisure
  · exact .inl trigger
  · exact .inr (.inl fast)
  · exact .inr (.inr ⟨by simp [leisure.unlinked], leisure.own, leisure.main⟩)

/-- This tells that every link on the chain is in pace. -/
def Paced (state : GameState) (catalog : Catalog) : Prop :=
  ∀ place link, state.chain.links[place]? = some link → state.InPace catalog place link

/-- Every move keeps all links in pace. -/
theorem Move.paced (move : Move rules ways before after) (paced : before.Paced rules.catalog) :
    after.Paced rules.catalog := by
  intro place link given
  have moment : after.turnPlayer = before.turnPlayer ∧ after.phase = before.phase := by
    apply move.moment
    intro empty
    simp [empty] at given
  rcases move.link? given with ⟨old, there, same⟩ | ⟨used, number, may, rfl, rfl⟩
  · exact (paced place old there).stays same moment
  · exact (may.inPace number).stays rfl moment

/-! What may be activated -/

/-- An effect of the lowest speed that is not a trigger is activated at leisure only. -/
theorem activate_leisure {index : Nat} {targets paid : List InstanceId}
    (activated : state.activate catalog player card index targets paid = .ok next) :
    ∃ found effect, state.card? card = some found ∧
      catalog.effect? found.card index = some effect ∧
      (effect.kind = .trigger ∨ effect.speed ≠ .one ∨ state.Leisure player) := by
  obtain ⟨plan, checked, _⟩ := activate_eq_ok.mp activated
  obtain ⟨found, template, moment, ⟨known, _⟩, printed, listed, now, fast, _⟩ :=
    checkActivation_eq_ok checked
  refine ⟨found, plan.effect, known, ?_, checkTiming_leisure now fast⟩
  rw [Catalog.effect?, printed]
  exact listed

end GameState

namespace DuelSetup

variable {setup : DuelSetup} {requests : List Request} {duel : Duel}

/-- The links of every reached state keep pace. -/
theorem Run.paced (run : setup.Run requests duel) : duel.state.Paced setup.rules.catalog := by
  refine run.moves.keeps (fun move => move.paced) ?_
  intro place link given
  have unlinked : setup.withDecks.chain.links = [] :=
    setup.withDecks_frame.links_eq_nil_iff.mpr rfl
  simp [unlinked] at given

/--
In every state of a run a link above the first one is that of a trigger, or its speed is at least two.
A first link of the lowest speed that is not a trigger belongs to the turn player, in a main phase. A
player's activation of an effect of the lowest speed that is not a trigger is accepted only from the
turn player in a main phase, while no chain, no window and no attack waits. No speed is below one, as in
every catalog that is read from a text (`CatalogLoad.parse_speeds`).
-/
theorem Run.keeps_pace (run : setup.Run requests duel)
    (speeds : ∀ template ∈ setup.rules.catalog.templates, ∀ effect ∈ template.effects,
      1 ≤ effect.speed.value) :
    (∀ place link, duel.state.chain.links[place]? = some link → ∃ effect,
      setup.rules.catalog.effect? link.card link.effect = some effect ∧
      (0 < place → effect.kind = .trigger ∨ 2 ≤ link.speed.value) ∧
      (place = 0 → effect.kind ≠ .trigger → link.speed = .one →
        link.controller = duel.state.turnPlayer ∧
          (duel.state.phase = .main1 ∨ duel.state.phase = .main2))) ∧
    ∀ player card index targets paid result,
      duel.serve (.act player (.activateEffect card index targets paid)) = .ok result →
      ∃ found effect, duel.state.card? card = some found ∧
        setup.rules.catalog.effect? found.card index = some effect ∧
        (effect.kind ≠ .trigger → effect.speed = .one →
          duel.state.chain.links = [] ∧ duel.state.window = none ∧
          duel.state.pendingAttack = none ∧ player = duel.state.turnPlayer ∧
          (duel.state.phase = .main1 ∨ duel.state.phase = .main2)) := by
  constructor
  · intro place link given
    obtain ⟨effect, known, speed, slow⟩ := run.paced place link given
    refine ⟨effect, known, ?_, ?_⟩
    · intro above
      rcases slow with trigger | fast | ⟨first, _⟩
      · exact .inl trigger
      · obtain ⟨template, listed, numbered⟩ := Option.bind_eq_some_iff.mp known
        have least := speeds template (List.mem_of_find?_eq_some listed) effect
          (List.mem_of_getElem? numbered)
        exact .inr (speed ▸ Speed.two_le least fast)
      · omega
    · intro _ other lowest
      obtain ⟨_, own, main⟩ := (slow.resolve_left other).resolve_left fun fast =>
        fast (speed ▸ lowest)
      exact ⟨own, Phase.isMain_iff.mp main⟩
  · intro player card index targets paid result served
    obtain ⟨stepped, _⟩ := Duel.perform_eq_ok served
    obtain ⟨_, acted, dispatched, _⟩ := GameState.step_eq_ok.mp stepped
    have activated := (ite_error_eq_ok.mp dispatched).2
    rw [run.rules] at activated
    obtain ⟨found, effect, known, listed, slow⟩ := GameState.activate_leisure activated
    refine ⟨found, effect, known, listed, ?_⟩
    intro other lowest
    have leisure := (slow.resolve_left other).resolve_left fun fast => fast lowest
    exact ⟨leisure.unlinked, leisure.closed, leisure.peaceful, leisure.own,
      Phase.isMain_iff.mp leisure.main⟩

/-- This is a duel in which each player has one monster with a slow effect and a quick one. -/
def smiths : DuelSetup where
  rules := ⟨⟨[⟨⟨1⟩, "Smith", .monster 1 100 100,
    [.plain .ignition .one (.act (.gainLife 1) .controller),
      .plain .quick .two (.act (.gainLife 1) .controller)], [], none⟩]⟩,
    { DuelConfig.standard with startingHand := 1 }⟩
  decks := .replicate [⟨1⟩]
  seed := 0
  shuffle := false
  firstPlayer := .first

/-- The slow effect of a smith is used, and the quick one answers it. -/
def smithRequests : List Request :=
  [.act .first (.normalSummon ⟨0⟩ []), .act .first .passPriority,
    .act .first (.activateEffect ⟨0⟩ 0 [] []), .act .second .passPriority,
    .act .first (.activateEffect ⟨0⟩ 1 [] [])]

/-- On the chain of a smith the slow effect comes first, in a main phase of its player's turn. -/
theorem smiths_keep_pace :
    ∃ duel slow quick, smiths.Run smithRequests duel ∧
      duel.state.chain.links = [slow, quick] ∧ slow.speed = .one ∧ 2 ≤ quick.speed.value ∧
      slow.controller = duel.state.turnPlayer ∧
      (duel.state.phase = .main1 ∨ duel.state.phase = .main2) := by
  have played : (smiths.play? smithRequests).any (fun duel =>
      decide (duel.state.chain.links.map (fun link => (link.card, link.effect, link.speed)) =
        [(⟨1⟩, 0, .one), (⟨1⟩, 1, .two)])) = true := by
    decide +kernel
  obtain ⟨duel, followed, facts⟩ := (Option.any_eq_true _ _).mp played
  have run : smiths.Run smithRequests duel := .of_play followed
  obtain ⟨paced, _⟩ := run.keeps_pace (by simp [smiths, CardEffect.plain, Speed.one, Speed.two])
  obtain ⟨slow, rest, chain, first, others⟩ := List.map_eq_cons_iff.mp (of_decide_eq_true facts)
  obtain ⟨quick, last, rfl, second, none⟩ := List.map_eq_cons_iff.mp others
  obtain rfl := List.map_eq_nil_iff.mp none
  obtain ⟨card, index, lowest⟩ : slow.card = ⟨1⟩ ∧ slow.effect = 0 ∧ slow.speed = .one := by
    simpa using first
  obtain ⟨cardToo, indexToo, _⟩ : quick.card = ⟨1⟩ ∧ quick.effect = 1 ∧ quick.speed = .two := by
    simpa using second
  obtain ⟨effect, known, _, atLeisure⟩ := paced 0 slow (by simp [chain])
  obtain ⟨answer, knownToo, fast, _⟩ := paced 1 quick (by simp [chain])
  rw [card, index] at known
  rw [cardToo, indexToo] at knownToo
  obtain rfl := Option.some.inj known
  obtain rfl := Option.some.inj knownToo
  obtain ⟨own, main⟩ := atLeisure rfl (by decide) lowest
  exact ⟨duel, slow, quick, run, chain, lowest, (fast (by decide)).resolve_left (by decide), own, main⟩

end DuelSetup

end CardDuel
