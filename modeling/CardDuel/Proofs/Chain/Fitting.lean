/-
This file shows that every link on a chain has what its effect asks for, and that no effect is ever
aborted for its own fault.
-/

import CardDuel.Proofs.Effect.Aim
import CardDuel.Proofs.Move.Waiting

namespace CardDuel

/-! Messages -/

theorem Seat.head?_label (seat : Seat) (rest : String) :
    (seat.label ++ rest).toList.head? = some 'P' := by
  simp [label, String.toList_append]

theorem InstanceId.head?_label (card : InstanceId) (rest : String) :
    (card.label ++ rest).toList.head? = some 'I' := by
  simp [label, String.toList_append]

theorem Zone.getLast?_name (zone : Zone) :
    ∃ last, zone.name.toList.getLast? = some last ∧ last ≠ 't' := by
  cases zone <;> exact ⟨_, rfl, by decide⟩

/-- This tells whether a message blames an effect, from its first and its last letter. -/
def Violation.blames (message : String) : Bool :=
  message.toList.head? ≠ some 'P' && message.toList.getLast? = some 't'

/-- A message tells whether an effect is at fault. -/
theorem Violation.blames_message (violation : Violation) :
    blames violation.message = violation.isStructural := by
  cases violation with
  | notInZone card zone =>
    obtain ⟨last, ends, other⟩ := zone.getLast?_name
    simp only [message, blames, isStructural, String.toList_append, List.getLast?_append, ends]
    simp [other]
  | notEnoughCards player needed available =>
    simp only [message, blames, String.append_assoc, Seat.head?_label]
    simp [isStructural]
  | noFreeZone player zone =>
    simp only [message, blames, String.append_assoc, Seat.head?_label]
    simp [isStructural]
  | missingCard card =>
    simp only [message, blames, isStructural, InstanceId.head?_label]
    simp only [String.toList_append, List.getLast?_append]
    simp
  | _ =>
    simp only [message, blames, isStructural, String.toList_append, List.getLast?_append]
    simp

namespace GameState

variable {rules : Rules} {ways : Placement → Prop} {catalog : Catalog} {before after state : GameState} {link : ChainLink}

/-! What a move can bring -/

/-- A link on the chain was there before, or its effect was allowed to be used. -/
theorem Move.links (move : Move rules ways before after) {link : ChainLink}
    (member : link ∈ after.chain.links) : (∃ old ∈ before.chain.links, old.bare = link.bare) ∨
      ∃ used number, before.MayUse rules.catalog used ∧ link = { used with number := number } := by
  obtain ⟨place, given⟩ := List.mem_iff_getElem?.mp member
  rcases move.link? given with ⟨old, there, same⟩ | ⟨used, number, may, same, _⟩
  · exact .inl ⟨old, List.mem_of_getElem? there, same⟩
  · exact .inr ⟨used, number, may, same⟩

/-- An effect that was aborted was so before, or it was just refused as it was carried out. -/
theorem Act.aborted (act : Act rules ways before after) {number : Nat} {card : InstanceId}
    {reason : String} (member : .effectAborted number card reason ∈ after.tale) :
    .effectAborted number card reason ∈ before.tale ∨
      ∃ link chain effect violation, before.chain.pop? = some (link, chain) ∧
        rules.catalog.effect? link.card link.effect = some effect ∧
        effect.root.run rules.catalog link { before with chain := chain } = .error violation ∧
        reason = violation.message := by
  have untold {state : GameState} {event : GameEvent} (plain : event.isOfEffect = false)
      (told : .effectAborted number card reason ∈ (state.record event).tale) :
      .effectAborted number card reason ∈ state.tale := tale_record_plain state plain ▸ told
  cases act with
  | deed deed => exact .inl ((Deeds.of_deed deed).quiet.tale ▸ member)
  | aside aside => exact .inl (aside.tale ▸ member)
  | note remark => exact .inl (untold (GameEvent.isOfEffect_of_isRemark remark) member)
  | enter free phase => exact .inl (untold rfl member)
  | newTurn free seat => exact .inl (tale_passTurn before seat ▸ member)
  | attack aim peaceful there aimed => exact .inl (untold rfl member)
  | conclude waits deeds ends => exact .inl (conclude_tale deeds ends ▸ member)
  | finish running result => exact .inl (untold rfl member)
  | use may first placing second =>
    rw [use_tale first placing second] at member
    rcases List.mem_append.mp member with earlier | new
    · exact .inl earlier
    · simp at new
  | @resolve link chain running popped =>
    obtain ⟨aborted, told, cause⟩ := tale_spent { before with chain := chain } rules.catalog link
    rw [told] at member
    rcases List.mem_append.mp member with early | late
    · rcases List.mem_append.mp early with earlier | new
      · exact .inl earlier
      · rcases cause with rfl | ⟨effect, violation, known, failed, rfl⟩
        · cases new
        · obtain ⟨_, _, rfl⟩ := GameEvent.effectAborted.inj (List.mem_singleton.mp new)
          exact .inr ⟨link, chain, effect, violation, popped, known, failed, rfl⟩
    · simp at late
  | answer same => exact .inl member
  | clear drained priority => exact .inl member

/-- An effect is aborted only when the last link is carried out and fails. -/
theorem Move.aborted (move : Move rules ways before after) {number : Nat} {card : InstanceId}
    {reason : String} (member : .effectAborted number card reason ∈ after.tale) :
    .effectAborted number card reason ∈ before.tale ∨
      ∃ link chain effect violation, before.chain.pop? = some (link, chain) ∧
        rules.catalog.effect? link.card link.effect = some effect ∧
        effect.root.run rules.catalog link { before with chain := chain } = .error violation ∧
        reason = violation.message := by
  cases move with
  | act act => exact act.aborted member
  | offer events window => exact .inl member
  | drop ended => exact .inl member

/-! Links that fit -/

/-- A duel stays about cards that exist. -/
theorem Move.grounded (move : Move rules ways before after) (grounded : before.Grounded) :
    after.Grounded := by
  have known {card : InstanceId} : before.Knows card → after.Knows card :=
    move.shifts.knows_iff.mpr
  have attacks : ∀ attack ∈ after.pendingAttack, before.Knows attack.attacker ∧
      ∀ target ∈ attack.target, before.Knows target := by
    intro attack given
    rcases move.attack? given with earlier | ⟨attacker, there, target, aimed, rfl⟩
    · exact ⟨grounded.attacker attack earlier, grounded.attacked attack earlier⟩
    · refine ⟨grounded.anchored.knows_id there, ?_⟩
      intro number chosen
      obtain ⟨card, given, rfl⟩ := Option.map_eq_some_iff.mp chosen
      exact grounded.anchored.knows_id (aimed card given)
  refine ⟨move.shifts.anchored grounded.anchored, ?_, fun attack given => known (attacks attack given).1,
    fun attack given target aimed => known ((attacks attack given).2 target aimed)⟩
  intro link member
  rcases move.links member with ⟨old, there, same⟩ | ⟨used, number, may, rfl⟩
  · have source : old.source = link.source := (congrArg ChainLink.source same :)
    exact known (source ▸ grounded.linked old there)
  · obtain ⟨found, _, present, _⟩ := may.allowed
    exact known (knows_iff.mpr (by simp [present]))

/-- This tells that a link is one of an effect of its source, with the targets that the effect has. -/
def Fits (state : GameState) (catalog : Catalog) (link : ChainLink) : Prop :=
  ∃ found effect, state.card? link.source = some found ∧ link.card = found.card ∧
    catalog.effect? link.card link.effect = some effect ∧ state.Aims effect.targetCount link

namespace Fits

/-- A link that fits does so as long as cards are only shifted. -/
theorem shifts (fits : before.Fits catalog link) (shifts : Shifts before after) :
    after.Fits catalog link := by
  obtain ⟨found, effect, known, printed, listed, aims⟩ := fits
  obtain ⟨same, there, stays⟩ := shifts.printed known
  exact ⟨same, effect, there, printed.trans stays.symm, listed, aims.shifts shifts⟩

theorem of_bare {other : ChainLink} (fits : state.Fits catalog link)
    (same : link.bare = other.bare) : state.Fits catalog other := by
  obtain ⟨found, effect, known, printed, listed, aims⟩ := fits
  cases link
  cases other
  obtain ⟨⟩ := same
  exact ⟨found, effect, known, printed, listed, aims.source, aims.count, aims.known⟩

theorem numbered (fits : state.Fits catalog link) (number : Nat) :
    state.Fits catalog { link with number := number } := by
  obtain ⟨found, effect, known, printed, listed, aims⟩ := fits
  exact ⟨found, effect, known, printed, listed, aims.source, aims.count, aims.known⟩

end Fits

/-- A link of an effect that may be used fits. -/
theorem MayUse.fits (may : state.MayUse catalog link) (sound : catalog.Sound) :
    state.Fits catalog link := by
  obtain ⟨found, effect, known, printed, listed, _, count⟩ := may.allowed
  refine ⟨found, effect, known, printed, listed, knows_iff.mpr (by simp [known]), ?_, may.aimed⟩
  rcases count with ⟨none, trigger⟩ | count
  · rw [none, CardEffect.targetCount, (sound.effect listed).untargeted trigger]
    rfl
  · exact count

/-- This tells that all links fit, and that no effect was aborted for its own fault. -/
structure Faultless (state : GameState) (catalog : Catalog) : Prop where
  grounded : state.Grounded
  fits : ∀ link ∈ state.chain.links, state.Fits catalog link
  aborted : ∀ number card reason, .effectAborted number card reason ∈ state.tale →
    Violation.blames reason = false

/-- The effect of the last link can be refused by the table only. -/
theorem Faultless.regular (faultless : state.Faultless catalog) (sound : catalog.Sound)
    {chain : Chain} (popped : state.chain.pop? = some (link, chain)) {effect : CardEffect}
    (known : catalog.effect? link.card link.effect = some effect) :
    Regular (effect.root.run catalog link { state with chain := chain }) := by
  have parts := (Chain.pop?_eq_some popped).1
  have there : link ∈ state.chain.links := by simp [parts]
  have freed : Shifts state { state with chain := chain } := .of_still ⟨rfl, fun _ => rfl⟩
  obtain ⟨_, same, _, _, listed, aims⟩ := (faultless.fits link there).shifts freed
  obtain rfl := Option.some.inj (known.symm.trans listed)
  have grounded : ({ state with chain := chain } : GameState).Grounded :=
    ⟨freed.anchored faultless.grounded.anchored,
      fun below member => faultless.grounded.linked below (by simp [parts, member]),
      faultless.grounded.attacker, faultless.grounded.attacked⟩
  exact EffectTree.run_regular effect.root (sound.effect known).fits grounded aims

/-- Every move keeps all links fitting and aborts no effect for its own fault. -/
theorem Move.faultless (move : Move rules ways before after) (sound : rules.catalog.Sound)
    (faultless : before.Faultless rules.catalog) : after.Faultless rules.catalog where
  grounded := move.grounded faultless.grounded
  fits := by
    intro link member
    rcases move.links member with ⟨old, there, same⟩ | ⟨used, number, may, rfl⟩
    · exact ((faultless.fits old there).shifts move.shifts).of_bare same
    · exact ((may.fits sound).shifts move.shifts).numbered number
  aborted := by
    intro number card reason member
    rcases move.aborted member with
      earlier | ⟨link, chain, effect, violation, popped, known, failed, rfl⟩
    · exact faultless.aborted number card reason earlier
    · rw [Violation.blames_message]
      exact faultless.regular sound popped known violation failed

end GameState

namespace DuelSetup

open GameState

variable {setup : DuelSetup} {requests : List Request} {duel : Duel}

/-- In every reached state of a sound catalog no effect was at fault. -/
theorem Run.faultless (run : setup.Run requests duel) (sound : setup.rules.catalog.Sound) :
    duel.state.Faultless setup.rules.catalog := by
  refine run.moves.keeps (fun move => move.faultless sound) ?_
  have free : setup.withDecks.pendingAttack = none :=
    setup.withDecks_frame.attack_eq_none rfl
  have unlinked : setup.withDecks.chain.links = [] :=
    setup.withDecks_frame.links_eq_nil_iff.mpr rfl
  refine ⟨⟨setup.withDecks_anchored, ?_, ?_, ?_⟩, ?_, ?_⟩
  · simp [unlinked]
  · simp [free]
  · simp [free]
  · simp [unlinked]
  · simp [tale, setup.withDecks_unused.2.1]

/--
In a duel with a catalog that was read from a text, every link on the chain is one of an effect of its
source and has as many targets as this effect has, all of which are cards that exist. The effect of the
next link to be resolved cannot fail because it acts on the wrong kind of thing or on a card that does
not exist, and no effect was ever aborted because of that.
-/
theorem Run.resolves_soundly {text : String} {load : CatalogLoad}
    (read : CatalogLoad.parse text = .ok load) (taken : setup.rules.catalog = load.catalog)
    (run : setup.Run requests duel) :
    (∀ link ∈ duel.state.chain.links, ∃ found template effect,
      duel.state.card? link.source = some found ∧ link.card = found.card ∧
      setup.rules.catalog.get? link.card = some template ∧
      template.effect? link.effect = some effect ∧ link.targets.length = effect.targetCount ∧
      ∀ target ∈ link.targets, (duel.state.card? target.card).isSome = true) ∧
    (∀ link chain effect violation, duel.state.chain.pop? = some (link, chain) →
      setup.rules.catalog.effect? link.card link.effect = some effect →
      effect.root.run setup.rules.catalog link { duel.state with chain := chain } =
        .error violation →
      violation ≠ .wrongTargetKind ∧ ∀ missing, violation ≠ .missingCard missing) ∧
    ∀ entry ∈ duel.state.log, ∀ number card reason,
      entry.event = .effectAborted number card reason →
      reason ≠ Violation.wrongTargetKind.message ∧
        ∀ missing, reason ≠ (Violation.missingCard missing).message := by
  have sound : setup.rules.catalog.Sound := taken ▸ CatalogLoad.parse_sound read
  have faultless := run.faultless sound
  refine ⟨?_, ?_, ?_⟩
  · intro link member
    obtain ⟨found, effect, known, printed, listed, aims⟩ := faultless.fits link member
    obtain ⟨template, there, numbered⟩ := Option.bind_eq_some_iff.mp listed
    exact ⟨found, template, effect, known, printed, there, numbered, aims.count,
      fun target given => knows_iff.mp (aims.known target given)⟩
  · intro link chain effect violation popped known failed
    have innocent := faultless.regular sound popped known violation failed
    exact ⟨fun same => by simp [same, Violation.isStructural] at innocent,
      fun missing same => by simp [same, Violation.isStructural] at innocent⟩
  · intro entry listed number card reason told
    have innocent := faultless.aborted number card reason (List.mem_filter.mpr
      ⟨told ▸ List.mem_map_of_mem listed, rfl⟩)
    have other {violation : Violation} (fault : violation.isStructural = true) :
        reason ≠ violation.message := by
      rintro rfl
      rw [Violation.blames_message, fault] at innocent
      cases innocent
    exact ⟨other rfl, fun missing => other rfl⟩

/-- This is the text of a catalog with one monster, one of whose effects takes a target. -/
def mothText : String :=
  "[\x7b\"id\":1,\"name\":\"Moth\",\"kind\":\"monster\",\"level\":1,\"atk\":1,\"def\":1," ++
  "\"subeffects\":\x7b\"fly\":\x7b\"action\":\"to_hand\",\"target\":\"chosen:0\"\x7d\x7d," ++
  "\"effects\":[\x7b\"type\":\"trigger\",\"trigger\":\x7b\"event\":\"summoned\"\x7d," ++
  "\"effect\":\x7b\"action\":\"draw\"\x7d\x7d," ++
  "\x7b\"type\":\"quick\",\"targets\":[\x7b\x7d]," ++
  "\"effect\":\x7b\"sequence\":[\x7b\"ref\":\"fly\"\x7d]\x7d\x7d]\x7d]"

/-- This is a duel in which each player has one monster of a catalog. -/
def moths (catalog : Catalog) : DuelSetup where
  rules := ⟨catalog, { DuelConfig.standard with startingHand := 1 }⟩
  decks := .replicate [⟨1⟩]
  seed := 0
  shuffle := false
  firstPlayer := .first

/-- A moth is summoned, and its quick effect, which takes it back, answers the effect that follows. -/
def mothRequests : List Request :=
  [.act .first (.normalSummon ⟨0⟩ []), .act .second .passPriority,
    .act .first (.activateEffect ⟨0⟩ 1 [⟨0⟩] [])]

/-- The links of moths have as many targets as their effects. -/
theorem moths_resolve_soundly :
    ∃ load duel, CatalogLoad.parse mothText = .ok load ∧
      (moths load.catalog).Run mothRequests duel ∧
      duel.state.chain.links.map (fun link => link.targets.map BoundTarget.card) = [[], [⟨0⟩]] ∧
      ∀ link ∈ duel.state.chain.links, ∃ effect,
        load.catalog.effect? link.card link.effect = some effect ∧
        link.targets.length = effect.targetCount := by
  have played : (CatalogLoad.parse mothText).toOption.any (fun load =>
      ((moths load.catalog).play? mothRequests).any fun duel =>
        decide (duel.state.chain.links.map (fun link => link.targets.map BoundTarget.card) =
          [[], [⟨0⟩]])) = true := by
    decide +kernel
  obtain ⟨load, read, follows⟩ := any_toOption_iff.mp played
  obtain ⟨duel, followed, facts⟩ := (Option.any_eq_true _ _).mp follows
  have run : (moths load.catalog).Run mothRequests duel := .of_play followed
  refine ⟨load, duel, read, run, of_decide_eq_true facts, ?_⟩
  intro link member
  obtain ⟨_, template, effect, _, _, there, numbered, count, _⟩ :=
    (run.resolves_soundly read rfl).1 link member
  exact ⟨effect, Option.bind_eq_some_iff.mpr ⟨template, there, numbered⟩, count⟩

end DuelSetup

end CardDuel
