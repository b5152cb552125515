/-
This file tells how far an effect reaches: whatever its tree says, it leaves the turn, the uses and the order
of the chain alone, it takes nothing back that was told, and it grants only what its plans grant.
-/

import CardDuel.Proofs.Effect.Summons
import CardDuel.Proofs.Flow.Frame
import CardDuel.Proofs.Run
import CardDuel.Proofs.Table.Play

namespace CardDuel

namespace GameState

/-- This tells that no modifier is granted and that no player uses the normal summon or is decked out. -/
structure Steady (before after : GameState) : Prop where
  granted : after.granted = before.granted
  used : ∀ seat, (after.player seat).normalSummonUsed = (before.player seat).normalSummonUsed
  deckOut : ∀ seat, (after.player seat).deckOut = (before.player seat).deckOut

namespace Steady

variable {before middle after : GameState}

theorem trans (first : Steady before middle) (second : Steady middle after) : Steady before after where
  granted := second.granted.trans first.granted
  used := fun seat => (second.used seat).trans (first.used seat)
  deckOut := fun seat => (second.deckOut seat).trans (first.deckOut seat)

theorem record (state : GameState) (event : GameEvent) : Steady state (state.record event) :=
  ⟨rfl, fun _ => rfl, fun _ => rfl⟩

theorem modifyCard (state : GameState) (card : InstanceId) (change : CardInstance → CardInstance) :
    Steady state (state.modifyCard card change) := ⟨rfl, fun _ => rfl, fun _ => rfl⟩

theorem modifyPlayer (state : GameState) (seat : Seat) {update : PlayerState → PlayerState}
    (used : ∀ player, (update player).normalSummonUsed = player.normalSummonUsed)
    (deckOut : ∀ player, (update player).deckOut = player.deckOut) :
    Steady state (state.modifyPlayer seat update) := by
  refine ⟨rfl, ?_, ?_⟩
  · intro other
    rw [player_modifyPlayer]
    split
    · exact used _
    · rfl
  · intro other
    rw [player_modifyPlayer]
    split
    · exact deckOut _
    · rfl

/-- New zones of a player are steady. -/
theorem setZones (state : GameState) (seat : Seat) (zones : PlayerZones) :
    Steady state (state.setZones seat zones) :=
  modifyPlayer state seat (fun _ => rfl) fun _ => rfl

theorem setLife (state : GameState) (seat : Seat) (life : UInt32) :
    Steady state (Change.setLife state seat life) :=
  modifyPlayer state seat (fun _ => rfl) fun _ => rfl

theorem relocate {state next : GameState} {card : InstanceId} {zone origin : Zone} {place : Place}
    {position : Position} (moved : state.relocate card zone place position = .ok (origin, next)) :
    Steady state next := by
  obtain ⟨found, remaining, _, _, _, _, rfl⟩ := relocate_cases moved
  exact (setZones state found.owner _).trans (.modifyCard _ card _)

theorem onField {state next : GameState} {card : InstanceId} {change : CardInstance → CardInstance}
    (made : Change.onField state card change = .ok next) : Steady state next := by
  obtain ⟨_, _, _, rfl⟩ := onField_eq_ok.mp made
  exact modifyCard state card change

theorem markSet (state : GameState) (card : InstanceId) (owner : Seat) :
    Steady state (Change.markSet state card owner) := (modifyCard state card _).trans (.record _ _)

end Steady

/-- A change that grants no modifier is steady. -/
theorem apply_steady {change : Change} {state next : GameState} (free : change.modifier? = none)
    (made : change.apply state = .ok next) : Steady state next := by
  cases change with
  | moveCard card destination place =>
    simp only [Change.apply, bind_eq_ok, pure_eq_ok] at made
    obtain ⟨⟨_, middle⟩, moved, rfl⟩ := made
    exact (Steady.relocate moved).trans (.record middle _)
  | draw player card =>
    simp only [Change.apply, bind_eq_ok, pure_eq_ok, guard_eq_ok] at made
    obtain ⟨_, ⟨_, middle⟩, moved, rfl⟩ := made
    exact (Steady.relocate moved).trans (.record middle _)
  | shuffleDeck player =>
    obtain rfl := Except.ok.inj made
    have freed : Steady state { state with
      shuffler := ((state.zones player).shuffleDeck state.shuffler).2 } :=
        ⟨rfl, fun _ => rfl, fun _ => rfl⟩
    exact (freed.trans (.setZones _ player _)).trans (.record _ _)
  | summon card position kind =>
    simp only [Change.apply, bind_eq_ok, pure_eq_ok, guard_eq_ok] at made
    obtain ⟨_, _, _, ⟨_, middle⟩, moved, rfl⟩ := made
    exact ((Steady.relocate moved).trans (.modifyCard middle card _)).trans (.record _ _)
  | setMonster card =>
    simp only [Change.apply, bind_eq_ok, pure_eq_ok] at made
    obtain ⟨_, _, ⟨_, middle⟩, moved, rfl⟩ := made
    exact (Steady.relocate moved).trans (.markSet middle card _)
  | placeSpell card faceUp =>
    simp only [Change.apply, bind_eq_ok, pure_eq_ok] at made
    obtain ⟨_, _, ⟨_, middle⟩, moved, rfl⟩ := made
    split
    · exact .relocate moved
    · exact (Steady.relocate moved).trans (.markSet middle card _)
  | changePosition card position =>
    simp only [Change.apply, bind_eq_ok, pure_eq_ok] at made
    obtain ⟨middle, turned, rfl⟩ := made
    exact (Steady.onField turned).trans (.record middle _)
  | damage player amount byBattle =>
    obtain rfl := Except.ok.inj made
    split
    · exact (Steady.setLife state player _).trans (.record _ _)
    · exact .setLife state player _
  | gainLife player amount | payLife player amount =>
    obtain rfl := Except.ok.inj made
    exact (Steady.setLife state player _).trans (.record _ _)
  | grant modifier => cases free
  | markDestroyed card cause => exact .onField made
  | negateLink number =>
    simp only [Change.apply] at made
    split at made
    · obtain rfl := Except.ok.inj made
      exact ⟨rfl, fun _ => rfl, fun _ => rfl⟩
    · cases made
  | negateAttack =>
    simp only [Change.apply] at made
    split at made
    · obtain rfl := Except.ok.inj made
      exact ⟨rfl, fun _ => rfl, fun _ => rfl⟩
    · cases made

/-! Confined steps -/

/--
This tells that a step changes nothing but what an effect may change: the turn, the uses, the window and the
result stay, no card or link is exchanged for another one, links may be negated, the attack may be over, what
was told stays told, and the granted modifiers are those that were there and `fresh` ones, apart from some.
-/
structure Confined (fresh : List Modifier) (before after : GameState) : Prop
    extends Frame before after where
  version : after.version = before.version
  activations : after.activations = before.activations
  used : ∀ seat, (after.player seat).normalSummonUsed = (before.player seat).normalSummonUsed
  deckOut : ∀ seat, (after.player seat).deckOut = (before.player seat).deckOut
  identities : after.cards.map CardInstance.identity = before.cards.map CardInstance.identity
  priority : after.chain.priority = before.chain.priority
  passes : after.chain.passes = before.chain.passes
  negated : ∀ (place : Nat) (old new : ChainLink), before.chain.links[place]? = some old →
    after.chain.links[place]? = some new → old.negated = true → new.negated = true
  log : before.log <+: after.log
  events : before.pendingEvents <+: after.pendingEvents
  granted : ∃ kept added, after.granted = kept ++ added ∧ kept.Sublist before.granted ∧
    added.Sublist fresh

namespace Confined

variable {before middle after : GameState} {fresh more : List Modifier}

theorem refl (state : GameState) : Confined [] state state where
  toFrame := .refl state
  version := rfl
  activations := rfl
  used := fun _ => rfl
  deckOut := fun _ => rfl
  identities := rfl
  priority := rfl
  passes := rfl
  negated := by
    intro place old new there thereToo negated
    obtain rfl := Option.some.inj (there.symm.trans thereToo)
    exact negated
  log := List.prefix_rfl
  events := List.prefix_rfl
  granted := ⟨state.granted, [], (List.append_nil _).symm, .refl _, .refl _⟩

theorem trans (first : Confined fresh before middle) (second : Confined more middle after) :
    Confined (fresh ++ more) before after where
  toFrame := first.toFrame.trans second.toFrame
  version := second.version.trans first.version
  activations := second.activations.trans first.activations
  used := fun seat => (second.used seat).trans (first.used seat)
  deckOut := fun seat => (second.deckOut seat).trans (first.deckOut seat)
  identities := second.identities.trans first.identities
  priority := second.priority.trans first.priority
  passes := second.passes.trans first.passes
  negated := by
    intro place old new there thereToo negated
    have links := congrArg (fun links => links[place]?) first.links
    simp only [List.getElem?_map, there, Option.map_some] at links
    obtain ⟨between, present, _⟩ := Option.map_eq_some_iff.mp links
    exact second.negated place between new present thereToo
      (first.negated place old between there present negated)
  log := first.log.trans second.log
  events := first.events.trans second.events
  granted := by
    obtain ⟨kept, added, same, early, late⟩ := first.granted
    obtain ⟨keptToo, addedToo, sameToo, earlyToo, lateToo⟩ := second.granted
    rw [same] at earlyToo
    obtain ⟨left, right, rfl, leftKept, rightKept⟩ := List.sublist_append_iff.mp earlyToo
    exact ⟨left, right ++ addedToo, by rw [sameToo, List.append_assoc], leftKept.trans early,
      (rightKept.trans late).append lateToo⟩

/-- A refresh grants nothing and drops what is over. -/
theorem refresh (state : GameState) (catalog : Catalog) : Confined [] state (state.refresh catalog) :=
  { refl state with
    toFrame := ⟨⟨rfl, rfl, rfl, rfl, rfl, rfl, .inl rfl⟩, rfl⟩
    identities := (Still.refresh state catalog).identities
    granted := ⟨state.liveGranted, [], (List.append_nil _).symm, List.filter_sublist, .refl _⟩ }

theorem grant (state : GameState) (modifier : Modifier) :
    Confined [modifier] state { state with granted := state.granted ++ [modifier] } :=
  { refl state with
    toFrame := ⟨⟨rfl, rfl, rfl, rfl, rfl, rfl, .inl rfl⟩, rfl⟩
    granted := ⟨state.granted, [modifier], rfl, .refl _, .refl _⟩ }

end Confined

variable {state next : GameState} {catalog : Catalog} {link : ChainLink}

/-- Negating a link takes no negation back and leaves the order of the chain alone. -/
theorem negate?_negated {chain after : Chain} {number : Nat} (made : chain.negate? number = some after) :
    after.priority = chain.priority ∧ after.passes = chain.passes ∧
      ∀ (place : Nat) (old new : ChainLink), chain.links[place]? = some old →
        after.links[place]? = some new → old.negated = true → new.negated = true := by
  obtain ⟨link, found, rfl⟩ := Option.map_eq_some_iff.mp made
  refine ⟨rfl, rfl, ?_⟩
  intro place old new there thereToo negated
  rw [List.getElem?_set] at thereToo
  split at thereToo
  · split at thereToo
    · obtain rfl := Option.some.inj thereToo
      rfl
    · cases thereToo
  · obtain rfl := Option.some.inj (there.symm.trans thereToo)
    exact negated

/-- A change that grants no modifier is confined. -/
theorem Steady.confined {change : Change} (steady : Steady state next)
    (made : change.apply state = .ok next) : Confined [] state next := by
  have frame := (Edits.change made).frame
  have identities := (Change.apply_shifts made).identities
  have granted : ∃ kept added, next.granted = kept ++ added ∧ kept.Sublist state.granted ∧
      added.Sublist [] := ⟨state.granted, [], by simp [steady.granted], .refl _, .refl _⟩
  obtain table | ⟨number, chain, negated, rfl⟩ | ⟨attack, _, rfl⟩ :=
    @Change.apply_cases (fun _ => True) change state next (fun _ _ => trivial) made
  · obtain ⟨told, log, events, _⟩ := table.told
    exact
      { Confined.refl state with
        toFrame := frame
        version := table.version
        activations := table.activations
        used := steady.used
        deckOut := steady.deckOut
        identities := identities
        priority := congrArg Chain.priority table.chain
        passes := congrArg Chain.passes table.chain
        negated := by
          rw [table.chain]
          exact (Confined.refl state).negated
        log := ⟨told, log.symm⟩
        events := ⟨triggering told, events.symm⟩
        granted := granted }
  · obtain ⟨priority, passes, kept⟩ := negate?_negated negated
    exact { Confined.refl state with toFrame := frame, priority, passes, negated := kept }
  · exact
      { Confined.refl state with
        toFrame := frame
        log := List.prefix_append _ _
        events := by
          rw [withoutAttack, GameState.record]
          dsimp only
          split
          · exact List.prefix_append _ _
          · exact List.prefix_rfl }

/-- A change that succeeds is confined, and grants at most its own modifier. -/
theorem apply_confined {change : Change} (made : change.apply state = .ok next) :
    Confined change.modifier?.toList state next := by
  cases granted : change.modifier? with
  | none => exact (apply_steady granted made).confined made
  | some modifier =>
    obtain rfl : change = .grant modifier := by
      cases change <;> cases granted
      rfl
    obtain rfl := Except.ok.inj made
    exact .grant state modifier

/-- Changes that succeed are confined, and grant their own modifiers in order. -/
theorem applyAll_confined {changes : List Change} (made : Change.applyAll changes state = .ok next) :
    Confined (changes.filterMap Change.modifier?) state next := by
  induction changes generalizing state with
  | nil =>
    obtain rfl := Except.ok.inj made
    exact .refl state
  | cons change rest ih =>
    rw [Change.applyAll_cons] at made
    obtain ⟨middle, first, others⟩ := bind_eq_ok.mp made
    have parts : (change :: rest).filterMap Change.modifier? =
        change.modifier?.toList ++ rest.filterMap Change.modifier? := by
      rw [List.filterMap_cons]
      cases change.modifier? <;> rfl
    rw [parts]
    exact (apply_confined first).trans (ih others)

/-! Effects -/

/--
An effect carries out plans of its instructions one after the other, each made for what its selector found on
the table.
-/
inductive Carries (catalog : Catalog) (link : ChainLink) (instructions : List Instruction) :
    GameState → List Change → GameState → Prop where
  | nothing (state : GameState) : Carries catalog link instructions state [] state
  | plan {state middle last : GameState} {selector : Selector} {instruction : Instruction}
      {resolved : Resolved} {changes others : List Change} (own : instruction ∈ instructions)
      (found : state.resolve link selector = .ok resolved)
      (planned : state.plan link instruction resolved = .ok changes)
      (made : Change.applyAll changes state = .ok middle)
      (rest : Carries catalog link instructions (middle.refresh catalog) others last) :
      Carries catalog link instructions state (changes ++ others) last

namespace Carries

variable {instructions : List Instruction} {middle last : GameState} {changes others : List Change}

theorem trans (first : Carries catalog link instructions state changes middle)
    (second : Carries catalog link instructions middle others last) :
    Carries catalog link instructions state (changes ++ others) last := by
  induction first with
  | nothing state => exact second
  | plan own found planned made _ ih =>
    rw [List.append_assoc]
    exact .plan own found planned made (ih second)

/-- All plans of an effect together are confined to the modifiers that they grant. -/
theorem confined (carries : Carries catalog link instructions state changes last) :
    Confined (changes.filterMap Change.modifier?) state last := by
  induction carries with
  | nothing state => exact .refl state
  | plan own found planned made rest ih =>
    have step := (applyAll_confined made).trans (.refresh _ catalog)
    rw [List.append_nil] at step
    rw [List.filterMap_append]
    exact step.trans ih

end Carries

end GameState

namespace EffectTree

open GameState

variable {catalog : Catalog} {link : ChainLink} {known : List Instruction}

mutual

/-- A whole effect tree carries out plans of its own instructions only. -/
theorem run_carries : (tree : EffectTree) → (∀ instruction ∈ tree.instructions, instruction ∈ known) →
    {state next : GameState} → run catalog link tree state = .ok next →
      ∃ changes, Carries catalog link known state changes next
  | .act instruction selector, own, state, next, made => by
    simp only [run, runInstruction, bind_eq_ok, pure_eq_ok] at made
    obtain ⟨resolved, found, changes, planned, middle, applied, rfl⟩ := made
    exact ⟨_, .plan (own instruction (by simp [instructions])) found planned applied (.nothing _)⟩
  | .sequence children, own, _, _, made =>
    runAll_carries children (by simpa only [instructions] using own) (by simpa only [run] using made)
  | .branch condition yes no, own, state, _, made => by
    rw [instructions] at own
    rw [run] at made
    split at made
    · exact run_carries yes (fun instruction member =>
        own instruction (List.mem_append_left _ member)) made
    · exact runOption_carries no (fun instruction member =>
        own instruction (List.mem_append_right _ member)) made

/-- Trees one after the other carry out plans of their instructions. -/
theorem runAll_carries : (children : List EffectTree) →
    (∀ instruction ∈ instructionsOfAll children, instruction ∈ known) →
    {state next : GameState} → runAll catalog link children state = .ok next →
      ∃ changes, Carries catalog link known state changes next
  | [], _, state, next, made => by
    obtain rfl : state = next := by simpa [runAll] using made
    exact ⟨[], .nothing state⟩
  | child :: rest, own, _, _, made => by
    rw [instructionsOfAll] at own
    simp only [runAll, bind_eq_ok] at made
    obtain ⟨middle, first, others⟩ := made
    obtain ⟨early, before⟩ := run_carries child (fun instruction member =>
      own instruction (List.mem_append_left _ member)) first
    obtain ⟨late, after⟩ := runAll_carries rest (fun instruction member =>
      own instruction (List.mem_append_right _ member)) others
    exact ⟨early ++ late, before.trans after⟩

theorem runOption_carries : (child : Option EffectTree) →
    (∀ instruction ∈ instructionsOfOption child, instruction ∈ known) →
    {state next : GameState} → runOption catalog link child state = .ok next →
      ∃ changes, Carries catalog link known state changes next
  | none, _, state, next, made => by
    obtain rfl : state = next := by simpa [runOption] using made
    exact ⟨[], .nothing state⟩
  | some child, own, _, _, made =>
    run_carries child (by simpa only [instructionsOfOption] using own)
      (by simpa only [runOption] using made)

end

/--
An effect that is carried out is confined: of the modifiers that are granted after it, those which were not
granted before are some of those which its plans grant.
-/
theorem run_confined {tree : EffectTree} {state next : GameState}
    (made : run catalog link tree state = .ok next) :
    ∃ changes, Carries catalog link tree.instructions state changes next ∧
      Confined (changes.filterMap Change.modifier?) state next := by
  obtain ⟨changes, carries⟩ := run_carries tree (fun _ member => member) made
  exact ⟨changes, carries, carries.confined⟩

end EffectTree

namespace DuelSetup

open GameState

/-- This is an effect that negates the link below and makes the monsters of its controller stronger. -/
def rally : EffectTree := .sequence
  [.act .negate .previousLink,
    .act (.modifyStat .attack 500 .endOfTurn) (.all (.fieldMonsters .controller))]

/-- This is a table with a sentry of the first player and a link of the second player. -/
def challenged : GameState :=
  { Change.applyPossible [.summon ⟨0⟩ .faceUpAttack .normal] sentries.withDecks with
    chain := ⟨[⟨1, ⟨2⟩, 0, ⟨1⟩, 0, .second, .one, [], false⟩], .resolving, .first, 2⟩ }

/-- A rally negates the only link and strengthens the only monster, and it is confined to that. -/
theorem rally_confined :
    let link : ChainLink := ⟨2, ⟨0⟩, 1, ⟨1⟩, 0, .first, .two, [], false⟩
    let outcome := rally.run sentries.rules.catalog link challenged
    (∃ next changes, outcome = .ok next ∧
      Carries sentries.rules.catalog link rally.instructions challenged changes next ∧
      Confined (changes.filterMap Change.modifier?) challenged next) ∧
    outcome.map (fun next => (next.chain.links.map ChainLink.negated, next.granted)) =
      .ok ([true], [⟨⟨0⟩, ⟨0⟩, .delta .attack 500, .endOfTurn, 1⟩]) := by
  intro link outcome
  obtain ⟨next, made⟩ : ∃ next, outcome = .ok next := ⟨_, rfl⟩
  obtain ⟨changes, carries, confined⟩ := EffectTree.run_confined made
  exact ⟨⟨next, changes, made, carries, confined⟩, rfl⟩

end DuelSetup

end CardDuel
