/-
This file tells which triggers go on the chain by themselves when a window opens, and in which order. They are
sorted by speed first, so none of them is too slow for the links below it; only life points decide.
-/

import CardDuel.Proofs.Flow.Shape
import CardDuel.Proofs.Trigger.Payment
import CardDuel.Proofs.Window.Options
import Mathlib.Data.List.Lex
import Mathlib.Data.List.Nodup

namespace CardDuel

/-! The order of triggers -/

namespace TriggeredEffect

variable {turnPlayer : Seat} {left right : TriggeredEffect}

/--
This tells that a trigger goes before another one: it is slower, or equally fast and of the turn player alone,
or otherwise of the card with the lower number, or on the same card it is the earlier effect.
-/
def ComesBefore (turnPlayer : Seat) (left right : TriggeredEffect) : Prop :=
  left.speed.value < right.speed.value ∨ left.speed = right.speed ∧
    (left.controller = turnPlayer ∧ right.controller ≠ turnPlayer ∨
      (left.controller = turnPlayer ↔ right.controller = turnPlayer) ∧
        (left.source.index < right.source.index ∨
          left.source = right.source ∧ left.effect < right.effect))

instance (turnPlayer : Seat) (left right : TriggeredEffect) :
    Decidable (left.ComesBefore turnPlayer right) := inferInstanceAs (Decidable (_ ∨ _))

/-- The keys of triggers are compared from left to right. -/
theorem comesBefore_iff :
    left.ComesBefore turnPlayer right ↔ left.key turnPlayer < right.key turnPlayer := by
  have speeds : left.speed = right.speed ↔ left.speed.value.toNat = right.speed.value.toNat := by
    rw [UInt8.toNat_inj, Speed.mk.injEq]
  simp only [ComesBefore, key, List.cons_lt_cons_iff, UInt8.lt_iff_toNat_lt, speeds,
    ← InstanceId.index_inj]
  by_cases first : left.controller = turnPlayer <;> by_cases second : right.controller = turnPlayer <;>
    simp [first, second]

theorem precedes_iff :
    left.precedes turnPlayer right = true ↔ left.key turnPlayer ≤ right.key turnPlayer := by
  rw [precedes, Bool.not_eq_true', ← Bool.not_eq_true, List.lex_eq_true_iff_lt]
  exact not_lt

/-- Different effects have different keys. -/
theorem subject_of_key (same : left.key turnPlayer = right.key turnPlayer) :
    left.subject = right.subject := by
  simp only [key, List.cons.injEq, and_true] at same
  obtain ⟨_, _, source, effect⟩ := same
  rw [subject, subject, InstanceId.index_inj.mp source, effect]

end TriggeredEffect

/-! What is paid -/

namespace Catalog

def lifePrice (catalog : Catalog) (trigger : TriggeredEffect) : UInt32 :=
  ((catalog.effect? trigger.card trigger.effect).map CardEffect.lifePrice).getD 0

/--
These are the triggers that are paid one after the other from the life points of their controllers. A trigger
that costs more than its controller has left is passed over.
-/
def affordable (catalog : Catalog) (lives : Seat → UInt32) : List TriggeredEffect → List TriggeredEffect
  | [] => []
  | trigger :: rest =>
    let left := lives trigger.controller
    let price := catalog.lifePrice trigger
    if price ≤ left then
      trigger :: catalog.affordable (Function.update lives trigger.controller (left - price)) rest
    else catalog.affordable lives rest

end Catalog

/-- This is a link without the move count of its source. -/
def ChainLink.unmoved (link : ChainLink) : ChainLink := { link with sourceMoves := 0 }

/-- These are the links of triggers on a chain that has a number of links below them. -/
def TriggeredEffect.linksFrom (below : Nat) (triggers : List TriggeredEffect) : List ChainLink :=
  (triggers.zipIdx (below + 1)).map fun entry => entry.1.link entry.2 0

namespace GameState

variable {state next : GameState} {catalog : Catalog} {trigger : TriggeredEffect}
  {rest triggers : List TriggeredEffect}

/-- The collected triggers are in strict order. -/
theorem collectTriggers_pairwise (state : GameState) (catalog : Catalog) (events : List GameEvent) :
    (state.collectTriggers catalog events).Pairwise
      (TriggeredEffect.ComesBefore state.turnPlayer) := by
  have sorted : (state.collectTriggers catalog events).Pairwise fun left right =>
      left.precedes state.turnPlayer right = true := by
    refine List.pairwise_mergeSort ?_ ?_ _
    · intro first second third
      simp only [TriggeredEffect.precedes_iff]
      exact le_trans
    · intro left right
      simp only [Bool.or_eq_true, TriggeredEffect.precedes_iff]
      exact le_total _ _
  have distinct := List.pairwise_map.mp (state.nodup_collectTriggers catalog events)
  refine (sorted.and distinct).imp fun ⟨ordered, apart⟩ => ?_
  rw [TriggeredEffect.comesBefore_iff]
  apply lt_of_le_of_ne (TriggeredEffect.precedes_iff.mp ordered)
  intro same
  exact apart (TriggeredEffect.subject_of_key same)

/-- No other order of the triggers of all cards is strict. -/
theorem collectTriggers_unique {events : List GameEvent} {listed : List TriggeredEffect}
    (same : listed.Perm
      (TriggeredEffect.distinct (state.cards.flatMap (state.triggersOf catalog events))))
    (ordered : listed.Pairwise (TriggeredEffect.ComesBefore state.turnPlayer)) :
    state.collectTriggers catalog events = listed := by
  refine List.Perm.eq_of_pairwise ?_ (state.collectTriggers_pairwise catalog events) ordered
    ((List.mergeSort_perm _ _).trans same.symm)
  intro left right _ _ first second
  rw [TriggeredEffect.comesBefore_iff] at first second
  exact absurd first (lt_asymm second)

/-! The chain -/

theorem Consistent.setPending (consistent : state.Consistent) (events : List GameEvent) :
    ({ state with pendingEvents := events } : GameState).Consistent := by
  have still : Still state { state with pendingEvents := events } := ⟨rfl, fun _ => rfl⟩
  exact (Shifts.of_still still).consistent consistent

/-- This tells that triggers in their order can go on the chain. -/
structure Takes (state : GameState) (catalog : Catalog) (triggers : List TriggeredEffect) : Prop where
  consistent : state.Consistent
  there : ∀ trigger ∈ triggers, ∃ found, state.card? trigger.source = some found
  printed : ∀ trigger ∈ triggers, ∃ effect,
    catalog.effect? trigger.card trigger.effect = some effect
  sorted : triggers.Pairwise fun left right => left.speed.value ≤ right.speed.value
  waits : state.chain.status ≠ .resolving
  fast : ∀ trigger ∈ triggers, ∀ top ∈ state.chain.top?, top.speed.value ≤ trigger.speed.value

namespace Takes

/-- The first of several triggers is not too slow for the chain. -/
theorem canActivate (takes : state.Takes catalog (trigger :: rest)) :
    state.chain.canActivate trigger.speed = .ok () :=
  canActivate_eq_ok.mpr ⟨takes.waits, takes.fast trigger List.mem_cons_self⟩

/-- When a trigger is skipped, the others can go on the chain. -/
theorem skip (takes : state.Takes catalog (trigger :: rest)) : state.Takes catalog rest where
  consistent := takes.consistent
  there := fun other member => takes.there other (List.mem_cons_of_mem trigger member)
  printed := fun other member => takes.printed other (List.mem_cons_of_mem trigger member)
  sorted := (List.pairwise_cons.mp takes.sorted).2
  waits := takes.waits
  fast := fun other member => takes.fast other (List.mem_cons_of_mem trigger member)

/-- When a trigger went on the chain, the others are not too slow for it. -/
theorem chained {price : UInt32} (takes : state.Takes catalog (trigger :: rest))
    (chains : Chains state next trigger price) : next.Takes catalog rest where
  consistent := chains.shifts.consistent takes.consistent
  there := fun other member => by
    obtain ⟨found, known⟩ := takes.there other (List.mem_cons_of_mem trigger member)
    obtain ⟨kept, knownNow, _⟩ := chains.shifts.card_at known
    exact ⟨kept, knownNow⟩
  printed := takes.skip.printed
  sorted := takes.skip.sorted
  waits := by simp [chains.waits]
  fast := by
    obtain ⟨moves, links⟩ := chains.links
    intro other member top last
    rw [Chain.top?, links, List.getLast?_concat] at last
    obtain rfl := Option.some.inj last
    exact (List.pairwise_cons.mp takes.sorted).1 other member

end Takes

/-- Triggers that can go on the chain do so in their order, except those that cannot be paid. -/
theorem Takes.links (takes : state.Takes catalog triggers) :
    (triggers.foldl (chainTrigger catalog) state).chain.links.map ChainLink.unmoved =
      state.chain.links.map ChainLink.unmoved ++ TriggeredEffect.linksFrom state.chain.links.length
        (catalog.affordable state.lives triggers) := by
  induction triggers generalizing state with
  | nil => simp [Catalog.affordable, TriggeredEffect.linksFrom]
  | cons trigger rest ih =>
    obtain ⟨effect, printed⟩ := takes.printed trigger List.mem_cons_self
    obtain ⟨found, known⟩ := takes.there trigger List.mem_cons_self
    have price : catalog.lifePrice trigger = effect.lifePrice := by
      simp [Catalog.lifePrice, printed]
    rw [List.foldl_cons, Catalog.affordable, price]
    by_cases enough : effect.lifePrice ≤ state.lives trigger.controller
    · have chains := chainTrigger_chains takes.consistent known printed takes.canActivate enough
      obtain ⟨moves, links⟩ := chains.links
      rw [if_pos enough, ih (takes.chained chains), chains.lives, links]
      simp [TriggeredEffect.linksFrom, List.zipIdx_cons, ChainLink.unmoved, TriggeredEffect.link]
    · rw [if_neg enough, chainTrigger_skipped printed fun able => enough able.2]
      exact ih takes.skip

/-! Windows -/

/-- Automatic passes keep every property of a window that a pass keeps. -/
theorem advanceWindow_keeps {keeps : ResponseWindow → Prop}
    (passing : ∀ {window remaining : ResponseWindow} {player : Seat} {outcome : WindowPass},
      window.pass player = .ok (outcome, remaining) → keeps window → keeps remaining)
    (passes : Nat) (holds : ∀ window ∈ state.window, keeps window) :
    ∀ window ∈ (advanceWindow catalog passes state).window, keeps window := by
  induction passes generalizing state with
  | zero => exact holds
  | succ passes ih =>
    rw [advanceWindow]
    split
    · exact holds
    · next window opened =>
      split
      · exact holds
      · split
        · next _ remaining passed =>
          apply ih
          intro other same
          obtain rfl := Option.some.inj same
          exact passing passed (holds window opened)
        · simp

/-- These are the effects that follow the pending events. -/
def followers (state : GameState) (catalog : Catalog) : List TriggeredEffect :=
  state.collectTriggers catalog state.pendingEvents

/-- The effects that follow are the same after the events were taken. -/
theorem collectTriggers_taken (state : GameState) (catalog : Catalog) :
    ({ state with pendingEvents := [] } : GameState).collectTriggers catalog state.pendingEvents =
      state.followers catalog := by
  have same : SameOptions state { state with pendingEvents := [] } :=
    ⟨rfl, rfl, rfl, rfl, rfl, rfl, rfl, rfl⟩
  exact same.collectTriggers state.pendingEvents

theorem window_announceWindow (state : GameState) : state.announceWindow.window = state.window := by
  rw [announceWindow]
  split
  · rfl
  · rfl

/-- A window that opens offers the optional effects that follow the pending events. -/
theorem openWindow_optional (state : GameState) (catalog : Catalog) :
    ∀ window ∈ (state.openWindow catalog).window,
      window.optional = (state.followers catalog).filter TriggeredEffect.optional := by
  have gathered : ∀ window ∈ (state.gatherTriggers catalog).window,
      window.optional = (state.followers catalog).filter TriggeredEffect.optional := by
    intro window opened
    obtain rfl := Option.some.inj opened
    exact congrArg (List.filter TriggeredEffect.optional) (state.collectTriggers_taken catalog)
  rw [openWindow]
  split
  · rw [window_announceWindow]
    exact advanceWindow_keeps (fun passed => (ResponseWindow.pass_same passed).2.trans) _ gathered
  · rw [window_announceWindow]
    exact gathered

/-- In a consistent state the mandatory effects that follow the pending events can go on an idle chain. -/
theorem takes_mandatory (consistent : state.Consistent) (idle : state.chain.status = .idle)
    (unlinked : state.chain.links = []) (catalog : Catalog) :
    ({ state with pendingEvents := [] } : GameState).Takes catalog
      ((state.followers catalog).filter fun trigger => !trigger.optional) where
  consistent := consistent.setPending []
  there := fun trigger member => by
    obtain ⟨card, _, _, follows⟩ := collectTriggers_follows (List.mem_filter.mp member).1
    exact ⟨card, follows.source ▸ consistent.numbered.card?_id follows.there⟩
  printed := fun trigger member => by
    obtain ⟨_, effect, _, follows⟩ := collectTriggers_follows (List.mem_filter.mp member).1
    exact ⟨effect, follows.printed ▸ follows.known⟩
  sorted := by
    refine ((state.collectTriggers_pairwise catalog state.pendingEvents).filter _).imp fun before => ?_
    rcases before with slower | ⟨same, _⟩
    · exact UInt8.le_of_lt slower
    · exact same ▸ UInt8.le_refl _
  waits := by simp [idle]
  fast := by simp [Chain.top?, unlinked]

theorem links_openWindow (state : GameState) (catalog : Catalog) :
    (state.openWindow catalog).chain.links =
      (((state.followers catalog).filter fun trigger => !trigger.optional).foldl
        (chainTrigger catalog) { state with pendingEvents := [] }).chain.links := by
  obtain ⟨window, _, opened⟩ := state.openWindow_eq catalog
  rw [opened, links_announceWindow, ← collectTriggers_taken]
  rfl

/--
No effect follows the pending events twice, and those that follow are in strict order. When a window opens
over an idle chain, the mandatory ones among them become its links in that order, except those for which their
controller has not enough life points left; none is too slow. A window that stays open offers the optional ones.
-/
theorem openWindow_in_order (consistent : state.Consistent) (idle : state.chain.status = .idle)
    (unlinked : state.chain.links = []) (catalog : Catalog) :
    ((state.followers catalog).map TriggeredEffect.subject).Nodup ∧
      (state.followers catalog).Pairwise (TriggeredEffect.ComesBefore state.turnPlayer) ∧
      (state.openWindow catalog).chain.links.map ChainLink.unmoved =
        TriggeredEffect.linksFrom 0 (catalog.affordable state.lives
          ((state.followers catalog).filter fun trigger => !trigger.optional)) ∧
      ∀ window ∈ (state.openWindow catalog).window,
        window.optional = (state.followers catalog).filter TriggeredEffect.optional := by
  refine ⟨nodup_collectTriggers _ _ _, collectTriggers_pairwise _ _ _, ?_,
    state.openWindow_optional catalog⟩
  have links := (takes_mandatory consistent idle unlinked catalog).links
  rw [links_openWindow, links, unlinked]
  rfl

end GameState

namespace DuelSetup

/--
This is a duel in which each player has one life point and one monster. Whenever a player takes damage, three of
its effects must follow: a quick one and a slow one that cost a life point, and one that costs the monster.
Another one may follow.
-/
def tollkeepers : DuelSetup where
  rules := ⟨⟨[⟨⟨1⟩, "Tollkeeper", .monster 1 100 100,
    [{ CardEffect.plain .trigger .two (.act (.gainLife 1) .controller) with
        cost := some ⟨.lifePoints, 1⟩
        trigger := some ⟨.damageTaken, .any, .either, false⟩ },
      { CardEffect.plain .trigger .one (.act (.gainLife 2) .controller) with
        cost := some ⟨.lifePoints, 1⟩
        trigger := some ⟨.damageTaken, .any, .either, false⟩ },
      { CardEffect.plain .trigger .one (.act (.gainLife 3) .controller) with
        trigger := some ⟨.damageTaken, .any, .either, true⟩ },
      { CardEffect.plain .trigger .one (.act (.gainLife 4) .controller) with
        cost := some ⟨.this, 1⟩
        trigger := some ⟨.damageTaken, .any, .either, false⟩ }], [], none⟩]⟩,
    { DuelConfig.standard with startingLife := 1, startingHand := 1, handLimit := 1 }⟩
  decks := .replicate [⟨1⟩]
  seed := 0
  shuffle := false
  firstPlayer := .first

/-- This is a state in which the second player has just taken damage. -/
def tolled (duel : Duel) : GameState :=
  { duel.state with pendingEvents := [.damage .second 1 false] }

/--
When damage is dealt beside a tollkeeper, the slow effects follow in their order. The life point is spent on the
first of them, so that the quick effect does not follow.
-/
theorem tollkeepers_in_order :
    ∃ duel, tollkeepers.Run [.act .first (.normalSummon ⟨0⟩ [])] duel ∧
      (((tolled duel).followers tollkeepers.rules.catalog).map fun trigger => trigger.effect) =
        [1, 2, 3, 0] ∧
      (((tolled duel).openWindow tollkeepers.rules.catalog).chain.links.map fun link => link.effect) =
        [1, 3] ∧
      ∀ window ∈ ((tolled duel).openWindow tollkeepers.rules.catalog).window,
        (window.optional.map fun trigger => trigger.effect) = [2] := by
  -- The sorting is not computed: the order of the followers is given and then found to be theirs.
  have played : (tollkeepers.play? [.act .first (.normalSummon ⟨0⟩ [])]).any (fun duel =>
      let found := TriggeredEffect.distinct ((tolled duel).cards.flatMap
        ((tolled duel).triggersOf tollkeepers.rules.catalog (tolled duel).pendingEvents))
      let listed := found.tail ++ found.take 1
      decide (duel.state.chain.status = .idle ∧ duel.state.chain.links = [] ∧ listed.Perm found ∧
        listed.Pairwise (TriggeredEffect.ComesBefore (tolled duel).turnPlayer) ∧
        listed.map (fun trigger => trigger.effect) = [1, 2, 3, 0] ∧
        (TriggeredEffect.linksFrom 0 (tollkeepers.rules.catalog.affordable (tolled duel).lives
          (listed.filter fun trigger => !trigger.optional))).map (fun link => link.effect) = [1, 3] ∧
        (listed.filter TriggeredEffect.optional).map (fun trigger => trigger.effect) = [2])) = true := by
    decide +kernel
  obtain ⟨duel, followed, facts⟩ := (Option.any_eq_true _ _).mp played
  obtain ⟨idle, unlinked, same, ordered, order, paid, offered⟩ := of_decide_eq_true facts
  have run : tollkeepers.Run [.act .first (.normalSummon ⟨0⟩ [])] duel := .of_play followed
  have fits : tollkeepers.Fits := by
    show 1 + 1 < UInt32.size
    decide
  obtain ⟨_, _, links, offers⟩ := GameState.openWindow_in_order
    ((run.consistent fits).setPending [.damage .second 1 false]) idle unlinked tollkeepers.rules.catalog
  rw [← GameState.collectTriggers_unique same ordered] at order paid offered
  refine ⟨duel, run, order, ?_, ?_⟩
  · have effects := congrArg (List.map fun link => link.effect) links
    rw [List.map_map] at effects
    exact effects.trans paid
  · intro window opened
    exact (congrArg (List.map fun trigger => trigger.effect) (offers window opened)).trans offered

end DuelSetup

end CardDuel
