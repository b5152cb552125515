/-
This file follows a chain through operations in any order: its links stay numbered and sorted by speed,
and the passes since the last link tell who may answer it and when it resolves.
-/

import CardDuel.Proofs.Chain.Account
import CardDuel.Proofs.Legal.Turns

namespace CardDuel

/-- This is something that is done with a chain. -/
inductive ChainOperation where
  | push (link : ChainLink)
  | pass (player : Seat)
  | beginResolving
  | pop
  | finish (turnPlayer : Seat)
  | negate (number : Nat)
deriving DecidableEq

namespace ChainOperation

def isPush : ChainOperation → Bool
  | push _ => true
  | _ => false

def isPass : ChainOperation → Bool
  | pass _ => true
  | _ => false

/-- This is the number of passes after the last link in a list of operations. -/
def passesSincePush (accepted : List ChainOperation) : Nat :=
  (accepted.reverse.takeWhile fun operation => !operation.isPush).countP isPass

/-- Only a push starts the count of passes anew. -/
theorem passesSincePush_concat (accepted : List ChainOperation) (operation : ChainOperation) :
    passesSincePush (accepted ++ [operation]) =
      if operation.isPush then 0
      else passesSincePush accepted + if operation.isPass then 1 else 0 := by
  unfold passesSincePush
  rw [List.reverse_concat, List.takeWhile_cons]
  cases pushes : operation.isPush with
  | true => rfl
  | false => simp [List.countP_cons]

end ChainOperation

namespace Chain

open ChainOperation

/-- This is a chain after an operation, if the operation is accepted. -/
def accept? (chain : Chain) (rule : PassRule) : ChainOperation → Option Chain
  | .push link => (chain.push link).toOption.map Prod.snd
  | .pass player => (chain.pass player rule).toOption.map Prod.snd
  | .beginResolving => some chain.beginResolving
  | .pop => chain.pop?.map Prod.snd
  | .finish turnPlayer => some (.idle turnPlayer)
  | .negate number => chain.negate? number

/-- This is a chain after an operation; one that is refused changes nothing. -/
def perform (rule : PassRule) (chain : Chain) (operation : ChainOperation) : Chain :=
  (chain.accept? rule operation).getD chain

def performAll (chain : Chain) (rule : PassRule) (operations : List ChainOperation) : Chain :=
  operations.foldl (perform rule) chain

/-- These are the operations that a chain accepts, in their order. -/
def accepted (chain : Chain) (rule : PassRule) : List ChainOperation → List ChainOperation
  | [] => []
  | operation :: rest =>
    match chain.accept? rule operation with
    | some next => operation :: next.accepted rule rest
    | none => chain.accepted rule rest

/-- This tells what operations on a chain keep, whichever of them were accepted. -/
structure Disciplined (rule : PassRule) (accepted : List ChainOperation) (chain : Chain) : Prop where
  numbered : chain.Numbered
  sorted : chain.links.Pairwise fun lower upper => lower.speed.value ≤ upper.speed.value
  counted : chain.status = .awaitingResponse →
    passesSincePush accepted = 0 ∧ chain.passes = 0 ∨
      passesSincePush accepted = 1 ∧ chain.passes = 1 ∧ rule = .consecutive
  held : .pop ∉ accepted → chain.status = .awaitingResponse → ∃ top, chain.top? = some top ∧
    chain.priority =
      if passesSincePush accepted = 0 then top.controller.opponent else top.controller

variable {rule : PassRule} {past : List ChainOperation} {chain next : Chain}

namespace Disciplined

theorem idle (rule : PassRule) (past : List ChainOperation) (holder : Seat) :
    Disciplined rule past (.idle holder) where
  numbered := rfl
  sorted := List.Pairwise.nil
  counted := by simp [Chain.idle]
  held := by simp [Chain.idle]

/-- An operation that is neither a link nor a pass and that changes at most negations keeps everything. -/
theorem rest (kept : Disciplined rule past chain) {operation : ChainOperation}
    (pushes : operation.isPush = false) (passes : operation.isPass = false)
    (links : next.links.map ChainLink.bare = chain.links.map ChainLink.bare)
    (same : next.status = chain.status ∧ next.passes = chain.passes ∧
      next.priority = chain.priority) :
    Disciplined rule (past ++ [operation]) next := by
  obtain ⟨status, count, holder⟩ := same
  have since : passesSincePush (past ++ [operation]) = passesSincePush past := by
    simp [passesSincePush_concat, pushes, passes]
  refine ⟨kept.numbered.of_bare links, ?_, ?_, ?_⟩
  · have speeds := congrArg (List.map fun link : ChainLink => link.speed.value) links
    rw [List.map_map, List.map_map] at speeds
    refine List.pairwise_map.mp (?_ : (next.links.map fun link => link.speed.value).Pairwise (· ≤ ·))
    exact speeds ▸ List.pairwise_map.mpr kept.sorted
  · rw [status, count, since]
    exact kept.counted
  · rw [status, holder, since]
    intro whole waits
    obtain ⟨top, last, turn⟩ := kept.held (fun popped => whole (List.mem_append_left _ popped)) waits
    have ends := congrArg List.getLast? links
    rw [List.getLast?_map, List.getLast?_map, show chain.links.getLast? = some top from last] at ends
    obtain ⟨new, lastToo, bared⟩ := Option.map_eq_some_iff.mp ends
    have controller : new.bare.controller = top.bare.controller := congrArg ChainLink.controller bared
    change new.controller = top.controller at controller
    exact ⟨new, lastToo, controller ▸ turn⟩

/-- A link that is accepted is as fast as the last one and so as fast as all others. -/
theorem push (kept : Disciplined rule past chain) {link : ChainLink} {number : Nat}
    (pushed : chain.push link = .ok (number, next)) :
    Disciplined rule (past ++ [.push link]) next := by
  simp only [Chain.push, bind_eq_ok, pure_eq_ok] at pushed
  obtain ⟨_, fast, same⟩ := pushed
  obtain ⟨_, rfl⟩ := Prod.mk.inj same
  obtain ⟨_, slower⟩ := GameState.canActivate_eq_ok.mp fast
  have none : passesSincePush (past ++ [.push link]) = 0 := passesSincePush_concat past _
  refine ⟨kept.numbered.concat link _ _ _, ?_, fun _ => .inl ⟨none, rfl⟩, ?_⟩
  · refine List.pairwise_append.mpr ⟨kept.sorted, List.pairwise_singleton _ _, ?_⟩
    intro lower member upper new
    obtain rfl := List.mem_singleton.mp new
    obtain ⟨top, last⟩ := Option.isSome_iff_exists.mp
      (List.getLast?_isSome.mpr (List.ne_nil_of_mem member))
    obtain ⟨others, split⟩ := List.getLast?_eq_some_iff.mp last
    have sorted := kept.sorted
    rw [split] at sorted member
    have below : lower.speed.value ≤ top.speed.value := by
      rcases List.mem_append.mp member with earlier | own
      · exact (List.pairwise_append.mp sorted).2.2 lower earlier top (List.mem_singleton_self top)
      · rw [List.mem_singleton.mp own]
        exact UInt8.le_refl _
    exact UInt8.le_trans below (slower top last)
  · intro _ _
    refine ⟨{ link with number := chain.links.length + 1 }, ?_, ?_⟩
    · simp [top?]
    · rw [if_pos none]

/--
A pass resolves a disciplined chain under the quick rule, and under the other one if it is the second one
since the last link; the first one hands the priority over.
-/
theorem pass_cases (kept : Disciplined rule past chain) {player : Seat} {outcome : PassOutcome}
    (passed : chain.pass player rule = .ok (outcome, next)) :
    (outcome = .resolve ∧ next.status = .resolving ∧
      (rule = .singleFlip ∨ passesSincePush past = 1)) ∨
    (outcome = .priorityTo player.opponent ∧ rule = .consecutive ∧ passesSincePush past = 0 ∧
      next = { chain with passes := 1, priority := player.opponent }) := by
  simp only [Chain.pass, ite_error_eq_ok, not_not] at passed
  obtain ⟨waits, _, rest⟩ := passed
  cases rule with
  | singleFlip =>
    obtain ⟨rfl, rfl⟩ := Prod.mk.inj (Except.ok.inj rest)
    exact .inl ⟨rfl, rfl, .inl rfl⟩
  | consecutive =>
    rcases kept.counted waits with ⟨since, count⟩ | ⟨since, count, _⟩
    · rw [count] at rest
      obtain ⟨rfl, rfl⟩ := Prod.mk.inj (Except.ok.inj rest)
      exact .inr ⟨rfl, rfl, since, rfl⟩
    · rw [count] at rest
      obtain ⟨rfl, rfl⟩ := Prod.mk.inj (Except.ok.inj rest)
      exact .inl ⟨rfl, rfl, .inr since⟩

/-- A pass that does not resolve the chain hands the priority back to the player of the last link. -/
theorem pass (kept : Disciplined rule past chain) {player : Seat} {outcome : PassOutcome}
    (passed : chain.pass player rule = .ok (outcome, next)) :
    Disciplined rule (past ++ [.pass player]) next := by
  obtain ⟨waits, _⟩ := GameState.chain_pass_ok_iff.mp ⟨_, passed⟩
  obtain ⟨own, links, _⟩ := GameState.pass_eq_ok passed
  have numbered : next.Numbered := kept.numbered.of_bare (by rw [links])
  have sorted := links ▸ kept.sorted
  rcases kept.pass_cases passed with ⟨_, ends, _⟩ | ⟨_, quick, since, rfl⟩
  · refine ⟨numbered, sorted, ?_, ?_⟩
    · intro awaits
      simp [ends] at awaits
    · intro _ awaits
      simp [ends] at awaits
  · have once : passesSincePush (past ++ [.pass player]) = 1 := by
      rw [passesSincePush_concat, since]
      rfl
    refine ⟨numbered, sorted, fun _ => .inr ⟨once, rfl, quick⟩, ?_⟩
    intro whole _
    obtain ⟨top, last, turn⟩ := kept.held (fun popped => whole (List.mem_append_left _ popped)) waits
    rw [if_pos since] at turn
    refine ⟨top, last, ?_⟩
    rw [once, if_neg Nat.one_ne_zero, own, turn]
    exact Seat.opponent_opponent _

/-- Every operation that a chain accepts keeps it disciplined. -/
theorem accept (kept : Disciplined rule past chain) {operation : ChainOperation}
    (taken : chain.accept? rule operation = some next) :
    Disciplined rule (past ++ [operation]) next := by
  cases operation with
  | push link =>
    obtain ⟨⟨number, _⟩, pushed, rfl⟩ := Option.map_eq_some_iff.mp taken
    exact kept.push (toOption_eq_some.mp pushed)
  | pass player =>
    obtain ⟨⟨outcome, _⟩, passed, rfl⟩ := Option.map_eq_some_iff.mp taken
    exact kept.pass (toOption_eq_some.mp passed)
  | beginResolving =>
    obtain rfl := Option.some.inj taken
    rw [beginResolving]
    split
    · exact kept.rest rfl rfl rfl ⟨rfl, rfl, rfl⟩
    · exact ⟨kept.numbered, kept.sorted, by simp, by simp⟩
  | pop =>
    obtain ⟨⟨link, _⟩, popped, rfl⟩ := Option.map_eq_some_iff.mp taken
    have numbered := (kept.numbered.pop popped).1
    have split := (pop?_eq_some popped).1
    obtain ⟨top, _, same⟩ := Option.map_eq_some_iff.mp popped
    obtain ⟨_, rfl⟩ := Prod.mk.inj same
    have since : passesSincePush (past ++ [.pop]) = passesSincePush past := by
      simp [passesSincePush_concat, isPush, isPass]
    refine ⟨numbered, kept.sorted.sublist (List.dropLast_sublist _), ?_, ?_⟩
    · rw [since]
      exact kept.counted
    · intro whole
      exact absurd (List.mem_append_right past (List.mem_singleton_self _)) whole
  | finish turnPlayer =>
    obtain rfl := Option.some.inj taken
    exact .idle rule _ turnPlayer
  | negate number =>
    have links := (Chain.negate?_eq_some taken).2
    obtain ⟨link, found, rfl⟩ := Option.map_eq_some_iff.mp taken
    exact kept.rest rfl rfl links ⟨rfl, rfl, rfl⟩

/-- What a disciplined chain keeps, it keeps through any operations. -/
theorem performAll (kept : Disciplined rule past chain) (operations : List ChainOperation) :
    Disciplined rule (past ++ chain.accepted rule operations)
      (chain.performAll rule operations) := by
  induction operations generalizing past chain with
  | nil => simpa [accepted, Chain.performAll] using kept
  | cons operation rest ih =>
    rw [Chain.performAll, List.foldl_cons, perform, accepted]
    cases taken : chain.accept? rule operation with
    | none => exact ih kept
    | some next =>
      rw [List.append_cons]
      exact ih (kept.accept taken)

/-- Which rule holds and how many passes came since the last link tells whether a pass resolves the chain. -/
theorem resolves_iff (kept : Disciplined rule past chain) {player : Seat} {outcome : PassOutcome}
    (passed : chain.pass player rule = .ok (outcome, next)) :
    outcome = .resolve ↔ rule = .singleFlip ∨ passesSincePush past = 1 := by
  rcases kept.pass_cases passed with ⟨rfl, _, when⟩ | ⟨rfl, rfl, since, _⟩
  · exact iff_of_true rfl when
  · simp [since]

end Disciplined

/-- The accepted operations are some of those that were tried. -/
theorem accepted_sublist (chain : Chain) (rule : PassRule) (operations : List ChainOperation) :
    (chain.accepted rule operations).Sublist operations := by
  induction operations generalizing chain with
  | nil => exact List.Sublist.refl []
  | cons operation rest ih =>
    rw [accepted]
    split
    · exact (ih _).cons_cons operation
    · exact (ih chain).cons operation

/--
After any operations on a new chain, the links are numbered from one on and no link is slower than one
below it. A pass is accepted exactly from the player with priority while an answer is awaited. If no
link was taken off, this player is the opponent of the player of the last link, and after a pass it is
that player. A pass resolves the chain always under the one rule, and under the other one exactly when
it is the second one since the last link. What is refused changes nothing.
-/
theorem passes_answer_pushes (rule : PassRule) (starter : Seat) (operations : List ChainOperation) :
    let chain := (Chain.idle starter).performAll rule operations
    let since := passesSincePush ((Chain.idle starter).accepted rule operations)
    (∀ place link, chain.links[place]? = some link → link.number = place + 1) ∧
    (chain.links.Pairwise fun lower upper => lower.speed.value ≤ upper.speed.value) ∧
    (∀ player, (∃ result, chain.pass player rule = .ok result) ↔
      chain.status = .awaitingResponse ∧ player = chain.priority) ∧
    (.pop ∉ operations → chain.status = .awaitingResponse → ∃ top, chain.top? = some top ∧
      (since = 0 ∧ chain.priority = top.controller.opponent ∨
        since = 1 ∧ chain.priority = top.controller)) ∧
    (∀ player outcome next, chain.pass player rule = .ok (outcome, next) →
      (outcome = .resolve ↔ rule = .singleFlip ∨ since = 1)) ∧
    (∀ link rejection, chain.push link = .error rejection →
      chain.perform rule (.push link) = chain) ∧
    ∀ player rejection, chain.pass player rule = .error rejection →
      chain.perform rule (.pass player) = chain := by
  intro chain since
  -- Only accepted operations change the chain, so the passes are counted among these.
  have kept : Disciplined rule ((Chain.idle starter).accepted rule operations) chain :=
    (Disciplined.idle rule [] starter).performAll operations
  refine ⟨?_, kept.sorted, fun player => GameState.chain_pass_ok_iff, ?_,
    fun player outcome next passed => kept.resolves_iff passed, ?_, ?_⟩
  · intro place link present
    have number : (chain.links.map ChainLink.number)[place]? = some link.number := by
      rw [List.getElem?_map, present]
      rfl
    rw [kept.numbered] at number
    obtain ⟨_, same⟩ := List.getElem?_eq_some_iff.mp number
    rw [List.getElem_range'] at same
    omega
  · intro whole waits
    obtain ⟨top, last, turn⟩ := kept.held
      (fun popped => whole ((accepted_sublist _ rule operations).subset popped)) waits
    refine ⟨top, last, ?_⟩
    rcases kept.counted waits with ⟨none, _⟩ | ⟨one, _, _⟩
    · rw [if_pos none] at turn
      exact .inl ⟨none, turn⟩
    · rw [if_neg (by omega)] at turn
      exact .inr ⟨one, turn⟩
  · intro link rejection refused
    simp [perform, accept?, refused, Except.toOption]
  · intro player rejection refused
    simp [perform, accept?, refused, Except.toOption]

/-- After the quick link one pass counts: the slow link and the pass out of turn are refused. -/
example :
    let slow : ChainLink := ⟨0, ⟨0⟩, 0, ⟨1⟩, 0, .first, .one, [], false⟩
    let quick : ChainLink := ⟨0, ⟨1⟩, 0, ⟨2⟩, 0, .second, .two, [], false⟩
    let chain := (Chain.idle .first).performAll .consecutive [.push slow, .pass .second, .push quick,
      .push slow, .pass .second, .pass .first]
    chain.links.length = 2 ∧ chain.status = .awaitingResponse ∧ chain.priority = .second := by
  decide

end Chain

end CardDuel
