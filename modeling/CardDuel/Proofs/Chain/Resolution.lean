/-
This file tells what the log holds after a chain was resolved: the links in falling order down to the
first one, or down to the one that ended the duel, and then how many they were.
-/

import CardDuel.Proofs.Chain.Account

namespace CardDuel

/-- This is what the log tells of a chain and of the end of the duel. -/
inductive ChainNote where
  | added (number : Nat)
  | resolved (number : Nat)
  | finished (length : Nat)
  | ended (result : GameResult)
deriving DecidableEq

def GameEvent.chainNote? : GameEvent → Option ChainNote
  | chainLinkAdded number _ _ => some (.added number)
  | chainLinkResolved number _ _ => some (.resolved number)
  | chainResolved length => some (.finished length)
  | gameEnded result => some (.ended result)
  | _ => none

/-- This is what a part of the log tells of chains and of the end of the duel, in its order. -/
def chainNotes (log : List LoggedEvent) : List ChainNote :=
  log.filterMap fun entry => entry.event.chainNote?

/-- These are the numbers of the links from one number up, the highest first. -/
def ChainNote.downTo (last count : Nat) : List ChainNote :=
  (List.range' last count).reverse.map .resolved

/-- This is the note of the end of the duel, if it has ended. -/
def ChainNote.endOf (outcome : Option GameResult) : List ChainNote := outcome.toList.map .ended

/-- One more link on top is the first one to be resolved. -/
theorem ChainNote.downTo_succ (last count : Nat) :
    downTo last (count + 1) = .resolved (last + count) :: downTo last count := by
  simp [downTo, List.range'_concat]

namespace GameState

/-- This tells what the log has told between two states. -/
def Tells (before after : GameState) (notes : List ChainNote) : Prop :=
  ∃ told, after.log = before.log ++ told ∧ chainNotes told = notes

namespace Tells

variable {before middle after : GameState} {early late : List ChainNote}

theorem refl (state : GameState) : Tells state state [] := ⟨[], by simp, rfl⟩

theorem trans (first : Tells before middle early) (second : Tells middle after late) :
    Tells before after (early ++ late) := by
  obtain ⟨told, same, notes⟩ := first
  obtain ⟨more, sameToo, notesToo⟩ := second
  refine ⟨told ++ more, by rw [sameToo, same, List.append_assoc], ?_⟩
  rw [chainNotes, List.filterMap_append, ← notes, ← notesToo]
  rfl

theorem record (state : GameState) (event : GameEvent) :
    Tells state (state.record event) event.chainNote?.toList := by
  refine ⟨[_], rfl, ?_⟩
  rw [chainNotes, List.filterMap_cons]
  cases noted : event.chainNote? <;> simp

theorem of_quiet {grants : Modifier → Prop} (quiet : Quiet grants before after) :
    Tells before after [] := by
  obtain ⟨told, same, table⟩ := quiet.log
  refine ⟨told, same, List.filterMap_eq_nil_iff.mpr ?_⟩
  intro entry member
  have about := table entry member
  cases event : entry.event <;> simp [event, GameEvent.isTabled] at about <;> rfl

end Tells

/-! One link -/

variable (state : GameState) (catalog : Catalog)

/-- A link that is carried out is told to be resolved. -/
theorem carried_tells (link : ChainLink) :
    Tells state (state.carried catalog link) [.resolved link.number] := by
  have told := Tells.record (state.carryOut catalog link).1
    (.chainLinkResolved link.number link.source (state.carryOut catalog link).2)
  have carried : Tells state (state.carryOut catalog link).1 [] := by
    rcases carryOut_cases state catalog link with deeds | ⟨_, _, _, _, same⟩
    · exact .of_quiet deeds.quiet
    · rw [same]
      exact .record state _
  exact carried.trans told

theorem checkLoss_tells (running : state.outcome = none) :
    Tells state state.checkLoss (ChainNote.endOf state.checkLoss.outcome) := by
  rw [checkLoss]
  split
  · next result _ =>
    rw [endDuel, running]
    exact .record { state with outcome := some result } _
  · rw [running]
    exact .refl state

/-- A link is told to be resolved, and then the end of the duel is told if the link brings it. -/
theorem resolveLink_tells (link : ChainLink) (running : state.outcome = none) :
    Tells state (state.resolveLink catalog link).1
      (.resolved link.number :: ChainNote.endOf (state.resolveLink catalog link).1.outcome) := by
  have finished : Deeds catalog.MayMake (state.carried catalog link) (state.resolved catalog link) :=
    (spent_deeds state catalog link).trans (destroyAllMarked_deeds _ catalog)
  have goesOn : (state.resolved catalog link).outcome = none :=
    (state.resolved_edits catalog link).frame.outcome.trans running
  rw [resolveLink_eq]
  exact ((carried_tells state catalog link).trans (.of_quiet finished.quiet)).trans
    (checkLoss_tells _ goesOn)

/-! All links -/

/-- Nothing is resolved once the duel is over. -/
theorem resolveLinks_ended (catalog : Catalog) (links : Nat) {state : GameState} (resolved : Nat)
    (ended : state.outcome.isSome = true) :
    resolveLinks catalog links state resolved = (state, resolved) := by
  cases links with
  | zero => rfl
  | succ links => rw [resolveLinks, if_pos ended]

variable {state}

/--
The links above some number are resolved, the highest first. While the duel goes on none is left, and
at least one is resolved if there is any.
-/
theorem resolveLinks_tells (links : Nat) (resolved : Nat) (numbered : state.chain.Numbered)
    (count : state.chain.links.length = links) (running : state.outcome = none) :
    ∃ left ≤ links,
      (resolveLinks catalog links state resolved).2 = resolved + (links - left) ∧
      Tells state (resolveLinks catalog links state resolved).1
        (ChainNote.downTo (left + 1) (links - left) ++
          ChainNote.endOf (resolveLinks catalog links state resolved).1.outcome) ∧
      ((resolveLinks catalog links state resolved).1.outcome = none → left = 0) ∧
      (0 < links → left < links) := by
  -- The bound counts the links, so the top one bears it as its number and the rest are numbered below.
  induction links generalizing state resolved with
  | zero =>
    refine ⟨0, Nat.le_refl 0, rfl, ?_, fun _ => rfl, fun some => absurd some (Nat.lt_irrefl 0)⟩
    show Tells state state ([] ++ ChainNote.endOf state.outcome)
    rw [running]
    exact .refl state
  | succ links ih =>
    cases popped : state.chain.pop? with
    | none =>
      rw [Chain.pop?, Option.map_eq_none_iff, Chain.top?, List.getLast?_eq_none_iff] at popped
      simp [popped] at count
    | some taken =>
      obtain ⟨link, chain⟩ := taken
      obtain ⟨stays, number⟩ := numbered.pop popped
      have length := congrArg List.length (Chain.pop?_eq_some popped).1
      rw [List.length_append, List.length_singleton, count] at length
      have few : chain.links.length = links := by omega
      rw [resolveLinks, if_neg (by simp [running]), popped]
      dsimp only
      have course := resolveLink_course { state with chain := chain } catalog link
      have first : Tells state ({ state with chain := chain }.resolveLink catalog link).1 _ :=
        resolveLink_tells { state with chain := chain } catalog link running
      rw [number, few] at first
      generalize ({ state with chain := chain }.resolveLink catalog link).1 = middle at course first ⊢
      cases ended : middle.outcome with
      | some result =>
        -- The duel ended right after this link.
        rw [resolveLinks_ended catalog links (resolved + 1) (by simp [ended])]
        refine ⟨links, Nat.le_succ links, by simp, ?_, by simp [ended], fun _ => Nat.lt_succ_self _⟩
        rw [Nat.add_sub_cancel_left]
        exact first
      | none =>
        have same := congrArg List.length course.links
        rw [List.length_map, List.length_map] at same
        obtain ⟨left, bound, total, told, all, _⟩ :=
          ih (resolved + 1) (stays.of_bare course.links) (same.trans few) ended
        refine ⟨left, Nat.le_succ_of_le bound, by rw [total]; omega, ?_, all,
          fun _ => Nat.lt_succ_of_le bound⟩
        rw [ended] at first
        rw [Nat.succ_sub bound, ChainNote.downTo_succ,
          show left + 1 + (links - left) = links + 1 by omega]
        exact first.trans told

/-- A chain tells its links in falling order and then how many of them were resolved. -/
theorem resolveChain_tells (numbered : state.chain.Numbered) (running : state.outcome = none)
    (linked : state.chain.links ≠ []) :
    ∃ last, 1 ≤ last ∧ last ≤ state.chain.links.length ∧
      ((state.resolveChain catalog).outcome = none → last = 1) ∧
      Tells state (state.resolveChain catalog)
        (ChainNote.downTo last (state.chain.links.length + 1 - last) ++
          ChainNote.endOf (state.resolveChain catalog).outcome ++
          [.finished (state.chain.links.length + 1 - last)]) := by
  have begun : ({ state with chain := state.chain.beginResolving } : GameState).chain.Numbered :=
    numbered.of_bare (by rw [state.chain.beginResolving_links])
  obtain ⟨left, bound, total, told, all, some⟩ :=
    resolveLinks_tells catalog state.chain.beginResolving.links.length 0 begun rfl running
  have length := congrArg List.length state.chain.beginResolving_links
  have closed (ended : GameState) : Tells ended ended.closeWindow [] ∧
      ended.closeWindow.outcome = ended.outcome := by
    rw [closeWindow]
    split
    · exact ⟨.record { ended with window := none } _, rfl⟩
    · exact ⟨.refl ended, rfl⟩
  have finished := Tells.record { (state.drained catalog).1 with
    chain := .idle (state.drained catalog).1.turnPlayer } (.chainResolved (state.drained catalog).2)
  have outcome : (state.resolveChain catalog).outcome = (state.drained catalog).1.outcome := by
    rw [resolveChain_eq]
    exact (closed _).2
  change (state.drained catalog).2 = _ at total
  change Tells state (state.drained catalog).1 (_ ++ ChainNote.endOf (state.drained catalog).1.outcome)
    at told
  rw [length] at bound total told some
  have counted : (state.drained catalog).2 = state.chain.links.length + 1 - (left + 1) := by omega
  rw [counted] at finished
  refine ⟨left + 1, by omega, some (List.length_pos_iff.mpr linked), ?_, ?_⟩
  · intro goesOn
    rw [all (outcome.symm.trans goesOn)]
  · rw [outcome, Nat.add_sub_add_right]
    rw [Nat.add_sub_add_right] at finished
    have whole := (told.trans finished).trans (closed _).1
    rw [List.append_nil] at whole
    rw [resolveChain_eq, counted, Nat.add_sub_add_right]
    exact whole

/-- A pass that resolves the chain is accepted and tells of the links as the chain does. -/
theorem passPriority_resolves {rules : Rules} {player : Seat} {chain : Chain}
    (accepted : state.chain.pass player rules.config.passRule = .ok (.resolve, chain))
    (numbered : state.chain.Numbered) (running : state.outcome = none)
    (linked : state.chain.links ≠ []) :
    ∃ acted last, state.passPriority rules player = .ok acted ∧
      1 ≤ last ∧ last ≤ state.chain.links.length ∧ (acted.outcome = none → last = 1) ∧
      Tells state acted (ChainNote.downTo last (state.chain.links.length + 1 - last) ++
        ChainNote.endOf acted.outcome ++ [.finished (state.chain.links.length + 1 - last)]) := by
  have links := (pass_eq_ok accepted).2.1
  have passed : Tells state ({ state with chain := chain }.record (.priorityPassed player)) [] :=
    .record { state with chain := chain } _
  have stays : ({ state with chain := chain }.record (.priorityPassed player)).chain.Numbered :=
    numbered.of_bare (by rw [← links]; rfl)
  obtain ⟨last, least, most, all, told⟩ := resolveChain_tells rules.catalog stays running
    (show chain.links ≠ [] from links ▸ linked)
  have length : ({ state with chain := chain }.record (.priorityPassed player)).chain.links.length =
      state.chain.links.length := congrArg List.length links
  rw [length] at most told
  refine ⟨_, last, ?_, least, most, all, passed.trans told⟩
  have taken : state.passChain rules player = .ok (({ state with chain := chain }.record
      (.priorityPassed player)).resolveChain rules.catalog) :=
    passChain_eq_ok.mpr ⟨.resolve, chain, accepted, rfl⟩
  rw [passPriority, if_neg (by simpa [Chain.isEmpty] using linked)]
  exact taken

end GameState

namespace DuelSetup

open GameState

variable {setup : DuelSetup} {requests : List Request} {duel : Duel}

/--
In every state of a run, a pass that resolves the chain is served. Its report begins with the links from
the last one down to the first one, or down to the one after which the duel ended, each told once, and
with their number; no link is added meanwhile. While the duel goes on, the links on the chain are as many
as were added and not resolved.
-/
theorem Run.chain_resolves (run : setup.Run requests duel) :
    (∀ player chain,
      duel.state.chain.pass player duel.rules.config.passRule = .ok (.resolve, chain) →
      ∃ acted told report after last,
        duel.state.dispatch duel.rules player .passPriority = .ok acted ∧
        acted.log = duel.state.log ++ told ∧
        duel.serve (.act player .passPriority) = .ok (report, after) ∧ told <+: report.events ∧
        1 ≤ last ∧ last ≤ duel.state.chain.links.length ∧ (acted.outcome = none → last = 1) ∧
        chainNotes told =
          (List.range' last (duel.state.chain.links.length + 1 - last)).reverse.map .resolved ++
            acted.outcome.toList.map .ended ++
            [.finished (duel.state.chain.links.length + 1 - last)]) ∧
    (duel.state.outcome = none →
      duel.state.linksAdded = duel.state.linksResolved + duel.state.chain.links.length) := by
  have accounted := run.accounted
  refine ⟨?_, accounted.balance⟩
  intro player chain accepted
  have waits : duel.state.chain.status = .awaitingResponse := by
    simp only [Chain.pass, ite_error_eq_ok, not_not] at accepted
    exact accepted.1
  have running : duel.state.outcome = none := by
    by_contra ended
    have idle := (run.atRest.finished (Option.isSome_iff_ne_none.mpr ended)).2.1
    simp [idle] at waits
  have orderly := (run.atRest.running running).1
  have linked : duel.state.chain.links ≠ [] := by
    rcases orderly.chained with ⟨_, idle⟩ | ⟨linked, _⟩
    · simp [idle] at waits
    · exact linked
  obtain ⟨acted, last, passed, least, most, all, told, same, notes⟩ :=
    passPriority_resolves accepted accounted.numbered running linked
  have dispatched : duel.state.dispatch duel.rules player .passPriority = .ok acted := passed
  have stepped : duel.state.step duel.rules player .passPriority =
      .ok (acted.handedBack duel.rules.catalog) := step_eq_ok.mpr ⟨running, acted, passed, rfl⟩
  have later : Moves duel.rules (fun _ => True) acted
      ((acted.sweep duel.rules.catalog).settle duel.rules.catalog) := by
    have swept : Moves duel.rules (fun _ => True) acted (acted.sweep duel.rules.catalog) :=
      sweep_moves acted _
    have moved : Moves duel.rules (fun _ => True) duel.state acted :=
      .of_acts (passPriority_acts passed)
    have anchored := run.moves.shifts.anchored setup.withDecks_anchored
    exact swept.trans (settle_moves trivial ((moved.trans swept).shifts.anchored anchored))
  obtain ⟨more, grown⟩ := later.log
  have served : duel.serve (.act player .passPriority) =
      .ok (duel.commit player (acted.handedBack duel.rules.catalog)) := by
    show (duel.state.step duel.rules player .passPriority).map _ = _
    rw [stepped]
    rfl
  have whole : (acted.handedBack duel.rules.catalog).log = duel.state.log ++ (told ++ more) := by
    rw [← List.append_assoc, ← same]
    exact grown.symm
  refine ⟨acted, told, _, _, last, dispatched, same, served, ?_, least, most, all, notes⟩
  show told <+: (acted.handedBack duel.rules.catalog).log.drop duel.state.log.length
  rw [whole, List.drop_left]
  exact List.prefix_append told more

/-- This is a duel in which each player has one monster whose summon is answered by an effect. -/
def beacons : DuelSetup where
  rules := ⟨⟨[⟨⟨1⟩, "Beacon", .monster 1 100 100,
    [{ CardEffect.plain .trigger .one (.act (.gainLife 1) .controller) with
        trigger := some ⟨.summoned, .this, .either, false⟩ },
      .plain .quick .two (.act (.gainLife 1) .controller)], [], none⟩]⟩,
    { DuelConfig.standard with startingHand := 1 }⟩
  decks := .replicate [⟨1⟩]
  seed := 0
  shuffle := false
  firstPlayer := .first

/-- A beacon is summoned, and its quick effect answers the effect that follows the summon. -/
def beaconRequests : List Request :=
  [.act .first (.normalSummon ⟨0⟩ []), .act .second .passPriority,
    .act .first (.activateEffect ⟨0⟩ 1 [] []), .act .second .passPriority]

/-- The answer of a beacon resolves before the effect that it answers. -/
theorem beacons_chain_resolves :
    ∃ duel acted told, beacons.Run beaconRequests duel ∧ duel.state.linksAdded = 2 ∧
      duel.state.dispatch duel.rules .first .passPriority = .ok acted ∧
      acted.log = duel.state.log ++ told ∧
      chainNotes told = [.resolved 2, .resolved 1, .finished 2] := by
  have played : (beacons.play? beaconRequests).any (fun duel =>
      (duel.state.chain.pass .first duel.rules.config.passRule).toOption.any fun done =>
        (duel.state.dispatch duel.rules .first .passPriority).toOption.any fun acted =>
          decide (done.1 = .resolve ∧ duel.state.chain.links.length = 2 ∧
            duel.state.linksResolved = 0 ∧ duel.state.outcome = none ∧ acted.outcome = none)) =
      true := by
    decide +kernel
  obtain ⟨duel, followed, passes⟩ := (Option.any_eq_true _ _).mp played
  obtain ⟨⟨_, chain⟩, accepted, dispatches⟩ := any_toOption_iff.mp passes
  obtain ⟨acted, dispatched, facts⟩ := any_toOption_iff.mp dispatches
  obtain ⟨rfl, two, fresh, running, goesOn⟩ := of_decide_eq_true facts
  have run : beacons.Run beaconRequests duel := .of_play followed
  obtain ⟨resolution, balance⟩ := run.chain_resolves
  obtain ⟨other, told, _, _, last, same, grown, _, _, _, _, all, notes⟩ :=
    resolution .first chain accepted
  obtain rfl := Except.ok.inj (same.symm.trans dispatched)
  refine ⟨duel, other, told, run, ?_, dispatched, grown, ?_⟩
  · rw [balance running, fresh, two]
  · rw [notes, all goesOn, goesOn, two]
    rfl

end DuelSetup

end CardDuel
