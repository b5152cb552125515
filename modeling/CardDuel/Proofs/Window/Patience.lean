/-
This file shows that nobody is passed over in a response window and nobody is stopped in vain: windows come and
go as their story says, and whoever is asked has something to activate.
-/

import CardDuel.Proofs.Chain.Pace
import CardDuel.Proofs.Legal.Activations
import CardDuel.Proofs.Table.Posture
import CardDuel.Proofs.Continuous.Start
import CardDuel.Proofs.Window.Options
import CardDuel.Proofs.Window.Story

namespace CardDuel

/-- The status of a window depends only on the window and on whether there is a chain. -/
theorem WindowStatus.Holds.same {before after : GameState} {status : WindowStatus}
    (holds : status.Holds before) (window : after.window = before.window)
    (links : after.chain.links = [] ↔ before.chain.links = []) : status.Holds after := by
  cases status with
  | absent => exact window.trans holds
  | asking starter player =>
    obtain ⟨unlinked, asked⟩ := holds
    exact ⟨links.mpr unlinked, window ▸ asked⟩
  | answered =>
    obtain ⟨linked, opened⟩ := holds
    exact ⟨fun unlinked => linked (links.mp unlinked), window ▸ opened⟩

namespace GameState

variable {state next acted : GameState} {catalog : Catalog} {rules : Rules} {player starter : Seat}
  {notes : List WindowNote} {window : ResponseWindow}

/-- This tells that notes are a story of windows, and that the last window stands as the story says. -/
def FitsStory (state : GameState) (catalog : Catalog) (notes : List WindowNote) : Prop :=
  ∃ status, WindowStory catalog notes status ∧ status.Holds state

/-- This tells that the player who is asked in a window has something to activate. -/
def Heeded (state : GameState) (catalog : Catalog) : Prop :=
  ∀ window ∈ state.window, state.hasResponse catalog window.holder = true

/-- This tells that whoever is asked in a window without a chain has something to activate. -/
def Attended (state : GameState) (catalog : Catalog) : Prop :=
  state.outcome = none → state.chain.links = [] → state.Heeded catalog

theorem FitsStory.same {before after : GameState} (fits : before.FitsStory catalog notes)
    (window : after.window = before.window)
    (links : after.chain.links = [] ↔ before.chain.links = []) : after.FitsStory catalog notes := by
  obtain ⟨status, story, holds⟩ := fits
  exact ⟨status, story, holds.same window links⟩

theorem FitsStory.course {before after : GameState} (fits : before.FitsStory catalog notes)
    (course : Course before after) : after.FitsStory catalog notes :=
  fits.same course.window course.links_eq_nil_iff

/-! Asking -/

theorem hasResponse_eq_false (silent : ¬state.hasResponse catalog player = true) :
    state.legalActivations catalog player = [] := by
  simpa [hasResponse] using silent

/-- A player who has nothing to activate declines the window in which the player is asked. -/
theorem unable_declines (unlinked : state.chain.links = []) (opened : state.window = some window)
    (silent : ¬state.hasResponse catalog window.holder = true) :
    (WindowNote.unable window.holder state).Declines catalog window.holder :=
  ⟨rfl, unlinked, by rw [opened, Option.map_some], hasResponse_eq_false silent⟩

/-- The second player is asked, or the window disappears because this player has no answer either. -/
theorem advance_second (passes : Nat)
    (story : WindowStory catalog notes (.asking starter starter.opponent))
    (holds : WindowStatus.Holds state (.asking starter starter.opponent)) :
    (advanceWindow catalog (passes + 1) state).FitsStory catalog
        (notes ++ advanceNotes catalog (passes + 1) state) ∧
      (advanceWindow catalog (passes + 1) state).Heeded catalog := by
  obtain ⟨unlinked, window, opened, holder, passed⟩ := id holds
  rw [if_neg starter.opponent_ne] at passed
  rw [advanceWindow, advanceNotes]
  simp only [opened]
  split
  · next answers =>
    rw [List.append_nil]
    refine ⟨⟨_, story, holds⟩, ?_⟩
    intro other there
    obtain rfl := Option.some.inj (opened.symm.trans there)
    exact answers
  · next silent =>
    have declines := unable_declines unlinked opened silent
    have closes : window.pass window.holder = .ok (.closed, { window with passes := 2 }) := by
      simp [ResponseWindow.pass, passed]
    simp only [closes]
    rw [holder] at declines ⊢
    exact ⟨⟨_, story.closes declines, rfl⟩, fun _ there => by cases there⟩

/-- The first player is asked, or else the second one. -/
theorem advance_first (passes : Nat) (story : WindowStory catalog notes (.asking starter starter))
    (holds : WindowStatus.Holds state (.asking starter starter)) :
    (advanceWindow catalog (passes + 2) state).FitsStory catalog
        (notes ++ advanceNotes catalog (passes + 2) state) ∧
      (advanceWindow catalog (passes + 2) state).Heeded catalog := by
  obtain ⟨unlinked, window, opened, holder, passed⟩ := id holds
  rw [if_pos rfl] at passed
  rw [advanceWindow, advanceNotes]
  simp only [opened]
  split
  · next answers =>
    rw [List.append_nil]
    refine ⟨⟨_, story, holds⟩, ?_⟩
    intro other there
    obtain rfl := Option.some.inj (opened.symm.trans there)
    exact answers
  · next silent =>
    have declines := unable_declines unlinked opened silent
    have hands : window.pass window.holder = .ok (.priorityTo window.holder.opponent,
        { window with passes := 1, holder := window.holder.opponent }) := by
      simp [ResponseWindow.pass, passed]
    simp only [hands]
    rw [holder] at declines ⊢
    rw [List.append_cons]
    refine advance_second passes (story.hands declines) ⟨unlinked, _, rfl, rfl, ?_⟩
    rw [if_neg starter.opponent_ne]

theorem Heeded.record (heeded : state.Heeded catalog) (event : GameEvent) :
    (state.record event).Heeded catalog := by
  intro window there
  rw [(SameOptions.record state event).hasResponse]
  exact heeded window there

theorem Heeded.announceClosing (heeded : state.Heeded catalog) :
    state.announceClosing.Heeded catalog := by
  rw [GameState.announceClosing]
  split
  · exact heeded.record _
  · exact heeded

theorem Heeded.announceWindow (heeded : state.Heeded catalog) :
    state.announceWindow.Heeded catalog := by
  rw [GameState.announceWindow]
  split
  · exact heeded.record _
  · exact heeded

theorem FitsStory.announceClosing (fits : state.FitsStory catalog notes) :
    state.announceClosing.FitsStory catalog notes := by
  rw [GameState.announceClosing]
  split
  · exact fits.same rfl .rfl
  · exact fits

theorem FitsStory.announceWindow (fits : state.FitsStory catalog notes) :
    state.announceWindow.FitsStory catalog notes := by
  rw [GameState.announceWindow]
  split
  · exact fits.same rfl .rfl
  · exact fits

theorem closeWindow_window (state : GameState) : state.closeWindow.window = none := by
  rw [closeWindow]
  split
  · rfl
  · next closed => simpa using closed

/-- An explicit pass hands the window over, or closes it when both players have declined it. -/
theorem passWindow_fits (fits : state.FitsStory catalog notes) (unlinked : state.chain.links = [])
    (opened : state.window = some window)
    (passed : state.passWindow catalog player window = .ok next) :
    next.FitsStory catalog (notes ++ state.passingNotes catalog player window) ∧
      next.Heeded catalog := by
  obtain ⟨rfl, _⟩ := passWindow_eq_ok passed
  obtain ⟨status, story, holds⟩ := fits
  cases status with
  | absent => cases opened.symm.trans holds
  | answered => exact absurd unlinked holds.1
  | asking starter player =>
    obtain ⟨_, _, there, rfl, count⟩ := holds
    obtain rfl := Option.some.inj (opened.symm.trans there)
    rw [passWindow] at passed
    rw [passingNotes]
    rcases window.holder.eq_or_eq_opponent starter with first | second
    · rw [first] at story count
      rw [if_pos rfl] at count
      have hands : window.pass window.holder = .ok (.priorityTo window.holder.opponent,
          { window with passes := 1, holder := window.holder.opponent }) := by
        simp [ResponseWindow.pass, count]
      rw [hands] at passed ⊢
      obtain rfl := Except.ok.inj passed
      rw [List.append_cons]
      have declines : (WindowNote.passed window.holder).Declines catalog starter := first
      have holds : WindowStatus.Holds ({ state with window := some { window with
          passes := 1, holder := window.holder.opponent } }.record (.priorityPassed window.holder))
          (.asking starter starter.opponent) :=
        ⟨unlinked, _, rfl, by rw [first], by rw [if_neg starter.opponent_ne]⟩
      obtain ⟨told, heeded⟩ := advance_second 2 (story.hands declines) holds
      exact ⟨told.announceClosing, heeded.announceClosing⟩
    · rw [second] at story count
      rw [if_neg starter.opponent_ne] at count
      have closes : window.pass window.holder = .ok (.closed, { window with passes := 2 }) := by
        simp [ResponseWindow.pass, count]
      rw [closes] at passed ⊢
      obtain rfl := Except.ok.inj passed
      have gone := closeWindow_window ({ state with window := some { window with passes := 2 } }.record
        (.priorityPassed window.holder))
      have declines : (WindowNote.passed window.holder).Declines catalog starter.opponent := second
      refine ⟨⟨_, story.closes declines, gone⟩, ?_⟩
      intro _ there
      cases gone.symm.trans there

/-! What happens by itself -/

/-- A window opens where there was none, and the player of the turn is asked first. -/
theorem openWindow_fits (story : WindowStory catalog notes .absent) :
    (state.openWindow catalog).FitsStory catalog (notes ++ state.openingNotes catalog) ∧
      ((state.openWindow catalog).chain.links = [] → (state.openWindow catalog).Heeded catalog) := by
  have asked : (state.gatherTriggers catalog).window.map ResponseWindow.holder =
      some (state.gatherTriggers catalog).turnPlayer := rfl
  have opens := story.opens asked
  rw [openWindow, openingNotes, List.append_cons]
  split
  · next empty =>
    have unlinked : (state.gatherTriggers catalog).chain.links = [] := by
      simpa [Chain.isEmpty] using empty
    obtain ⟨told, heeded⟩ := advance_first 1 opens ⟨unlinked, _, rfl, rfl, by rw [if_pos rfl]; rfl⟩
    exact ⟨told.announceWindow, fun _ => heeded.announceWindow⟩
  · next nonempty =>
    have linked : (state.gatherTriggers catalog).chain.links ≠ [] := by
      simpa [Chain.isEmpty] using nonempty
    have told : (state.gatherTriggers catalog).FitsStory catalog (_ ++ [.answered]) :=
      ⟨_, opens.answers, linked, rfl⟩
    refine ⟨told.announceWindow, ?_⟩
    intro unlinked
    rw [links_announceWindow] at unlinked
    exact absurd unlinked linked

/-- Where no window is open the story tells of none. -/
theorem FitsStory.absent (fits : state.FitsStory catalog notes) (closed : state.window = none) :
    WindowStory catalog notes .absent := by
  obtain ⟨status, story, holds⟩ := fits
  cases status with
  | absent => exact story
  | asking starter player =>
    obtain ⟨_, window, opened, _⟩ := holds
    cases opened.symm.trans closed
  | answered =>
    obtain ⟨_, opened⟩ := holds
    simp [closed] at opened

/-- What happens by itself happens as the story says, and nobody is stopped in vain. -/
theorem settleStep?_fits (fits : state.FitsStory catalog notes)
    (taken : state.settleStep? catalog = some next) :
    next.FitsStory catalog
        (notes ++ if state.pendingEvents.isEmpty then [] else state.openingNotes catalog) ∧
      next.Attended catalog := by
  obtain ⟨still, ⟨waiting, rfl⟩ | ⟨quiet, _, rfl⟩⟩ := settleStep?_eq_some taken
  · obtain ⟨told, heeded⟩ := openWindow_fits (fits.absent (canPass_eq_false_iff.mp still).2)
    rw [if_neg (by simpa using waiting)]
    exact ⟨told, fun _ => heeded⟩
  · have course := (state.resolveAttack_course catalog).1
    have closed := course.window.trans (canPass_eq_false_iff.mp still).2
    rw [if_pos (by simpa using quiet), List.append_nil]
    exact ⟨fits.course course, fun _ _ _ there => by cases closed.symm.trans there⟩

/-- While a state settles, windows come and go as their story says, and nobody is stopped in vain. -/
theorem settleWithin_fits (steps : Nat) {state : GameState} {notes : List WindowNote}
    (fits : state.FitsStory catalog notes) (attended : state.Attended catalog) :
    (settleWithin catalog steps state).FitsStory catalog
        (notes ++ settlingNotes catalog steps state) ∧
      (settleWithin catalog steps state).Attended catalog := by
  have ended (state : GameState) {notes : List WindowNote} (fits : state.FitsStory catalog notes) :
      state.clearWaiting.FitsStory catalog (notes ++ [.ended]) ∧ state.clearWaiting.Attended catalog := by
    obtain ⟨status, story, _⟩ := fits
    exact ⟨⟨_, story.ends, rfl⟩, fun _ _ _ there => by cases there⟩
  induction steps generalizing state notes with
  | zero =>
    rw [settleWithin, settlingNotes]
    split
    · exact ended state fits
    · rw [List.append_nil]
      exact ⟨fits, attended⟩
  | succ steps ih =>
    rw [settleWithin, settlingNotes]
    split
    · exact ended state fits
    · cases taken : state.settleStep? catalog with
      | none =>
        rw [List.append_nil]
        exact ⟨fits, attended⟩
      | some next =>
        obtain ⟨told, heeded⟩ := settleStep?_fits fits taken
        simp only
        rw [← List.append_assoc]
        exact ih told heeded

/-! Actions -/

/-- This is what an action does to a window, with the notes of it. -/
inductive WindowMove (state : GameState) (rules : Rules) (player : Seat) :
    List WindowNote → GameState → Prop where
  /-- No window was open, and none is. -/
  | elsewhere {acted : GameState} (closed : state.window = none) (still : acted.window = none) :
      WindowMove state rules player [] acted
  /-- The chain under a window goes on. -/
  | onward {acted : GameState} (linked : state.chain.links ≠ []) (goesOn : acted.chain.links ≠ [])
      (opened : state.window.isSome = true) (stays : acted.window.isSome = true) :
      WindowMove state rules player [] acted
  /-- The first link of a chain comes under a window. -/
  | answers {acted : GameState} (unlinked : state.chain.links = []) (linked : acted.chain.links ≠ [])
      (opened : state.window.isSome = true) (stays : acted.window.isSome = true) :
      WindowMove state rules player [.answered] acted
  /-- The chain under a window resolves. -/
  | resolves {acted : GameState} (linked : state.chain.links ≠ [])
      (opened : state.window.isSome = true) (closed : acted.window = none) :
      WindowMove state rules player [.resolved] acted
  /-- A player passes in a window without a chain. -/
  | passes {acted : GameState} {window : ResponseWindow} (unlinked : state.chain.links = [])
      (opened : state.window = some window)
      (passed : state.passWindow rules.catalog player window = .ok acted) :
      WindowMove state rules player (state.passingNotes rules.catalog player window) acted
  /-- A player gives up. -/
  | forfeits (result : GameResult) : WindowMove state rules player [] (state.endDuel result)

theorem startTurn_window (state : GameState) (rules : Rules) :
    (state.startTurn rules).window = state.window := by
  have begun : ((state.drawn rules).sweep rules.catalog).window =
      ((state.passTurn state.nextPlayer).enterPhase .draw).window :=
    ((drawn_frame state rules).toCourse.trans (sweep_course (state.drawn rules) rules.catalog)).window
  rw [startTurn_eq]
  generalize (state.drawn rules).sweep rules.catalog = swept at begun ⊢
  split
  · exact begun
  · exact begun

theorem endTurn_window (ended : state.endTurn rules = .ok next) : next.window = state.window := by
  obtain ⟨_, rfl⟩ := (endTurn_eq_ok state rules).mp ended
  have wound := (wound_frame state rules).toCourse.trans
    (sweep_course (state.wound rules) rules.catalog)
  split
  · exact wound.window
  · exact (startTurn_window _ rules).trans wound.window

theorem activate_window {card : InstanceId} {index : Nat} {targets paid : List InstanceId}
    (activated : state.activate catalog player card index targets paid = .ok next) :
    next.chain.links ≠ [] ∧ next.window.isSome = state.window.isSome := by
  obtain ⟨_, _, _, placed, places, payed, pays, source, _, _, pushed, rfl⟩ :=
    activate_eq_ok.mp activated
  obtain ⟨_, rfl⟩ := pushLink_eq_ok.mp pushed
  have before := ((Frame.record state (.effectActivated card index player)).trans
    (applyChanges_edits places).frame).trans (applyChanges_edits pays).frame
  constructor
  · intro unlinked
    have empty := (sweep_course _ catalog).links_eq_nil_iff.mp unlinked
    simp [linked, GameState.record] at empty
  · rw [(sweep_course _ catalog).window, ← before.window]
    exact Option.isSome_map

theorem resolveChain_window (state : GameState) (catalog : Catalog) :
    (state.resolveChain catalog).window = none := by
  rw [resolveChain_eq]
  exact closeWindow_window _

/-- An action while no window is open, which opens none. -/
theorem WindowMove.of_closed {action : Action} (closed : state.window = none)
    (same : acted.window = state.window) :
    WindowMove state rules player (state.actionNotes rules player action) acted := by
  have silent : state.actionNotes rules player action = [] := by
    rw [actionNotes.eq_def, closed]
  rw [silent]
  exact .elsewhere closed (same.trans closed)

theorem passChain_windowMove (nonempty : ¬state.chain.isEmpty = true)
    (passed : state.passChain rules player = .ok acted) :
    WindowMove state rules player (state.actionNotes rules player .passPriority) acted := by
  obtain ⟨outcome, chain, accepted, rfl⟩ := passChain_eq_ok.mp passed
  obtain ⟨_, links, _⟩ := pass_eq_ok accepted
  have linked : state.chain.links ≠ [] := by simpa [Chain.isEmpty] using nonempty
  cases opened : state.window with
  | none =>
    refine .of_closed opened ?_
    split
    · exact (resolveChain_window _ _).trans opened.symm
    · exact opened.symm
  | some window =>
    have known : state.window.isSome = true := by rw [opened]; rfl
    cases outcome with
    | resolve =>
      have note : state.actionNotes rules player .passPriority = [.resolved] := by
        rw [actionNotes.eq_def, opened]
        simp only [if_neg nonempty, accepted]
      rw [note, if_pos rfl]
      exact .resolves linked known (resolveChain_window _ _)
    | priorityTo seat =>
      have note : state.actionNotes rules player .passPriority = [] := by
        rw [actionNotes.eq_def, opened]
        simp only [if_neg nonempty, accepted]
      rw [note, if_neg (by simp)]
      exact .onward linked (fun empty => linked (links.symm.trans empty)) known rfl

theorem passPriority_windowMove (passed : state.passPriority rules player = .ok acted) :
    WindowMove state rules player (state.actionNotes rules player .passPriority) acted := by
  rw [passPriority.eq_def] at passed
  split at passed
  · next empty =>
    split at passed
    · next window opened =>
      have note : state.actionNotes rules player .passPriority =
          state.passingNotes rules.catalog player window := by
        rw [actionNotes.eq_def, opened]
        simp only [if_pos empty]
      rw [note]
      exact .passes (by simpa [Chain.isEmpty] using empty) opened passed
    · cases passed
  · next nonempty => exact passChain_windowMove nonempty passed

theorem activate_windowMove {card : InstanceId} {index : Nat} {targets paid : List InstanceId}
    (activated : state.activate rules.catalog player card index targets paid = .ok acted) :
    WindowMove state rules player
      (state.actionNotes rules player (.activateEffect card index targets paid)) acted := by
  obtain ⟨linked, stays⟩ := activate_window activated
  cases opened : state.window with
  | none =>
    rw [opened, Option.isSome_none, Option.isSome_eq_false_iff, Option.isNone_iff_eq_none] at stays
    exact .of_closed opened (stays.trans opened.symm)
  | some window =>
    have known : state.window.isSome = true := by rw [opened]; rfl
    by_cases empty : state.chain.isEmpty = true
    · have note : state.actionNotes rules player (.activateEffect card index targets paid) =
          [.answered] := by
        rw [actionNotes.eq_def, opened]
        simp only [if_pos empty]
      rw [note]
      exact .answers (by simpa [Chain.isEmpty] using empty) linked known (stays.trans known)
    · have note : state.actionNotes rules player (.activateEffect card index targets paid) = [] := by
        rw [actionNotes.eq_def, opened]
        simp only [if_neg empty]
      rw [note]
      exact .onward (by simpa [Chain.isEmpty] using empty) linked known (stays.trans known)

/-- Every action does one of these things to a window, and its notes tell which. -/
theorem dispatch_windowMove {action : Action}
    (dispatched : state.dispatch rules player action = .ok acted) :
    WindowMove state rules player (state.actionNotes rules player action) acted := by
  have closed (own : state.MayAct player) : state.window = none := (isOpen_iff.mp own.quiet).2.1
  cases action with
  | forfeit =>
    obtain rfl := Except.ok.inj dispatched
    have silent : state.actionNotes rules player .forfeit = [] := by
      rw [actionNotes.eq_def]
      cases state.window <;> rfl
    rw [silent]
    exact .forfeits _
  | passPriority => exact passPriority_windowMove dispatched
  | activateEffect card index targets paid =>
    exact activate_windowMove (ite_error_eq_ok.mp dispatched).2
  | declareAttack attacker target =>
    obtain ⟨own, _, _, _, _, rfl⟩ := declareAttack_eq_ok.mp dispatched
    exact .of_closed (closed own) rfl
  | normalSummon card tributes =>
    exact .of_closed (closed (normalSummon_eq_ok.mp dispatched).1)
      (normalSummon_frame dispatched).window
  | setCard card tributes =>
    have own : state.MayAct player := by
      obtain ⟨_, _, ⟨_, summoned⟩ | ⟨_, own, _⟩⟩ := setCard_eq_ok.mp dispatched
      · exact (normalSummon_eq_ok.mp summoned).1
      · exact own
    exact .of_closed (closed own) (setCard_frame dispatched).window
  | specialSummon card =>
    exact .of_closed (closed (specialSummon_eq_ok.mp dispatched).1)
      (specialSummon_frame dispatched).window
  | changePosition card =>
    exact .of_closed (closed (changePosition_eq_ok.mp dispatched).1)
      (changePosition_frame dispatched).window
  | enterBattlePhase =>
    obtain ⟨_, opened, entered⟩ := bind_eq_ok.mp dispatched
    obtain ⟨_, _, rfl⟩ := enterBattlePhase_eq_ok.mp entered
    exact .of_closed (closed (openTurn_eq_ok.mp opened)) rfl
  | enterMainPhase2 =>
    obtain ⟨_, opened, entered⟩ := bind_eq_ok.mp dispatched
    obtain ⟨_, rfl⟩ := enterMainPhase2_eq_ok.mp entered
    exact .of_closed (closed (openTurn_eq_ok.mp opened)) rfl
  | endTurn =>
    obtain ⟨_, opened, ended⟩ := bind_eq_ok.mp dispatched
    exact .of_closed (closed (openTurn_eq_ok.mp opened)) (endTurn_window ended)

/-- Windows come and go with an action as their story says. -/
theorem WindowMove.fits {more : List WindowNote} (move : WindowMove state rules player more acted)
    (fits : state.FitsStory rules.catalog notes) :
    acted.FitsStory rules.catalog (notes ++ more) := by
  cases move with
  | passes unlinked opened passed => exact (passWindow_fits fits unlinked opened passed).1
  | forfeits result =>
    rw [List.append_nil]
    exact fits.course (state.endDuel_course result)
  | elsewhere closed still =>
    rw [List.append_nil]
    exact ⟨_, fits.absent closed, still⟩
  | onward linked goesOn opened stays =>
    rw [List.append_nil]
    obtain ⟨status, story, holds⟩ := fits
    cases status with
    | absent => simp [show state.window = none from holds] at opened
    | asking starter player => exact absurd holds.1 linked
    | answered => exact ⟨_, story, goesOn, stays⟩
  | answers unlinked linked opened stays =>
    obtain ⟨status, story, holds⟩ := fits
    cases status with
    | absent => simp [show state.window = none from holds] at opened
    | asking starter player => exact ⟨_, story.answers, linked, stays⟩
    | answered => exact absurd unlinked holds.1
  | resolves linked opened closed =>
    obtain ⟨status, story, holds⟩ := fits
    cases status with
    | absent => simp [show state.window = none from holds] at opened
    | asking starter player => exact absurd holds.1 linked
    | answered => exact ⟨_, story.resolves, closed⟩

/-- A pass in a window touches nothing on which lasting changes depend. -/
theorem Fresh.passWindow (fresh : state.Fresh catalog)
    (passed : state.passWindow catalog player window = .ok acted) :
    acted.Fresh catalog ∧ acted.cards = state.cards := by
  obtain ⟨_, remaining, _, rfl | rfl⟩ := passWindow_eq_ok passed
  · rw [closeWindow]
    split
    · exact ⟨fresh.same rfl rfl rfl rfl rfl, rfl⟩
    · exact ⟨fresh.same rfl rfl rfl rfl rfl, rfl⟩
  · obtain ⟨left, _, moved⟩ := advanceWindow_eq catalog maxPasses
      ({ state with window := some remaining }.record (.priorityPassed player))
    rw [moved, announceClosing]
    split
    · exact ⟨fresh.same rfl rfl rfl rfl rfl, rfl⟩
    · exact ⟨fresh.same rfl rfl rfl rfl rfl, rfl⟩

/-- After an action and a sweep nobody is stopped in vain. -/
theorem WindowMove.attended {more : List WindowNote} (move : WindowMove state rules player more acted)
    (fits : state.FitsStory rules.catalog notes) (running : state.outcome = none)
    (cached : state.Cached rules.catalog) (unmarked : state.Unmarked) :
    (acted.sweep rules.catalog).Attended rules.catalog := by
  intro goesOn free window there
  have swept := sweep_course acted rules.catalog
  rw [swept.window] at there
  rw [swept.links_eq_nil_iff] at free
  have same : acted.outcome = none := by
    rw [sweep_outcome, Option.or_eq_none_iff] at goesOn
    exact goesOn.1
  cases move with
  | elsewhere closed still => cases still.symm.trans there
  | onward linked goesOn opened stays => exact absurd free goesOn
  | answers unlinked linked opened stays => exact absurd free linked
  | resolves linked opened closed => cases closed.symm.trans there
  | forfeits result => simp [endDuel, running, GameState.record] at same
  | passes unlinked opened passed =>
    have fresh : state.Fresh rules.catalog := (cached running).resolve_right fun unanswered => by
      obtain ⟨link, member, _⟩ := unanswered.paid
      simp [unlinked] at member
    obtain ⟨stillFresh, cards⟩ := fresh.passWindow passed
    have options := stillFresh.sweep_sameOptions (unmarked.of_cards cards) goesOn
    rw [options.hasResponse]
    exact (passWindow_fits fits unlinked opened passed).2 window there

/-- A whole step lets windows come and go as their story says, and nobody is stopped in vain. -/
theorem step_fits {action : Action} (stepped : state.step rules player action = .ok next)
    (fits : state.FitsStory rules.catalog notes) (cached : state.Cached rules.catalog)
    (unmarked : state.Unmarked) :
    next.FitsStory rules.catalog (notes ++ state.stepNotes rules player action) ∧
      next.Attended rules.catalog := by
  obtain ⟨running, acted, dispatched, rfl⟩ := step_eq_ok.mp stepped
  have move := dispatch_windowMove dispatched
  obtain ⟨told, heeded⟩ := settleWithin_fits maxSettleSteps
    ((move.fits fits).course (sweep_course acted rules.catalog))
    (move.attended fits running cached unmarked)
  rw [stepNotes, dispatched, handedBack, settle]
  simp only
  rw [← List.append_assoc]
  generalize settleWithin rules.catalog maxSettleSteps (acted.sweep rules.catalog) = settled at told heeded ⊢
  have counted : SameOptions settled { settled with version := settled.version + 1 } :=
    ⟨rfl, rfl, rfl, rfl, rfl, rfl, rfl, rfl⟩
  refine ⟨told.same rfl .rfl, ?_⟩
  intro goesOn unlinked window there
  rw [counted.hasResponse]
  exact heeded goesOn unlinked window there

end GameState

/-! Runs -/

/-- A request that is served is one step, which is noted. -/
theorem Duel.windowNotes_eq {duel after : Duel} {request : Request} {report : StepReport}
    (served : duel.serve request = .ok (report, after)) :
    ∃ player action, duel.state.step duel.rules player action = .ok after.state ∧
      duel.windowNotes request = duel.state.stepNotes duel.rules player action := by
  cases request with
  | act player action => exact ⟨player, action, (perform_eq_ok served).1, rfl⟩
  | timeout player =>
    have timed := (forceTimeout_eq_ok served).1
    simp only [GameState.timeout, bind_eq_ok] at timed
    obtain ⟨_, _, action, given, stepped⟩ := timed
    refine ⟨player, action, stepped, ?_⟩
    rw [windowNotes, given]

namespace DuelSetup

open GameState

variable {setup : DuelSetup} {requests : List Request} {duel : Duel} {notes : List WindowNote}

/-- Every run can be noted. -/
theorem Run.noted (run : setup.Run requests duel) : ∃ notes, setup.Noted requests duel notes := by
  induction run with
  | start built => exact ⟨_, .start built⟩
  | next _ served ih =>
    obtain ⟨notes, noted⟩ := ih
    exact ⟨_, noted.next served⟩

theorem Noted.run (noted : setup.Noted requests duel notes) : setup.Run requests duel := by
  induction noted with
  | start built => exact .start built
  | next _ served ih => exact ih.next served

/-- In the first turn, windows come and go as their story says, and nobody is stopped in vain. -/
theorem build_fits (built : setup.build = .ok duel) :
    duel.state.FitsStory setup.rules.catalog setup.firstNotes ∧
      duel.state.Attended setup.rules.catalog := by
  obtain ⟨_, _, _, dealt, hands, rfl⟩ := build_eq_ok.mp built
  have closed : (dealt.startTurn setup.rules).window = none :=
    (startTurn_window dealt setup.rules).trans
      (setup.withDecks_frame.trans (dealHands_edits hands).frame).window
  rw [firstNotes, hands]
  have told : (dealt.startTurn setup.rules).FitsStory setup.rules.catalog [] := ⟨_, .none, closed⟩
  have fits := settleWithin_fits maxSettleSteps told fun _ _ _ there => by cases closed.symm.trans there
  rw [List.nil_append] at fits
  exact fits

theorem Noted.fits (noted : setup.Noted requests duel notes) :
    duel.state.FitsStory setup.rules.catalog notes ∧ duel.state.Attended setup.rules.catalog := by
  induction noted with
  | start built => exact build_fits built
  | next earlier served ih =>
    obtain ⟨player, action, stepped, noted⟩ := Duel.windowNotes_eq served
    have run := earlier.run
    rw [run.rules] at stepped noted
    rw [noted]
    exact step_fits stepped ih.1 run.cached run.unmarked

/--
While the duel goes on, whoever is asked in a window without a chain has an effect to activate. Over a run,
windows come and go as their story says, and the last one stands as the state shows: a window without a chain
disappears only after the player whose turn it was as it opened, and then the other player, have passed in it,
or had nothing to activate at the moment in which they were asked.
-/
theorem Run.windows_wait (run : setup.Run requests duel) :
    (duel.state.outcome = none → duel.state.chain.links = [] → ∀ window ∈ duel.state.window,
      ∃ card index targets cost,
        Action.activateEffect card index targets cost ∈ duel.legalActions window.holder) ∧
    ∃ notes status, setup.Noted requests duel notes ∧
      WindowStory setup.rules.catalog notes status ∧ status.Holds duel.state ∧
      ∀ early late, notes = early ++ .closed :: late →
        ∃ before moment first second, early = before ++ [.opened moment, first, second] ∧
          first.Declines setup.rules.catalog moment.turnPlayer ∧
          second.Declines setup.rules.catalog moment.turnPlayer.opponent := by
  obtain ⟨notes, noted⟩ := run.noted
  obtain ⟨⟨status, story, holds⟩, attended⟩ := noted.fits
  refine ⟨?_, notes, status, noted, story, holds, fun _ _ => story.before_closed⟩
  intro running unlinked window there
  have answers := attended running unlinked window there
  rw [hasResponse, Bool.not_eq_true', List.isEmpty_eq_false_iff_exists_mem] at answers
  obtain ⟨action, listed⟩ := answers
  obtain ⟨card, index, targets, cost, rfl⟩ := legalActivations_form listed
  have asked : duel.state.priorityHolder = window.holder := by
    rw [priorityHolder, Chain.isEmpty, unlinked, there]
    rfl
  refine ⟨card, index, targets, cost, ?_⟩
  rw [Duel.legalActions, legalActions, run.rules, if_neg (by simp [running, asked])]
  exact List.mem_append_left _ (List.mem_append_right _ listed)

/-- The player who has summoned a smith is asked first, and can use the quick effect of the smith. -/
theorem smiths_wait :
    ∃ duel, smiths.Run [.act .first (.normalSummon ⟨0⟩ [])] duel ∧
      duel.state.window.map ResponseWindow.holder = some .first ∧
      (∃ card index targets cost,
        Action.activateEffect card index targets cost ∈ duel.legalActions .first) ∧
      ∃ notes, smiths.Noted [.act .first (.normalSummon ⟨0⟩ [])] duel notes ∧
        WindowStory smiths.rules.catalog notes (.asking .first .first) := by
  have played : (smiths.play? [.act .first (.normalSummon ⟨0⟩ [])]).any (fun duel =>
      decide (duel.state.outcome = none ∧ duel.state.chain.links = []) &&
        duel.state.window.any fun window =>
          decide (window.holder = .first ∧ window.passes = 0)) = true := by
    decide +kernel
  obtain ⟨duel, followed, facts⟩ := (Option.any_eq_true _ _).mp played
  obtain ⟨calm, opened⟩ := Bool.and_eq_true_iff.mp facts
  obtain ⟨running, unlinked⟩ := of_decide_eq_true calm
  obtain ⟨window, there, facts⟩ := (Option.any_eq_true _ _).mp opened
  obtain ⟨holder, fresh⟩ := of_decide_eq_true facts
  have run : smiths.Run [.act .first (.normalSummon ⟨0⟩ [])] duel := .of_play followed
  obtain ⟨answers, notes, status, noted, story, holds, _⟩ := run.windows_wait
  have asks := answers running unlinked window there
  rw [holder] at asks
  refine ⟨duel, run, by rw [there, ← holder]; rfl, asks, notes, noted, ?_⟩
  cases status with
  | absent => cases there.symm.trans holds
  | answered => exact absurd unlinked holds.1
  | asking starter player =>
    obtain ⟨_, _, thereToo, rfl, count⟩ := holds
    obtain rfl := Option.some.inj (there.symm.trans thereToo)
    rw [holder] at story count
    obtain rfl : Seat.first = starter := by
      by_contra other
      rw [if_neg other, fresh] at count
      cases count
    exact story

end DuelSetup

end CardDuel
