import RecordSearch.Proofs.Controller.Construction

/-!
# Who is told that there is nothing to search for

The form shows that something was turned down for want of a query until a search
is begun. One would say that it shows this to the person who has asked in vain, by a
submission or a page turn. But there is a third who asks: a tick serves refreshes
by the same move, and when this finds nothing to search for, it turns itself down
in front of the person, who did nothing.

`verdicts` is what a run has had to say about searching, each kind of it apart. The
mark of the state is decided by the last of these verdicts, whatever lies between, and
a tick is to blame for it exactly if a refresh was asked for since the tick before and
an engaged controller has nothing to search for. Without such a tick only the person's
own attempts are marked.
-/

namespace RecordSearch

theorem Form.touchAll_congr {fs gs : Filters} (h : gs.specs = fs.specs) (form : Form) :
    form.touchAll gs = form.touchAll fs := by
  rw [touchAll, touchAll, Filters.visibleSpecs, Filters.visibleSpecs, h]

namespace Controller

variable {ι : Type} {c d : Controller ι}

/-- What can be said about searching. -/
inductive Verdict
  /-- A search was begun. -/
  | searched
  /-- A submission or a page turn was turned down for want of a query. -/
  | rejected
  /-- A refresh was, and the person is told. -/
  | blamed
deriving DecidableEq

/-- Whether a verdict is that there was nothing to search for. -/
def Verdict.accuses : Verdict → Bool
  | .searched => false
  | .rejected | .blamed => true

/-- Whether an answer turns something down for want of a query. -/
def Reply.rejects : Reply → Bool
  | .submitted (.error (.blankQuery _)) | .turned (.error (.blankQuery _)) => true
  | _ => false

/-- Whether a tick has refreshes to serve and nothing to search for. -/
def blames (c : Controller ι) : Bool :=
  decide (c.phase ≠ .disposed ∧ c.Serves) && !c.canSearch

def Action.isPoll : Action ι → Bool
  | .poll => true
  | _ => false

/-- What an action has to say, if anything. -/
def verdict? (c : Controller ι) (action : Action ι) : Option Verdict :=
  if c.searches.size < (c.step action).searches.size then some .searched
  else if (c.perform action).1.rejects then some .rejected
  else if action.isPoll && c.blames then some .blamed
  else none

/-- What a run has to say, action by action. -/
def verdicts (c : Controller ι) : List (Action ι) → List Verdict
  | [] => []
  | action :: rest => (c.verdict? action).toList ++ verdicts (c.step action) rest

theorem verdicts_concat (c : Controller ι) (actions : List (Action ι)) (action : Action ι) :
    verdicts c (actions ++ [action]) =
      verdicts c actions ++ ((c.run actions).verdict? action).toList := by
  induction actions generalizing c with
  | nil => exact List.append_nil _
  | cons first rest ih =>
      rw [List.cons_append, verdicts, verdicts, ih, List.append_assoc]
      rfl

theorem blames_iff : c.blames = true ↔
    c.phase ≠ .disposed ∧ c.refreshes ≠ 0 ∧ c.engaged = true ∧ c.canSearch = false := by
  rw [blames, Bool.and_eq_true, decide_eq_true_iff, Serves, Bool.not_eq_true', and_assoc,
    and_assoc]

/-! ## A tick -/

/-- The second controller tells the person what the first does. -/
structure Mute (c d : Controller ι) : Prop where
  turnedDown : d.turnedDown = c.turnedDown
  form : d.form = c.form

theorem Mute.trans {e : Controller ι} (h : Mute c d) (h' : Mute d e) : Mute c e :=
  ⟨h'.turnedDown.trans h.turnedDown, h'.form.trans h.form⟩

theorem dropSearch_mute (c : Controller ι) : Mute c c.dropSearch := by
  rw [dropSearch_eq]
  exact ⟨rfl, rfl⟩

theorem syncAddress_mute (c : Controller ι) : Mute c c.syncAddress := by
  rw [syncAddress_eq]
  split
  · exact ⟨rfl, rfl⟩
  · exact ⟨rfl, rfl⟩

theorem collectChoices_mute (c : Controller ι) : Mute c c.collectChoices := by
  rw [collectChoices_eq]
  exact ⟨rfl, rfl⟩

theorem showPage_mute (c : Controller ι) (page : ResultPage ι) : Mute c (c.showPage page) :=
  have hdropped := dropSearch_mute c
  ⟨hdropped.turnedDown, hdropped.form⟩

theorem showFailure_mute (c : Controller ι) (error : SearchError) :
    Mute c (c.showFailure error) :=
  have hdropped := dropSearch_mute c
  ⟨hdropped.turnedDown, hdropped.form⟩

theorem collectResults_mute (c : Controller ι) : Mute c c.collectResults := by
  rw [collectResults]
  split
  · exact ⟨rfl, rfl⟩
  · next flight _ =>
      have hpoll : Mute c { c with searches := (c.searches.poll flight.number).2 } := ⟨rfl, rfl⟩
      dsimp only
      split
      · exact hpoll
      · exact hpoll.trans (showPage_mute _ _)
      · exact hpoll.trans (showFailure_mute _ _)
      · exact hpoll.trans (showFailure_mute _ _)

theorem beginSearch_turnedDown (c : Controller ι) :
    c.beginSearch.2.turnedDown = !c.canSearch := by
  cases hcan : c.canSearch with
  | true => rw [beginSearch_of_canSearch hcan]; rfl
  | false => rw [beginSearch_of_not_canSearch hcan]; rfl

theorem beginSearch_form (c : Controller ι) :
    c.beginSearch.2.form = if c.canSearch then c.form else c.form.touchAll c.filters := by
  cases hcan : c.canSearch with
  | true => rw [beginSearch_of_canSearch hcan]; rfl
  | false => rw [beginSearch_of_not_canSearch hcan]; rfl

/-- All that a tick says is said when the refreshes are served. -/
theorem poll_mute (hlive : c.phase ≠ .disposed) : Mute c.syncAddress.serveRefreshes c.poll := by
  rw [poll, if_neg hlive]
  exact (collectChoices_mute _).trans (collectResults_mute _)

theorem syncAddress_serves (c : Controller ι) : c.syncAddress.Serves ↔ c.Serves := by
  rw [Serves, Serves, (syncAddress_leads c).refreshes, (syncAddress_alike c).engaged]

theorem poll_turnedDown (hlive : c.phase ≠ .disposed) :
    c.poll.turnedDown = if c.Serves then !c.canSearch else c.turnedDown := by
  rw [(poll_mute hlive).turnedDown, serveRefreshes_eq]
  by_cases hserves : c.Serves
  · rw [if_pos ((syncAddress_serves c).2 hserves), if_pos hserves, beginSearch_turnedDown]
    exact congrArg not (canSearch_syncAddress c)
  · rw [if_neg (mt (syncAddress_serves c).1 hserves), if_neg hserves]
    exact (syncAddress_mute c).turnedDown

theorem blames_of_disposed (h : c.phase = .disposed) : c.blames = false := by
  rw [blames, decide_eq_false fun hboth => hboth.1 h, Bool.false_and]

theorem blames_of_serves (hlive : c.phase ≠ .disposed) (h : c.Serves) :
    c.blames = !c.canSearch := by
  rw [blames, decide_eq_true ⟨hlive, h⟩, Bool.true_and]

theorem blames_of_not_serves (h : ¬c.Serves) : c.blames = false := by
  rw [blames, decide_eq_false fun hboth => h hboth.2, Bool.false_and]

/-- A tick marks the controls if it is to blame, and else leaves the form alone. -/
theorem poll_form (c : Controller ι) :
    c.poll.form = if c.blames then c.form.touchAll c.filters else c.form := by
  by_cases hlive : c.phase = .disposed
  · rw [poll_of_disposed hlive, blames_of_disposed hlive, if_neg Bool.false_ne_true]
  · have hsync := syncAddress_mute c
    rw [(poll_mute hlive).form, serveRefreshes_eq]
    by_cases hserves : c.Serves
    · rw [if_pos ((syncAddress_serves c).2 hserves), beginSearch_form,
        blames_of_serves hlive hserves]
      show (if c.syncAddress.canSearch then c.syncAddress.form
        else c.syncAddress.form.touchAll c.syncAddress.filters) = _
      rw [canSearch_syncAddress, hsync.form, Form.touchAll_congr (syncAddress_continues c).specs]
      cases c.canSearch with
      | true => rfl
      | false => rfl
    · rw [if_neg (mt (syncAddress_serves c).1 hserves), blames_of_not_serves hserves,
        if_neg Bool.false_ne_true]
      exact hsync.form

/-- A tick raises the mark if it is to blame. -/
theorem poll_raises (h : c.turnedDown = false) : c.poll.turnedDown = true ↔ c.blames = true := by
  by_cases hlive : c.phase = .disposed
  · rw [poll_of_disposed hlive, blames_of_disposed hlive, h]
  · rw [poll_turnedDown hlive]
    by_cases hserves : c.Serves
    · rw [if_pos hserves, blames_of_serves hlive hserves]
    · rw [if_neg hserves, blames_of_not_serves hserves, h]

/-! ## A step -/

theorem verdict?_of_begun {action : Action ι}
    (h : (c.step action).searches.size = c.searches.size + 1) :
    c.verdict? action = some .searched :=
  if_pos (by omega)

theorem verdict?_of_quiet {action : Action ι}
    (h : (c.step action).searches.size = c.searches.size) :
    c.verdict? action =
      if (c.perform action).1.rejects then some .rejected
      else if action.isPoll && c.blames then some .blamed
      else none :=
  if_neg (by omega)

theorem beginSearch_size (h : c.canSearch = true) :
    c.beginSearch.2.searches.size = c.searches.size + 1 := by
  rw [beginSearch_of_canSearch h]
  exact (Desk.file_size _ _).trans (congrArg (· + 1) (dropSearch_size c))

/-- The mark after an action is what the action says, and else what it was. -/
def Marks (c : Controller ι) (action : Action ι) : Prop :=
  (c.step action).turnedDown = ((c.verdict? action).map Verdict.accuses).getD c.turnedDown

theorem marks_of_begun {action : Action ι}
    (hsize : (c.step action).searches.size = c.searches.size + 1)
    (hturned : (c.step action).turnedDown = false) : Marks c action := by
  rw [Marks, verdict?_of_begun hsize, hturned]
  rfl

theorem marks_of_rejected {action : Action ι}
    (hsize : (c.step action).searches.size = c.searches.size)
    (hrejects : (c.perform action).1.rejects = true)
    (hturned : (c.step action).turnedDown = true) : Marks c action := by
  rw [Marks, verdict?_of_quiet hsize, if_pos hrejects, hturned]
  rfl

theorem marks_of_silent {action : Action ι} (hpoll : action.isPoll = false)
    (hsize : (c.step action).searches.size = c.searches.size)
    (hrejects : (c.perform action).1.rejects = false)
    (hsame : (c.step action).turnedDown = c.turnedDown) : Marks c action := by
  rw [Marks, verdict?_of_quiet hsize, hrejects, hpoll, hsame]
  rfl

/-- An action that comes to a search speaks of it, begun or turned down. -/
theorem marks_of_beginSearch {action : Action ι} {e : Controller ι}
    (hsearches : e.searches = c.searches) (hstep : c.step action = e.beginSearch.2)
    (hrejects : e.canSearch = false → (c.perform action).1.rejects = true) :
    Marks c action := by
  cases hcan : e.canSearch with
  | true =>
      refine marks_of_begun ?_ ?_
      · rw [hstep, beginSearch_size hcan, hsearches]
      · rw [hstep, beginSearch_turnedDown, hcan]
        rfl
  | false =>
      refine marks_of_rejected ?_ (hrejects hcan) ?_
      · rw [hstep, beginSearch_of_not_canSearch hcan]
        exact congrArg Desk.size hsearches
      · rw [hstep, beginSearch_turnedDown, hcan]
        rfl

theorem Sound.submit_marks (h : c.Sound) : Marks c .submit := by
  have hreply : (c.perform .submit).1 = .submitted c.submit.1 := rfl
  have hstep : c.step .submit = c.submit.2 := rfl
  rcases h.submit_cases with ⟨_, heq⟩ | ⟨_, _, heq⟩ | ⟨_, _, heq⟩
  · rw [heq] at hreply hstep
    exact marks_of_silent rfl (by rw [hstep]) (by rw [hreply]; rfl) (by rw [hstep])
  · rw [heq] at hreply hstep
    exact marks_of_rejected (by rw [hstep]; rfl) (by rw [hreply]; rfl) (by rw [hstep]; rfl)
  · rw [heq] at hreply hstep
    refine marks_of_beginSearch (e := c.submitted) rfl hstep fun hcan => ?_
    rw [hreply, beginSearch_of_not_canSearch hcan]
    rfl

theorem Sound.turnPage_marks (h : c.Sound) (turn : PageTurn) : Marks c (.turnPage turn) := by
  have hreply : (c.perform (.turnPage turn)).1 = .turned (c.turnPage turn).1 := rfl
  have hstep : c.step (.turnPage turn) = (c.turnPage turn).2 := rfl
  rcases h.turnPage_cases turn with ⟨_, heq⟩ | ⟨_, _, heq⟩ |
    ⟨_, _, ⟨_, _, heq⟩ | ⟨_, _, heq⟩ | ⟨_, heq⟩⟩
  · rw [heq] at hreply hstep
    exact marks_of_silent rfl (by rw [hstep]) (by rw [hreply]; rfl) (by rw [hstep])
  · rw [heq] at hreply hstep
    exact marks_of_silent rfl (by rw [hstep]) (by rw [hreply]; rfl) (by rw [hstep])
  · rw [heq] at hreply hstep
    exact marks_of_rejected (by rw [hstep]; rfl) (by rw [hreply]; rfl) (by rw [hstep]; rfl)
  · rw [heq] at hreply hstep
    refine marks_of_beginSearch (e := c.paged turn) rfl hstep fun hcan => ?_
    rw [hreply, beginSearch_of_not_canSearch hcan]
    rfl
  · rw [heq] at hreply hstep
    exact marks_of_silent rfl (by rw [hstep]; rfl) (by rw [hreply]; rfl)
      (by rw [hstep]; rfl)

theorem Sound.followAddress_marks (h : c.Sound) : Marks c .followAddress := by
  have hreply : (c.perform .followAddress).1.rejects = false := rfl
  have hstep : c.step .followAddress = c.followAddress.2 := rfl
  rcases h.followAddress_cases with ⟨_, heq⟩ | ⟨_, _, heq⟩ | ⟨_, _, ⟨hcan, heq⟩ | ⟨_, heq⟩⟩
  · rw [heq] at hstep
    exact marks_of_silent rfl (by rw [hstep]) hreply (by rw [hstep])
  · rw [heq] at hstep
    exact marks_of_silent rfl (by rw [hstep]) hreply (by rw [hstep])
  · rw [heq] at hstep
    exact marks_of_beginSearch (e := { c.read with engaged := true }) rfl hstep fun hblank =>
      absurd (hcan.symm.trans hblank) Bool.noConfusion
  · rw [heq] at hstep
    have hsize := dropSearch_size c.read
    have hdropped := dropSearch_mute c.read
    exact marks_of_silent rfl (by rw [hstep]; exact hsize) hreply
      (by rw [hstep]; exact hdropped.turnedDown)

theorem poll_marks (c : Controller ι) : Marks c .poll := by
  by_cases hlive : c.phase = .disposed
  · rw [Marks, step_poll, poll_of_disposed hlive,
      verdict?_of_quiet (by rw [step_poll, poll_of_disposed hlive]), blames_of_disposed hlive]
    rfl
  · have hturned := poll_turnedDown hlive
    rcases (poll_leads hlive).searched with ⟨⟨hasked, hengaged, hcan⟩, _, hsubjects⟩ |
      ⟨hidle, hsubjects⟩
    · refine marks_of_begun ?_ ?_
      · rw [step_poll, ← Desk.length_subjects, hsubjects, List.length_append]
        exact congrArg (· + 1) (Desk.length_subjects _)
      · rw [step_poll, hturned, if_pos ⟨hasked, hengaged⟩, hcan]
        rfl
    · have hsize : (c.step .poll).searches.size = c.searches.size := by
        rw [step_poll, ← Desk.length_subjects, hsubjects]
        exact Desk.length_subjects _
      rw [Marks, verdict?_of_quiet hsize, step_poll, hturned]
      -- Refreshes were served and nothing was begun: this is the tick that accuses.
      by_cases hserves : c.Serves
      · have hcan : c.canSearch = false :=
          eq_false_of_ne_true fun hcan => hidle ⟨hserves.1, hserves.2, hcan⟩
        rw [if_pos hserves, blames_of_serves hlive hserves, hcan]
        rfl
      · rw [if_neg hserves, blames_of_not_serves hserves]
        rfl

/-- An action changes the mark by what it says, and by nothing else. -/
theorem Sound.step_marks (h : c.Sound) (action : Action ι) : Marks c action := by
  cases action with
  | submit => exact h.submit_marks
  | turnPage turn => exact h.turnPage_marks turn
  | followAddress => exact h.followAddress_marks
  | poll => exact poll_marks c
  | takeHandle =>
      exact marks_of_silent rfl (by rw [step_takeHandle, takeHandle_eq]) rfl
        (by rw [step_takeHandle, takeHandle_eq])
  | refresh handle =>
      exact marks_of_silent rfl (by rw [step_refresh, refresh_eq]) rfl
        (by rw [step_refresh, refresh_eq])
  | dispose =>
      have hsize : c.dispose.searches.size = c.searches.size := by
        rw [← Desk.length_subjects, dispose_subjects, Desk.length_subjects]
      exact marks_of_silent rfl hsize rfl (by rw [step_dispose, dispose_eq])
  | complete number outcome =>
      have hsize : (c.searches.complete number outcome).2.size = c.searches.size := by
        rw [Desk.complete_eq_touch, Desk.touch_size]
      exact marks_of_silent rfl hsize rfl rfl
  | abandon number =>
      have hsize : (c.searches.abandon number).2.size = c.searches.size := by
        rw [Desk.abandon_eq_touch, Desk.touch_size]
      exact marks_of_silent rfl hsize rfl rfl
  | edit _ | visit _ | navigate _ | completePreload _ | abandonPreload =>
      exact marks_of_silent rfl rfl rfl rfl

/-! ## A run -/

/-- The last verdict of a run decides. -/
theorem Sound.turnedDown_run (h : c.Sound) (actions : List (Action ι)) :
    (c.run actions).turnedDown =
      ((verdicts c actions).getLast?.map Verdict.accuses).getD c.turnedDown := by
  -- From the end of the run, where a later verdict stands in for the ones before.
  induction actions using List.reverseRecOn with
  | nil => rfl
  | append_singleton actions action ih =>
      have hmarks : ((c.run actions).step action).turnedDown = _ :=
        (h.run actions).step_marks action
      rw [run_concat, hmarks, ih, verdicts_concat]
      cases (c.run actions).verdict? action with
      | none => rw [Option.toList_none, List.append_nil]; rfl
      | some verdict => rw [Option.toList_some, List.getLast?_concat]; rfl

section Run

variable {wiring : Wiring} {specs : List FieldSpec}
  {source : Nat → Query → Treatment (PageAnswer ι)}
  {preloadSource : Nat → Query → Treatment (PageAnswer Choice)} {bar : AddressBar}

/-- The mark stands for the last verdict of the run. It is raised and the controls are
marked by a tick exactly if this finds nothing to search for, when it has to
because of a refresh that was asked for since the tick before. -/
theorem turnedDown_iff_verdict
    (hcreate : create wiring specs (.ofSource source) (.ofSource preloadSource) bar = .ok c)
    (actions : List (Action ι)) :
    ((c.run actions).turnedDown = true ↔ (verdicts c actions).getLast? = some .rejected ∨
      (verdicts c actions).getLast? = some .blamed) ∧
    ((c.run actions).blames = true ↔ (c.run actions).phase ≠ .disposed ∧
      SinceTick AsksRefresh c actions ∧ (c.run actions).engaged = true ∧
      (c.run actions).canSearch = false) ∧
    ((c.run actions).turnedDown = false →
      ((c.run actions).poll.turnedDown = true ↔ (c.run actions).blames = true)) ∧
    (c.run actions).poll.form =
      if (c.run actions).blames then (c.run actions).form.touchAll (c.run actions).filters
      else (c.run actions).form := by
  refine ⟨?_, ?_, poll_raises, poll_form _⟩
  · obtain ⟨filters, hfilters, _, rfl⟩ := create_eq_ok_iff.1 hcreate
    rw [(sound_of_create hcreate).turnedDown_run, (started_built hfilters).shown.2.2]
    cases (verdicts _ actions).getLast? with
    | none => simp
    | some verdict =>
        cases verdict with
        | searched => simp [Verdict.accuses]
        | rejected => simp [Verdict.accuses]
        | blamed => simp [Verdict.accuses]
  · rw [blames_iff]
    refine and_congr_right fun hlive => ?_
    rw [refreshes_iff_sinceTick hcreate hlive]

end Run

/-- A refresh is asked for after a page turn that was turned down. -/
def refusedTwice : List (Action Unit) :=
  [.turnPage .next, .takeHandle, .refresh 0]

/-- The mark is there because of the page turn, and the tick is going to repeat it. -/
theorem turnedDown_iff_verdict_of_refusedTwice :
    ∃ c : Controller Unit,
      create .default standardFields (.ofSource fun _ _ => .hold) (.ofSource fun _ _ => .hold)
        (.ofUrl "/search?issuer_id=1") = .ok c ∧
      verdicts c refusedTwice = [.rejected] ∧ (c.run refusedTwice).turnedDown = true ∧
      (c.run refusedTwice).blames = true ∧ SinceTick AsksRefresh c refusedTwice := by
  obtain ⟨c, hcreate, hcheck⟩ := exists_ok_of_check
    (create .default standardFields (.ofSource fun _ _ => .hold)
      (.ofSource fun _ _ => .hold) (.ofUrl "/search?issuer_id=1"))
    (fun c : Controller Unit => decide (verdicts c refusedTwice = [.rejected] ∧
      (c.run refusedTwice).blames = true))
    (by decide +kernel)
  obtain ⟨hverdicts, hblames⟩ := of_decide_eq_true hcheck
  obtain ⟨hmark, hblame, _, _⟩ := turnedDown_iff_verdict hcreate refusedTwice
  refine ⟨c, hcreate, hverdicts, hmark.2 (.inl ?_), hblames, (hblame.1 hblames).2.1⟩
  rw [hverdicts]
  rfl

/-- A refresh is asked for on a page that shows an issuer and no query. -/
def askedInVain : List (Action Unit) :=
  [.takeHandle, .refresh 0]

/-- Nothing was submitted, no page was turned, and the form accuses the person. -/
theorem accused_of_askedInVain :
    ∃ c : Controller Unit,
      create .default standardFields (.ofSource fun _ _ => .hold) (.ofSource fun _ _ => .hold)
        (.ofUrl "/search?issuer_id=1") = .ok c ∧
      (c.run askedInVain).turnedDown = false ∧ (c.run askedInVain).form.touched = [] ∧
      (c.run (askedInVain ++ [.poll])).turnedDown = true ∧
      (c.run (askedInVain ++ [.poll])).form.touched ≠ [] ∧
      verdicts c (askedInVain ++ [.poll]) = [.blamed] := by
  obtain ⟨c, hcreate, hcheck⟩ := exists_ok_of_check
    (create .default standardFields (.ofSource fun _ _ => .hold)
      (.ofSource fun _ _ => .hold) (.ofUrl "/search?issuer_id=1"))
    (fun c : Controller Unit => decide ((c.run askedInVain).turnedDown = false ∧
      (c.run askedInVain).form.touched = [] ∧
      (c.run (askedInVain ++ [.poll])).turnedDown = true ∧
      (c.run (askedInVain ++ [.poll])).form.touched ≠ [] ∧
      verdicts c (askedInVain ++ [.poll]) = [.blamed]))
    (by decide +kernel)
  exact ⟨c, hcreate, of_decide_eq_true hcheck⟩

end Controller

end RecordSearch
