import RecordSearch.Proofs.Controller.ShownResults

/-!
# What is typed and not submitted

Between two submissions the form belongs to the person in front of it. Two runs
that differ only in what is typed must not differ in anything else that can be
seen: address bar, searches, values, choices, results, errors, replies. The one
way out of the form is a submission, so the two are only asked to hold the same
texts then.

The form is not merely passed on, though. A rejection marks its controls and an
address refills them, in the midst of operations that also search. What makes the
two runs meet is that no operation but the submission looks at the form to decide
anything: `Reformed` says of two controllers that they are the same but for the
form, and every operation takes reformed controllers to reformed ones with the
same answer.
-/

namespace RecordSearch.Controller

variable {ι : Type} {c d e : Controller ι}

/-- The second controller is the first with another form. -/
def Reformed (c d : Controller ι) : Prop :=
  ∃ form, d = { c with form := form }

theorem Reformed.refl (c : Controller ι) : Reformed c c :=
  ⟨c.form, rfl⟩

theorem Reformed.symm (h : Reformed c d) : Reformed d c := by
  obtain ⟨form, rfl⟩ := h
  exact ⟨c.form, rfl⟩

theorem Reformed.trans (h : Reformed c d) (h' : Reformed d e) : Reformed c e := by
  obtain ⟨form, rfl⟩ := h
  obtain ⟨form', rfl⟩ := h'
  exact ⟨form', rfl⟩

/-- Two outcomes of an operation answer the same and leave controllers that are
the same but for the form. -/
def SameOutcome {α : Type} (x y : α × Controller ι) : Prop :=
  x.1 = y.1 ∧ Reformed x.2 y.2

/-! ## Searching -/

theorem dropSearch_of_form (c : Controller ι) (form : Form) :
    ({ c with form } : Controller ι).dropSearch = { c.dropSearch with form } := by
  rw [dropSearch, dropSearch]
  dsimp only
  split
  · rfl
  · rfl

theorem turnDown_reformed (c : Controller ι) (form : Form) :
    Reformed c.turnDown.2 ({ c with form } : Controller ι).turnDown.2 :=
  ⟨form.touchAll c.filters, rfl⟩

theorem Reformed.beginSearch (h : Reformed c d) : SameOutcome c.beginSearch d.beginSearch := by
  obtain ⟨form, rfl⟩ := h
  cases hcan : c.canSearch with
  | true =>
      rw [beginSearch_of_canSearch hcan, beginSearch_of_canSearch (c := { c with form }) hcan,
        dropSearch_of_form c form]
      exact ⟨rfl, form, rfl⟩
  | false =>
      rw [beginSearch_of_not_canSearch hcan,
        beginSearch_of_not_canSearch (c := { c with form }) hcan]
      exact ⟨rfl, turnDown_reformed c form⟩

/-! ## What the person does -/

theorem Sound.submit_sameOutcome (h : c.Sound) (hd : Reformed c d)
    (hcontrols : c.form.controls = d.form.controls) : SameOutcome c.submit d.submit := by
  -- With the same controls, the two forms differ in their marks at most.
  obtain ⟨⟨controls, touched⟩, rfl⟩ := hd
  obtain rfl : c.form.controls = controls := hcontrols
  rcases h.submit_cases with ⟨hdisposed, heq⟩ | ⟨hlive, hblank, heq⟩ | ⟨hlive, hfilled, heq⟩
  · rw [heq, submit, whenLive_of_disposed
      (c := { c with form := ⟨c.form.controls, touched⟩ }) hdisposed]
    exact ⟨rfl, _, rfl⟩
  · rw [heq, submit_of_blank (c := { c with form := ⟨c.form.controls, touched⟩ }) hlive hblank]
    exact ⟨rfl, turnDown_reformed c _⟩
  · rw [heq, submit_of_filled (c := { c with form := ⟨c.form.controls, touched⟩ }) hlive
      (h.isOpen hlive) h.page_known hfilled]
    exact Reformed.beginSearch ⟨_, rfl⟩

theorem Sound.turnPage_sameOutcome (h : c.Sound) (hd : Reformed c d) (turn : PageTurn) :
    SameOutcome (c.turnPage turn) (d.turnPage turn) := by
  obtain ⟨form, rfl⟩ := hd
  have hpaged : Reformed (c.paged turn) (({ c with form } : Controller ι).paged turn) :=
    ⟨form, rfl⟩
  rcases h.turnPage_cases turn with ⟨hdisposed, heq⟩ | ⟨hlive, hstays, heq⟩ |
    ⟨hlive, hmove, ⟨hengaged, hblank, heq⟩ | ⟨hengaged, hcan, heq⟩ | ⟨hidle, heq⟩⟩
  · rw [heq, turnPage, whenLive_of_disposed (c := { c with form }) hdisposed]
    exact ⟨rfl, form, rfl⟩
  · rw [heq, turnPage_at_end (c := { c with form }) hlive hstays]
    exact ⟨rfl, form, rfl⟩
  · rw [heq, turnPage_of_blank (c := { c with form }) hlive hmove hengaged hblank]
    exact ⟨rfl, turnDown_reformed c form⟩
  · rw [heq, turnPage_of_engaged (c := { c with form }) hlive (h.isOpen hlive) h.page_known
      hmove hengaged hcan]
    obtain ⟨hanswer, hafter⟩ := hpaged.beginSearch
    exact ⟨congrArg (Except.map _) hanswer, hafter⟩
  · rw [heq, turnPage_of_idle (c := { c with form }) hlive (h.isOpen hlive) h.page_known
      hmove hidle]
    exact ⟨rfl, hpaged⟩

theorem Sound.followAddress_sameOutcome (h : c.Sound) (hd : Reformed c d) :
    SameOutcome c.followAddress d.followAddress := by
  obtain ⟨form, rfl⟩ := hd
  rcases h.followAddress_cases with ⟨hdisposed, heq⟩ | ⟨hlive, hsame, heq⟩ |
    ⟨hlive, hdiffers, hcases⟩
  · rw [heq, followAddress, whenLive_of_disposed (c := { c with form }) hdisposed]
    exact ⟨rfl, form, rfl⟩
  · rw [heq, followAddress_of_same (c := { c with form }) hlive (h.isOpen hlive) hsame]
    exact ⟨rfl, form, rfl⟩
  · -- Both read the same address, so what they read agrees outside the form again.
    have hread : ({ c with form } : Controller ι).read =
        { c.read with form := form.refill c.read.filters } := rfl
    have hcan : ({ c with form } : Controller ι).read.canSearch = c.read.canSearch := rfl
    rw [followAddress_of_differs (c := { c with form }) hlive (h.isOpen hlive) hdiffers, hcan]
    rcases hcases with ⟨hsearches, heq⟩ | ⟨hquiet, heq⟩
    · rw [heq, if_pos hsearches]
      have hengaged : Reformed { c.read with engaged := true }
          { ({ c with form } : Controller ι).read with engaged := true } :=
        ⟨form.refill c.read.filters, rfl⟩
      exact ⟨rfl, hengaged.beginSearch.2⟩
    · rw [heq, if_neg (ne_true_of_eq_false hquiet), hread,
        dropSearch_of_form c.read (form.refill c.read.filters)]
      exact ⟨rfl, form.refill c.read.filters, rfl⟩

theorem Reformed.takeHandle (h : Reformed c d) : SameOutcome c.takeHandle d.takeHandle := by
  obtain ⟨form, rfl⟩ := h
  rw [Controller.takeHandle, Controller.takeHandle, whenLive, whenLive]
  dsimp only
  split
  · exact ⟨rfl, form, rfl⟩
  · exact ⟨rfl, form, rfl⟩

theorem Reformed.refresh (h : Reformed c d) (handle : Nat) :
    SameOutcome (c.refresh handle) (d.refresh handle) := by
  obtain ⟨form, rfl⟩ := h
  rw [Controller.refresh, Controller.refresh]
  dsimp only
  split
  · split
    · exact ⟨rfl, form, rfl⟩
    · exact ⟨rfl, form, rfl⟩
  · exact ⟨rfl, form, rfl⟩

/-! ## A tick and the end -/

theorem Reformed.syncAddress (h : Reformed c d) : Reformed c.syncAddress d.syncAddress := by
  obtain ⟨form, rfl⟩ := h
  refine ⟨form, (syncAddress_apart c form c.searches).trans ?_⟩
  rw [(syncAddress_alike c).searches]

theorem Reformed.serveRefreshes (h : Reformed c d) :
    Reformed c.serveRefreshes d.serveRefreshes := by
  obtain ⟨form, rfl⟩ := h
  rw [Controller.serveRefreshes, Controller.serveRefreshes]
  dsimp only
  split
  · exact ⟨form, rfl⟩
  · have hserved : Reformed { c with refreshes := 0 } { c with form, refreshes := 0 } :=
      ⟨form, rfl⟩
    exact hserved.beginSearch.2

theorem dropPreload_of_form (c : Controller ι) (form : Form) :
    ({ c with form } : Controller ι).dropPreload = { c.dropPreload with form } := by
  rw [dropPreload, dropPreload]
  dsimp only
  split
  · rfl
  · rfl

theorem collectChoices_of_form (c : Controller ι) (form : Form) :
    ({ c with form } : Controller ι).collectChoices = { c.collectChoices with form } := by
  rw [collectChoices, collectChoices]
  dsimp only
  split
  · rfl
  · next number _ =>
      have hdrop := dropPreload_of_form
        { c with preloads := (c.preloads.poll number).2 } form
      dsimp only at hdrop ⊢
      split
      · rfl
      · rw [hdrop]
      · rw [hdrop]
      · rw [hdrop]

theorem collectResults_of_form (c : Controller ι) (form : Form) :
    ({ c with form } : Controller ι).collectResults = { c.collectResults with form } := by
  rw [collectResults, collectResults]
  dsimp only
  split
  · rfl
  · next flight _ =>
      have hdrop := dropSearch_of_form
        { c with searches := (c.searches.poll flight.number).2 } form
      dsimp only at hdrop ⊢
      split
      · rfl
      · rw [showPage, showPage, hdrop]
        rfl
      · rw [showFailure, showFailure, hdrop]
      · rw [showFailure, showFailure, hdrop]

theorem Reformed.poll (h : Reformed c d) : Reformed c.poll d.poll := by
  have hserved := h.syncAddress.serveRefreshes
  obtain ⟨form, rfl⟩ := h
  rw [Controller.poll, Controller.poll]
  dsimp only
  split
  · exact ⟨form, rfl⟩
  · obtain ⟨form', heq⟩ := hserved
    rw [heq, collectChoices_of_form _ form', collectResults_of_form _ form']
    exact ⟨form', rfl⟩

theorem Reformed.dispose (h : Reformed c d) : Reformed c.dispose d.dispose := by
  obtain ⟨form, rfl⟩ := h
  rw [Controller.dispose, Controller.dispose]
  dsimp only
  split
  · exact ⟨form, rfl⟩
  · rw [dropSearch_of_form c form, dropPreload_of_form _ form]
    exact ⟨form, rfl⟩

/-! ## A step -/

/-- Whether an action is the person's editing of the form. -/
def Action.isEdit : Action ι → Bool
  | .edit _ => true
  | _ => false

/-- Whether an action looks at what is in the form. -/
def Action.isSubmit : Action ι → Bool
  | .submit => true
  | _ => false

theorem step_of_isEdit (c : Controller ι) {action : Action ι} (h : action.isEdit = true) :
    Reformed c (c.step action) := by
  cases action with
  | edit edit => exact ⟨c.form.edit edit, rfl⟩
  | _ => cases h

theorem not_isSubmit_of_isEdit {action : Action ι} (h : action.isEdit = true) :
    action.isSubmit = false := by
  cases action with
  | edit _ => rfl
  | _ => cases h

/-- An action has the same outcome on controllers that are the same but for the
form. Only a submission needs the controls to agree. -/
theorem Sound.perform_sameOutcome (h : c.Sound) (hd : Reformed c d) (action : Action ι)
    (hcontrols : action.isSubmit = true → c.form.controls = d.form.controls) :
    SameOutcome (c.perform action) (d.perform action) := by
  cases action with
  | submit =>
      obtain ⟨hanswer, hafter⟩ := h.submit_sameOutcome hd (hcontrols rfl)
      exact ⟨congrArg Reply.submitted hanswer, hafter⟩
  | turnPage turn =>
      obtain ⟨hanswer, hafter⟩ := h.turnPage_sameOutcome hd turn
      exact ⟨congrArg Reply.turned hanswer, hafter⟩
  | followAddress =>
      obtain ⟨hanswer, hafter⟩ := h.followAddress_sameOutcome hd
      exact ⟨congrArg Reply.routed hanswer, hafter⟩
  | poll => exact ⟨rfl, hd.poll⟩
  | dispose => exact ⟨rfl, hd.dispose⟩
  | takeHandle =>
      obtain ⟨hanswer, hafter⟩ := hd.takeHandle
      exact ⟨congrArg Reply.handle hanswer, hafter⟩
  | refresh handle =>
      obtain ⟨hanswer, hafter⟩ := hd.refresh handle
      exact ⟨congrArg Reply.delivered hanswer, hafter⟩
  | _ =>
      obtain ⟨form, rfl⟩ := hd
      exact ⟨rfl, _, rfl⟩

/-! ## Two runs -/

/-- A controller without its form, which leaves everything else that can be seen of
it. -/
def behindForm (c : Controller ι) : Controller ι :=
  { c with form := .empty }

/-- What each action of a run but the edits replies, and what it leaves behind the
form. -/
def transcript (c : Controller ι) : List (Action ι) → List (Reply × Controller ι)
  | [] => []
  | action :: rest =>
    if action.isEdit then (c.step action).transcript rest
    else ((c.perform action).1, (c.step action).behindForm) :: (c.step action).transcript rest

/-- What is in the controls each time that a run submits them. -/
def submittedControls (c : Controller ι) : List (Action ι) → List (KeyMap String)
  | [] => []
  | action :: rest =>
    if action.isSubmit then c.form.controls :: (c.step action).submittedControls rest
    else (c.step action).submittedControls rest

theorem Reformed.behindForm_eq (h : Reformed c d) : c.behindForm = d.behindForm := by
  obtain ⟨form, rfl⟩ := h
  rfl

theorem transcript_cons_of_isEdit {action : Action ι} (h : action.isEdit = true)
    (c : Controller ι) (rest : List (Action ι)) :
    c.transcript (action :: rest) = (c.step action).transcript rest ∧
      c.submittedControls (action :: rest) = (c.step action).submittedControls rest := by
  rw [transcript, submittedControls, h, not_isSubmit_of_isEdit h]
  exact ⟨rfl, rfl⟩

theorem transcript_cons_of_not_isEdit {action : Action ι} (h : action.isEdit = false)
    (c : Controller ι) (rest : List (Action ι)) :
    c.transcript (action :: rest) =
      ((c.perform action).1, (c.step action).behindForm) :: (c.step action).transcript rest := by
  rw [transcript, h, if_neg Bool.false_ne_true]

theorem submittedControls_cons_inj {action : Action ι} {rest rest' : List (Action ι)}
    (h : c.submittedControls (action :: rest) = d.submittedControls (action :: rest')) :
    (action.isSubmit = true → c.form.controls = d.form.controls) ∧
      (c.step action).submittedControls rest = (d.step action).submittedControls rest' := by
  rw [submittedControls, submittedControls] at h
  cases hsubmit : action.isSubmit with
  | true =>
      rw [hsubmit, if_pos rfl, if_pos rfl] at h
      obtain ⟨hcontrols, hrest⟩ := List.cons.inj h
      exact ⟨fun _ => hcontrols, hrest⟩
  | false =>
      rw [hsubmit] at h
      exact ⟨fun hyes => absurd hyes Bool.false_ne_true, h⟩

/-- Edits alone are not seen. -/
theorem edits_unseen {edits : List (Action ι)} (hedits : ∀ action ∈ edits, action.isEdit = true)
    (c : Controller ι) (after : List (Action ι)) :
    Reformed c (c.run edits) ∧
      c.transcript (edits ++ after) = (c.run edits).transcript after ∧
      c.submittedControls (edits ++ after) = (c.run edits).submittedControls after := by
  induction edits generalizing c with
  | nil => exact ⟨.refl c, rfl, rfl⟩
  | cons edit rest ih =>
      obtain ⟨hedit, hrest⟩ := List.forall_mem_cons.1 hedits
      obtain ⟨hreformed, htranscript, hsubmitted⟩ := ih hrest (c.step edit)
      obtain ⟨hfirst, hfirst'⟩ := transcript_cons_of_isEdit hedit c (rest ++ after)
      exact ⟨(step_of_isEdit c hedit).trans hreformed, hfirst.trans htranscript,
        hfirst'.trans hsubmitted⟩

/-- Runs of the same actions but for edits, from controllers that are the same but
for the form, have the same transcript if they submit the same. -/
theorem Sound.transcript_eq (h : c.Sound) (hd : Reformed c d) {as bs : List (Action ι)}
    (hothers : as.filter (!·.isEdit) = bs.filter (!·.isEdit))
    (hsubmitted : c.submittedControls as = d.submittedControls bs) :
    c.transcript as = d.transcript bs := by
  induction as generalizing c d bs with
  | nil =>
      have hedits : ∀ action ∈ bs, action.isEdit = true := by
        simpa using List.filter_eq_nil_iff.1 hothers.symm
      have hunseen := (edits_unseen hedits d []).2.1
      rw [List.append_nil] at hunseen
      exact hunseen.symm
  | cons action rest ih =>
      cases hedit : action.isEdit with
      | true =>
          obtain ⟨htranscript, hcontrols⟩ := transcript_cons_of_isEdit hedit c rest
          rw [List.filter_cons_of_neg (by simp [hedit])] at hothers
          rw [hcontrols] at hsubmitted
          rw [htranscript]
          exact ih (h.step action) ((step_of_isEdit c hedit).symm.trans hd) hothers hsubmitted
      | false =>
          -- The other run comes to the same action after some edits of its own.
          rw [List.filter_cons_of_pos (by simp [hedit])] at hothers
          obtain ⟨edits, after, rfl, hedits, -, hafter⟩ :=
            List.filter_eq_cons_iff.1 hothers.symm
          have hedits' : ∀ action ∈ edits, action.isEdit = true := by simpa using hedits
          obtain ⟨hreformed, htranscript, hcontrols⟩ :=
            edits_unseen hedits' d (action :: after)
          rw [hcontrols] at hsubmitted
          obtain ⟨hsame, hrest⟩ := submittedControls_cons_inj hsubmitted
          obtain ⟨hreply, hafterwards⟩ :=
            h.perform_sameOutcome (hd.trans hreformed) action hsame
          have hstep : Reformed (c.step action) ((d.run edits).step action) := hafterwards
          rw [htranscript, transcript_cons_of_not_isEdit hedit,
            transcript_cons_of_not_isEdit hedit, hreply, hstep.behindForm_eq]
          exact congrArg _ (ih (h.step action) hstep hafter.symm hrest)

variable {wiring : Wiring} {specs : List FieldSpec} {searches : Desk Query (PageAnswer ι)}
  {preloads : Desk Query (PageAnswer Choice)} {bar : AddressBar}

/-- What is typed into a form is seen nowhere else until it is submitted: two
controllers that are built alike, and are run through the same actions but for
edits, reply the same and leave the same behind their forms at every action, if
their controls hold the same each time they are submitted. -/
theorem transcript_eq_of_create
    (hc : create wiring specs searches preloads bar = .ok c)
    (hd : create wiring specs searches preloads bar = .ok d) {as bs : List (Action ι)}
    (hothers : as.filter (!·.isEdit) = bs.filter (!·.isEdit))
    (hsubmitted : c.submittedControls as = d.submittedControls bs) :
    c.transcript as = d.transcript bs := by
  obtain rfl : c = d := Except.ok.inj (hc.symm.trans hd)
  exact (sound_of_create hc).transcript_eq (.refl c) hothers hsubmitted

/-- A person who makes up their mind while a search fails and the address changes. -/
def hesitant : List (Action Unit) :=
  [.edit (.text "b"), .complete 0 (.error ⟨"502"⟩), .poll,
    .edit (.control categoryField (some "c")), .visit (.parse "q=d"), .followAddress,
    .edit (.text "e"), .edit (.text "f"), .submit, .edit (.text "g"), .turnPage .next, .poll]

/-- A person who knows beforehand. -/
def resolute : List (Action Unit) :=
  [.complete 0 (.error ⟨"502"⟩), .poll, .visit (.parse "q=d"), .followAddress,
    .edit (.text " f "), .submit, .turnPage .next, .poll]

theorem transcript_eq_of_hesitant :
    ∃ c : Controller Unit,
      create .default standardFields (.ofSource fun _ _ => .hold) (.ofSource fun _ _ => .hold)
        (.ofUrl "/search?q=a") = .ok c ∧
      c.submittedControls hesitant = c.submittedControls resolute ∧
      (c.run hesitant).form ≠ (c.run resolute).form ∧
      (c.run hesitant).searches.size = 4 ∧
      c.transcript hesitant = c.transcript resolute := by
  obtain ⟨c, hcreate, hcheck⟩ := exists_ok_of_check
    (create .default standardFields (.ofSource fun _ _ => .hold)
      (.ofSource fun _ _ => .hold) (.ofUrl "/search?q=a"))
    (fun c : Controller Unit => decide (
      c.submittedControls hesitant = c.submittedControls resolute ∧
      (c.run hesitant).form ≠ (c.run resolute).form ∧ (c.run hesitant).searches.size = 4))
    (by decide +kernel)
  obtain ⟨hsubmitted, hforms, hsize⟩ := of_decide_eq_true hcheck
  exact ⟨c, hcreate, hsubmitted, hforms, hsize,
    transcript_eq_of_create hcreate hcreate rfl hsubmitted⟩

end RecordSearch.Controller
