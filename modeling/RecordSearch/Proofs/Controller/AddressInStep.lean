import RecordSearch.Proofs.Controller.Sound

/-!
# Address and values in step

Three things move at different times: the values, the bar, and the parameters
that the controller believes the bar to show. To say when they agree one has to
remember more than the controller does, namely which values were in effect when
it last read its bar or wrote to it, and which were when it last compared the
two. `Watched` remembers both beside the controller.

The belief is what a tick compares with. It is renewed by a tick and by a
reading that changes values, but not by a reading that changes none, although
the bar may have been brought elsewhere before that reading. So there are runs
after which a tick takes the values to be shown and the bar shows others. The
theorem about ticks names exactly these.

Between a submission and the next tick the bar still shows the values of
before. A reading in between therefore brings these back, even if the bar shows
nothing but what the controller wrote itself.
-/

namespace RecordSearch.Controller

variable {ι : Type}

/-- Reading the bar would leave every value in effect as it is. -/
def ShowsValues (c : Controller ι) : Prop :=
  (c.filters.readParameters c.addressBar.current .address).2.effectives = c.filters.effectives

instance (c : Controller ι) : Decidable c.ShowsValues :=
  inferInstanceAs (Decidable (_ = _))

/-- Following the address comes to nothing that anyone can see. -/
structure Unnoticed (c : Controller ι) : Prop where
  answer : c.followAddress.1 = .ok false
  effectives : c.followAddress.2.filters.effectives = c.filters.effectives
  form : c.followAddress.2.form = c.form
  flight : c.followAddress.2.flight = c.flight
  results : c.followAddress.2.results = c.results
  lastError : c.followAddress.2.lastError = c.lastError
  phase : c.followAddress.2.phase = c.phase

theorem showsValues_iff {c : Controller ι} (hopen : c.filters.isClosed = false) :
    c.ShowsValues ↔ c.filters.reading c.addressBar.current = c.filters.effectives := by
  rw [ShowsValues, Filters.readParameters_effectives hopen]

theorem unnoticed_iff {c : Controller ι} (hlive : c.phase ≠ .disposed)
    (hopen : c.filters.isClosed = false) :
    c.Unnoticed ↔ c.filters.reading c.addressBar.current = c.filters.effectives := by
  constructor
  · intro h
    rw [← Filters.readParameters_effectives hopen _ .address]
    by_contra hne
    rw [Filters.readParameters_effectives hopen] at hne
    have hanswer := h.answer
    rw [followAddress_of_differs hlive hopen hne] at hanswer
    cases hanswer
  · intro h
    have heff := Filters.readParameters_effectives hopen c.addressBar.current .address
    refine ⟨?_, ?_, ?_, ?_, ?_, ?_, ?_⟩
    all_goals rw [followAddress_of_same hlive hopen h]
    exact heff.trans h

/-! ## Watching a controller -/

/-- A controller with what has passed between it and its bar. -/
structure Watched (ι : Type) where
  controller : Controller ι
  /-- The values in effect when the controller last read its bar or wrote to it. -/
  seen : List (Option String)
  /-- Whether others have changed the bar since then. -/
  moved : Bool
  /-- The values in effect at the last tick or, if it was later, at the last
  reading that changed some. -/
  settled : List (Option String)

namespace Watched

/-- A controller has just read its bar when it is built. -/
def start (c : Controller ι) : Watched ι :=
  ⟨c, c.filters.effectives, false, c.filters.effectives⟩

/-- A tick has written to the bar if one more navigation is counted after it. -/
def step (w : Watched ι) (action : Action ι) : Watched ι :=
  let after := w.controller.step action
  let values := after.filters.effectives
  match action with
  | .visit _ | .navigate _ => { w with controller := after, moved := true }
  | .followAddress =>
    match w.controller.followAddress.1 with
    | .ok true => ⟨after, values, false, values⟩
    | .ok false => { w with controller := after, seen := values, moved := false }
    | .error _ => { w with controller := after }
  | .poll =>
    if after.addressBar.navigations = w.controller.addressBar.navigations then
      { w with controller := after, settled := values }
    else ⟨after, values, false, values⟩
  | _ => { w with controller := after }

def run (w : Watched ι) (actions : List (Action ι)) : Watched ι :=
  actions.foldl step w

/-- Watching changes nothing. -/
theorem step_controller (w : Watched ι) (action : Action ι) :
    (w.step action).controller = w.controller.step action := by
  cases action with
  | followAddress =>
      dsimp only [step]
      split
      · rfl
      · rfl
      · rfl
  | poll =>
      dsimp only [step]
      split
      · rfl
      · rfl
  | _ => rfl

theorem run_controller (w : Watched ι) (actions : List (Action ι)) :
    (w.run actions).controller = w.controller.run actions := by
  induction actions generalizing w with
  | nil => rfl
  | cons action rest ih =>
      show ((w.step action).run rest).controller = _
      rw [ih, step_controller]
      rfl

/-! ## What is known -/

/-- The controller believes in the values that were settled last, the values
that it has seen in its bar are there until others change the bar, and as long
as nothing waits to be written the values are the settled ones. -/
structure Kept (w : Watched ι) : Prop where
  known : ∃ shown : Filters, shown.specs = w.controller.filters.specs ∧
    shown.effectives = w.settled ∧ w.controller.knownParameters = shown.parameters
  unmoved : w.moved = false →
    w.controller.filters.reading w.controller.addressBar.current = w.seen
  quiet : w.controller.isDirty = false → w.controller.filters.effectives = w.settled

variable {w : Watched ι}

/-- What a tick compares are the values in effect with the settled ones. -/
theorem Kept.writes_iff (h : w.Kept) :
    (w.controller.isDirty = true ∧
      w.controller.filters.parameters ≠ w.controller.knownParameters) ↔
    w.controller.filters.effectives ≠ w.settled := by
  obtain ⟨shown, hspecs, hsettled, hknown⟩ := h.known
  rw [hknown, ← hsettled, Ne, Filters.parameters_eq_iff hspecs.symm]
  constructor
  · rintro ⟨_, hne⟩
    exact hne
  · intro hne
    refine ⟨?_, hne⟩
    by_contra hclean
    exact hne ((h.quiet (by simpa using hclean)).trans hsettled.symm)

/-- Moves that leave the values alone and tell nobody of them. -/
theorem Kept.offered (h : w.Kept) {d : Controller ι} (hd : Offered w.controller d) :
    Kept { w with controller := d } := by
  refine ⟨?_, fun hmoved => ?_, fun hclean => ?_⟩
  · obtain ⟨shown, hshown, hsettled, hknown⟩ := h.known
    exact ⟨shown, hshown.trans hd.specs.symm, hsettled, hd.knownParameters.trans hknown⟩
  · dsimp only
    rw [hd.addressBar, Filters.reading_eq_of_specs hd.specs]
    exact h.unmoved hmoved
  · dsimp only at hclean ⊢
    rw [hd.isDirty] at hclean
    rw [hd.effectives]
    exact h.quiet hclean

theorem Kept.beside (h : w.Kept) {d : Controller ι} (hd : Beside w.controller d) :
    Kept { w with controller := d } :=
  h.offered hd.offered

/-- Values that were submitted or turned to wait to be written, if they differ. -/
theorem Kept.assigned (h : w.Kept) (hsound : w.controller.Sound) {d : Controller ι}
    {changes : Assignments} (source : Provenance) (hsource : source ≠ .address)
    (hfilters : d.filters = (w.controller.filters.assign changes source).2)
    (hbar : d.addressBar = w.controller.addressBar)
    (hknown : d.knownParameters = w.controller.knownParameters) :
    Kept { w with controller := d } := by
  have hspecs : d.filters.specs = w.controller.filters.specs := by
    rw [hfilters, Filters.assign_specs]
  refine ⟨?_, fun hmoved => ?_, fun hclean => ?_⟩
  · obtain ⟨shown, hshown, hsettled, heq⟩ := h.known
    exact ⟨shown, hshown.trans hspecs.symm, hsettled, hknown.trans heq⟩
  · dsimp only
    rw [hbar, Filters.reading_eq_of_specs hspecs]
    exact h.unmoved hmoved
  · dsimp only at hclean ⊢
    rw [← Bool.not_eq_true, isDirty_of_assign hsound.subscribed hfilters] at hclean
    obtain ⟨hsame, hquiet⟩ : d.filters.effectives = w.controller.filters.effectives ∧
        w.controller.isDirty = false := by
      simpa [hsource] using hclean
    rw [hsame]
    exact h.quiet hquiet

/-! ## A step -/

theorem Kept.submit (h : w.Kept) (hsound : w.controller.Sound) :
    Kept { w with controller := w.controller.submit.2 } := by
  rcases hsound.submit_cases with ⟨_, heq⟩ | ⟨_, _, heq⟩ | ⟨_, _, heq⟩
  · rw [heq]
    exact h
  · rw [heq]
    exact h.beside (turnDown_beside w.controller)
  · rw [heq]
    have hsubmitted : Kept { w with controller := w.controller.submitted } :=
      h.assigned hsound .user (by decide) rfl rfl rfl
    exact hsubmitted.beside (beginSearch_beside _)

theorem Kept.turnPage (h : w.Kept) (hsound : w.controller.Sound) (turn : PageTurn) :
    Kept { w with controller := (w.controller.turnPage turn).2 } := by
  have hpaged : Kept { w with controller := w.controller.paged turn } :=
    h.assigned hsound .pageTurn (by decide) rfl rfl rfl
  rcases hsound.turnPage_cases turn with ⟨_, heq⟩ | ⟨_, _, heq⟩ |
    ⟨_, _, ⟨_, _, heq⟩ | ⟨_, _, heq⟩ | ⟨_, heq⟩⟩
  · rw [heq]
    exact h
  · rw [heq]
    exact h
  · rw [heq]
    exact h.beside (turnDown_beside w.controller)
  · rw [heq]
    exact hpaged.beside (beginSearch_beside _)
  · rw [heq]
    exact hpaged

theorem step_of_routed_false (h : w.controller.followAddress.1 = .ok false) :
    w.step .followAddress = { w with
      controller := w.controller.followAddress.2
      seen := w.controller.followAddress.2.filters.effectives
      moved := false } := by
  dsimp only [step]
  rw [h]
  rfl

theorem step_of_routed_true (h : w.controller.followAddress.1 = .ok true) :
    w.step .followAddress = ⟨w.controller.followAddress.2,
      w.controller.followAddress.2.filters.effectives, false,
      w.controller.followAddress.2.filters.effectives⟩ := by
  dsimp only [step]
  rw [h]
  rfl

/-- Whether or not it changed values, a reading has seen the bar as it is. -/
theorem Kept.followAddress (h : w.Kept) (hsound : w.controller.Sound)
    (hlive : w.controller.phase ≠ .disposed) :
    (w.step .followAddress).Kept ∧ (w.step .followAddress).moved = false := by
  have hopen := hsound.isOpen hlive
  have hread := Filters.readParameters_effectives hopen w.controller.addressBar.current .address
  have hspecs := Filters.assign_specs w.controller.filters
    (w.controller.filters.assignmentsFrom w.controller.addressBar.current) .address
  by_cases hsame : w.controller.filters.reading w.controller.addressBar.current =
      w.controller.filters.effectives
  · -- The belief stays what it was, even if the bar had been elsewhere.
    have heq := followAddress_of_same hlive hopen hsame
    have hfeed : (w.controller.filters.readParameters w.controller.addressBar.current
        .address).2.valueFeed = w.controller.filters.valueFeed := by
      have hanswer := Filters.readParameters_fst hopen w.controller.addressBar.current .address
      rw [Filters.readParameters] at hanswer ⊢
      rw [Filters.assign_valueFeed, hanswer]
      simp [hsame]
    rw [step_of_routed_false (by rw [heq]), heq]
    refine ⟨⟨?_, fun _ => ?_, fun hclean => ?_⟩, rfl⟩
    · obtain ⟨shown, hshown, hsettled, hknown⟩ := h.known
      exact ⟨shown, hshown.trans hspecs.symm, hsettled, hknown⟩
    · exact (Filters.reading_eq_of_specs hspecs _).trans hread.symm
    · dsimp only at hclean ⊢
      rw [isDirty, pendingChanges, hfeed] at hclean
      rw [hread, hsame]
      exact h.quiet hclean
  · have hbeside := followAddress_beside_read hlive hopen hsame
    have hanswer : w.controller.followAddress.1 = .ok true := by
      rw [followAddress_of_differs hlive hopen hsame]
    rw [step_of_routed_true hanswer]
    refine ⟨⟨?_, fun _ => ?_, fun _ => rfl⟩, rfl⟩
    · exact ⟨w.controller.followAddress.2.filters, rfl, rfl,
        hbeside.knownParameters.trans (by rw [hbeside.filters]; rfl)⟩
    · dsimp only
      rw [hbeside.filters, hbeside.addressBar]
      exact (Filters.reading_eq_of_specs hspecs _).trans hread.symm

theorem Kept.syncAddress_eq (h : w.Kept) :
    w.controller.syncAddress =
      if w.controller.filters.effectives = w.settled then
        { w.controller with filters := w.controller.drained }
      else { w.controller with
        filters := w.controller.drained
        addressBar := w.controller.addressBar.update w.controller.filters.addressPatch
        knownParameters := w.controller.filters.parameters } := by
  rw [Controller.syncAddress_eq]
  by_cases hsettled : w.controller.filters.effectives = w.settled
  · rw [if_pos hsettled, if_neg fun hwrites => h.writes_iff.1 hwrites hsettled]
  · rw [if_neg hsettled, if_pos (h.writes_iff.2 hsettled)]

/-- A tick that finds the settled values leaves the bar alone. -/
theorem Kept.poll_of_settled (h : w.Kept) (hlive : w.controller.phase ≠ .disposed)
    (hsettled : w.controller.filters.effectives = w.settled) :
    (w.step .poll).Kept ∧ (w.step .poll).moved = w.moved ∧
      w.controller.poll.addressBar = w.controller.addressBar ∧
      w.controller.poll.filters.specs = w.controller.filters.specs ∧
      w.controller.poll.filters.effectives = w.controller.filters.effectives := by
  have hpoll := poll_offered hlive
  rw [h.syncAddress_eq, if_pos hsettled] at hpoll
  have hspecs : w.controller.poll.filters.specs = w.controller.filters.specs := hpoll.specs
  have heff : w.controller.poll.filters.effectives = w.controller.filters.effectives :=
    hpoll.effectives
  have hbar : w.controller.poll.addressBar = w.controller.addressBar := hpoll.addressBar
  have hstep : w.step .poll = { w with
      controller := w.controller.poll, settled := w.controller.poll.filters.effectives } := by
    show (if w.controller.poll.addressBar.navigations = w.controller.addressBar.navigations
      then _ else _) = _
    rw [hbar, if_pos rfl]
    rfl
  rw [hstep]
  refine ⟨⟨?_, fun hmoved => ?_, fun _ => rfl⟩, rfl, hbar, hspecs, heff⟩
  · obtain ⟨shown, hshown, hshows, hknown⟩ := h.known
    exact ⟨shown, hshown.trans hspecs.symm, hshows.trans (hsettled.symm.trans heff.symm),
      hpoll.knownParameters.trans hknown⟩
  · dsimp only
    rw [hbar, Filters.reading_eq_of_specs hspecs]
    exact h.unmoved hmoved

/-- A tick that finds other values writes them. -/
theorem Kept.poll_of_unsettled (h : w.Kept) (hnormal : w.controller.filters.Normal)
    (hlive : w.controller.phase ≠ .disposed)
    (hsettled : w.controller.filters.effectives ≠ w.settled) :
    (w.step .poll).Kept ∧ (w.step .poll).moved = false ∧
      w.controller.poll.filters.reading w.controller.poll.addressBar.current =
        w.controller.poll.filters.effectives := by
  have hpoll := poll_offered hlive
  rw [h.syncAddress_eq, if_neg hsettled] at hpoll
  have hspecs : w.controller.poll.filters.specs = w.controller.filters.specs := hpoll.specs
  have heff : w.controller.poll.filters.effectives = w.controller.filters.effectives :=
    hpoll.effectives
  have hbar : w.controller.poll.addressBar =
      w.controller.addressBar.update w.controller.filters.addressPatch := hpoll.addressBar
  have hstep : w.step .poll = ⟨w.controller.poll, w.controller.poll.filters.effectives, false,
      w.controller.poll.filters.effectives⟩ := by
    have hcount : (w.controller.addressBar.update w.controller.filters.addressPatch).navigations ≠
        w.controller.addressBar.navigations := Nat.succ_ne_self _
    show (if w.controller.poll.addressBar.navigations = w.controller.addressBar.navigations
      then _ else _) = _
    rw [hbar, if_neg hcount]
    rfl
  have hshown : w.controller.poll.filters.reading w.controller.poll.addressBar.current =
      w.controller.poll.filters.effectives := by
    rw [Filters.reading_eq_of_specs hspecs, hbar, heff]
    exact Filters.reading_patch hnormal w.controller.addressBar.current
  rw [hstep]
  refine ⟨⟨?_, fun _ => hshown, fun _ => rfl⟩, rfl, hshown⟩
  exact ⟨w.controller.filters, hspecs.symm, heff.symm, hpoll.knownParameters⟩

theorem Kept.step (h : w.Kept) (hsound : w.controller.Sound) {action : Action ι}
    (hlive : (w.controller.step action).phase ≠ .disposed) : (w.step action).Kept := by
  have hbefore := live_of_step hlive
  cases action with
  | edit edit => exact ⟨h.known, h.unmoved, h.quiet⟩
  | submit => exact h.submit hsound
  | turnPage turn => exact h.turnPage hsound turn
  | visit params => exact ⟨h.known, fun hmoved => Bool.noConfusion hmoved, h.quiet⟩
  | navigate patch => exact ⟨h.known, fun hmoved => Bool.noConfusion hmoved, h.quiet⟩
  | followAddress => exact (h.followAddress hsound hbefore).1
  | poll =>
      by_cases hsettled : w.controller.filters.effectives = w.settled
      · exact (h.poll_of_settled hbefore hsettled).1
      · exact (h.poll_of_unsettled hsound.normal hbefore hsettled).1
  | takeHandle => exact h.beside (takeHandle_beside w.controller)
  | refresh handle => exact h.beside (refresh_beside w.controller handle)
  | complete number outcome => exact h.beside ⟨rfl, rfl, rfl, rfl, rfl⟩
  | abandon number => exact h.beside ⟨rfl, rfl, rfl, rfl, rfl⟩
  | completePreload outcome => exact h.beside ⟨rfl, rfl, rfl, rfl, rfl⟩
  | abandonPreload => exact h.beside ⟨rfl, rfl, rfl, rfl, rfl⟩
  | dispose => exact absurd (by rw [step_dispose, dispose_eq]) hlive

/-! ## A run -/

theorem kept_start {wiring : Wiring} {specs : List FieldSpec}
    {searches : Desk Query (PageAnswer ι)} {preloads : Desk Query (PageAnswer Choice)}
    {bar : AddressBar} {c : Controller ι}
    (h : create wiring specs searches preloads bar = .ok c) : (start c).Kept := by
  obtain ⟨filters, hfilters, _, hbeside⟩ := arrived_beside_of_create h
  have hread := Filters.readParameters_effectives
    (blank_isClosed hfilters wiring searches preloads bar) bar.current .address
  have hspecs := Filters.assign_specs
    (blank wiring filters searches preloads bar).startPreload.filters
    ((blank wiring filters searches preloads bar).startPreload.filters.assignmentsFrom
      bar.current) .address
  have harrived : (start (arrived wiring filters searches preloads bar)).Kept := by
    refine ⟨?_, fun _ => ?_, fun _ => rfl⟩
    · exact ⟨(arrived wiring filters searches preloads bar).filters, rfl, rfl, rfl⟩
    · exact (Filters.reading_eq_of_specs hspecs _).trans hread.symm
  rw [start, hbeside.filters]
  exact harrived.beside hbeside

theorem Kept.run (h : w.Kept) (hsound : w.controller.Sound) {actions : List (Action ι)}
    (hlive : (w.controller.run actions).phase ≠ .disposed) : (w.run actions).Kept := by
  induction actions generalizing w with
  | nil => exact h
  | cons action rest ih =>
      refine ih (h.step hsound (live_of_run rest hlive)) ?_ ?_
      · rw [step_controller]
        exact hsound.step action
      · rw [step_controller]
        exact hlive

theorem moved_step (hmoved : w.moved = false) (h : w.Kept) (hsound : w.controller.Sound)
    {action : Action ι} (hlive : w.controller.phase ≠ .disposed)
    (hvisit : ∀ params, action ≠ .visit params)
    (hnavigate : ∀ patch, action ≠ .navigate patch) : (w.step action).moved = false := by
  cases action with
  | visit params => exact absurd rfl (hvisit params)
  | navigate patch => exact absurd rfl (hnavigate patch)
  | followAddress => exact (h.followAddress hsound hlive).2
  | poll =>
      by_cases hsettled : w.controller.filters.effectives = w.settled
      · exact (h.poll_of_settled hlive hsettled).2.1.trans hmoved
      · exact (h.poll_of_unsettled hsound.normal hlive hsettled).2.1
  | _ => exact hmoved

end Watched

/-- Every visit is followed at once, and nobody else changes the bar. -/
def attended : List (Action ι) → Bool
  | [] => true
  | .visit _ :: .followAddress :: rest => attended rest
  | .visit _ :: _ => false
  | .navigate _ :: _ => false
  | _ :: rest => attended rest

theorem Watched.moved_run {w : Watched ι} (hmoved : w.moved = false) (h : w.Kept)
    (hsound : w.controller.Sound) {actions : List (Action ι)} (hattended : attended actions = true)
    (hlive : (w.controller.run actions).phase ≠ .disposed) : (w.run actions).moved = false := by
  fun_induction attended actions generalizing w with
  | case1 => exact hmoved
  | case2 params rest ih =>
      -- In between the bar has been changed by others; the reading makes up for it.
      have hbetween := live_of_run (.followAddress :: rest) hlive
      have hvisited : (w.step (.visit params)).Kept := h.step hsound hbetween
      have hfollowed := hvisited.followAddress (hsound.step (.visit params)) hbetween
      refine ih hfollowed.2 hfollowed.1 ?_ hattended ?_
      · rw [step_controller]
        exact (hsound.step (.visit params)).step .followAddress
      · rw [step_controller, step_controller]
        exact hlive
  | case3 => cases hattended
  | case4 => cases hattended
  | case5 action rest _ hvisit hnavigate ih =>
      have hnext := live_of_run rest hlive
      refine ih (moved_step hmoved h hsound (live_of_step hnext) hvisit hnavigate)
        (h.step hsound hnext) ?_ hattended ?_
      · rw [step_controller]
        exact hsound.step action
      · rw [step_controller]
        exact hlive

theorem Watched.Kept.poll_shows_iff {w : Watched ι} (h : w.Kept)
    (hsound : w.controller.Sound) (hmoved : w.moved = false)
    (hlive : w.controller.phase ≠ .disposed) :
    w.controller.poll.ShowsValues ↔
      ¬ (w.controller.filters.effectives = w.settled ∧
        w.seen ≠ w.controller.filters.effectives) := by
  have hopen : w.controller.poll.filters.isClosed = false := by
    rw [poll_isClosed hlive]
    exact hsound.isOpen hlive
  rw [showsValues_iff hopen]
  by_cases hsettled : w.controller.filters.effectives = w.settled
  · obtain ⟨_, _, hbar, hspecs, heff⟩ := h.poll_of_settled hlive hsettled
    rw [hbar, heff, Filters.reading_eq_of_specs hspecs, h.unmoved hmoved]
    constructor
    · rintro hseen ⟨_, hne⟩
      exact hne hseen
    · intro hnot
      by_contra hne
      exact hnot ⟨hsettled, hne⟩
  · have hshown := (h.poll_of_unsettled hsound.normal hlive hsettled).2.2
    constructor
    · rintro _ ⟨heq, _⟩
      exact hsettled heq
    · intro _
      exact hshown

theorem Watched.Kept.followAddress_iff {w : Watched ι} (h : w.Kept)
    (hsound : w.controller.Sound) (hmoved : w.moved = false)
    (hlive : w.controller.phase ≠ .disposed) :
    (w.controller.Unnoticed ↔ w.controller.filters.effectives = w.seen) ∧
      (w.controller.filters.effectives ≠ w.seen →
        w.controller.followAddress.1 = .ok true ∧
        w.controller.followAddress.2.filters.effectives = w.seen) := by
  have hopen := hsound.isOpen hlive
  have hseen := h.unmoved hmoved
  refine ⟨?_, fun hne => ?_⟩
  · rw [unnoticed_iff hlive hopen, hseen]
    exact eq_comm
  · have hdiffers : w.controller.filters.reading w.controller.addressBar.current ≠
        w.controller.filters.effectives := by
      rw [hseen]
      exact fun heq => hne heq.symm
    have hread := Filters.readParameters_effectives hopen w.controller.addressBar.current
      .address
    refine ⟨?_, ?_⟩
    · rw [followAddress_of_differs hlive hopen hdiffers]
    · rw [(followAddress_beside_read hlive hopen hdiffers).filters]
      exact hread.trans hseen

variable {wiring : Wiring} {specs : List FieldSpec}
  {source : Nat → Query → Treatment (PageAnswer ι)}
  {preloadSource : Nat → Query → Treatment (PageAnswer Choice)} {bar : AddressBar}
  {c : Controller ι} {actions : List (Action ι)}

/-- After a tick the bar shows the values, unless they are the ones that were
settled last and the bar has been seen with others since. -/
theorem showsValues_poll_iff
    (hcreate : create wiring specs (.ofSource source) (.ofSource preloadSource) bar = .ok c)
    (hattended : attended actions = true) (hlive : (c.run actions).phase ≠ .disposed) :
    (c.run actions).poll.ShowsValues ↔
      ¬ ((c.run actions).filters.effectives = ((Watched.start c).run actions).settled ∧
        ((Watched.start c).run actions).seen ≠ (c.run actions).filters.effectives) := by
  have hsound := sound_of_create hcreate
  have hstart := Watched.kept_start hcreate
  have hmoved := Watched.moved_run rfl hstart hsound hattended hlive
  have hkept := hstart.run hsound hlive
  have hcontroller : ((Watched.start c).run actions).controller = c.run actions :=
    Watched.run_controller _ _
  have hsound' := hsound.run actions
  rw [← hcontroller] at hlive hsound' ⊢
  exact hkept.poll_shows_iff hsound' hmoved hlive

/-- A text is submitted, the bar goes elsewhere before the tick, and a third
text is submitted. -/
def overtaken : List (Action Unit) :=
  [.edit (.text "b"), .submit, .visit (.parse "q=c"), .followAddress, .edit (.text "d"), .submit]

theorem showsValues_poll_of_overtaken :
    ∃ c : Controller Unit,
      create .default standardFields (.ofSource fun _ _ => .hold) (.ofSource fun _ _ => .hold)
        (.ofUrl "/search?q=a") = .ok c ∧
      attended overtaken = true ∧ (c.run overtaken).phase ≠ .disposed ∧
      (c.run overtaken).poll.ShowsValues := by
  obtain ⟨c, hcreate, hcheck⟩ := exists_ok_of_check
    (create .default standardFields (.ofSource fun _ _ => .hold)
      (.ofSource fun _ _ => .hold) (.ofUrl "/search?q=a"))
    (fun c : Controller Unit => decide ((c.run overtaken).phase ≠ .disposed ∧
      (c.run overtaken).filters.effectives ≠ ((Watched.start c).run overtaken).settled))
    (by decide +kernel)
  obtain ⟨hlive, hunsettled⟩ := of_decide_eq_true hcheck
  refine ⟨c, hcreate, by decide, hlive, ?_⟩
  rw [showsValues_poll_iff hcreate (by decide) hlive]
  exact fun h => hunsettled h.1

/-- A text is submitted, the bar goes to it by itself before the tick, and the
text of before is submitted again. -/
def backAgain : List (Action Unit) :=
  [.edit (.text "b"), .submit, .visit (.parse "q=b"), .followAddress, .edit (.text "a"), .submit]

/-- After it the bar shows the text that was given up. -/
theorem not_showsValues_of_backAgain :
    ∃ c : Controller Unit,
      create .default standardFields (.ofSource fun _ _ => .hold) (.ofSource fun _ _ => .hold)
        (.ofUrl "/search?q=a") = .ok c ∧
      attended backAgain = true ∧ (c.run backAgain).phase ≠ .disposed ∧
      ¬ (c.run backAgain).poll.ShowsValues := by
  obtain ⟨c, hcreate, hcheck⟩ := exists_ok_of_check
    (create .default standardFields (.ofSource fun _ _ => .hold)
      (.ofSource fun _ _ => .hold) (.ofUrl "/search?q=a"))
    (fun c : Controller Unit => decide ((c.run backAgain).phase ≠ .disposed ∧
      ¬ (c.run backAgain).poll.ShowsValues))
    (by decide +kernel)
  obtain ⟨hlive, hshows⟩ := of_decide_eq_true hcheck
  exact ⟨c, hcreate, by decide, hlive, hshows⟩

/-- As long as nobody else has changed the bar, following the address is
unnoticed exactly if the values are those that the bar was last seen with. Any
others are lost, whether or not they were about to be written. -/
theorem unnoticed_iff_seen
    (hcreate : create wiring specs (.ofSource source) (.ofSource preloadSource) bar = .ok c)
    (hlive : (c.run actions).phase ≠ .disposed)
    (hmoved : ((Watched.start c).run actions).moved = false) :
    ((c.run actions).Unnoticed ↔
      (c.run actions).filters.effectives = ((Watched.start c).run actions).seen) ∧
    ((c.run actions).filters.effectives ≠ ((Watched.start c).run actions).seen →
      (c.run actions).followAddress.1 = .ok true ∧
      (c.run actions).followAddress.2.filters.effectives =
        ((Watched.start c).run actions).seen) := by
  have hsound := sound_of_create hcreate
  have hkept := (Watched.kept_start hcreate).run hsound hlive
  have hcontroller : ((Watched.start c).run actions).controller = c.run actions :=
    Watched.run_controller _ _
  have hsound' := hsound.run actions
  rw [← hcontroller] at hlive hsound' ⊢
  exact hkept.followAddress_iff hsound' hmoved hlive

/-- A text is submitted and written to the bar, and another is submitted. -/
def unwritten : List (Action Unit) :=
  [.edit (.text "a"), .submit, .poll, .edit (.text "b"), .submit]

theorem unnoticed_of_written :
    ∃ c : Controller Unit,
      create .default standardFields (.ofSource fun _ _ => .hold) (.ofSource fun _ _ => .hold)
        (.ofUrl "/search") = .ok c ∧
      (c.run (unwritten ++ [.poll])).phase ≠ .disposed ∧
      ((Watched.start c).run (unwritten ++ [.poll])).moved = false ∧
      (c.run (unwritten ++ [.poll])).Unnoticed := by
  obtain ⟨c, hcreate, hcheck⟩ := exists_ok_of_check
    (create .default standardFields (.ofSource fun _ _ => .hold)
      (.ofSource fun _ _ => .hold) (.ofUrl "/search"))
    (fun c : Controller Unit =>
      decide ((c.run (unwritten ++ [.poll])).phase ≠ .disposed ∧
        ((Watched.start c).run (unwritten ++ [.poll])).moved = false ∧
        (c.run (unwritten ++ [.poll])).filters.effectives =
          ((Watched.start c).run (unwritten ++ [.poll])).seen))
    (by decide +kernel)
  obtain ⟨hlive, hmoved, hseen⟩ := of_decide_eq_true hcheck
  exact ⟨c, hcreate, hlive, hmoved, (unnoticed_iff_seen hcreate hlive hmoved).1.2 hseen⟩

/-- Following the address now takes the second text back. -/
theorem not_unnoticed_of_unwritten :
    ∃ c : Controller Unit,
      create .default standardFields (.ofSource fun _ _ => .hold) (.ofSource fun _ _ => .hold)
        (.ofUrl "/search") = .ok c ∧
      (c.run unwritten).phase ≠ .disposed ∧
      ((Watched.start c).run unwritten).moved = false ∧
      (c.run unwritten).filters.value? textField = some "b" ∧
      (c.run unwritten).followAddress.2.filters.value? textField = some "a" ∧
      ¬ (c.run unwritten).Unnoticed := by
  obtain ⟨c, hcreate, hcheck⟩ := exists_ok_of_check
    (create .default standardFields (.ofSource fun _ _ => .hold)
      (.ofSource fun _ _ => .hold) (.ofUrl "/search"))
    (fun c : Controller Unit => decide ((c.run unwritten).phase ≠ .disposed ∧
      ((Watched.start c).run unwritten).moved = false ∧
      (c.run unwritten).filters.value? textField = some "b" ∧
      (c.run unwritten).followAddress.2.filters.value? textField = some "a" ∧
      (c.run unwritten).followAddress.2.filters.effectives ≠
        (c.run unwritten).filters.effectives))
    (by decide +kernel)
  obtain ⟨hlive, hmoved, hbefore, hafter, hdiffers⟩ := of_decide_eq_true hcheck
  exact ⟨c, hcreate, hlive, hmoved, hbefore, hafter, fun h => hdiffers h.effectives⟩

end RecordSearch.Controller
