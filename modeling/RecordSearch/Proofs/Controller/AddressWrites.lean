import RecordSearch.Proofs.Controller.Ticks

/-!
# When the address bar is written

The bar belongs to the person. The controller writes to it in a tick, once at
most, and only what the person has done to the values by a submission or a page
turn. Values that came out of the bar, at the start or by following it later,
are never written back, or a bar that says the same in other words would be
rewritten as soon as it is shown.

What carries this is the provenance of the changes that wait for a tick. Of all
actions only submissions and page turns leave a change from elsewhere than an
address, and only if some value in effect is different afterwards, so a tick
finds one exactly if there was such an action since the tick before.
-/

namespace RecordSearch.Controller

variable {ι : Type} {c d : Controller ι}

/-- A submission or a page turn that changes a value in effect. -/
def Moves (c : Controller ι) (action : Action ι) : Prop :=
  (action = .submit ∨ ∃ turn, action = .turnPage turn) ∧
    (c.step action).filters.effectives ≠ c.filters.effectives

/-- What others than the controller do to the bar in an action. -/
def Action.onBar : Action ι → AddressBar → AddressBar
  | .visit params, bar => bar.visit params
  | .navigate patch, bar => bar.update patch
  | _, bar => bar

/-- The bar after a run, had the controller left it alone. -/
def hosted (bar : AddressBar) (actions : List (Action ι)) : AddressBar :=
  actions.foldl (fun bar action => action.onBar bar) bar

/-- Whether a tick after a run writes to the bar. -/
def Writes (c : Controller ι) (actions : List (Action ι)) : Prop :=
  (c.run actions).phase ≠ .disposed ∧ SinceTick Moves c actions ∧
    (c.run actions).filters.parameters ≠ (c.run actions).knownParameters

/-! ## Changes that wait to be written -/

theorem drained_waiting (c : Controller ι) :
    c.drained.valueFeed.waiting ownSubscription = [] := by
  rw [drained, Feed.drain, Feed.waiting_advance, if_pos rfl, List.drop_length]

/-- A tick leaves nothing to be written. -/
theorem poll_isDirty (hlive : c.phase ≠ .disposed) : c.poll.isDirty = false := by
  rw [(poll_offered hlive).isDirty, isDirty, pendingChanges, syncAddress_filters,
    drained_waiting]
  rfl

/-- An assignment by the person, with a search or without. -/
theorem Sound.isDirty_assigned (h : c.Sound) {changes : Assignments} {source : Provenance}
    (hsource : source ≠ .address) (hfilters : d.filters = (c.filters.assign changes source).2) :
    d.isDirty = true ↔ d.filters.effectives ≠ c.filters.effectives ∨ c.isDirty = true := by
  simp [isDirty_of_assign h.subscribed hfilters, hsource]

theorem Sound.isDirty_submit (h : c.Sound) :
    c.submit.2.isDirty = true ↔
      c.submit.2.filters.effectives ≠ c.filters.effectives ∨ c.isDirty = true := by
  rcases h.submit_cases with ⟨_, heq⟩ | ⟨_, _, heq⟩ | ⟨_, _, heq⟩
  · simp [heq]
  · simp [heq, (turnDown_beside c).isDirty, (turnDown_beside c).filters]
  · rw [heq]
    exact h.isDirty_assigned (by decide) (beginSearch_beside c.submitted).filters

theorem Sound.isDirty_turnPage (h : c.Sound) (turn : PageTurn) :
    (c.turnPage turn).2.isDirty = true ↔
      (c.turnPage turn).2.filters.effectives ≠ c.filters.effectives ∨ c.isDirty = true := by
  rcases h.turnPage_cases turn with ⟨_, heq⟩ | ⟨_, _, heq⟩ |
    ⟨_, _, ⟨_, _, heq⟩ | ⟨_, _, heq⟩ | ⟨_, heq⟩⟩
  · simp [heq]
  · simp [heq]
  · simp [heq, (turnDown_beside c).isDirty, (turnDown_beside c).filters]
  · rw [heq]
    exact h.isDirty_assigned (by decide) (beginSearch_beside (c.paged turn)).filters
  · rw [heq]
    exact h.isDirty_assigned (by decide) (d := c.paged turn) rfl

theorem Sound.isDirty_followAddress (h : c.Sound) :
    c.followAddress.2.isDirty = c.isDirty := by
  have hread {d : Controller ι} (hfilters : d.filters = c.read.filters) :
      d.isDirty = c.isDirty := by
    rw [Bool.eq_iff_iff, isDirty_of_assign h.subscribed hfilters]
    simp
  rcases h.followAddress_cases with ⟨_, heq⟩ | ⟨_, _, heq⟩ | ⟨hlive, hdiffers, _⟩
  · rw [heq]
  · -- What is announced here, if anything, came from an address.
    rw [heq]
    exact hread rfl
  · exact hread (followAddress_beside_read hlive (h.isOpen hlive) hdiffers).filters

/-- What a step leaves to be written. -/
theorem Sound.isDirty_step (h : c.Sound) (action : Action ι)
    (hlive : (c.step action).phase ≠ .disposed) :
    (c.step action).isDirty = true ↔
      Moves c action ∨ (action ≠ .poll ∧ c.isDirty = true) := by
  have hquiet (hsame : (c.step action).filters = c.filters) (hpoll : action ≠ .poll) :
      (c.step action).isDirty = true ↔
        Moves c action ∨ (action ≠ .poll ∧ c.isDirty = true) := by
    simp [Moves, Controller.isDirty, pendingChanges, hsame, hpoll]
  cases action with
  | submit => simp [Moves, h.isDirty_submit]
  | turnPage turn => simp [Moves, h.isDirty_turnPage]
  | followAddress => simp [Moves, h.isDirty_followAddress]
  | poll => simp [Moves, poll_isDirty (live_of_step hlive)]
  | dispose => exact absurd (by rw [step_dispose, dispose_eq]) hlive
  | _ => exact hquiet (by rw [step_eq_of_passesBy c rfl]) (by simp)

/-! ## Writing to the bar -/

theorem Sound.submit_addressBar (h : c.Sound) : c.submit.2.addressBar = c.addressBar := by
  rcases h.submit_cases with ⟨_, heq⟩ | ⟨_, _, heq⟩ | ⟨_, _, heq⟩
  · rw [heq]
  · rw [heq, (turnDown_beside c).addressBar]
  · rw [heq, (beginSearch_beside c.submitted).addressBar]
    rfl

theorem Sound.turnPage_addressBar (h : c.Sound) (turn : PageTurn) :
    (c.turnPage turn).2.addressBar = c.addressBar := by
  rcases h.turnPage_cases turn with ⟨_, heq⟩ | ⟨_, _, heq⟩ |
    ⟨_, _, ⟨_, _, heq⟩ | ⟨_, _, heq⟩ | ⟨_, heq⟩⟩
  · rw [heq]
  · rw [heq]
  · rw [heq, (turnDown_beside c).addressBar]
  · rw [heq, (beginSearch_beside (c.paged turn)).addressBar]
    rfl
  · rw [heq]
    rfl

theorem Sound.followAddress_addressBar (h : c.Sound) :
    c.followAddress.2.addressBar = c.addressBar := by
  rcases h.followAddress_cases with ⟨_, heq⟩ | ⟨_, _, heq⟩ | ⟨hlive, hdiffers, _⟩
  · rw [heq]
  · rw [heq]
  · rw [(followAddress_beside_read hlive (h.isOpen hlive) hdiffers).addressBar]
    rfl

/-- Outside of ticks the bar is what others make of it. -/
theorem Sound.addressBar_step (h : c.Sound) {action : Action ι} (hpoll : action ≠ .poll) :
    (c.step action).addressBar = action.onBar c.addressBar := by
  cases action with
  | submit => exact h.submit_addressBar
  | turnPage turn => exact h.turnPage_addressBar turn
  | followAddress => exact h.followAddress_addressBar
  | poll => exact absurd rfl hpoll
  | takeHandle => exact (takeHandle_beside c).addressBar
  | refresh handle => exact (refresh_beside c handle).addressBar
  | dispose =>
      rw [step_dispose, dispose_eq]
      rfl
  | edit _ | visit _ | navigate _ | complete _ _ | abandon _ | completePreload _
  | abandonPreload => rfl

theorem poll_addressBar (hlive : c.phase ≠ .disposed) :
    c.poll.addressBar =
      if c.isDirty ∧ c.filters.parameters ≠ c.knownParameters then
        c.addressBar.update c.filters.addressPatch
      else c.addressBar := by
  rw [(poll_offered hlive).addressBar, syncAddress_eq]
  split
  · rfl
  · rfl

/-! ## A run -/

variable {wiring : Wiring} {specs : List FieldSpec} {searches : Desk Query (PageAnswer ι)}
  {preloads : Desk Query (PageAnswer Choice)} {bar : AddressBar}

/-- What a controller has read when it is built does not wait to be written. -/
theorem isDirty_of_create (h : create wiring specs searches preloads bar = .ok c) :
    c.isDirty = false := by
  obtain ⟨filters, hfilters, _, hbeside⟩ := arrived_beside_of_create h
  have hqueues : (blank wiring filters searches preloads bar).startPreload.filters.valueFeed =
      ⟨[some []], false⟩ := by
    show filters.valueFeed.subscribe.2 = _
    rw [(Filters.ofSpecs_eq_ok hfilters).2]
    rfl
  have hassign := isDirty_of_assign (d := c) ⟨[], by rw [hqueues]⟩ hbeside.filters
  rw [← Bool.not_eq_true, hassign]
  simp [isDirty, pendingChanges, hqueues, Feed.waiting, ownSubscription]

theorem addressBar_of_create (h : create wiring specs searches preloads bar = .ok c) :
    c.addressBar = bar := by
  obtain ⟨filters, _, _, hbeside⟩ := arrived_beside_of_create h
  exact hbeside.addressBar

theorem isDirty_iff_sinceTick (h : create wiring specs searches preloads bar = .ok c)
    {actions : List (Action ι)} (hlive : (c.run actions).phase ≠ .disposed) :
    (c.run actions).isDirty = true ↔ SinceTick Moves c actions :=
  kept_iff_sinceTick (fun c => c.isDirty = true)
    (fun _ action hsound => hsound.isDirty_step action) (sound_of_create h)
    (by simp [isDirty_of_create h]) actions hlive

theorem addressBar_concat (h : create wiring specs searches preloads bar = .ok c)
    {actions : List (Action ι)} {action : Action ι}
    (hwrites : ¬ (action = .poll ∧ Writes c actions)) :
    (c.run (actions ++ [action])).addressBar = action.onBar (c.run actions).addressBar := by
  rw [run_concat]
  by_cases hpoll : action = .poll
  · subst hpoll
    show (c.run actions).poll.addressBar = (c.run actions).addressBar
    by_cases hlive : (c.run actions).phase = .disposed
    · rw [poll_of_disposed hlive]
    · rw [poll_addressBar hlive, if_neg]
      rintro ⟨hdirty, hdiffers⟩
      exact hwrites ⟨rfl, hlive, (isDirty_iff_sinceTick h hlive).1 hdirty, hdiffers⟩
  · exact ((sound_of_create h).run actions).addressBar_step hpoll

theorem Writes.addressBar_poll (h : create wiring specs searches preloads bar = .ok c)
    {actions : List (Action ι)} (hwrites : Writes c actions) :
    (c.run (actions ++ [.poll])).addressBar =
      (c.run actions).addressBar.update (c.run actions).filters.addressPatch := by
  obtain ⟨hlive, hsince, hdiffers⟩ := hwrites
  rw [run_concat, step_poll, poll_addressBar hlive,
    if_pos ⟨(isDirty_iff_sinceTick h hlive).2 hsince, hdiffers⟩]

/-- As long as no value is moved, the bar is left to others. -/
theorem addressBar_of_unmoved (h : create wiring specs searches preloads bar = .ok c)
    {actions : List (Action ι)}
    (hunmoved : ∀ before action after, actions = before ++ action :: after →
      ¬ Moves (c.run before) action) :
    (c.run actions).addressBar = hosted bar actions := by
  induction actions using List.reverseRecOn with
  | nil => exact addressBar_of_create h
  | append_singleton actions action ih =>
      have hearlier : ∀ before earlier after, actions = before ++ earlier :: after →
          ¬ Moves (c.run before) earlier := by
        rintro before earlier after rfl
        exact hunmoved before earlier (after ++ [action]) (by simp)
      rw [addressBar_concat h, ih hearlier, hosted, hosted, List.foldl_append]
      · rfl
      · rintro ⟨_, _, hsince, _⟩
        obtain ⟨before, moving, after, hsplit, hmoves⟩ := hsince.exists
        exact hearlier before moving after hsplit hmoves

/-- A controller writes to its bar in a tick only, once, and only after a
submission or a page turn since the tick before has changed a value in effect.
All else that becomes of the bar is the work of others; of a run without such a
submission or page turn, all that becomes of it. -/
theorem writes_only_moves (hcreate : create wiring specs searches preloads bar = .ok c) :
    c.addressBar = bar ∧
    (∀ actions action, ¬ (action = .poll ∧ Writes c actions) →
      (c.run (actions ++ [action])).addressBar = action.onBar (c.run actions).addressBar) ∧
    (∀ actions, Writes c actions →
      (c.run (actions ++ [.poll])).addressBar =
        (c.run actions).addressBar.update (c.run actions).filters.addressPatch) ∧
    (∀ actions, (∀ before action after, actions = before ++ action :: after →
        ¬ Moves (c.run before) action) →
      (c.run actions).addressBar = hosted bar actions) :=
  ⟨addressBar_of_create hcreate, fun _ _ => addressBar_concat hcreate,
    fun _ => Writes.addressBar_poll hcreate, fun _ => addressBar_of_unmoved hcreate⟩

/-- A visit that says nothing new in other words, noticed and ticked over. -/
def renamed : List (Action Unit) :=
  [.visit (.parse "lang=en&query=a"), .followAddress, .poll]

/-- The same, and another text typed into the form. -/
def retyped : List (Action Unit) :=
  renamed ++ [.edit (.text "b")]

/-- The visit is left as it is, until the text is submitted. -/
theorem writes_only_moves_of_renamed :
    ∃ c : Controller Unit,
      create .default standardFields (.ofSource fun _ _ => .hold) (.ofSource fun _ _ => .hold)
        (.ofUrl "/search?q=a") = .ok c ∧
      (c.run retyped).addressBar = hosted (.ofUrl "/search?q=a") retyped ∧
      Writes c (retyped ++ [.submit]) ∧
      (c.run (retyped ++ [.submit] ++ [.poll])).addressBar.url = "/search?lang=en&q=b" := by
  obtain ⟨c, hcreate, hcheck⟩ := exists_ok_of_check
    (create .default standardFields (.ofSource fun _ _ => .hold)
      (.ofSource fun _ _ => .hold) (.ofUrl "/search?q=a"))
    (fun c : Controller Unit =>
      let d := c.run (retyped ++ [.submit])
      decide (d.phase ≠ .disposed ∧
        ((c.run retyped).step .submit).filters.effectives ≠ (c.run retyped).filters.effectives ∧
        d.filters.parameters ≠ d.knownParameters ∧
        (d.addressBar.update d.filters.addressPatch).url = "/search?lang=en&q=b"))
    (by decide +kernel)
  obtain ⟨hlive, hmoved, hdiffers, hurl⟩ := of_decide_eq_true hcheck
  obtain ⟨_, _, hwritten, hunmoved⟩ := writes_only_moves hcreate
  have hwrites : Writes c (retyped ++ [.submit]) :=
    ⟨hlive, ⟨retyped, .submit, [], rfl, by simp, .inl rfl, hmoved⟩, hdiffers⟩
  refine ⟨c, hcreate, hunmoved retyped ?_, hwrites, ?_⟩
  · rintro before action after hsplit ⟨hkind, _⟩
    have hmem : action ∈ retyped := by simp [hsplit]
    rcases hkind with rfl | ⟨turn, rfl⟩
    · simp [retyped, renamed] at hmem
    · simp [retyped, renamed] at hmem
  · rw [hwritten _ hwrites]
    exact hurl

end RecordSearch.Controller
