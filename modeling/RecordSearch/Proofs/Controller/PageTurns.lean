import RecordSearch.Proofs.Controller.SearchGate

/-!
# What a page turn comes to

The number of the page is kept as a text. It is printed and stored as any value,
with whatever default and alias its field may have, and it is read again by a
reader for which everything that is not a page number is the first page. So what
a turn starts from can be any text that an address has put there, and what has to
be shown is that the number it ends with is the one it aimed at, and that nothing
but the page field has changed on the way.

An engaged controller searches for the page that it has turned to. Whether it can
is asked before the page moves, and must not be answered differently afterwards.
That is why the page needs a field of its own: if it stood in one of the fields
that make a query, going back to the first page could leave nothing to search for.
-/

namespace RecordSearch

/-- Where a turn aims: one page on or one page back, as far as there are pages. -/
def PageTurn.Aims (turn : PageTurn) (page target : UInt32) : Prop :=
  match turn with
  | .next => target.toNat = min (page.toNat + 1) 4294967295
  | .previous => target.toNat = max (page.toNat - 1) 1

theorem PageTurn.aims_target (turn : PageTurn) (page : UInt32) :
    turn.Aims page (turn.target page) := by
  cases turn with
  | next => exact followingPage_toNat page
  | previous => exact (precedingPage_toNat page).trans (max_comm _ _)

namespace Controller

variable {ι : Type} {c d : Controller ι} {turn : PageTurn} {target : UInt32}

/-- The second controller is the first on another page. It searches for what it
has now if it is engaged, and else waits. -/
structure PageMoved (c : Controller ι) (target : UInt32) (d : Controller ι) : Prop where
  page : d.currentPage = target
  /-- The page field holds the number, and the others hold what they held. -/
  fields : d.filters.fields = c.filters.fields.map fun field =>
    if field.spec.hasKey c.wiring.pageField then { field with value := some (toString target) }
    else field
  form : d.form = c.form
  addressBar : d.addressBar = c.addressBar
  preloads : d.preloads = c.preloads
  loads : d.searches.subjects =
    c.searches.subjects ++ if c.engaged then [⟨d.filters.values, c.wiring.pageSize⟩] else []
  waits : c.engaged = false → d = { c with filters := d.filters }

/-- All that a turn can come to. -/
structure Turns (c : Controller ι) (turn : PageTurn) (target : UInt32) : Prop where
  aims : turn.Aims c.currentPage target
  /-- At either end nothing happens. -/
  stays : target = c.currentPage → c.turnPage turn = (.ok target, c)
  /-- Turned down before the page moves, all is as it was but for the form's marks. -/
  rejected : target ≠ c.currentPage → c.engaged = true →
    (∀ name ∈ c.wiring.neededFields, c.filters.isMoved name = false) →
    c.turnPage turn = (.error (.blankQuery c.wiring.neededFields),
      { c with turnedDown := true, form := c.form.touchAll c.filters })
  taken : target ≠ c.currentPage →
    (c.engaged = true → ∃ name ∈ c.wiring.neededFields, c.filters.isMoved name = true) →
    ∃ d, c.turnPage turn = (.ok target, d) ∧ PageMoved c target d

/-- A page number is stored as it is printed. -/
theorem Sound.paged_fields_eq (h : c.Sound) (hlive : c.phase ≠ .disposed) (turn : PageTurn) :
    (c.paged turn).filters.fields = c.filters.fields.map fun field =>
      if field.spec.hasKey c.wiring.pageField then
        { field with value := some (toString (turn.target c.currentPage)) }
      else field := by
  rw [paged_fields (h.isOpen hlive) h.page_known]
  refine List.map_congr_left fun field _ => ?_
  rw [FieldState.after, FieldState.valueAfter_singleton, Text.normalize?, Option.bind_some,
    Text.normalize_toString]
  split
  · rfl
  · rfl

theorem Sound.paged_pageMoved (h : c.Sound) (hlive : c.phase ≠ .disposed)
    (hidle : c.engaged = false) : PageMoved c (turn.target c.currentPage) (c.paged turn) where
  page := h.currentPage_paged hlive turn
  fields := h.paged_fields_eq hlive turn
  form := rfl
  addressBar := rfl
  preloads := rfl
  loads := by
    rw [hidle, if_neg Bool.false_ne_true, List.append_nil]
    rfl
  waits := fun _ => rfl

theorem Sound.beginSearch_pageMoved (h : c.Sound) (hlive : c.phase ≠ .disposed)
    (hengaged : c.engaged = true) (hcan : (c.paged turn).canSearch = true) :
    PageMoved c (turn.target c.currentPage) (c.paged turn).beginSearch.2 := by
  have hsubjects : (c.paged turn).dropSearch.searches.subjects = c.searches.subjects :=
    dropSearch_subjects (c.paged turn)
  rw [beginSearch_of_canSearch hcan]
  refine ⟨h.currentPage_paged hlive turn, h.paged_fields_eq hlive turn, rfl, rfl, rfl, ?_,
    fun hidle => ?_⟩
  · rw [hengaged, if_pos rfl, ← hsubjects]
    exact Desk.file_subjects _ _
  · rw [hengaged] at hidle
    cases hidle

theorem Sound.turns (h : c.Sound) (hlive : c.phase ≠ .disposed)
    (hown : OwnPage c.wiring c.filters.specs) (turn : PageTurn) :
    Turns c turn (turn.target c.currentPage) := by
  refine ⟨turn.aims_target c.currentPage, fun hend => ?_, fun hmove hengaged hblank => ?_,
    fun hmove hquery => ?_⟩
  · rw [turnPage_at_end hlive hend, hend]
  · have hcan : c.canSearch = false := by
      rw [canSearch, List.any_eq_false]
      intro name hname
      rw [hblank name hname]
      exact Bool.false_ne_true
    exact turnPage_of_blank hlive hmove hengaged hcan
  · have hopen := h.isOpen hlive
    cases hengaged : c.engaged with
    | false =>
        exact ⟨_, turnPage_of_idle hlive hopen h.page_known hmove hengaged,
          h.paged_pageMoved hlive hengaged⟩
    | true =>
        have hcan : c.canSearch = true := List.any_eq_true.2 (hquery hengaged)
        -- The gate was passed before the move, and is passed after it.
        have hcan' := canSearch_paged_of_ownPage h hlive hown turn hcan
        refine ⟨_, ?_, h.beginSearch_pageMoved hlive hengaged hcan'⟩
        rw [turnPage_of_engaged hlive hopen h.page_known hmove hengaged hcan,
          beginSearch_of_canSearch hcan']
        rfl

/-- Whatever stands in the page field, there is a page in effect. A turn aims at the
next page or the one before, and ends there unless there is none or the controller
has nothing to search for; and then it moves nothing. -/
theorem turnPage_turns {wiring : Wiring} {specs : List FieldSpec}
    {searches : Desk Query (PageAnswer ι)} {preloads : Desk Query (PageAnswer Choice)}
    {bar : AddressBar} (hcreate : create wiring specs searches preloads bar = .ok c)
    (hown : OwnPage wiring specs) (actions : List (Action ι)) :
    1 ≤ (c.run actions).currentPage ∧
      ((c.run actions).phase ≠ .disposed →
        ∀ turn, ∃ target, Turns (c.run actions) turn target) := by
  obtain ⟨hwiring, hspecs⟩ := declarations_of_create hcreate actions
  have hsound := (sound_of_create hcreate).run actions
  exact ⟨Filters.one_le_page _ _, fun hlive turn =>
    ⟨_, hsound.turns hlive (by rwa [hwiring, hspecs]) turn⟩⟩

/-- From an address with a sign and zeros in its page number the next page is the
one after, and it is searched for. -/
theorem turnPage_turns_of_signed :
    ∃ c d : Controller Unit,
      create .default standardFields (.ofSource fun _ _ => .hold) (.ofSource fun _ _ => .hold)
        (.ofUrl "/search?q=a&page=%2B0041") = .ok c ∧
      OwnPage .default standardFields ∧
      c.currentPage = 41 ∧ c.turnPage .next = (.ok 42, d) ∧ PageMoved c 42 d := by
  obtain ⟨c, hcreate, hcheck⟩ := exists_ok_of_check
    (create .default standardFields (.ofSource fun _ _ => .hold)
      (.ofSource fun _ _ => .hold) (.ofUrl "/search?q=a&page=%2B0041"))
    (fun c : Controller Unit => decide (c.phase ≠ .disposed ∧ c.currentPage = 41 ∧
      c.canSearch = true))
    (by decide +kernel)
  obtain ⟨hlive, hpage, hcan⟩ := of_decide_eq_true hcheck
  have hown : OwnPage .default standardFields := by
    show ∀ spec ∈ standardFields, spec.hasKey Wiring.default.pageField = true →
      ∀ name ∈ Wiring.default.neededFields, spec.hasKey name = false
    decide +kernel
  obtain ⟨target, hturns⟩ := (turnPage_turns hcreate hown []).2 hlive .next
  have htarget : target = 42 := by
    have haims : target.toNat = min (c.currentPage.toNat + 1) 4294967295 := hturns.aims
    rw [hpage] at haims
    exact UInt32.toNat_inj.1 haims
  subst htarget
  have hmove : (42 : UInt32) ≠ c.currentPage := by
    rw [hpage]
    decide
  obtain ⟨d, hturn, hmoves⟩ := hturns.taken hmove fun _ => List.any_eq_true.1 hcan
  exact ⟨c, d, hcreate, hown, hpage, hturn, hmoves⟩

end Controller

end RecordSearch
