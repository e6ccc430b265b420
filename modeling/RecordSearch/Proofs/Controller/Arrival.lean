import RecordSearch.Proofs.Controller.ShownResults

/-!
# Coming to an address

There are two ways to an address. A controller may be built on it, or it may
follow the bar there after everything it has done elsewhere. The second way
begins with old values, edits in the form, a search in flight, results or an
error, and it must end where the first one does, or a link would mean something
else to whoever has used the program before.

Both ways read the address, and what is read depends on the declarations
alone: every field is assigned, a field that the address does not mention being
unset, and the form is refilled from the fields. After that each way either
begins a search, which clears what was shown, or is left with nothing to show.
-/

namespace RecordSearch

/-- A form is refilled from the values in effect, whatever was in it. -/
theorem Form.refill_controls {fs gs : Filters} (h : fs.standings = gs.standings)
    (form form' : Form) : (form.refill fs).controls = (form'.refill gs).controls := by
  have hspecs : fs.specs = gs.specs := by
    have hmap := congrArg (List.map Prod.fst) h
    simpa [Filters.standings, Filters.specs, List.map_map, Function.comp_def] using hmap
  have hvalue : fs.value? = gs.value? := funext (Filters.value?_eq_of_standings h)
  rw [refill, refill, Filters.visibleSpecs, Filters.visibleSpecs, hspecs, hvalue]

namespace Controller

variable {ι : Type} {c d : Controller ι}

/-- The second controller has the values of the first, the texts in the controls,
and what is awaited and shown. -/
structure Resembles (c d : Controller ι) : Prop where
  slots : d.filters.slots = c.filters.slots
  controls : d.form.controls = c.form.controls
  pendingQuery : d.pendingQuery = c.pendingQuery
  results : d.results = c.results
  lastError : d.lastError = c.lastError
  phase : d.phase = c.phase

theorem read_slots (hopen : c.filters.isClosed = false) :
    c.read.filters.slots = c.filters.specs.map fun spec =>
      (spec, Text.normalize? (Filters.parameterFor c.addressBar.current spec)) :=
  Filters.readParameters_slots hopen c.addressBar.current .address

theorem read_controls (h : d.read.filters.slots = c.read.filters.slots) :
    d.read.form.controls = c.read.form.controls :=
  Form.refill_controls (Filters.standings_eq_of_slots h) d.form c.form

/-- Searches begun for the same values resemble each other, whatever went before. -/
theorem beginSearch_resembles (hcan : c.canSearch = true) (hwiring : d.wiring = c.wiring)
    (hslots : d.filters.slots = c.filters.slots)
    (hcontrols : d.form.controls = c.form.controls) :
    Resembles c.beginSearch.2 d.beginSearch.2 := by
  have hstandings := Filters.standings_eq_of_slots hslots
  have hcan' : d.canSearch = true := (canSearch_eq_of_standings hwiring hstandings).trans hcan
  have hquery := query_eq_of_standings hwiring hstandings
  rw [beginSearch_of_canSearch hcan, beginSearch_of_canSearch hcan']
  refine ⟨hslots, hcontrols, ?_, rfl, rfl, rfl⟩
  exact congrArg some hquery

variable {wiring : Wiring} {specs : List FieldSpec} {filters : Filters}
  {searches searches' : Desk Query (PageAnswer ι)}
  {preloads preloads' : Desk Query (PageAnswer Choice)} {bar bar' : AddressBar}

/-- Following the bar to other values ends where building a controller there does. -/
theorem Sound.followAddress_resembles (h : c.Sound)
    (hfilters : Filters.ofSpecs specs = .ok filters) (hwiring : c.wiring = wiring)
    (hspecs : c.filters.specs = specs) (hbar : c.addressBar.current = bar.current)
    (hchanged : c.followAddress.1 = .ok true) :
    Resembles (started wiring filters searches preloads bar) c.followAddress.2 := by
  have hslots (hlive : c.phase ≠ .disposed) :
      c.read.filters.slots = (arrived wiring filters searches preloads bar).filters.slots := by
    rw [read_slots (h.isOpen hlive), arrived_slots hfilters, hspecs, hbar]
  rcases h.followAddress_cases with ⟨_, heq⟩ | ⟨_, _, heq⟩ | ⟨hlive, _, hcases⟩
  · rw [heq] at hchanged
    cases hchanged
  · rw [heq] at hchanged
    cases hchanged
  · have hcontrols : c.read.form.controls =
        (arrived wiring filters searches preloads bar).form.controls :=
      read_controls (hslots hlive)
    have hcan : c.read.canSearch = (arrived wiring filters searches preloads bar).canSearch :=
      canSearch_eq_of_standings hwiring (Filters.standings_eq_of_slots (hslots hlive))
    rw [started, ← hcan]
    rcases hcases with ⟨hsearches, heq⟩ | ⟨hquiet, heq⟩
    · rw [heq, hsearches]
      exact beginSearch_resembles (hcan.symm.trans hsearches) hwiring (hslots hlive) hcontrols
    · rw [heq, hquiet]
      have hdropped := dropSearch_beside c.read
      refine ⟨?_, hdropped.controls.trans hcontrols, ?_, rfl, rfl, rfl⟩
      · exact (congrArg Filters.slots hdropped.filters).trans (hslots hlive)
      · exact congrArg (Option.map Flight.query) (dropSearch_flight c.read)

/-- Whatever a controller has done before, after it has followed the bar to an
address with other values it resembles a controller that is built there. -/
theorem followAddress_resembles_new
    (hcreate : create wiring specs searches preloads bar = .ok c) {actions : List (Action ι)}
    (hchanged : ((c.run actions).step (.visit bar'.current)).followAddress.1 = .ok true) :
    ∃ fresh, create wiring specs searches' preloads' bar' = .ok fresh ∧
      Resembles fresh ((c.run actions).step (.visit bar'.current)).followAddress.2 := by
  obtain ⟨filters, hfilters, hwired, _⟩ := create_eq_ok_iff.1 hcreate
  obtain ⟨hwiring, hspecs⟩ := declarations_of_create hcreate actions
  have hsound := ((sound_of_create hcreate).run actions).step (.visit bar'.current)
  exact ⟨_, create_eq_ok_iff.2 ⟨filters, hfilters, hwired, rfl⟩,
    hsound.followAddress_resembles hfilters hwiring hspecs rfl hchanged⟩

/-- An error is shown, another text stands in the form, and a search is in flight. -/
def unsettled : List (Action Unit) :=
  [.complete 0 (.error ⟨"502"⟩), .poll, .edit (.text "b"), .submit,
    .edit (.control credentialTypeField (some "4"))]

/-- None of it is left at an address that makes no query. -/
theorem followAddress_resembles_new_of_unsettled :
    ∃ c fresh : Controller Unit,
      create .default standardFields (.ofSource fun _ _ => .hold) (.ofSource fun _ _ => .hold)
        (.ofUrl "/search?q=a") = .ok c ∧
      create .default standardFields (.ofSource fun _ _ => .abandon)
        (.ofSource fun _ _ => .abandon) (.ofUrl "/search?page=3") = .ok fresh ∧
      (c.run unsettled).phase = .searching ∧
      ((c.run unsettled).step (.visit (.parse "page=3"))).followAddress.1 = .ok true ∧
      Resembles fresh ((c.run unsettled).step (.visit (.parse "page=3"))).followAddress.2 := by
  obtain ⟨c, hcreate, hcheck⟩ := exists_ok_of_check
    (create .default standardFields (.ofSource fun _ _ => .hold)
      (.ofSource fun _ _ => .hold) (.ofUrl "/search?q=a"))
    (fun c : Controller Unit => decide ((c.run unsettled).phase = .searching ∧
      ((c.run unsettled).step (.visit (.parse "page=3"))).followAddress.1 = .ok true))
    (by decide +kernel)
  obtain ⟨hsearching, hchanged⟩ := of_decide_eq_true hcheck
  have hbar : (AddressBar.ofUrl "/search?page=3").current = .parse "page=3" := by
    decide +kernel
  rw [← hbar] at hchanged ⊢
  obtain ⟨fresh, hfresh, hresembles⟩ := followAddress_resembles_new hcreate hchanged
  exact ⟨c, fresh, hcreate, hfresh, hsearching, hchanged, hresembles⟩

end Controller

end RecordSearch
