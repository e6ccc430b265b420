import RecordSearch.Proofs.Filters.Address
import RecordSearch.Proofs.QueryString

/-!
# What an address brings back

An address is kept as a bookmark and opened again, perhaps much later and in
another place. It then has to bring back what was searched for, though all it
has is the fields that were off their default. It does, for four reasons that are
proved elsewhere: values are trimmed when they are set, so trimming them once
more takes nothing away; a field that is not listed stands at its default; an alias is no
field's name, so a field that is not listed is not found under another key
either; and the query string reads back as the parameters.

An empty name is the exception, because an address cannot carry a pair with an
empty key.
-/

namespace RecordSearch.Filters

/-- The parameters hold the fields that are off their default and nothing else:
each one once, under its name, in the order of the declarations, with its value
in effect. -/
structure Lists (specs : List FieldSpec) (fs : Filters) : Prop where
  keys : fs.parameters.keys =
    (specs.filter fun spec => fs.value? spec.name ≠ spec.defaultValue).map (·.name)
  once : fs.parameters.keys.Nodup
  values : ∀ pair ∈ fs.parameters.pairs, fs.value? pair.1 = some pair.2

/-- Nobody who reads values can tell the filters apart. -/
structure ReadsAs (fs gs : Filters) : Prop where
  value : ∀ key, gs.value? key = fs.value? key
  values : gs.values = fs.values
  parameters : gs.parameters = fs.parameters

theorem lists (fs : Filters) : Lists fs.specs fs := by
  refine ⟨fs.parameters_keys, ?_, fun _ => value?_of_mem_parameters⟩
  rw [Parameters.keys, parameters_pairs]
  exact fs.addressEntries_nodup

theorem readsAs_of_standings {fs gs : Filters} (h : gs.standings = fs.standings) :
    ReadsAs fs gs :=
  ⟨value?_eq_of_standings h, values_eq_of_standings h, parameters_eq_of_standings h⟩

theorem parse_parameters {fs : Filters} (hnames : ∀ spec ∈ fs.specs, spec.name ≠ "") :
    Parameters.parse fs.parameters.encoded = fs.parameters := by
  rw [Parameters.parse_encoded]
  refine congrArg Parameters.mk (List.filter_eq_self.2 fun pair hpair => ?_)
  rw [parameters_pairs] at hpair
  obtain ⟨field, hfield, hentry⟩ := List.mem_filterMap.1 hpair
  have hname := hnames field.spec (List.mem_map_of_mem hfield)
  rw [(FieldState.addressEntry_key hentry).1]
  simpa using hname

/-- Fields that are read from the parameters of others stand as those do. -/
theorem readParameters_standings {fs gs : Filters} (hspecs : gs.specs = fs.specs)
    (hopen : gs.isClosed = false) (hnormal : fs.Normal) (source : Provenance) :
    (gs.readParameters fs.parameters source).2.standings = fs.standings := by
  refine standings_eq_of_effectives ((assign_specs gs _ source).trans hspecs) ?_
  rw [readParameters_effectives hopen, reading_eq_of_specs hspecs, reading_parameters hnormal]

/-- Whatever has been done to filters, the query string of their parameters
brings them back from nothing. -/
theorem parameters_restore {specs : List FieldSpec} {start : Filters}
    (hstart : ofSpecs specs = .ok start) (hnames : ∀ spec ∈ specs, spec.name ≠ "")
    (actions : List Action) (source : Provenance) :
    Lists specs (start.run actions) ∧
      Parameters.parse (start.run actions).parameters.encoded = (start.run actions).parameters ∧
      ∃ changed restored,
        start.readParameters (.parse (start.run actions).parameters.encoded) source =
          (.ok changed, restored) ∧
        ReadsAs (start.run actions) restored := by
  have hdeclared : start.specs = specs := ofSpecs_specs hstart
  have hspecs : (start.run actions).specs = specs := (run_specs start actions).trans hdeclared
  have hparse : Parameters.parse (start.run actions).parameters.encoded =
      (start.run actions).parameters := parse_parameters (hspecs.symm ▸ hnames)
  have hopen := ofSpecs_isClosed hstart
  have hanswer := readParameters_fst hopen (start.run actions).parameters source
  have hstandings := readParameters_standings (hdeclared.trans hspecs.symm) hopen
    (run_normal (ofSpecs_normal hstart) actions) source
  rw [hparse]
  exact ⟨hspecs ▸ lists (start.run actions), rfl, _, _, Prod.ext hanswer rfl,
    readsAs_of_standings hstandings⟩

/-- A value full of characters with a meaning, a default that was set by hand,
and a field addressed by its alias. -/
def bookmarked : List Action :=
  [.assign [("query", some " a+b/c?d=é&%20#\n ")] .user, .assign [("inactive", some "false")] .user,
    .assign [(pageField, some "3")] .pageTurn, .setChoices issuerField []]

theorem parameters_restore_bookmarked :
    ∃ start restored, ofSpecs standardFields = .ok start ∧
      (∀ spec ∈ standardFields, spec.name ≠ "") ∧
      (start.run bookmarked).parameters.encoded = "q=a%2Bb%2Fc%3Fd%3D%C3%A9%26%2520%23&page=3" ∧
      (start.readParameters (.parse (start.run bookmarked).parameters.encoded) .address).2 =
        restored ∧
      ReadsAs (start.run bookmarked) restored := by
  have hnames : ∀ spec ∈ standardFields, spec.name ≠ "" := by decide
  obtain ⟨start, hstart, hencoded⟩ := exists_ok_of_check (ofSpecs standardFields)
    (fun start => decide ((start.run bookmarked).parameters.encoded =
      "q=a%2Bb%2Fc%3Fd%3D%C3%A9%26%2520%23&page=3")) (by decide +kernel)
  obtain ⟨_, _, changed, restored, hread, hsame⟩ :=
    parameters_restore hstart hnames bookmarked .address
  exact ⟨start, restored, hstart, hnames, of_decide_eq_true hencoded, by rw [hread], hsame⟩

end RecordSearch.Filters
