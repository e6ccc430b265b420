import RecordSearch.Proofs.Schema

/-!
# Loading what was saved

Settings that could be saved are the settings that the next run loads, and a fixture that
could be written is the one that a search asks. Writing a file puts it where a path
leads, and afterwards the path has to lead there still. It does, because a path is
followed through directories only: where a file can be put there was no directory before,
and none is there now.
-/

namespace RecordSearch

namespace Files

variable {files : Files} {place other : List String}

theorem lookup_filter_ne (h : other ≠ place) (nodes : List (List String × FileNode)) :
    (nodes.filter (·.1 ≠ place)).lookup other = nodes.lookup other := by
  induction nodes with
  | nil => rfl
  | cons entry rest ih =>
      by_cases hentry : entry.1 = place
      · have hother : (other == entry.1) = false := beq_eq_false_iff_ne.2 (hentry ▸ h)
        rw [List.filter_cons_of_neg (by simpa using hentry), ih, List.lookup_cons, hother]
      · rw [List.filter_cons_of_pos (by simpa using hentry), List.lookup_cons, List.lookup_cons, ih]

theorem node?_put_self (h : place ≠ []) (node : FileNode) :
    (files.put place node).node? place = some node := by
  rw [node?, if_neg h, put, List.lookup_cons_self]

theorem node?_put_of_ne (h : other ≠ place) (node : FileNode) :
    (files.put place node).node? other = files.node? other := by
  rw [node?, node?, put, List.lookup_cons, beq_eq_false_iff_ne.2 h]
  dsimp only
  rw [lookup_filter_ne h]

theorem isDirectory_put_file (h : files.isDirectory place = false) (content : ByteArray)
    (other : List String) :
    (files.put place (.file content)).isDirectory other = files.isDirectory other := by
  by_cases hother : other = place
  · have hplace : place ≠ [] := by
      rintro rfl
      cases h
    rw [hother, h, isDirectory, node?_put_self hplace]
  · rw [isDirectory, isDirectory, node?_put_of_ne hother]

theorem walk_put_file (h : files.isDirectory place = false) (content : ByteArray)
    (start names : List String) :
    (files.put place (.file content)).walk start names = files.walk start names := by
  induction names generalizing start with
  | nil => rfl
  | cons name rest ih => rw [walk, walk, isDirectory_put_file h, ih, ih, ih]

/-- A file that could be written is there and holds what was written. -/
theorem readText_of_writeText {written : Files} {path text : String}
    (h : files.writeText path text = some written) :
    written.exists? path = true ∧ written.readText path = some text := by
  rw [writeText] at h
  split at h
  · cases h
  · next place hplace =>
      split at h
      · cases h
      · next hnot =>
          have hfile : files.isDirectory place = false := Bool.eq_false_iff.2 hnot
          have hroot : place ≠ [] := by
            rintro rfl
            exact hnot rfl
          obtain rfl := Option.some.inj h
          have hresolve : (files.put place (.file text.toUTF8)).resolve path = some place := by
            rw [← hplace, resolve, resolve, walk_put_file hfile]
            rfl
          have hdecoded : String.fromUTF8? text.toUTF8 = some text := dif_pos text.isValidUTF8
          rw [exists?, readText, hresolve, Option.bind_some, node?_put_self hroot]
          dsimp only
          rw [node?_put_self hroot]
          exact ⟨rfl, hdecoded⟩

end Files

namespace Settings

/-- Settings that could be saved are loaded from where they were saved. -/
theorem load_of_save {settings : Settings} {files written : Files} {path : String}
    (h : settings.save files path = .ok written) : load written path = .ok settings := by
  rw [save] at h
  split at h
  · cases h
  · next hwritten =>
      obtain rfl := Except.ok.inj h
      obtain ⟨hexists, htext⟩ := Files.readText_of_writeText hwritten
      rw [load, if_pos hexists, htext]
      dsimp only
      rw [parse?_text]

end Settings

/-- A fixture that could be written is loaded from where it was written. -/
theorem Fixture.load_of_writeText {files written : Files} {path text : String} {data : Fixture}
    (h : files.writeText path text = some written) (hparse : parse? text = some data) :
    load written path = .ok data := by
  obtain ⟨_, htext⟩ := Files.readText_of_writeText h
  rw [load, htext]
  dsimp only
  rw [hparse]

/-- A fixture in the only file there is. -/
theorem Fixture.load_only {text : String} {data : Fixture} (hparse : parse? text = some data) :
    load ⟨[(["r"], .file text.toUTF8)], []⟩ "r" = .ok data := by
  have hnames : Files.names "r" = ["r"] := by
    rw [Files.names, String.splitOn, if_neg (by decide), String.splitOnAux,
      if_neg (by decide +kernel), if_neg (by decide +kernel), String.splitOnAux,
      if_pos (by decide +kernel)]
    decide +kernel
  have hplace : Files.resolve ⟨[], []⟩ "r" = some ["r"] := by
    rw [Files.resolve, if_pos (by decide +kernel), hnames]
    decide +kernel
  have hwritten : Files.writeText ⟨[], []⟩ "r" text =
      some ⟨[(["r"], .file text.toUTF8)], []⟩ := by
    rw [Files.writeText, hplace]
    rfl
  exact load_of_writeText hwritten hparse

end RecordSearch
