import RecordSearch.Fixture
import RecordSearch.Terminal

/-!
# What the terminal shows

The address, a page of records, the choices of the visible fields, suggestions
and errors, each as spans for a terminal.
-/

namespace RecordSearch.Report

/-- The address shown. -/
def url (url : String) : List Span :=
  [.colored .cyan "url", .unstyled (" " ++ url ++ "\n")]

/-- A number set to the right in a column of six characters. -/
def idColumn (id : UInt64) : String :=
  let digits := toString id
  String.ofList (List.replicate (6 - digits.length) ' ') ++ digits

/-- The line of a record. -/
def record (r : Credential) : List Span :=
  [.colored .green (idColumn r.id), .unstyled ("  " ++ r.name),
   .colored .magenta ("  [" ++ r.entityType ++ "]"),
   .unstyled (" issuer " ++ toString r.issuerId)] ++
  (if r.inactive then [.colored .red " (inactive)"] else []) ++ [.unstyled "\n"]

/-- A page of records under its place among all results. -/
def results (page : ResultPage Credential) (pageSize : UInt32) : List Span :=
  match page.range pageSize with
  | none => [.colored .yellow ("No results (page " ++ toString page.page ++ ")\n")]
  | some range =>
    [.bold range.display, .unstyled (" (page " ++ toString page.page ++ ")\n")] ++
    page.data.flatMap record ++
    if page.hasNext pageSize then
      [.unstyled ("-- more results on page " ++ toString (followingPage page.page) ++ " --\n")]
    else []

/-- The line of a choice, marked if it is the field's value. -/
def choice (selected : Option String) (offered : Choice) : Span :=
  let mark := if selected = some offered.value then "*" else " "
  .unstyled ("  " ++ mark ++ " " ++ offered.label ++ "\n")

/-- The choices of every visible field that has any. -/
def choices (filters : Filters) : List Span :=
  filters.visibleSpecs.flatMap fun spec =>
    match filters.choices spec.name with
    | [] => []
    | offered =>
      .boldColored .magenta (spec.name ++ "\n") ::
        offered.map (choice (filters.value? spec.name))

/-- A term and the suggestions for it. -/
def suggestions (term : String) (list : List String) : List Span :=
  let shown := match list with
    | [] => "(none)"
    | list => String.intercalate ", " list
  [.colored .cyan (Text.quoted term), .unstyled (" -> " ++ shown ++ "\n")]

/-- An error. -/
def error (e : SearchError) : List Span :=
  [.boldColored .red "error", .unstyled (": " ++ e.message ++ "\n")]

end RecordSearch.Report
