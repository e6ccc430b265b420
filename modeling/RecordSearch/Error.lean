import RecordSearch.Text.Quoted

/-!
# What can go wrong in a search

Two of the errors are for the person who searches: a blank query, and a failure
of the backend. The others tell the caller that fields were declared wrongly,
that an answer came too late, or that the controller is gone.
-/

namespace RecordSearch

/-- Why an operation was refused. -/
inductive SearchError
  /-- None of the fields that a query needs holds a value. -/
  | blankQuery (fields : List String)
  /-- No field has this name or alias. -/
  | unknownField (name : String)
  /-- Two fields, or a field's name and its alias, share a key. -/
  | duplicateField (name : String)
  /-- The backend failed to answer. -/
  | queryFailure (message : String)
  /-- Nobody waits for the answer any more. -/
  | canceled
  /-- The controller, or the filters, have been torn down. -/
  | disposed
deriving DecidableEq, Repr, Inhabited

/-- A failure that a loader reports. -/
structure LoadFailure where
  message : String
deriving DecidableEq, Repr, Inhabited

namespace SearchError

/-- The failure of a load as an error of the search. -/
def ofLoad (e : LoadFailure) : SearchError :=
  .queryFailure e.message

/-- The wording of an error. -/
def message : SearchError → String
  | .blankQuery fields =>
    "blank query: one of " ++ Text.quotedList fields ++ " must be filled in"
  | .unknownField name => "unknown filter field: " ++ name
  | .duplicateField name => "duplicate filter field: " ++ name
  | .queryFailure message => "query failed: " ++ message
  | .canceled => "request canceled"
  | .disposed => "controller disposed"

/-- Whether the person who searches should see the error. -/
def isUserVisible : SearchError → Bool
  | .blankQuery _ | .queryFailure _ => true
  | _ => false

end SearchError

end RecordSearch
