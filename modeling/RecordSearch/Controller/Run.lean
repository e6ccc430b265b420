import RecordSearch.Controller.Basic
import RecordSearch.Waiting

/-!
# Runs of a controller

Everything that can happen to a controller from outside, as one type of
actions: what the person does to the form and the address bar, what the
program calls, and what the two backends answer. A run is a list of actions.

The answers come at times of the backends' choosing, so completing a request is
an action like the others. A program that wants the answer before it goes on has to
tick and pause until nothing is in flight.
-/

namespace RecordSearch.Controller

variable {ι : Type}

/-- Everything that can happen to a controller. -/
inductive Action (ι : Type)
  | edit (edit : Form.Edit)
  | submit
  | turnPage (turn : PageTurn)
  /-- The address bar shows new parameters; the controller is not told. -/
  | visit (params : Parameters)
  /-- The program changes the parameters shown. -/
  | navigate (patch : Patch)
  | followAddress
  | poll
  | takeHandle
  | refresh (handle : Nat)
  | complete (number : Nat) (outcome : PageAnswer ι)
  | abandon (number : Nat)
  | completePreload (outcome : PageAnswer Choice)
  | abandonPreload
  | dispose

/-- What an action answers. -/
inductive Reply
  | done
  | submitted (outcome : Except SearchError Unit)
  | turned (outcome : Except SearchError UInt32)
  | routed (outcome : Except SearchError Bool)
  | handle (outcome : Except SearchError Nat)
  /-- None if there was nothing to answer, or no such handle. -/
  | delivered (outcome : Option (Except SearchError Unit))
  | abandoned (possible : Bool)

/-- Carries out an action. -/
def perform (c : Controller ι) : Action ι → Reply × Controller ι
  | .edit edit => (.done, { c with form := c.form.edit edit })
  | .submit => let (outcome, c) := c.submit; (.submitted outcome, c)
  | .turnPage turn => let (outcome, c) := c.turnPage turn; (.turned outcome, c)
  | .visit params => (.done, { c with addressBar := c.addressBar.visit params })
  | .navigate patch => (.done, { c with addressBar := c.addressBar.update patch })
  | .followAddress => let (outcome, c) := c.followAddress; (.routed outcome, c)
  | .poll => (.done, c.poll)
  | .takeHandle => let (outcome, c) := c.takeHandle; (.handle outcome, c)
  | .refresh handle => let (outcome, c) := c.refresh handle; (.delivered outcome, c)
  | .complete number outcome =>
    let (delivery, searches) := c.searches.complete number outcome
    (.delivered delivery, { c with searches := searches })
  | .abandon number =>
    let (possible, searches) := c.searches.abandon number
    (.abandoned possible, { c with searches := searches })
  | .completePreload outcome =>
    let (delivery, preloads) := c.preloads.complete 0 outcome
    (.delivered delivery, { c with preloads := preloads })
  | .abandonPreload =>
    let (possible, preloads) := c.preloads.abandon 0
    (.abandoned possible, { c with preloads := preloads })
  | .dispose => (.done, c.dispose)

/-- The controller after an action. -/
def step (c : Controller ι) (action : Action ι) : Controller ι :=
  (c.perform action).2

/-- The controller after a run. -/
def run (c : Controller ι) (actions : List (Action ι)) : Controller ι :=
  actions.foldl step c

/-- Waiting for the search in flight, at a backend that answers by a function. -/
def waiting (reply : Query → PageAnswer ι) : Waiting (Controller ι) where
  look := poll
  awaited c := c.flight.map (·.number)
  serve service number c := { c with searches := c.searches.serve service reply number }

end RecordSearch.Controller
