import RecordSearch.Controller.Run
import RecordSearch.Json.Item
import RecordSearch.Main
import RecordSearch.Proofs.AddressBar
import RecordSearch.Proofs.CommandLine.QueryArguments
import RecordSearch.Proofs.CommandLine.SearchRun
import RecordSearch.Proofs.CommandLine.SuggestRun
import RecordSearch.Proofs.Controller.AddressInStep
import RecordSearch.Proofs.Controller.ChoicesOrder
import RecordSearch.Proofs.Controller.Disposal
import RecordSearch.Proofs.Controller.PageTurns
import RecordSearch.Proofs.Controller.Phases
import RecordSearch.Proofs.Controller.Rejections
import RecordSearch.Proofs.Controller.Unsubmitted
import RecordSearch.Proofs.Filters.OffDefault
import RecordSearch.Proofs.Filters.Rewriting
import RecordSearch.Proofs.Filters.Updates
import RecordSearch.Proofs.PageArithmetic
import RecordSearch.Proofs.Patching
import RecordSearch.Proofs.Suggestions
