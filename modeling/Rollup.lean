import Rollup.Event
import Rollup.Inquiry
import Rollup.SearchResults
import Rollup.Proofs.SiblingNames
import Rollup.Proofs.EqualProperties
import Rollup.Proofs.Breakdown.Requoting
import Rollup.Proofs.Breakdown.Written
import Rollup.Proofs.Event.Reading
import Rollup.Proofs.Assembly
import Rollup.Proofs.Payload
import Rollup.Proofs.Accounting
import Rollup.Proofs.Repetition
import Rollup.Proofs.Reordering
import Rollup.Proofs.Inquiry.FirstFault
import Rollup.Proofs.TotalsRun
import Rollup.Proofs.RenderedRequests
import Rollup.Proofs.Filtering
import Rollup.Proofs.Inquiry.ConfiguredFilters
import Rollup.Proofs.InsertionOrder
import Rollup.Proofs.Settings
import Rollup.Proofs.Inquiry.Defaults
import Rollup.Proofs.Inquiry.Environment
import Rollup.Proofs.Inquiry.SentBounds
import Rollup.Proofs.Inquiry.Spellings
import Rollup.Proofs.Inquiry.LogLines
import Rollup.Proofs.Breakdown.BareReports
import Rollup.Proofs.Spine
import Rollup.Proofs.AddedTotals
import Rollup.Proofs.SearchQuery.Joined
import Rollup.Proofs.Interval.Span
import Rollup.Proofs.WindowTexts
import Rollup.Proofs.Inquiry.DefaultWindow
import Rollup.Proofs.Json.Descent
import Rollup.Proofs.OpenDrafts
