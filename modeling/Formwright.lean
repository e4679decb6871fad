import Formwright.Main
import Formwright.Render.Refresh
import Formwright.Proofs.Render.WellFormed
import Formwright.Proofs.Render.Rows
import Formwright.Proofs.Render.Submission
import Formwright.Proofs.Render.Overlay
import Formwright.Proofs.Form.Order
import Formwright.Proofs.Form.Blocks
import Formwright.Proofs.Render.Listeners
import Formwright.Proofs.Render.Targets
import Formwright.Proofs.Render.Cloning
import Formwright.Proofs.Render.FieldErrors
import Formwright.Proofs.Render.Noninterference
import Formwright.Proofs.Render.Verdict
import Formwright.Proofs.Render.Calls
import Formwright.Proofs.Render.Refresh
import Formwright.Proofs.Render.RefreshedRows
import Formwright.Proofs.Render.DefaultForm
import Formwright.Proofs.Form.Items
import Formwright.Proofs.Temporal.RoundTrip
import Formwright.Proofs.Form.ItemFaults
import Formwright.Proofs.CommandLine.Loading
import Formwright.Proofs.Render.Reporting
import Formwright.Proofs.CommandLine.Rendering
import Formwright.Proofs.Toml.Data
import Formwright.Proofs.Render.Choices
import Formwright.Proofs.Temporal.Shapes
import Formwright.Proofs.Render.StoredChoice
import Formwright.Proofs.Render.Reselection
import Formwright.Proofs.Render.ReadBack
import Formwright.Proofs.Text.ScriptEscaping
import Formwright.Proofs.Markup.Hiding
import Formwright.Proofs.Render.Hidden
import Formwright.Proofs.Render.Visibility
import Formwright.Proofs.Render.Agreement
import Formwright.Proofs.Render.Identity
import Formwright.Proofs.Render.Wrappers
import Formwright.Proofs.Form.MalformedItems
import Formwright.Proofs.Words.Plurals
import Formwright.Proofs.Render.ControlPaths
