import Outdent.Files.Report
import Outdent.Marker.Live
import Outdent.Options.Outcome
import Outdent.Proofs.Refusal
import Outdent.Proofs.Authority
import Outdent.Proofs.Depth
import Outdent.Proofs.Destination
import Outdent.Proofs.Interpolation
import Outdent.Proofs.Lens
import Outdent.Proofs.Linewise
import Outdent.Proofs.Meaning
import Outdent.Proofs.Mending
import Outdent.Proofs.Nearest
import Outdent.Proofs.Phases
import Outdent.Proofs.Repetition
import Outdent.Proofs.Resolution
import Outdent.Proofs.Rest
import Outdent.Proofs.Screens
import Outdent.Proofs.Tokens
import Outdent.Proofs.Untouched
import Outdent.Template.Items
