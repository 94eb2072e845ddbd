import MatcherHost.Config.Read
import MatcherHost.Rules.Library
import MatcherHost.Running.Script
import MatcherHost.Tree.Render
import MatcherHost.Proofs.FirstRefusal
import MatcherHost.Proofs.Balance
import MatcherHost.Proofs.Framing
import MatcherHost.Proofs.Assembly
import MatcherHost.Proofs.Furthest
import MatcherHost.Proofs.Provenance
import MatcherHost.Proofs.Tracing
import MatcherHost.Proofs.Independence
import MatcherHost.Proofs.Logging
import MatcherHost.Proofs.NormalForm
import MatcherHost.Proofs.Grounds
import MatcherHost.Proofs.Merging
import MatcherHost.Proofs.Ordering
import MatcherHost.Proofs.Leaves
import MatcherHost.Proofs.Backreference
import MatcherHost.Proofs.Scopes
import MatcherHost.Proofs.Detaching
import MatcherHost.Proofs.Recognition
import MatcherHost.Proofs.Locating
import MatcherHost.Proofs.Scanning
import MatcherHost.Proofs.Windowing
import MatcherHost.Proofs.Quoting
import MatcherHost.Proofs.Skipping
import MatcherHost.Proofs.Registering
import MatcherHost.Proofs.Overlaying
