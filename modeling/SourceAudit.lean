import SourceAudit.Main
import SourceAudit.Proofs.Agenda
import SourceAudit.Proofs.Bookkeeping
import SourceAudit.Proofs.Disabling
import SourceAudit.Proofs.FailFast
import SourceAudit.Proofs.Loading
import SourceAudit.Proofs.Positions
import SourceAudit.Proofs.Product
import SourceAudit.Proofs.Reuse
import SourceAudit.Proofs.Views
import SourceAudit.Proofs.Independence
import SourceAudit.Proofs.LineRules
import SourceAudit.Proofs.Walking
import SourceAudit.Proofs.Rendering
import SourceAudit.Proofs.Delivery
import SourceAudit.Proofs.TokenRules
import SourceAudit.Proofs.Markers
import SourceAudit.Proofs.Excluding
import SourceAudit.Proofs.Drafting
import SourceAudit.Proofs.LineEnds
import SourceAudit.Proofs.Diagnostics
import SourceAudit.Proofs.Restarting
import SourceAudit.Proofs.Layering
import SourceAudit.Proofs.Cursor
import SourceAudit.Proofs.Naming
