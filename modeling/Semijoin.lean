import Semijoin.Declaration.Build
import Semijoin.Declaration.Read
import Semijoin.Document.Metrics
import Semijoin.Proofs.Capture
import Semijoin.Proofs.Construction
import Semijoin.Proofs.Decorrelation
import Semijoin.Proofs.Faults
import Semijoin.Proofs.Isolation
import Semijoin.Proofs.Membership
import Semijoin.Proofs.Merging
import Semijoin.Proofs.ModelMode
import Semijoin.Proofs.Naming
import Semijoin.Proofs.Operations
import Semijoin.Proofs.Quoting
import Semijoin.Proofs.Requests
import Semijoin.Proofs.Scopes
import Semijoin.Proofs.Tally
import Semijoin.Proofs.Turns
import Semijoin.Proofs.Unambiguous
import Semijoin.Session
import Semijoin.Sql.Equality
import Semijoin.Sql.Printer
