import Flowcheck.Decimal.Shortest
import Flowcheck.Ir.Shown
import Flowcheck.Main
import Flowcheck.Proofs.Command.Parse
import Flowcheck.Proofs.Ir.Soundness
import Flowcheck.Proofs.Pattern.Matching
import Flowcheck.Proofs.Sexp.Grammar
import Flowcheck.Proofs.Sexp.Lines
import Flowcheck.Proofs.Sexp.RoundTrip
import Flowcheck.Sexp.Cursor
import Flowcheck.Proofs.Ir.Bundles
import Flowcheck.Proofs.Oracle.Edges
import Flowcheck.Proofs.Oracle.Decoding
import Flowcheck.Proofs.Oracle.Walk
import Flowcheck.Proofs.Oracle.Verdict
import Flowcheck.Proofs.Oracle.Agreement
import Flowcheck.Proofs.Document.Building
import Flowcheck.Proofs.Document.RoundTrip
import Flowcheck.Proofs.Sexp.Adequacy
import Flowcheck.Proofs.Ir.Freezing
import Flowcheck.Proofs.Ir.Membership
import Flowcheck.Proofs.Pass.Check
import Flowcheck.Proofs.Traversal.Depth
import Flowcheck.Proofs.Pass.Manager
import Flowcheck.Proofs.Document.Loading
import Flowcheck.Proofs.Ir.Views
import Flowcheck.Pass.Operation
import Flowcheck.Proofs.Pass.Registry
import Flowcheck.Proofs.Pass.Installed
import Flowcheck.Proofs.Command.Run
import Flowcheck.Proofs.Command.Status
import Flowcheck.Proofs.Ir.Tree
import Flowcheck.Proofs.Traversal.Order
import Flowcheck.Proofs.Traversal.Calls
import Flowcheck.Proofs.Ir.Diagnosis
import Flowcheck.Proofs.Ir.Reachability
import Flowcheck.Proofs.Pattern.Formation
import Flowcheck.Proofs.Ir.Renumbering
import Flowcheck.Proofs.Document.Numbers
import Flowcheck.Proofs.Document.Reports
import Flowcheck.Proofs.Sexp.Escapes
import Flowcheck.Proofs.Sexp.Descent
import Flowcheck.Proofs.Sexp.Faults
import Flowcheck.Proofs.Oracle.Literals
import Flowcheck.Proofs.Pattern.Notation
import Flowcheck.Proofs.Text.Utf8
import Flowcheck.Sexp.File
import Flowcheck.Proofs.Document.Blame
import Flowcheck.Proofs.Sexp.Newlines
import Flowcheck.Proofs.Ir.Refusal
import Flowcheck.Proofs.Sexp.Layout
import Flowcheck.Sexp.Stream
import Flowcheck.Proofs.Sexp.Delivery
import Flowcheck.Proofs.Traversal.Coverage
import Flowcheck.Proofs.Traversal.Registration
import Flowcheck.Proofs.Document.Construction
