import Extremum.Session.Evaluating
import Extremum.Text.Case
import Extremum.Value.Equality
import Extremum.Value.Making
import Extremum.Proofs.Binary64.Order
import Extremum.Proofs.Problem.WellFormed
import Extremum.Proofs.Perform
import Extremum.Proofs.Problem.Edit
import Extremum.Proofs.Session.Equations
import Extremum.Proofs.Session.Progress
import Extremum.Proofs.Session.Call
import Extremum.Proofs.Solver.Ownership
import Extremum.Proofs.Settings
import Extremum.Proofs.Solver.Creation
import Extremum.Proofs.Solver.Lifecycle
import Extremum.Proofs.Problem.Mutation
import Extremum.Proofs.Session.Undisturbed
import Extremum.Proofs.Binary64.Nearest
import Extremum.Proofs.Binary64.Stored
import Extremum.Proofs.Solver.Demand
import Extremum.Proofs.Solver.Failure
import Extremum.Proofs.Binary64.Rounding
import Extremum.Proofs.Binary64.Sums
import Extremum.Proofs.Binary64.Arithmetic
import Extremum.Proofs.Interval
import Extremum.Proofs.Problem.Feasibility
import Extremum.Proofs.Problem.Widening
import Extremum.Proofs.Problem.Lineage
import Extremum.Proofs.Problem.Summary
import Extremum.Proofs.Rows
import Extremum.Proofs.Function.Shape
import Extremum.Proofs.Function.Jacobian
import Extremum.Proofs.Session.Parameters
import Extremum.Proofs.Entries
import Extremum.Proofs.Binary64.Distance
import Extremum.Proofs.Function.DebugMode
import Extremum.Proofs.Function.Answers
import Extremum.Proofs.Function.Symmetry
import Extremum.Proofs.Function.Verdict
import Extremum.Proofs.Function.Differences
import Extremum.Proofs.Function.Requests
import Extremum.Proofs.Exact.Coordinates
import Extremum.Proofs.Exact.Numeric
import Extremum.Proofs.Exact.Polynomial
import Extremum.Proofs.Exact.Differences
import Extremum.Proofs.Exact.Expansion
import Extremum.Proofs.Exact.Symbolic
import Extremum.Proofs.Exact.Forms
import Extremum.Proofs.Exact.Special
import Extremum.Proofs.Logging.Registry
import Extremum.Proofs.Logging.Style
import Extremum.Proofs.Settings.Confinement
import Extremum.Proofs.Solver.Solitude
import Extremum.Proofs.Solver.Independence
import Extremum.Proofs.Session.Merging
import Extremum.Proofs.Problem.Stepwise
import Extremum.Proofs.Problem.Acceptance
import Extremum.Proofs.Solver.StartingPoint
import Extremum.Proofs.Binary64.Monotone
import Extremum.Proofs.Binary64.Exact
import Extremum.Proofs.Interval.Containment
import Extremum.Proofs.Problem.Relaxation
import Extremum.Proofs.Interval.Classification
import Extremum.Proofs.Interval.Tolerance
import Extremum.Proofs.Text.Case
import Extremum.Proofs.Session.Registration
import Extremum.Proofs.Solver.Directory
import Extremum.Proofs.Session.Nesting
