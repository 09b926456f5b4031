import TestTree.Formatter.Feed
import TestTree.Future.Completion
import TestTree.Panic.Drill
import TestTree.Script.Plan
import TestTree.Script.Trial
import TestTree.Proofs.Registration.Custody
import TestTree.Proofs.Registration.Failing
import TestTree.Proofs.Run.Counts
import TestTree.Proofs.Run.Stream
import TestTree.Proofs.Run.Calls
import TestTree.Proofs.Run.Parting
import TestTree.Proofs.Run.Audience
import TestTree.Proofs.Run.Reach
import TestTree.Proofs.Run.Guarding
import TestTree.Proofs.Run.Logging
import TestTree.Proofs.Run.Suspensions
import TestTree.Proofs.Overlap.Independence
import TestTree.Proofs.Overlap.Ensemble
import TestTree.Proofs.Panic.Remains
import TestTree.Proofs.Panic.Isolation
import TestTree.Proofs.Report.Lookup
import TestTree.Proofs.Formatter.Unambiguous
import TestTree.Proofs.Formatter.Coloring
