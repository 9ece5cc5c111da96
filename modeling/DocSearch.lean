import DocSearch.Main
import DocSearch.Proofs.Cluster.Reply
import DocSearch.Proofs.CommandLine.Defaults
import DocSearch.Proofs.CommandLine.ExitCode
import DocSearch.Proofs.Filter.Grammar
import DocSearch.Proofs.Filter.Listed
import DocSearch.Proofs.Filter.Stored
import DocSearch.Proofs.Filter.WireMatches
import DocSearch.Proofs.Metrics.Readings
import DocSearch.Proofs.Query.Paths
import DocSearch.Proofs.Query.Wire
import DocSearch.Proofs.Query.Words
import DocSearch.Proofs.Scalar.Classes
import DocSearch.Proofs.Scalar.Inverted
import DocSearch.Proofs.Scalar.Printed
import DocSearch.Proofs.Service.Accounts
import DocSearch.Proofs.Service.Asking
import DocSearch.Proofs.Service.Integral
import DocSearch.Proofs.Service.Registered
import DocSearch.Proofs.Service.Typed
import DocSearch.Proofs.Service.Walk
import DocSearch.Proofs.Settings.Verbatim
import DocSearch.Proofs.Store.History
