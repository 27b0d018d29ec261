import Bindery.Binding.Generate
import Bindery.Settings.Basic
import Bindery.Settings.Value
import Bindery.Host.FileTree
import Bindery.Host.EnvironmentFile
import Bindery.Number.Shortest
import Bindery.Settings.Variable
import Bindery.Settings.Toml
import Bindery.Settings.Extract
import Bindery.Settings.Load
import Bindery.Run.Outcome
import Bindery.Main
import Bindery.Log.Filter
import Bindery.Text.Json
import Bindery.Invocation.Usage
import Bindery.Number.Numeral
import Bindery.Text.Reader
import Bindery.Text.Letter
import Bindery.Proofs.Binding.Selection
import Bindery.Proofs.Counterpart.Order
import Bindery.Proofs.Counterpart.Renaming
import Bindery.Proofs.Counterpart.Insertion
import Bindery.Proofs.Member.Members
import Bindery.Proofs.Binding.Tidy
import Bindery.Proofs.Binding.Lines
import Bindery.Proofs.Binding.Tally
import Bindery.Proofs.Binding.Restriction
import Bindery.Proofs.Binding.Namespaces
import Bindery.Proofs.Binding.Reserved
import Bindery.Proofs.Run.Result
import Bindery.Proofs.Run.Splitting
import Bindery.Proofs.Run.Identifiers
import Bindery.Proofs.Run.Parser
import Bindery.Proofs.Run.Loads
import Bindery.Proofs.Run.Failure
import Bindery.Proofs.Settings.Precedence
import Bindery.Proofs.Document.Truncation
import Bindery.Proofs.Document.Loading
import Bindery.Proofs.Member.Order
import Bindery.Proofs.Binding.Bases
import Bindery.Proofs.Run.Functions
import Bindery.Proofs.Binding.Closing
import Bindery.Proofs.Binding.Reading
import Bindery.Proofs.Member.History
import Bindery.Proofs.Settings.Request
import Bindery.Proofs.Path.InPlace
import Bindery.Proofs.Document.Roots
import Bindery.Proofs.Path.Canonical
import Bindery.Proofs.Document.Documents
