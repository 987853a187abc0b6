import Gradebook.Client.Network
import Gradebook.Client.Sync
import Gradebook.Command.Run
import Gradebook.Config
import Gradebook.Grading.Controller
import Gradebook.Ledger.Summary
import Gradebook.Main
import Gradebook.Notebook.Basic
import Gradebook.Service.Basic
import Gradebook.Transport.Socket
import Gradebook.Proofs.Dict
import Gradebook.Proofs.Json.Keep
import Gradebook.Proofs.Json.Reading
import Gradebook.Proofs.Json.Acceptance
import Gradebook.Proofs.Ledger.Entry
import Gradebook.Proofs.Ledger.Notebook
import Gradebook.Proofs.Ledger.Operations
import Gradebook.Proofs.Ledger.Payload
import Gradebook.Proofs.Ledger.Grammar
import Gradebook.Proofs.Ledger.Ensured
import Gradebook.Proofs.Client.Dialogue
import Gradebook.Proofs.Grading.Operation
import Gradebook.Proofs.Grading.Log
import Gradebook.Proofs.Digits
import Gradebook.Proofs.Json.Tokens
import Gradebook.Proofs.Doubles
import Gradebook.Proofs.Json.Text
import Gradebook.Proofs.Json.Depth
import Gradebook.Proofs.Json.Durable
import Gradebook.Proofs.Ledger.Canonical
import Gradebook.Proofs.Submission
import Gradebook.Proofs.Service.Route
import Gradebook.Proofs.Service.Store
import Gradebook.Proofs.Service.Answer
import Gradebook.Proofs.Service.Authorization
import Gradebook.Proofs.Client.Exchange
import Gradebook.Proofs.Client.Saving
import Gradebook.Proofs.Grading.Saving
import Gradebook.Proofs.Score
import Gradebook.Proofs.Ledger.Cell
import Gradebook.Proofs.Grading.Refusal
import Gradebook.Proofs.Grading.Denied
import Gradebook.Proofs.Grading.Widgets
import Gradebook.Proofs.Grading.View
import Gradebook.Proofs.Command.Budget
import Gradebook.Proofs.Service.Replacement
import Gradebook.Proofs.Service.History
import Gradebook.Proofs.Client.Interleaving
import Gradebook.Proofs.Client.Concurrency
import Gradebook.Proofs.Client.LostUpdate
import Gradebook.Proofs.Json.Path
import Gradebook.Proofs.Ledger.Depth
import Gradebook.Proofs.Ledger.Durable
import Gradebook.Proofs.Ledger.Leaf
import Gradebook.Proofs.Client.Answers
import Gradebook.Proofs.Client.Loading
import Gradebook.Proofs.Client.RoundTrip
import Gradebook.Proofs.Command.Change
import Gradebook.Proofs.Command.Grade
import Gradebook.Proofs.Ledger.Setter
import Gradebook.Proofs.Client.Address
import Gradebook.Proofs.Grading.Disposal
import Gradebook.Proofs.Json.Documents
import Gradebook.Proofs.Json.Agreement
import Gradebook.Proofs.Ledger.Agreement
import Gradebook.Proofs.Client.Validation
import Gradebook.Proofs.Json.Addition
import Gradebook.Proofs.Notebook.Classification
import Gradebook.Proofs.Notebook.Tools
import Gradebook.Proofs.Ledger.Addition
import Gradebook.Proofs.Grading.Entering
import Gradebook.Proofs.Grading.Editing
import Gradebook.Proofs.Ledger.Slot
import Gradebook.Proofs.Ledger.View
import Gradebook.Proofs.Ledger.Run
import Gradebook.Proofs.Ledger.Commuting
import Gradebook.Proofs.Ledger.Summary
import Gradebook.Proofs.FilePath
import Gradebook.Proofs.Files
import Gradebook.Proofs.Config
import Gradebook.Proofs.Session
import Gradebook.Proofs.Notebook.Rewriting
import Gradebook.Proofs.Json.NaturalKeys
