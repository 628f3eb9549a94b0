import TxGateway.CommandLine.Arguments
import TxGateway.CommandLine.Command
import TxGateway.CommandLine.Run
import TxGateway.Document
import TxGateway.Document.Free
import TxGateway.Document.Json.Printer
import TxGateway.Document.Json.Reader
import TxGateway.Document.Record
import TxGateway.Document.Toml.Reader
import TxGateway.Document.Toml.Scalar
import TxGateway.Document.Toml.Strings
import TxGateway.Document.Toml.Tables
import TxGateway.Failure
import TxGateway.Fee
import TxGateway.Gateway
import TxGateway.Gateway.Session
import TxGateway.Http.Exchange
import TxGateway.Http.Explorer
import TxGateway.Http.Mining
import TxGateway.Http.NodeProxy
import TxGateway.Http.Recording
import TxGateway.Http.Services
import TxGateway.Http.Url
import TxGateway.Main
import TxGateway.Merkle
import TxGateway.Merkle.Text
import TxGateway.Miner
import TxGateway.Network
import TxGateway.Operation.Broadcast
import TxGateway.Operation.FeeSurvey
import TxGateway.Operation.Race
import TxGateway.Operation.Search
import TxGateway.Operation.Verification
import TxGateway.Proofs.Activity
import TxGateway.Proofs.Arrivals
import TxGateway.Proofs.Broadcast.Verdict
import TxGateway.Proofs.Contacts
import TxGateway.Proofs.FeeSurvey.Survivors
import TxGateway.Proofs.Gateway.Eligibility
import TxGateway.Proofs.Gateway.Uses
import TxGateway.Proofs.Race.Winner
import TxGateway.Proofs.Response
import TxGateway.Proofs.Search.Walk
import TxGateway.Provider
import TxGateway.Provider.Answer
import TxGateway.Provider.Call
import TxGateway.Provider.Error
import TxGateway.Provider.Family
import TxGateway.Provider.Wording
import TxGateway.Purpose
import TxGateway.Roster
import TxGateway.Schedule.Activity
import TxGateway.Schedule.EventLoop
import TxGateway.Schedule.Latch
import TxGateway.Schedule.Scope
import TxGateway.Scripted
import TxGateway.Secret
import TxGateway.Settings
import TxGateway.Settings.Codec
import TxGateway.Settings.Load
import TxGateway.Settings.Reference
import TxGateway.Settings.Validation
import TxGateway.Text.Blank
import TxGateway.Text.Digits
import TxGateway.Text.LowerCase
import TxGateway.Text.LowerCase.Table
import TxGateway.Text.Quoted
import TxGateway.Text.Quoted.Table
import TxGateway.Text.Utf8
import TxGateway.Timestamp
import TxGateway.Timestamp.Reader
import TxGateway.Transaction
import TxGateway.Word
import TxGateway.Proofs.Fee.Rate
import TxGateway.Proofs.FeeSurvey.Selection
import TxGateway.Proofs.Gateway.Soundness
import TxGateway.Proofs.Broadcast.FirstAcceptance
import TxGateway.Proofs.Traffic.Process
import TxGateway.Proofs.Traffic.Plan
import TxGateway.Proofs.FirstDelivery
import TxGateway.Proofs.Traffic.Alone
import TxGateway.Proofs.Traffic.Faithful
import TxGateway.Proofs.Traffic.Runtime
import TxGateway.Proofs.Traffic.Progress
import TxGateway.Proofs.Traffic.Isolation
import TxGateway.Proofs.Settings.Substitution
import TxGateway.Proofs.Text.LowerCase
import TxGateway.Proofs.Wording
import TxGateway.Proofs.Broadcast.Failures
import TxGateway.Proofs.Gateway.Identity
import TxGateway.Proofs.Verification.FirstAnswer
import TxGateway.Proofs.Verification.BatchState
import TxGateway.Proofs.Broadcast.ForeignId
import TxGateway.Proofs.Http.Refusal
import TxGateway.Proofs.Race.AheadOfSearch
import TxGateway.Proofs.Http.RefusalWords
import TxGateway.Proofs.Redaction
import TxGateway.Proofs.Timestamp
import TxGateway.Proofs.Document.Table
import TxGateway.Proofs.Document.RoundTrip
import TxGateway.Proofs.Secrecy.Masking
import TxGateway.Proofs.Secrecy.Operations
import TxGateway.Proofs.Secrecy.Sessions
import TxGateway.Proofs.Deadline
import TxGateway.Proofs.Broadcast.Drain
import TxGateway.Proofs.Search.Trail
import TxGateway.Proofs.Broadcast.Calls
import TxGateway.Proofs.Gateway.EmptyRoster
import TxGateway.Proofs.Http.NetworkPath
import TxGateway.Proofs.Settings.Faults
import TxGateway.Proofs.Fee.Estimate
import TxGateway.Proofs.Gateway.Levels
import TxGateway.Proofs.Http.Acknowledgment
import TxGateway.Proofs.Text.Sigma
import TxGateway.Proofs.Wording.Literal
import TxGateway.Proofs.Gateway.Exclusion
import TxGateway.Proofs.Text.Digits
import TxGateway.Proofs.Merkle.Grammar
import TxGateway.Proofs.Text.Utf8
import TxGateway.Proofs.Http.PublishedId
import TxGateway.Proofs.Fee.Order
import TxGateway.Proofs.Latch.Listeners
import TxGateway.Proofs.Scope.Flow
import TxGateway.Proofs.Scope.Queue
import TxGateway.Proofs.Scope.Progress
import TxGateway.Proofs.Scope.Prompt
import TxGateway.Proofs.Http.RequestTarget
