import TxGateway.Purpose
import TxGateway.Settings.Validation
import TxGateway.Text.Quoted
import TxGateway.Transaction

namespace TxGateway

/-! # Failures

Why an operation of the gateway, or its construction, has failed.
-/

inductive Failure where
  | shortId
  | blankHex
  | unknownInclusion (reason : String)
  /-- No provider gave a record that reaches the wanted inclusion in time. -/
  | notFound
  /-- No provider took the transaction; one entry a provider. -/
  | broadcastFailed (entries : String)
  | noProviders (purpose : Purpose)
  | noBroadcastMiners
  | noQueryMiners
  | noVerifiers
  | rootsNotConfirmed (roots : List String)
  | verificationFailed (reason : String)
  | misconfigured (reason : String)
deriving DecidableEq, Repr

namespace Failure

/-- The failure of settings that are not valid. -/
def invalid (v : Violation) : Failure := .misconfigured s!"Validation error: {v.message}"

def message : Failure → String
  | .shortId => s!"Invalid transaction id: must be at least {TxId.minLength} characters"
  | .blankHex => "Invalid transaction hex: must not be empty"
  | .unknownInclusion reason => s!"Invalid requirement: {reason}"
  | .notFound => "Transaction not found"
  | .broadcastFailed entries => s!"Broadcast failed: {entries}"
  | .noProviders purpose => s!"No providers available for {purpose.name}"
  | .noBroadcastMiners => "No broadcast miners available"
  | .noQueryMiners => "No query miners available"
  | .noVerifiers => "No merkle-root verification providers configured"
  | .rootsNotConfirmed roots => "Merkle roots not confirmed: " ++ ", ".intercalate roots
  | .verificationFailed reason => s!"Merkle-root verification failed: {reason}"
  | .misconfigured reason => s!"Configuration error: {reason}"

/-- The name of the kind of failure. -/
def label : Failure → String
  | .shortId => "InvalidTransactionId"
  | .blankHex => "InvalidTransactionHex"
  | .unknownInclusion _ => "InvalidRequirement"
  | .notFound => "TransactionNotFound"
  | .broadcastFailed _ => "BroadcastFailed"
  | .noProviders _ => "NoProviders"
  | .noBroadcastMiners => "NoBroadcastMiners"
  | .noQueryMiners => "NoQueryMiners"
  | .noVerifiers => "NoMerkleVerifiers"
  | .rootsNotConfirmed _ => "MerkleRootsNotConfirmed"
  | .verificationFailed _ => "MerkleVerification"
  | .misconfigured _ => "Config"

/-- What the failure carries, in a diagnostic. -/
def detail? : Failure → Option String
  | .unknownInclusion text | .broadcastFailed text | .verificationFailed text
  | .misconfigured text => some (Text.quoted text)
  | .noProviders purpose => some purpose.inspect
  | .rootsNotConfirmed roots => some (Text.quotedList roots)
  | _ => none

/-- The failure in a diagnostic. -/
def inspect (f : Failure) : String :=
  match f.detail? with
  | some detail => s!"{f.label}({detail})"
  | none => f.label

end Failure

end TxGateway
