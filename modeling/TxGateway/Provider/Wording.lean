import TxGateway.Text.LowerCase

namespace TxGateway

/-! # The wording of refusals

A provider may refuse a transaction because it has it already, or because it does not know yet what
the transaction spends. Only the words of the refusal tell. `Wording` is such a family of words, and
`Wording.classify` sorts a message into one of three classes.

A message matches a pattern when the pattern occurs in it, both in lower case. Words that say the
transaction is known win over words that leave it open.
-/

/-- A family of words, with the number of its edition. -/
structure Wording where
  name : String
  version : Nat
  patterns : List String
deriving DecidableEq, Repr

/-- What a refusal means. -/
inductive Refusal where
  /-- The provider has the transaction already. -/
  | alreadyKnown
  /-- The provider may have it; a look-up can tell. -/
  | questionable
  | failure
deriving DecidableEq, Repr

namespace Wording

/-- Whether `pattern` occurs in `message`, both in lower case. -/
def mentions (message pattern : String) : Bool :=
  Text.occursIn (Text.lower pattern.toList) (Text.lower message.toList)

/-- Whether one of the patterns occurs in `message`. -/
def anyIn (patterns : List String) (message : String) : Bool :=
  patterns.any (mentions message)

def foundIn (w : Wording) (message : String) : Bool := anyIn w.patterns message

/-- Words for a transaction that the provider has already. -/
def known : Wording where
  name := "success-equivalent"
  version := 1
  patterns := ["txn-already-known", "txn-already-in-mempool", "transaction already in the mempool",
    "already in the mempool", "already in mempool", "transaction already known", "already known"]

/-- Words for a transaction whose inputs the provider does not find. -/
def doubtful : Wording where
  name := "questionable"
  version := 1
  patterns := ["missing inputs", "missingorspent", "inputs missing", "missing-inputs"]

/-- The families of words, the one that wins first. -/
def all : List Wording := [known, doubtful]

/-- The class of a refusal with the given message. -/
def classify (message : String) : Refusal :=
  if known.foundIn message then .alreadyKnown
  else if doubtful.foundIn message then .questionable
  else .failure

end Wording

end TxGateway
