import TxGateway.Document.Record
import TxGateway.Text.Blank

namespace TxGateway

/-! # Secrets

A credential that must not show in what is written. Only requests carry its text; every written
form is the same mark, whatever the secret is.
-/

/-- A credential. -/
structure Secret where
  plain : String
deriving DecidableEq, Repr

namespace Secret

/-- What stands for a secret wherever it is written. -/
def redaction : String := "***REDACTED***"

/-- A secret with nothing but blanks in it is no credential. -/
def isBlank (s : Secret) : Bool := Text.isBlankText s.plain

/-- The value of a bearer header. -/
def bearer (s : Secret) : String := "Bearer " ++ s.plain

/-- The secret in a document. -/
def toDocument (_ : Secret) : Document := .text redaction

/-- The secret in a message. -/
def display (_ : Secret) : String := redaction

/-- The secret in a diagnostic. -/
def inspect (_ : Secret) : String := "SecretString(" ++ redaction ++ ")"

def ofDocument? (d : Document) : Option Secret := d.text?.map Secret.mk

/-- The secret, if there is one that can be used. -/
def usable? (s : Option Secret) : Option Secret := s.filter fun s => !s.isBlank

end Secret

end TxGateway
