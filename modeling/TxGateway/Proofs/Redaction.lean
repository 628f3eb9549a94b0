import TxGateway.Settings.Codec

namespace TxGateway

/-! # Redaction

What is left of a value when every secret in it has been replaced by the mark that is written for
secrets. Whether a secret is there stays, and so does all that is no secret.

* `Settings.redacted` and its parts replace the secrets.
* `Settings.toDocument_redacted` and its parts: what is written shows no more than what is left.
-/

/-- The mark that is written for a secret, as a secret. -/
def Secret.redacted (_ : Secret) : Secret := ⟨Secret.redaction⟩

def Miner.redacted (m : Miner) : Miner := { m with token := m.token.map Secret.redacted }

def Endpoint.redacted (e : Endpoint) : Endpoint := { e with apiKey := e.apiKey.map Secret.redacted }

def Verifier.redacted (v : Verifier) : Verifier := { v with token := v.token.redacted }

def Settings.redacted (s : Settings) : Settings :=
  { s with
    broadcastMiners := s.broadcastMiners.map (List.map Miner.redacted)
    queryMiners := s.queryMiners.map (List.map Miner.redacted)
    explorer := s.explorer.redacted
    secondaryExplorer := s.secondaryExplorer.map Endpoint.redacted
    nodeProxy := s.nodeProxy.map Endpoint.redacted
    verifiers := s.verifiers.map Verifier.redacted }

/-! ## Writing -/

theorem Miner.toDocument_redacted (m : Miner) : m.redacted.toDocument = m.toDocument := by
  cases htoken : m.token <;> simp [redacted, toDocument, htoken, Document.memberIfSome,
    Secret.toDocument]

theorem Endpoint.toDocument_redacted (e : Endpoint) : e.redacted.toDocument = e.toDocument := by
  cases hkey : e.apiKey <;> simp [redacted, toDocument, hkey, Document.memberIfSome,
    Secret.toDocument]

theorem Verifier.toDocument_redacted (v : Verifier) : v.redacted.toDocument = v.toDocument := rfl

theorem Settings.minersDocument_redacted (ms : List Miner) :
    minersDocument (ms.map Miner.redacted) = minersDocument ms := by
  simp only [minersDocument, List.map_map, Function.comp_def, Miner.toDocument_redacted]

theorem Document.ofOption_map {α β : Type} (write : β → Document) (f : α → β) (x : Option α) :
    ofOption write (x.map f) = ofOption (write ∘ f) x := by
  cases x <;> rfl

theorem Settings.toDocument_redacted (s : Settings) : s.redacted.toDocument = s.toDocument := by
  simp only [toDocument, redacted, Document.ofOption_map, Function.comp_def, List.map_map,
    Settings.minersDocument_redacted, Endpoint.toDocument_redacted, Verifier.toDocument_redacted]
  rfl

end TxGateway
