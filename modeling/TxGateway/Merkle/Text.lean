import TxGateway.Merkle
import TxGateway.Text.Digits

namespace TxGateway

/-! # Claims in text

A claim is written as the root in hexadecimal digits, a colon and the height in decimal digits.

* `RootClaim.parse` reads a claim; `ClaimError` is why it fails. The text is cut at its last colon,
  and the root is looked at before the height.
* `RootClaim.written` writes one.
-/

/-- Why a text is no claim. -/
inductive ClaimError where
  | noColon (text : String)
  | badRoot (root : String)
  | badHeight (height : String) (reason : Text.DigitsError)
deriving DecidableEq, Repr

def ClaimError.message : ClaimError → String
  | .noColon text => s!"expected <merkle_root>:<block_height>, got '{text}'"
  | .badRoot root => s!"merkle root '{root}' is not hex"
  | .badHeight height reason => s!"invalid block height '{height}': {reason.message}"

namespace RootClaim

/-- Cuts a text at its last colon. -/
def cutAtLastColon? : List Char → Option (List Char × List Char)
  | [] => none
  | c :: rest =>
    match cutAtLastColon? rest with
    | some (front, back) => some (c :: front, back)
    | none => if c = ':' then some ([], rest) else none

/-- Reads a claim. -/
def parse (s : String) : Except ClaimError RootClaim :=
  match cutAtLastColon? s.toList with
  | none => .error (.noColon s)
  | some (root, height) =>
    let root := String.ofList root
    let height := String.ofList height
    if Text.isHex root then
      match Text.readWord height with
      | .ok n => .ok ⟨root, n⟩
      | .error reason => .error (.badHeight height reason)
    else .error (.badRoot root)

/-- Writes a claim. -/
def written (c : RootClaim) : String := s!"{c.root}:{c.height}"

end RootClaim

end TxGateway
