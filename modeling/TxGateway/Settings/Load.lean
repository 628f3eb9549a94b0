import TxGateway.Document.Toml.Reader
import TxGateway.Settings.Codec
import TxGateway.Settings.Reference
import TxGateway.Settings.Validation
import TxGateway.Text.Quoted
import TxGateway.Text.Utf8

namespace TxGateway

/-! # Loading settings

Settings come as a TOML text. First its size is checked, then references to the environment are
resolved, then it is read, and at last the settings are validated; the first step that fails tells
the error.
-/

/-- Why settings could not be loaded. -/
inductive LoadError where
  /-- There is no such file, or it is no text. -/
  | unavailable
  /-- The text is not TOML, or its values do not fit. -/
  | malformed
  | tooLarge (bytes : Nat)
  /-- A variable without a default is not set. -/
  | unset (name : String)
  | invalid (violation : Violation)
deriving DecidableEq, Repr

namespace Settings

/-- The greatest size of a text of settings, in bytes. -/
def maxBytes : Nat := 1024 * 1024

end Settings

namespace LoadError

/-- What is wrong with the text or the settings in it. -/
def detail : LoadError → String
  | .unavailable => "the file cannot be read"
  | .malformed => "the text does not hold settings"
  | .tooLarge bytes =>
    s!"Configuration file too large: {bytes} bytes (max: {Settings.maxBytes} bytes)"
  | .unset name => s!"Environment variable '{name}' not found"
  | .invalid violation => violation.message

/-- The name of the kind of error. -/
def label : LoadError → String
  | .unavailable => "Io"
  | .malformed => "Parse"
  | .tooLarge _ | .unset _ | .invalid _ => "Validation"

def message (e : LoadError) : String :=
  match e with
  | .unavailable => "IO error: " ++ e.detail
  | .malformed => "Configuration error: " ++ e.detail
  | .tooLarge _ | .unset _ | .invalid _ => "Validation error: " ++ e.detail

/-- The error in a diagnostic. -/
def inspect (e : LoadError) : String := s!"{e.label}({Text.quoted e.detail})"

end LoadError

namespace Settings

/-- Resolves the references of a text that is not too large. -/
def expand (env : String → Option String) (text : String) : Except LoadError String :=
  let bytes := Text.byteLength text
  if maxBytes < bytes then .error (.tooLarge bytes)
  else (Reference.resolve env text).mapError .unset

/-- Reads settings from a text without references. -/
def ofText (text : String) : Except LoadError Settings :=
  match (Document.Toml.read? text).bind ofDocument? with
  | some s => .ok s
  | none => .error .malformed

/-- Settings that are valid. -/
def checked (s : Settings) : Except LoadError Settings :=
  match s.validate with
  | .ok () => .ok s
  | .error v => .error (.invalid v)

/-- Loads settings from a text. -/
def load (env : String → Option String) (text : String) : Except LoadError Settings := do
  checked (← ofText (← expand env text))

/-- Loads settings from the bytes of a file, `none` if there is no such file. -/
def loadFile (env : String → Option String) (bytes : Option (List UInt8)) :
    Except LoadError Settings :=
  match bytes.bind Text.Utf8.decode? with
  | some text => load env text
  | none => .error .unavailable

end Settings

end TxGateway
