import TxGateway.Text.Blank
import TxGateway.Text.Digits
import TxGateway.Text.Utf8

namespace TxGateway.Http

/-! # Addresses

Absolute addresses of the scheme `http`, brought into the form in which a request carries them.
Connections are not encrypted here, so there is no request for an address of the scheme `https`.

* `Url.parse?` reads an address. Blanks and controls around it and line ends within it are left out;
  a backslash counts as a slash; segments that are dots are resolved; and what an address cannot
  hold is percent-encoded as UTF-8.
* `Url.join` puts a path behind a base, with one slash between them.
-/

/-- An address. -/
structure Url where
  host : String
  /-- The number of the service on the host, if one is given. -/
  service : Option Nat
  /-- The path and the query, as a request names them. -/
  target : String
deriving DecidableEq, Repr

namespace Url

/-- Puts a path behind a base; slashes at the joint are made one. -/
def join (base path : String) : String :=
  Text.trimEndOf (· == '/') base ++ "/" ++ Text.trimStartOf (· == '/') path

/-! ## Encoding -/

/-- A byte as a percent sign and two upper-case digits. -/
def percentByte (b : UInt8) : List Char :=
  let digit (n : Nat) : Char := (Nat.digitChar n).toUpper
  ['%', digit (b.toNat / 16), digit (b.toNat % 16)]

/-- A character, percent-encoded if it is in `reserved` or is no printable ASCII character. -/
def encodeChar (reserved : List Char) (c : Char) : List Char :=
  if c.toNat ≤ 0x20 || 0x7E < c.toNat || reserved.contains c then
    (Text.Utf8.encode c.toString).flatMap percentByte
  else [c]

/-- What is encoded in a path. -/
def pathReserved : List Char := ['"', '#', '<', '>', '?', '\x60', '\x7b', '\x7d']

/-- What is encoded in a query. -/
def queryReserved : List Char := ['"', '#', '<', '>', '\'']

def encodePath (s : List Char) : List Char := s.flatMap (encodeChar pathReserved)

def encodeQuery (s : List Char) : List Char := s.flatMap (encodeChar queryReserved)

/-! ## Paths -/

/-- Whether a segment is one dot, written out or encoded. -/
def isDot (segment : List Char) : Bool :=
  ["." , "%2e"].contains (String.ofList (segment.map Char.toLower))

/-- Whether a segment is two dots. -/
def isTwoDots (segment : List Char) : Bool :=
  ["..", ".%2e", "%2e.", "%2e%2e"].contains (String.ofList (segment.map Char.toLower))

/-- Resolves segments that are dots. `done` holds the segments so far, the last first; dots at the
end leave an empty segment. -/
def resolveDots (done : List (List Char)) : List (List Char) → List (List Char)
  | [] => done.reverse
  | [last] =>
    if isTwoDots last then ([] :: done.tail).reverse
    else if isDot last then ([] :: done).reverse
    else (last :: done).reverse
  | segment :: rest =>
    if isTwoDots segment then resolveDots done.tail rest
    else if isDot segment then resolveDots done rest
    else resolveDots (segment :: done) rest

/-- Splits at every slash. -/
def segments (s : List Char) : List (List Char) :=
  let put (c : Char) : List (List Char) → List (List Char)
    | segment :: rest => if c == '/' then [] :: segment :: rest else (c :: segment) :: rest
    | [] => [[c]]
  s.foldr put [[]]

/-- The path of an address, from what follows the host, with slashes only. -/
def path (s : List Char) : List Char :=
  let s := match s with
    | '/' :: rest => rest
    | s => s
  '/' :: ['/'].intercalate ((resolveDots [] (segments s)).map encodePath)

/-! ## Reading -/

def isControlOrSpace (c : Char) : Bool := c.toNat ≤ 0x20

def isSlash (c : Char) : Bool := c == '/' || c == '\\'

/-- Characters that no host has. -/
def isForbiddenInHost (c : Char) : Bool :=
  c.toNat ≤ 0x20 || c.toNat == 0x7F ||
    ['#', '%', '/', ':', '<', '>', '?', '@', '[', '\\', ']', '^', '|'].contains c

/-- The number of the service, from what follows the host; none inside if there is none. -/
def service? : List Char → Option (Option Nat)
  | [] => some none
  | ':' :: digits =>
    if digits.isEmpty then some none
    else
      match Text.readBase 10 digits with
      | some n => if n < 65536 then some (some n) else none
      | none => none
  | _ => none

/-- The host and the service of an authority. What stands before the last `@` is left out. -/
def authority? (s : List Char) : Option (String × Option Nat) := do
  match (s.reverse.takeWhile (· != '@')).reverse with
  | '[' :: rest =>
    let inside := rest.takeWhile (· != ']')
    let service ← match rest.dropWhile (· != ']') with
      | _ :: rest => service? rest
      | [] => none
    if inside.isEmpty then none else some (String.ofList ('[' :: inside ++ [']']), service)
  | s =>
    let host := s.takeWhile (· != ':')
    let service ← service? (s.dropWhile (· != ':'))
    if host.isEmpty || host.any isForbiddenInHost then none else some (String.ofList host, service)

/-- What follows the scheme `http` and its colon. -/
def afterScheme? (s : List Char) : Option (List Char) :=
  if (s.take 5).map Char.toLower == ['h', 't', 't', 'p', ':'] then some (s.drop 5) else none

/-- Reads an absolute address of the scheme `http`. -/
def parse? (s : String) : Option Url := do
  let s := (Text.trimOf isControlOrSpace s).toList.filter fun c =>
    c != '\t' && c != '\n' && c != '\r'
  let s := (← afterScheme? s).dropWhile isSlash
  let isEnd (c : Char) : Bool := isSlash c || c == '?' || c == '#'
  let (host, service) ← authority? (s.takeWhile fun c => !isEnd c)
  let s := (s.dropWhile fun c => !isEnd c).takeWhile (· != '#')
  let slashed := (s.takeWhile (· != '?')).map fun c => if isSlash c then '/' else c
  let query := match s.dropWhile (· != '?') with
    | _ :: query => '?' :: encodeQuery query
    | [] => []
  return { host, service, target := String.ofList (path slashed ++ query) }

end Url

end TxGateway.Http
