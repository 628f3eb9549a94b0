import TxGateway.Merkle.Text

namespace TxGateway.CommandLine

/-! # Arguments

Arguments are read from the left. An argument with dashes in front names a parameter, whose value is
attached to it or is the next argument; other arguments stand for nothing here.

* `Parameter` is what may be given, and `Word` is one argument taken apart.
* `Reading` is what has been given so far. A value is looked at only when the next parameter or the
  end is reached, so that an argument out of place behind it is told of first.
* `Reading.read` reads arguments up to the name of a command.
-/

/-- What a caller may want to know instead of running a command. -/
inductive Enquiry where
  | help
  | version
deriving DecidableEq, Repr

/-- Why arguments do not lead to a command that is run. -/
inductive Stop where
  | enquiry (about : Enquiry)
  /-- The arguments do not fit together. -/
  | misuse
  | badClaim (reason : ClaimError)
deriving DecidableEq, Repr

/-- What is given with a parameter, and how often. -/
inductive Usage where
  /-- A value, once. -/
  | single
  /-- A value each time. -/
  | repeated
  /-- Nothing, once. -/
  | switch
  /-- Nothing; reading ends there. -/
  | enquiry (about : Enquiry)
deriving DecidableEq, Repr

def Usage.takesValue : Usage → Bool
  | .single | .repeated => true
  | .switch | .enquiry _ => false

structure Parameter where
  name : String
  letter : Option Char := none
  usage : Usage
  /-- Looks at a value. -/
  check : String → Except Stop Unit := fun _ => .ok ()

/-! ## Words -/

/-- An argument, taken apart. -/
inductive Word where
  /-- Two dashes: only plain words follow. -/
  | terminator
  /-- Two dashes and a name, with what follows the first equals sign. -/
  | named (name : String) (value : Option String)
  /-- A dash and a letter, with what follows them. -/
  | lettered (letter : Char) (rest : List Char)
  | plain
deriving DecidableEq, Repr

namespace Word

def ofArgument (argument : String) : Word :=
  match argument.toList with
  | ['-', '-'] => .terminator
  | '-' :: '-' :: body =>
    let value := match body.dropWhile (· != '=') with
      | _ :: value => some (String.ofList value)
      | [] => none
    .named (String.ofList (body.takeWhile (· != '='))) value
  | '-' :: letter :: rest => .lettered letter rest
  | _ => .plain

/-- The value that is attached to a letter, with an equals sign or without one. -/
def attached : List Char → Option String
  | [] => none
  | '=' :: value => some (String.ofList value)
  | value => some (String.ofList value)

/-- The parameter that a word names, and the value attached to it. A letter whose parameter takes no
value has none attached. -/
def parameter? (parameters : List Parameter) : Word → Option (Parameter × Option String)
  | .named name value => (parameters.find? (·.name == name)).map fun p => (p, value)
  | .lettered letter rest =>
    (parameters.find? (·.letter == some letter)).map fun p =>
      (p, if p.usage.takesValue then attached rest else none)
  | .terminator | .plain => none

end Word

/-! ## Reading -/

structure Reading where
  /-- The values by the names of their parameters, the last first. -/
  given : List (String × String) := []
  /-- The parameter that was named last, and its value if that has come. -/
  open? : Option (Parameter × Option String) := none

namespace Reading

/-- Whether the next plain word is a value. -/
def wantsValue (r : Reading) : Bool :=
  match r.open? with
  | some (_, none) => true
  | _ => false

/-- Takes a value. -/
def take (r : Reading) (p : Parameter) (value : String) : Except Stop Reading := do
  if p.usage != .repeated && r.given.any (·.1 == p.name) then throw .misuse
  p.check value
  return ⟨(p.name, value) :: r.given, none⟩

/-- Takes the value of the parameter that was named last. -/
def settle (r : Reading) : Except Stop Reading :=
  match r.open? with
  | none => .ok r
  | some (p, some value) => r.take p value
  | some (_, none) => .error .misuse

/-- Goes on with a parameter. -/
def meet (r : Reading) (p : Parameter) (attached : Option String) : Except Stop Reading :=
  match p.usage, attached with
  | .single, some value | .repeated, some value => do (← r.settle).take p value
  | .single, none | .repeated, none => do return { ← r.settle with open? := some (p, none) }
  | .switch, none => do (← r.settle).take p ""
  | .enquiry about, none => do
    let _ ← r.settle
    throw (.enquiry about)
  | .switch, some _ | .enquiry _, some _ => .error .misuse

/-- Goes on with a plain word. -/
def meetPlain (r : Reading) (word : String) : Except Stop Reading :=
  match r.open? with
  | some (p, none) => .ok { r with open? := some (p, some word) }
  | _ => .error .misuse

/-- Reads arguments up to the first that is the name of a command, which is given back with those
behind it. -/
def read (parameters : List Parameter) (commands : List String) (r : Reading) :
    List String → Except Stop (Reading × Option (String × List String))
  | [] => .ok (r, none)
  | a :: rest =>
    if commands.contains a && !r.wantsValue then .ok (r, some (a, rest))
    else
      match Word.ofArgument a with
      | .terminator => if rest.isEmpty then .ok (r, none) else .error .misuse
      | .plain =>
        match r.meetPlain a with
        | .ok r => read parameters commands r rest
        | .error e => .error e
      | word =>
        match word.parameter? parameters with
        | none => .error .misuse
        | some (p, value) =>
          match r.meet p value with
          | .ok r => read parameters commands r rest
          | .error e => .error e

/-- Reads arguments to their end. -/
def readAll (parameters : List Parameter) (arguments : List String) : Except Stop Reading := do
  let (r, _) ← read parameters [] {} arguments
  r.settle

/-! ## What was given -/

/-- The value of a parameter that has to be given. -/
def value (r : Reading) (name : String) : Except Stop String :=
  match r.given.lookup name with
  | some value => .ok value
  | none => .error .misuse

/-- The value of a parameter, or what stands for it. -/
def valueOr (r : Reading) (name default : String) : String := (r.given.lookup name).getD default

/-- The values of a parameter, in order. -/
def values (r : Reading) (name : String) : List String :=
  (r.given.reverse.filter (·.1 == name)).map (·.2)

def has (r : Reading) (name : String) : Bool := r.given.any (·.1 == name)

end Reading

end TxGateway.CommandLine
