import SaslBind.CommandLine.Spec

/-!
# Reading a command line

`Spec.parse` gives the values of the options in the order in which they came, or tells why there are
none: help was asked for, or the command line is wrong.  Of several faults one is told: a token that is
ambiguous comes before all else, then what is wrong with the options from left to right, then an option
that is missing, then the tokens that are left over.
-/

namespace SaslBind

namespace CommandLine

/-- The value of an option; the terminator attached to an option is no text. -/
inductive Given where
  | text (t : Text)
  | nothing
deriving DecidableEq, Repr

/-- Why a command line gives no values. -/
inductive Stop where
  | help
  | wrong (e : UsageError)
deriving DecidableEq, Repr

/-- What was read so far: the options with their values, and the tokens that are left over. -/
structure Progress (κ : Type) where
  values : List (Opt κ × Given)
  extras : List Text

/-- The value that is attached to an option. -/
def Given.ofAttached (t : Text) : Given := if t = terminator then .nothing else .text t

/-- What comes of a text after the letter that asks for help: more such letters, or a fault. -/
def helpCluster : Text → Stop
  | [] => .help
  | c :: rest => if c = CodePoint.ofChar 'h' then helpCluster rest else .wrong (.ignored (c :: rest))

/-- What comes of asking for help with a text attached or without. -/
def helpStop (short : Bool) : Option Text → Stop
  | none => .help
  | some attached =>
    if short && !attached.isEmpty then helpCluster attached else .wrong (.ignored attached)

namespace Spec

variable {κ : Type}

/-- The first token before the terminator that is ambiguous. -/
def firstAmbiguous? (s : Spec κ) : List Text → Option UsageError
  | [] => none
  | token :: rest =>
    if token = terminator then none
    else
      match s.read token with
      | .ambiguous names => some (.ambiguous token names)
      | _ => s.firstAmbiguous? rest

/-- An option that was given before and does not go together with this one. -/
def conflict? (o : Opt κ) (values : List (Opt κ × Given)) : Option (Opt κ) :=
  (values.map (·.1)).find? fun earlier => o.group.isSome && earlier.group = o.group && earlier.name ≠ o.name

/-- An option gets its value. -/
def take (p : Progress κ) (o : Opt κ) (v : Given) : Except Stop (Progress κ) :=
  match conflict? o p.values with
  | some earlier => .error (.wrong (.conflict o.name earlier.name))
  | none => .ok { p with values := p.values ++ [(o, v)] }

/-- Whether a token can be the value of the option before it. -/
def isValue (s : Spec κ) (token : Text) : Bool :=
  token ≠ terminator &&
    match s.read token with
    | .plain => true
    | _ => false

/-- Reads the rest of a command line. -/
def consume (s : Spec κ) (p : Progress κ) : List Text → Except Stop (Progress κ)
  | [] => .ok p
  | token :: rest =>
    if token = terminator then .ok { p with extras := p.extras ++ token :: rest }
    else
      match s.read token with
      | .plain | .unknown | .ambiguous _ => s.consume { p with extras := p.extras ++ [token] } rest
      | .help short attached => .error (helpStop short attached)
      | .option o (some v) =>
        match take p o (.ofAttached v) with
        | .error stop => .error stop
        | .ok p => s.consume p rest
      | .option o none =>
        match rest with
        | [] => .error (.wrong (.valueExpected o.name))
        | v :: rest =>
          if s.isValue v then
            match take p o (.text v) with
            | .error stop => .error stop
            | .ok p => s.consume p rest
          else .error (.wrong (.valueExpected o.name))

/-- The required options that are missing. -/
def missing (s : Spec κ) (p : Progress κ) : List Text :=
  (s.options.filter fun o => o.required && !p.values.any (·.1.name = o.name)).map (·.name)

/-- The values of a command line. -/
def parse (s : Spec κ) (tokens : List Text) : Except Stop (List (κ × Given)) :=
  match s.firstAmbiguous? tokens with
  | some e => .error (.wrong e)
  | none =>
    match s.consume ⟨[], []⟩ tokens with
    | .error stop => .error stop
    | .ok p =>
      match s.missing p, p.extras with
      | [], [] => .ok (p.values.map fun (o, v) => (o.key, v))
      | [], extras => .error (.wrong (.unrecognized extras))
      | names, _ => .error (.wrong (.required names))

end Spec

end CommandLine

end SaslBind
