import SaslBind.Text.Quoted
import SaslBind.Text.Word

/-!
# What a command line takes

A command line takes options that begin with two hyphens, each with one value, and the option that asks
for help.

* `CommandLine.Opt`, `CommandLine.Spec` : an option, and all that a command takes;
* `Spec.read` : what a token is to a command.  An option may be shortened as long as no other one
  begins in the same way;
* `UsageError` : what can be wrong with a command line.
-/

namespace SaslBind

namespace CommandLine

/-- An option with one value.  Of the options of one group only one may be given. -/
structure Opt (κ : Type) where
  key : κ
  name : Text
  metavar : Text
  help : Text
  required : Bool
  group : Option Nat

/-- A command: its name, what it says about itself and its options. -/
structure Spec (κ : Type) where
  program : Text
  description : Option Text
  options : List (Opt κ)

/-- What a token is to a command. -/
inductive Reading (κ : Type) where
  /-- A value. -/
  | plain
  /-- Looks like an option and is none. -/
  | unknown
  /-- Asks for help, by one hyphen or by two, with a text attached or without. -/
  | help (short : Bool) (attached : Option Text)
  /-- An option, its value attached or not. -/
  | option (o : Opt κ) (attached : Option Text)
  /-- The beginning of several options. -/
  | ambiguous (names : List Text)

def hyphen : CodePoint := CodePoint.ofChar '-'

/-- The short name of the option that asks for help. -/
def shortHelp : Text := "-h".toText

/-- The long name of the option that asks for help. -/
def longHelp : Text := "--help".toText

/-- The token after which all tokens are values. -/
def terminator : Text := "--".toText

/-- Whether a text looks like a negative number; a line feed may end it. -/
def isNegativeNumber (t : Text) : Bool :=
  match t with
  | [] => false
  | c :: rest =>
    let body := if rest.getLast? = CodePoint.ofNat? 0xA then rest.dropLast else rest
    let fraction := body.dropWhile CodePoint.isDecimal
    c = hyphen && !body.isEmpty &&
      (fraction.isEmpty ||
        (fraction.head? = some (CodePoint.ofChar '.') && 1 < fraction.length &&
          (fraction.drop 1).all CodePoint.isDecimal))

namespace Spec

variable {κ : Type}

/-- The names of two hyphens and what each of them asks for with a text attached to it. -/
def longNames (s : Spec κ) : List (Text × (Option Text → Reading κ)) :=
  (longHelp, .help false) :: s.options.map fun o => (o.name, .option o)

/-- What a name in full asks for. -/
def exactly? (s : Spec κ) (name : Text) : Option (Option Text → Reading κ) :=
  if name = shortHelp then some (.help true) else s.longNames.lookup name

/-- The part of a token before its first equals sign, and the part after it. -/
def cutValue (token : Text) : Text × Option Text :=
  match token.cut? (CodePoint.ofChar '=') with
  | some (name, value) => (name, some value)
  | none => (token, none)

/-- The names that a token may shorten, each with what it asks for. -/
def abbreviated (s : Spec κ) (token : Text) : List (Text × Reading κ) :=
  if token.startsWith terminator then
    let (start, value) := cutValue token
    (s.longNames.filter fun n => n.1.startsWith start).map fun n => (n.1, n.2 value)
  else if token.startsWith shortHelp then [(shortHelp, .help true (some (token.drop 2)))]
  else []

/-- What a token asks for by a name in full, with a value attached or without. -/
def named? (s : Spec κ) (token : Text) : Option (Reading κ) :=
  match s.exactly? token, cutValue token with
  | some ask, _ => some (ask none)
  | none, (name, some value) => (s.exactly? name).map fun ask => ask (some value)
  | none, (_, none) => none

/-- What a token is that begins with a hyphen and asks for nothing. -/
def readOther (token : Text) : Reading κ :=
  if isNegativeNumber token || token.contains (CodePoint.ofChar ' ') then .plain else .unknown

/-- What a token is. -/
def read (s : Spec κ) (token : Text) : Reading κ :=
  if token.head? ≠ some hyphen then .plain
  else if token = [hyphen] then .plain
  else
    match s.named? token with
    | some reading => reading
    | none =>
      match s.abbreviated token with
      | [] => readOther token
      | [(_, reading)] => reading
      | several => .ambiguous (several.map (·.1))

end Spec

/-- What is wrong with a command line. -/
inductive UsageError where
  | ambiguous (token : Text) (names : List Text)
  | valueExpected (name : Text)
  /-- A text is attached to the option that asks for help. -/
  | ignored (attached : Text)
  | conflict (name earlier : Text)
  | required (names : List Text)
  | unrecognized (tokens : List Text)
deriving DecidableEq, Repr

def UsageError.message : UsageError → Text
  | .ambiguous token names =>
    "ambiguous option: ".toText ++ token ++ " could match ".toText ++ Text.join ", ".toText names
  | .valueExpected name => "argument ".toText ++ name ++ ": expected one argument".toText
  | .ignored attached =>
    "argument ".toText ++ shortHelp ++ "/".toText ++ longHelp ++ ": ignored explicit argument ".toText ++
      attached.quoted
  | .conflict name earlier =>
    "argument ".toText ++ name ++ ": not allowed with argument ".toText ++ earlier
  | .required names =>
    "the following arguments are required: ".toText ++ Text.join ", ".toText names
  | .unrecognized tokens => "unrecognized arguments: ".toText ++ Text.join " ".toText tokens

end CommandLine

end SaslBind
