import SaslBind.Value

/-!
# Rejected values

A value that a field does not take gives a `FieldError`: where the value stands and what the field wanted instead.  An
error has a type, a location and a message here; the rejected value itself, which may go along with them, is left out.

A field of texts takes texts, levels by their values, and octets that are well-formed UTF-8.

* `FieldError.report` : the message of all errors of an object;
* `Value.checkText` : the text of a value;
* `Value.checkOptionalText` : the same, and nothing stands for no text.
-/

namespace SaslBind

/-- One step on the way to a value: the name of a field or an index in a sequence. -/
inductive Step where
  | name (t : Text)
  | index (i : Nat)
deriving DecidableEq, Repr

def Step.text : Step → Text
  | .name t => t
  | .index i => Text.ofNat i

/-- The text of a step, a name with a point in it between backticks. -/
def Step.marked (s : Step) : Text :=
  if s.text.contains (CodePoint.ofChar '.') then "\x60".toText ++ s.text ++ "\x60".toText else s.text

/-- What is wrong with a value. -/
inductive Complaint where
  | textExpected
  | textNotUtf8
  | octetsExpected
  | levelExpected
  | objectExpected
  | noSuchAttribute (name : Text)
  | notTruth
  | truthExpected
  /-- A rule of the field itself. -/
  | rule (message : Text)
deriving DecidableEq, Repr

namespace Complaint

/-- The kind of a complaint. -/
def kind : Complaint → String
  | .textExpected => "string_type"
  | .textNotUtf8 => "string_unicode"
  | .octetsExpected => "bytes_type"
  | .levelExpected => "enum"
  | .objectExpected => "model_type"
  | .noSuchAttribute _ => "no_such_attribute"
  | .notTruth => "bool_parsing"
  | .truthExpected => "bool_type"
  | .rule _ => "value_error"

def message : Complaint → Text
  | .textExpected => "Input should be a valid string".toText
  | .textNotUtf8 =>
    "Input should be a valid string, unable to parse raw data as a unicode string".toText
  | .octetsExpected => "Input should be a valid bytes".toText
  | .levelExpected => "Input should be 'auth', 'auth-int' or 'auth-conf'".toText
  | .objectExpected =>
    "Input should be a valid dictionary or instance of DigestMD5BindRequestProperties".toText
  | .noSuchAttribute name => "Object has no attribute '".toText ++ name ++ "'".toText
  | .notTruth => "Input should be a valid boolean, unable to interpret input".toText
  | .truthExpected => "Input should be a valid boolean".toText
  | .rule message => "Value error, ".toText ++ message

end Complaint

/-- A value that was rejected: the way to it, and why. -/
structure FieldError where
  steps : List Step
  complaint : Complaint
deriving DecidableEq, Repr

namespace FieldError

/-- The steps to the value with points between them. -/
def location (e : FieldError) : Text := Text.join ".".toText (e.steps.map Step.text)

/-- The steps to the value with points between them, and names with points between backticks. -/
def markedLocation (e : FieldError) : Text := Text.join ".".toText (e.steps.map Step.marked)

/-- The two lines that describe an error, the first missing when the way has no steps. -/
def lines (e : FieldError) : List Text :=
  let place := if e.steps.isEmpty then [] else [e.markedLocation]
  place ++ ["  ".toText ++ e.complaint.message ++ " [type=".toText ++ e.complaint.kind.toText ++ "]".toText]

/-- How many errors an object of this title has. -/
def headline (title : String) (errors : List FieldError) : Text :=
  let noun := if errors.length = 1 then " validation error for " else " validation errors for "
  Text.ofNat errors.length ++ noun.toText ++ title.toText

def report (title : String) (errors : List FieldError) : Text :=
  Text.join "\n".toText (headline title errors :: errors.flatMap lines)

end FieldError

namespace Value

/-- The text that a field of texts makes of a value. -/
def checkText (v : Value) : Except Complaint Text :=
  match v with
  | .text t => .ok t
  | .qop q => .ok q.value
  | .octets .fixed bs | .octets .changeable bs =>
    match Text.decode? bs with
    | some t => .ok t
    | none => .error .textNotUtf8
  | _ => .error .textExpected

/-- A text that may be missing. -/
def checkOptionalText (v : Value) : Except Complaint (Option Text) :=
  match v with
  | .null => .ok none
  | v => (checkText v).map some

end Value

end SaslBind
