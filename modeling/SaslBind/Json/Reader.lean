import SaslBind.Json
import SaslBind.Number.Numeral

/-!
# Reading JSON

A machine that takes one character at a time.  Its state holds the containers that are still open, the
innermost first, and the place inside that container; `Json.read?` runs it over a text.

* `Reader.step?` : one character;
* `Reader.put?` : a value that is complete goes into the innermost container;
* `Json.read?` : the value that a text writes, `none` if it writes none.
-/

namespace SaslBind

namespace Json

namespace Reader

/-- A container that is not closed yet, its content last item first. -/
inductive Frame where
  | array (items : List Json)
  | object (members : List (Text × Json))
  | member (members : List (Text × Json)) (key : Text)

/-- Whether a text that is being read names a member or is a value. -/
inductive Role where
  | name
  | value
deriving DecidableEq

/-- Where in the innermost container the machine stands. -/
inductive Place where
  /-- Before a value. -/
  | value
  /-- After an opening bracket: before a value or the closing bracket. -/
  | firstItem
  /-- After a comma in an object: before a name. -/
  | name
  /-- After an opening brace: before a name or the closing brace. -/
  | firstName
  /-- After a name. -/
  | colon
  /-- After a value inside a container. -/
  | next
  /-- After the whole value. -/
  | done (v : Json)
  /-- Inside a text, whose characters are held last first. -/
  | text (role : Role) (codes : Text)
  /-- After a backslash. -/
  | escape (role : Role) (codes : Text)
  /-- After a backslash, the letter u and some digits; `left` more are due. -/
  | number (role : Role) (codes : Text) (left value : Nat)
  /-- Inside a number or a word, held last character first. -/
  | scalar (codes : Text)

/-- The containers that are open, innermost first, and the place in the innermost. -/
structure State where
  frames : List Frame
  place : Place

/-- The start of a reading. -/
def State.initial : State := ⟨[], .value⟩

/-- White space between the parts of a value. -/
def isSpace (c : CodePoint) : Bool := c.value = 0x20 || c.value = 0x9 || c.value = 0xA || c.value = 0xD

/-- The value of a hexadecimal digit. -/
def hexDigit? (c : CodePoint) : Option Nat :=
  if 0x30 ≤ c.value ∧ c.value ≤ 0x39 then some (c.value - 0x30)
  else if 0x41 ≤ c.value ∧ c.value ≤ 0x46 then some (c.value - 0x37)
  else if 0x61 ≤ c.value ∧ c.value ≤ 0x66 then some (c.value - 0x57)
  else none

/-- The character that a letter after a backslash stands for. -/
def escaped? (c : CodePoint) : Option CodePoint :=
  match c.value with
  | 0x22 => some (CodePoint.ofChar '"')
  | 0x2F => some (CodePoint.ofChar '/')
  | 0x5C => some (CodePoint.ofChar '\\')
  | 0x62 => CodePoint.ofNat? 0x8
  | 0x66 => CodePoint.ofNat? 0xC
  | 0x6E => CodePoint.ofNat? 0xA
  | 0x72 => CodePoint.ofNat? 0xD
  | 0x74 => CodePoint.ofNat? 0x9
  | _ => none

/-- The text with each high surrogate and the low one after it made one character. -/
def joinPairs : Text → Text
  | [] => []
  | [c] => [c]
  | c :: d :: t =>
    if 0xD800 ≤ c.value ∧ c.value < 0xDC00 ∧ 0xDC00 ≤ d.value ∧ d.value < 0xE000 then
      c.ofNatOr (0x10000 + (c.value - 0xD800) * 0x400 + (d.value - 0xDC00)) :: joinPairs t
    else c :: joinPairs (d :: t)

/-- The characters of numbers and words. -/
def isScalar (c : CodePoint) : Bool :=
  c.isDigit || c = CodePoint.ofChar '-' || c = CodePoint.ofChar '+' || c = CodePoint.ofChar '.' ||
    (0x41 ≤ c.value && c.value ≤ 0x5A) || (0x61 ≤ c.value && c.value ≤ 0x7A)

/-- The value of a number or a word. -/
def scalar? (t : Text) : Option Json :=
  if t = "null".toText then some .null
  else if t = "true".toText then some (.bool true)
  else if t = "false".toText then some (.bool false)
  else if t = "NaN".toText then some (.real .nan)
  else if t = "Infinity".toText then some (.real (.infinite false))
  else if t = "-Infinity".toText then some (.real (.infinite true))
  else
    match Numeral.read? t with
    | none => none
    | some n =>
      if n.isComplete && !n.hasLeadingZero && n.sign != .plus then
        some (if n.isInteger then .int n.toInt else .real n.toBinary64)
      else none

/-- A complete value goes into the innermost container. -/
def put? (frames : List Frame) (v : Json) : Option State :=
  match frames with
  | [] => some ⟨[], .done v⟩
  | .array items :: rest => some ⟨.array (v :: items) :: rest, .next⟩
  | .member members key :: rest => some ⟨.object ((key, v) :: members) :: rest, .next⟩
  | .object _ :: _ => none

/-- The innermost container is closed by a bracket or a brace. -/
def close? (frames : List Frame) (c : CodePoint) : Option State :=
  match frames with
  | .array items :: rest => if c = CodePoint.ofChar ']' then put? rest (.array items.reverse) else none
  | .object members :: rest => if c.value = 0x7D then put? rest (.object members.reverse) else none
  | _ => none

/-- A character after a value inside a container. -/
def next? (frames : List Frame) (c : CodePoint) : Option State :=
  if isSpace c then some ⟨frames, .next⟩
  else if c = CodePoint.ofChar ',' then
    match frames with
    | .array items :: rest => some ⟨.array items :: rest, .value⟩
    | .object members :: rest => some ⟨.object members :: rest, .name⟩
    | _ => none
  else close? frames c

/-- A character before a value. -/
def value? (frames : List Frame) (c : CodePoint) : Option State :=
  if isSpace c then some ⟨frames, .value⟩
  else if c = CodePoint.ofChar '"' then some ⟨frames, .text .value []⟩
  else if c = CodePoint.ofChar '[' then some ⟨.array [] :: frames, .firstItem⟩
  else if c.value = 0x7B then some ⟨.object [] :: frames, .firstName⟩
  else if isScalar c then some ⟨frames, .scalar [c]⟩
  else none

/-- A character before a name. -/
def name? (frames : List Frame) (c : CodePoint) : Option State :=
  if isSpace c then some ⟨frames, .name⟩
  else if c = CodePoint.ofChar '"' then some ⟨frames, .text .name []⟩
  else none

/-- A text is complete. -/
def endText? (frames : List Frame) (role : Role) (t : Text) : Option State :=
  match role, frames with
  | .value, frames => put? frames (.text t)
  | .name, .object members :: rest => some ⟨.member members t :: rest, .colon⟩
  | .name, _ => none

/-- The machine after one more character; `none` if that character can not follow. -/
def step? (s : State) (c : CodePoint) : Option State :=
  match s.place with
  | .value => value? s.frames c
  | .firstItem =>
    if isSpace c then some s
    else if c = CodePoint.ofChar ']' then close? s.frames c
    else value? s.frames c
  | .name => name? s.frames c
  | .firstName =>
    if isSpace c then some s
    else if c.value = 0x7D then close? s.frames c
    else name? s.frames c
  | .colon =>
    if isSpace c then some s
    else if c = CodePoint.ofChar ':' then some ⟨s.frames, .value⟩
    else none
  | .next => next? s.frames c
  | .done v => if isSpace c then some ⟨s.frames, .done v⟩ else none
  | .text role codes =>
    if c = CodePoint.ofChar '"' then endText? s.frames role (joinPairs codes.reverse)
    else if c = CodePoint.ofChar '\\' then some ⟨s.frames, .escape role codes⟩
    else if c.value < 0x20 then none
    else some ⟨s.frames, .text role (c :: codes)⟩
  | .escape role codes =>
    if c = CodePoint.ofChar 'u' then some ⟨s.frames, .number role codes 4 0⟩
    else (escaped? c).map fun d => ⟨s.frames, .text role (d :: codes)⟩
  | .number role codes left n =>
    match hexDigit? c with
    | none => none
    | some d =>
      if left ≤ 1 then some ⟨s.frames, .text role (c.ofNatOr (n * 16 + d) :: codes)⟩
      else some ⟨s.frames, .number role codes (left - 1) (n * 16 + d)⟩
  | .scalar codes =>
    if isScalar c then some ⟨s.frames, .scalar (c :: codes)⟩
    else
      match scalar? codes.reverse with
      | none => none
      | some v =>
        match put? s.frames v with
        | some ⟨frames, .next⟩ => next? frames c
        | some s => if isSpace c then some s else none
        | none => none

/-- The value that is complete when the text ends here. -/
def finish? (s : State) : Option Json :=
  match s.frames, s.place with
  | [], .done v => some v
  | [], .scalar codes => scalar? codes.reverse
  | _, _ => none

end Reader

/-- The value that the text writes. -/
def read? (t : Text) : Option Json :=
  match t.foldlM Reader.step? Reader.State.initial with
  | some s => Reader.finish? s
  | none => none

end Json

end SaslBind
