import SaslBind.Text.Basic

/-!
# UTF-8

Texts as octets and back.

* `CodePoint.octets` : the octets of one code point, a surrogate being written in three like its
  neighbours;
* `Text.decode?` : reads octets strictly, without surrogates, overlong forms or numbers above the last
  code point;
* `Text.decodeEscaped` : reads any octets; each one that stands in no sequence becomes the surrogate
  that carries it;
* `Text.restore` : the octets of a text that may carry such surrogates.  A surrogate of another kind
  tells that the text never was octets, and then all surrogates are written in three octets;
* `Text.carried` : a text after it was written as octets and read back;
* `Text.surrogateRun?`, `Text.foreignRun?` : the place of the surrogates that can not be encoded;
* `Text.misread?` : the place of the octets that can not be decoded.
-/

namespace SaslBind

namespace CodePoint

/-- The UTF-8 octets of a code point. -/
def octets (c : CodePoint) : List UInt8 :=
  let n := c.value
  if n < 0x80 then [.ofNat n]
  else if n < 0x800 then [.ofNat (0xC0 + n / 0x40), .ofNat (0x80 + n % 0x40)]
  else if n < 0x10000 then
    [.ofNat (0xE0 + n / 0x1000), .ofNat (0x80 + n / 0x40 % 0x40), .ofNat (0x80 + n % 0x40)]
  else
    [.ofNat (0xF0 + n / 0x40000), .ofNat (0x80 + n / 0x1000 % 0x40), .ofNat (0x80 + n / 0x40 % 0x40),
      .ofNat (0x80 + n % 0x40)]

/-- The surrogate that carries an octet from 80 to FF. -/
def ofOctet (b : UInt8) : CodePoint :=
  ⟨0xDC00 + b.toNat, Nat.lt_of_lt_of_le (Nat.add_lt_add_left b.toNat_lt _) (by decide)⟩

/-- The octets of a code point that may carry a single one. -/
def restored (c : CodePoint) : List UInt8 :=
  if c.isEscapedOctet then [.ofNat (c.value - 0xDC00)] else c.octets

end CodePoint

namespace Text

/-- The payload `v` followed by the payloads of `n` continuation octets, and the octets after them. -/
def continued? : Nat → Nat → List UInt8 → Option (Nat × List UInt8)
  | 0, v, bs => some (v, bs)
  | _ + 1, _, [] => none
  | n + 1, v, b :: bs =>
    if 0x80 ≤ b.toNat ∧ b.toNat < 0xC0 then continued? n (v * 0x40 + (b.toNat - 0x80)) bs else none

/-- How many octets continue a sequence that begins with this one, the payload of the first octet and
the least number that needs so many. -/
def lead? (b : UInt8) : Option (Nat × Nat × Nat) :=
  let n := b.toNat
  if n < 0x80 then some (0, n, 0)
  else if n < 0xC0 then none
  else if n < 0xE0 then some (1, n - 0xC0, 0x80)
  else if n < 0xF0 then some (2, n - 0xE0, 0x800)
  else if n < 0xF8 then some (3, n - 0xF0, 0x10000)
  else none

/-- The code point whose octets come first, and the octets after them. -/
def decodeOne? : List UInt8 → Option (CodePoint × List UInt8)
  | [] => none
  | b :: bs =>
    match lead? b with
    | none => none
    | some (count, payload, least) =>
      match continued? count payload bs with
      | none => none
      | some (n, rest) =>
        match CodePoint.ofNat? n with
        | none => none
        | some c => if least ≤ n ∧ c.isSurrogate = false then some (c, rest) else none

theorem continued?_length {n v w : Nat} {bs r : List UInt8} (h : continued? n v bs = some (w, r)) :
    bs.length = r.length + n := by
  fun_induction continued? n v bs with
  | case1 => simp_all
  | case2 => simp at h
  | case3 n v b bs _ ih => simp [ih h]; omega
  | case4 => simp at h

theorem decodeOne?_length {bs r : List UInt8} {c : CodePoint} (h : decodeOne? bs = some (c, r)) :
    r.length < bs.length := by
  unfold decodeOne? at h
  split at h <;> try simp at h
  split at h <;> try simp at h
  split at h <;> try simp at h
  next hc =>
    have := continued?_length hc
    split at h <;> try simp at h
    obtain ⟨-, -, rfl⟩ := h
    simp; omega

/-- The text with these octets; `none` unless they are well-formed. -/
def decode? : List UInt8 → Option Text
  | [] => some []
  | b :: bs =>
    match _h : decodeOne? (b :: bs) with
    | none => none
    | some (c, rest) => (decode? rest).map (c :: ·)
termination_by bs => bs.length
decreasing_by exact decodeOne?_length ‹_›

/-- The text of any octets; one that belongs to no sequence is carried by a surrogate. -/
def decodeEscaped : List UInt8 → Text
  | [] => []
  | b :: bs =>
    match _h : decodeOne? (b :: bs) with
    | none => CodePoint.ofOctet b :: decodeEscaped bs
    | some (c, rest) => c :: decodeEscaped rest
termination_by bs => bs.length
decreasing_by
  · simp
  · exact decodeOne?_length ‹_›

/-- Why octets are those of no character. -/
inductive Misread.Reason where
  /-- No character begins in this way. -/
  | start
  /-- A character that began does not go on. -/
  | continuation
  /-- A character that began is not there in full. -/
  | ending
deriving DecidableEq, Repr

/-- Octets that are those of no character: the first of them, its place, and how many they are. -/
structure Misread where
  octet : UInt8
  start : Nat
  count : Nat
  reason : Misread.Reason
deriving DecidableEq, Repr

/-- The octets that can be the second one of a character that begins with this one. -/
def isSecond (b second : UInt8) : Bool :=
  let n := second.toNat
  match b.toNat with
  | 0xE0 => 0xA0 ≤ n && n < 0xC0
  | 0xED => 0x80 ≤ n && n < 0xA0
  | 0xF0 => 0x90 ≤ n && n < 0xC0
  | 0xF4 => 0x80 ≤ n && n < 0x90
  | _ => 0x80 ≤ n && n < 0xC0

/-- How many octets are those of no character, and why. -/
def misreadHere (b : UInt8) (bs : List UInt8) : Nat × Misread.Reason :=
  let n := b.toNat
  if n < 0xC2 || 0xF4 < n then (1, .start)
  else
    let needed := if n < 0xE0 then 1 else if n < 0xF0 then 2 else 3
    let good :=
      match bs with
      | [] => 0
      | second :: rest =>
        if isSecond b second then
          1 + ((rest.take (needed - 1)).takeWhile fun c => 0x80 ≤ c.toNat && c.toNat < 0xC0).length
        else 0
    (good + 1, if bs.length = good then .ending else .continuation)

/-- The first octets that are those of no character, `start` being the place of the first one of all. -/
def misreadFrom? (start : Nat) : List UInt8 → Option Misread
  | [] => none
  | b :: bs =>
    match _h : decodeOne? (b :: bs) with
    | none => some ⟨b, start, (misreadHere b bs).1, (misreadHere b bs).2⟩
    | some (_, rest) => misreadFrom? (start + (bs.length + 1 - rest.length)) rest
termination_by bs => bs.length
decreasing_by exact decodeOne?_length ‹_›

/-- The first octets that are those of no character. -/
def misread? (bs : List UInt8) : Option Misread := misreadFrom? 0 bs

/-- The text with these octets, or the first of them that are those of no character. -/
def decodeStrict (bs : List UInt8) : Except Misread Text :=
  match misread? bs with
  | some m => .error m
  | none => .ok (decodeEscaped bs)

/-- The octets of a text, each surrogate in three. -/
def octets (t : Text) : List UInt8 := t.flatMap CodePoint.octets

theorem octets_append (s t : Text) : octets (s ++ t) = s.octets ++ t.octets := List.flatMap_append

/-- Whether a surrogate of the text carries no octet. -/
def hasForeignSurrogate (t : Text) : Bool := t.any fun c => c.isSurrogate && !c.isEscapedOctet

/-- The octets that a text stands for. -/
def restore (t : Text) : List UInt8 :=
  if t.hasForeignSurrogate then t.octets else t.flatMap CodePoint.restored

/-- The text as it is read back from the octets that it stands for. -/
def carried (t : Text) : Text := decodeEscaped t.restore

/-- Whether a surrogate stands in the text, so that it has no strict UTF-8. -/
def hasSurrogate (t : Text) : Bool := t.any CodePoint.isSurrogate

/-- Surrogates in a row: the first of them, its place in the text and how many they are. -/
structure SurrogateRun where
  first : CodePoint
  start : Nat
  count : Nat
deriving DecidableEq, Repr

/-- The surrogates in a row that begin with the first character of a kind. -/
def runFrom? (begins : CodePoint → Bool) (t : Text) : Option SurrogateRun :=
  match t.dropWhile (!begins ·) with
  | [] => none
  | c :: rest =>
    some ⟨c, (t.takeWhile (!begins ·)).length, (rest.takeWhile CodePoint.isSurrogate).length + 1⟩

/-- What strict UTF-8 refuses first. -/
def surrogateRun? (t : Text) : Option SurrogateRun := t.runFrom? CodePoint.isSurrogate

/-- What UTF-8 refuses first when surrogates may carry octets. -/
def foreignRun? (t : Text) : Option SurrogateRun :=
  t.runFrom? fun c => c.isSurrogate && !c.isEscapedOctet

end Text

end SaslBind
