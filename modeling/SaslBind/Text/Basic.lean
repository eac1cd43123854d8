/-!
# Texts

A text is a list of code points.  A surrogate may stand alone in it: an argument or a password that
was no UTF-8 is carried through texts in that way, so `Char`, which has no surrogates, is too small.

* `CodePoint`, `Text` : the types;
* `String.toText` : the constant texts of the library, written as strings;
* `Text.split`, `Text.join` : lists of items with a separator between them.

Main statements: `join_split`, joining takes splitting back, and `split_append_cons`, a separator parts
the items before it from those after it.
-/

namespace SaslBind

/-- A Unicode code point, surrogates included. -/
structure CodePoint where
  value : Nat
  inRange : value < 0x110000
deriving DecidableEq, Repr

instance : Inhabited CodePoint := ⟨⟨0, by decide⟩⟩

/-- A sequence of code points. -/
abbrev Text := List CodePoint

/-- Texts that are found equal are equal. -/
instance : LawfulBEq Text := inferInstance

namespace CodePoint

theorem ext_value {c d : CodePoint} (h : c.value = d.value) : c = d := by
  cases c; cases d; simp_all

/-- The code point of a character. -/
def ofChar (c : Char) : CodePoint :=
  ⟨c.val.toNat, by
    rcases c.valid with h | ⟨_, h⟩
    · exact Nat.lt_trans h (by decide)
    · exact h⟩

instance : Coe Char CodePoint := ⟨ofChar⟩

/-- The code point with this number; `none` above the last one. -/
def ofNat? (n : Nat) : Option CodePoint :=
  if h : n < 0x110000 then some ⟨n, h⟩ else none

/-- The code point with this number, or `c` when the number is above the last one. -/
def ofNatOr (c : CodePoint) (n : Nat) : CodePoint :=
  if h : n < 0x110000 then ⟨n, h⟩ else c

/-- Halves of a pair in UTF-16, which encode no character of their own. -/
def isSurrogate (c : CodePoint) : Bool := 0xD800 ≤ c.value && c.value ≤ 0xDFFF

/-- The surrogates that stand for a single octet from 80 to FF. -/
def isEscapedOctet (c : CodePoint) : Bool := 0xDC80 ≤ c.value && c.value ≤ 0xDCFF

/-- The character with this code point; a surrogate is none. -/
def toChar? (c : CodePoint) : Option Char :=
  if h : c.value.isValidChar then some (Char.ofNatAux c.value h) else none

end CodePoint

end SaslBind

/-- The text that a string literal writes. -/
def String.toText (s : String) : SaslBind.Text := s.toList.map SaslBind.CodePoint.ofChar

namespace SaslBind

instance : Coe String Text := ⟨String.toText⟩

namespace Text

/-- The string of a text; `none` when a surrogate stands in it. -/
def toString? (t : Text) : Option String := (t.mapM CodePoint.toChar?).map String.ofList

/-- The items between the separators; there is one more item than there are separators. -/
def split (separator : CodePoint) : Text → List Text
  | [] => [[]]
  | c :: t =>
    if c = separator then [] :: split separator t
    else match split separator t with
      | [] => [[c]]
      | item :: items => (c :: item) :: items

/-- The items with the separator between each two of them. -/
def join (separator : Text) : List Text → Text
  | [] => []
  | [item] => item
  | item :: items => item ++ separator ++ join separator items

theorem split_ne_nil (separator : CodePoint) (t : Text) : t.split separator ≠ [] := by
  fun_induction split separator t <;> simp_all

/-- Joining takes splitting back. -/
theorem join_split (separator : CodePoint) (t : Text) : join [separator] (t.split separator) = t := by
  fun_induction split separator t with
  | case1 => rfl
  | case2 t ih =>
    obtain ⟨item, items, h⟩ := List.exists_cons_of_ne_nil (split_ne_nil separator t)
    simp_all [join]
  | case3 c t _ h => exact absurd h (split_ne_nil separator t)
  | case4 c t hc item items h ih =>
    rw [h] at ih
    cases items <;> simp_all [join]

/-- A separator parts the items before it from those after it. -/
theorem split_append_cons (separator : CodePoint) (s t : Text) :
    split separator (s ++ separator :: t) = s.split separator ++ t.split separator := by
  induction s with
  | nil => simp [split]
  | cons c s ih =>
    by_cases hc : c = separator
    · simp [split, hc, ih]
    · obtain ⟨item, items, h⟩ := List.exists_cons_of_ne_nil (split_ne_nil separator s)
      simp [split, hc, ih, h]

/-- A separator stands before each item but the first. -/
theorem join_cons (separator first : Text) (rest : List Text) :
    join separator (first :: rest) = first ++ rest.flatMap (separator ++ ·) := by
  induction rest generalizing first with
  | nil => simp [join]
  | cons next rest ih =>
    have step : join separator (first :: next :: rest) = first ++ separator ++ join separator (next :: rest) := rfl
    rw [step, ih, List.flatMap_cons, List.append_assoc, List.append_assoc]

/-- Entries by name are searched from the first one on. -/
theorem lookup_cons {α : Type} (name key : Text) (a : α) (es : List (Text × α)) :
    ((key, a) :: es).lookup name = if name = key then some a else es.lookup name := by
  by_cases h : name = key
  · simp [h]
  · have : (name == key) = false := by simp [h]
    simp [List.lookup_cons, h, this]

/-- The parts before and after the first separator; `none` when there is none. -/
def cut? (separator : CodePoint) : Text → Option (Text × Text)
  | [] => none
  | c :: t =>
    if c = separator then some ([], t)
    else (cut? separator t).map fun (before, rest) => (c :: before, rest)

/-- Whether the text begins with the other one. -/
def startsWith (t start : Text) : Bool := start.isPrefixOf t

/-- A run of spaces. -/
def spaces (n : Nat) : Text := List.replicate n (CodePoint.ofChar ' ')

/-- The decimal digits of a number. -/
def ofNat (n : Nat) : Text := (Nat.toDigits 10 n).map CodePoint.ofChar

/-- The decimal digits of a number, with a minus sign before those of a negative one. -/
def ofInt : Int → Text
  | .ofNat n => ofNat n
  | .negSucc n => CodePoint.ofChar '-' :: ofNat (n + 1)

/-- A number in lower-case hexadecimal digits, with zeros in front up to the width. -/
def hex (width n : Nat) : Text :=
  let digits := (Nat.toDigits 16 n).map CodePoint.ofChar
  List.replicate (width - digits.length) (CodePoint.ofChar '0') ++ digits

end Text

end SaslBind
