import SaslBind.Text.Basic

/-!
# Spans and rows of code points

A property of characters is a list of spans, each given by its first and its last code point.  What a character becomes
in another case is told by rows: a row gives the code points `first`, `first + step`, … up to `last`, each of which has
another case `shift` places further on.

`CodePoint.isBlank` holds of the white space of Unicode and of the four separators U+001C to U+001F;
zero-width characters are no white space.  `Text.strip` takes the blanks off both ends of a text.
-/

namespace SaslBind

/-- The code points from `first` to `last`. -/
structure Span where
  first : Nat
  last : Nat
deriving DecidableEq, Repr

/-- Whether one of the spans holds the number. -/
def inSpans (spans : List Span) (n : Nat) : Bool :=
  spans.any fun s => s.first ≤ n && n ≤ s.last

theorem inSpans_iff {spans : List Span} {n : Nat} :
    inSpans spans n = true ↔ ∃ s ∈ spans, s.first ≤ n ∧ n ≤ s.last := by
  simp [inSpans, List.any_eq_true]

/-! ### White space -/

/-- The white space characters. -/
def blankSpans : List Span :=
  [⟨0x9, 0xD⟩, ⟨0x1C, 0x20⟩, ⟨0x85, 0x85⟩, ⟨0xA0, 0xA0⟩, ⟨0x1680, 0x1680⟩, ⟨0x2000, 0x200A⟩,
  ⟨0x2028, 0x2029⟩, ⟨0x202F, 0x202F⟩, ⟨0x205F, 0x205F⟩, ⟨0x3000, 0x3000⟩]

/-- White space. -/
def CodePoint.isBlank (c : CodePoint) : Bool := inSpans blankSpans c.value

namespace Text

/-- The text without the blanks at its end. -/
def stripRight : Text → Text
  | [] => []
  | c :: t =>
    match stripRight t with
    | [] => if c.isBlank then [] else [c]
    | rest => c :: rest

/-- The text without the blanks at its two ends. -/
def strip (t : Text) : Text := stripRight (t.dropWhile CodePoint.isBlank)

/-- Whether the text holds nothing but blanks. -/
def isBlank (t : Text) : Bool := t.all CodePoint.isBlank

end Text

/-! ### Rows of case tables -/

/-- The code points from `first` to `last` in steps of `step`, moved by `shift`. -/
structure CaseRow where
  first : Nat
  last : Nat
  step : Nat
  shift : Int
deriving DecidableEq, Repr

/-- Whether the row says something about the number. -/
def CaseRow.holds (r : CaseRow) (n : Nat) : Bool :=
  r.first ≤ n && n ≤ r.last && (n - r.first) % r.step == 0

/-- What the rows make of a character; one of which they say nothing stays. -/
def shiftBy (rows : List CaseRow) (c : CodePoint) : CodePoint :=
  match rows.find? (·.holds c.value) with
  | some r => c.ofNatOr (c.value + r.shift).toNat
  | none => c

end SaslBind
