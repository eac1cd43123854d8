import Mathlib.Data.List.TakeWhile
import SaslBind.Files.Path
import SaslBind.Proofs.Text.Printable

/-!
# Texts without surrogates

A text that is made of characters has no surrogate, and so UTF-8 can write it: the constant texts, digits, and what is
written between quotes, whatever stands there.

* `hasSurrogate_of_isPrintable` : nor has a printable text;
* `Text.runFrom?_eq_none` : no run is found where no character begins one; `surrogateRun?_eq_none_iff`, for UTF-8.

Main statement: `hasSurrogate_quoted`.
-/

namespace SaslBind

theorem CodePoint.isSurrogate_ofChar (c : Char) : (CodePoint.ofChar c).isSurrogate = false := by
  have valid : c.val.toNat < 0xD800 ∨ 0xDFFF < c.val.toNat ∧ c.val.toNat < 0x110000 := c.valid
  have value : (CodePoint.ofChar c).value = c.val.toNat := rfl
  simp only [isSurrogate, value, Bool.and_eq_false_iff, decide_eq_false_iff_not]
  omega

/-- No surrogate is printable. -/
theorem CodePoint.isSurrogate_of_isPrintable {c : CodePoint} (h : c.isPrintable) : c.isSurrogate = false := by
  have unprintable : (⟨0xD7FC, 0xF8FF⟩ : Span) ∈ unprintableSpans := by decide
  rw [Bool.eq_false_iff]
  intro hs
  simp only [isSurrogate, Bool.and_eq_true, decide_eq_true_eq] at hs
  have within : 0xD7FC ≤ c.value ∧ c.value ≤ 0xF8FF := by omega
  have spanned : inSpans unprintableSpans c.value = true := inSpans_iff.2 ⟨_, unprintable, within⟩
  rw [isPrintable, if_neg (by omega), spanned] at h
  cases h

namespace Text

/-- Where no character begins a run, there is none. -/
theorem runFrom?_eq_none {begins : CodePoint → Bool} {t : Text} (h : ∀ c ∈ t, begins c = false) :
    t.runFrom? begins = none := by
  have none : t.dropWhile (!begins ·) = [] := by
    rw [List.dropWhile_eq_nil_iff]
    intro c hc
    rw [h c hc]
    rfl
  rw [runFrom?, none]

theorem begins_of_runFrom?_eq_none {begins : CodePoint → Bool} {t : Text} (h : t.runFrom? begins = none) :
    ∀ c ∈ t, begins c = false := by
  have none : t.dropWhile (!begins ·) = [] := by
    unfold runFrom? at h
    split at h
    · assumption
    · cases h
  intro c hc
  simpa using List.dropWhile_eq_nil_iff.1 none c hc

/-- Strict UTF-8 refuses exactly the texts with surrogates. -/
theorem surrogateRun?_eq_none_iff {t : Text} : t.surrogateRun? = none ↔ t.hasSurrogate = false := by
  rw [hasSurrogate, List.any_eq_false]
  simp only [Bool.not_eq_true]
  exact ⟨begins_of_runFrom?_eq_none, runFrom?_eq_none⟩

@[simp] theorem hasSurrogate_append (s t : Text) : (s ++ t).hasSurrogate = (s.hasSurrogate || t.hasSurrogate) := by
  simp [hasSurrogate]

theorem hasSurrogate_cons (c : CodePoint) (t : Text) : hasSurrogate (c :: t) = (c.isSurrogate || t.hasSurrogate) := rfl

theorem hasSurrogate_chars (cs : List Char) : Text.hasSurrogate (cs.map CodePoint.ofChar) = false := by
  induction cs with
  | nil => rfl
  | cons c cs ih => rw [List.map_cons, hasSurrogate_cons, CodePoint.isSurrogate_ofChar, ih]; rfl

@[simp] theorem hasSurrogate_toText (s : String) : s.toText.hasSurrogate = false := hasSurrogate_chars s.toList

@[simp] theorem hasSurrogate_ofNat (n : Nat) : (ofNat n).hasSurrogate = false := hasSurrogate_chars _

theorem hasSurrogate_of_isPrintable {t : Text} (h : t.IsPrintable) : t.hasSurrogate = false := by
  rw [hasSurrogate, List.any_eq_false]
  intro c hc
  rw [CodePoint.isSurrogate_of_isPrintable (h c hc)]
  exact Bool.false_ne_true

/-- **Quotes can be written.**  What stands between quotes has no surrogate, whatever was quoted. -/
theorem hasSurrogate_quoted (t : Text) : t.quoted.hasSurrogate = false :=
  hasSurrogate_of_isPrintable (isPrintable_quoted t)

end Text

/-- The wording of an error of the file system has no surrogate: the path is quoted in it. -/
theorem FileError.hasSurrogate_message (e : FileError) (p : Path) : (e.message p).hasSurrogate = false := by
  simp [message, Text.hasSurrogate_quoted]

end SaslBind
