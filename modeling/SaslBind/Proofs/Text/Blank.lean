import Mathlib.Data.List.TakeWhile
import SaslBind.Text.Span

/-!
# Blanks at the ends of a text

A text is stripped of the blanks at its ends, and of nothing else.

* `Text.Trimmed` : texts without blanks at their ends;
* `exists_stripRight`, `stripRight_append`, `stripRight_of_last` : the end of a text.

Main statement: `strip_eq_iff`, a stripped text is the only trimmed one that has just blanks around it.
-/

namespace SaslBind

namespace Text

/-- Neither the first character of the text nor the last is a blank. -/
def Trimmed (t : Text) : Prop :=
  (∀ c, t.head? = some c → c.isBlank = false) ∧ ∀ c, t.getLast? = some c → c.isBlank = false

theorem isBlank_cons (c : CodePoint) (t : Text) : isBlank (c :: t) = (c.isBlank && t.isBlank) := rfl

/-! ### The end -/

theorem exists_stripRight (t : Text) : ∃ after : Text, after.isBlank ∧ t = stripRight t ++ after := by
  induction t with
  | nil => exact ⟨[], rfl, rfl⟩
  | cons c t ih =>
    obtain ⟨after, blank, ht⟩ := ih
    rw [stripRight]
    split
    · next hs =>
      rw [hs, List.nil_append] at ht
      subst ht
      split
      · next hc => exact ⟨c :: t, by rw [isBlank_cons, hc, blank]; rfl, rfl⟩
      · exact ⟨t, blank, rfl⟩
    · exact ⟨after, blank, congrArg (c :: ·) ht⟩

theorem stripRight_of_isBlank {t : Text} (h : t.isBlank) : stripRight t = [] := by
  induction t with
  | nil => rfl
  | cons c t ih =>
    rw [isBlank_cons, Bool.and_eq_true] at h
    rw [stripRight, ih h.2]
    exact if_pos h.1

theorem stripRight_append (t : Text) {after : Text} (h : after.isBlank) : stripRight (t ++ after) = stripRight t := by
  induction t with
  | nil => exact stripRight_of_isBlank h
  | cons c t ih => rw [List.cons_append, stripRight, stripRight, ih]

theorem stripRight_of_last {t : Text} (h : ∀ c, t.getLast? = some c → c.isBlank = false) : stripRight t = t := by
  induction t with
  | nil => rfl
  | cons c t ih =>
    cases t with
    | nil =>
      rw [stripRight, stripRight]
      exact if_neg (Bool.eq_false_iff.1 (h c rfl))
    | cons d t =>
      rw [stripRight, ih fun e he => h e (by rw [List.getLast?_cons_cons, he])]

theorem isBlank_last_stripRight {t : Text} {c : CodePoint} (h : (stripRight t).getLast? = some c) :
    c.isBlank = false := by
  fun_induction stripRight t with
  | case1 => cases h
  | case2 => cases h
  | case3 d t hs hd =>
    obtain rfl := Option.some.inj h
    exact Bool.eq_false_iff.2 hd
  | case4 d t hne ih =>
    obtain ⟨e, rest, hs⟩ := List.exists_cons_of_ne_nil hne
    rw [hs] at ih h
    exact ih (by rwa [List.getLast?_cons_cons] at h)

/-! ### Both ends -/

theorem trimmed_strip (t : Text) : t.strip.Trimmed := by
  refine ⟨fun c hc => ?_, fun c hc => isBlank_last_stripRight hc⟩
  -- what is left after the blanks at the beginning is no blank, and is not taken off the end either
  obtain ⟨after, -, he⟩ := exists_stripRight (t.dropWhile CodePoint.isBlank)
  obtain ⟨rest, hs⟩ : ∃ rest, t.strip = c :: rest := by
    cases hs : t.strip with
    | nil =>
      rw [hs] at hc
      cases hc
    | cons d rest =>
      rw [hs] at hc
      obtain rfl := Option.some.inj hc
      exact ⟨rest, rfl⟩
  have first : (t.dropWhile CodePoint.isBlank).head? = some c := by
    rw [he]
    change (t.strip ++ after).head? = some c
    rw [hs]
    rfl
  have notBlank := List.head?_dropWhile_not CodePoint.isBlank t
  rw [first] at notBlank
  simpa using notBlank

theorem dropWhile_append_of_trimmed {before name after : Text} (hb : before.isBlank) (hn : name.Trimmed)
    (hne : name ≠ []) : (before ++ name ++ after).dropWhile CodePoint.isBlank = name ++ after := by
  obtain ⟨c, rest, rfl⟩ := List.exists_cons_of_ne_nil hne
  have start : c.isBlank = false := hn.1 c rfl
  rw [List.append_assoc, List.dropWhile_append_of_pos fun d hd => List.all_eq_true.1 hb d hd, List.cons_append,
    List.dropWhile_cons_of_neg (Bool.eq_false_iff.1 start)]

/-- **Stripped texts.**  A text is stripped to the trimmed text that has just blanks around it. -/
theorem strip_eq_iff {t name : Text} :
    t.strip = name ↔
      name.Trimmed ∧ ∃ before after : Text, before.isBlank ∧ after.isBlank ∧ t = before ++ name ++ after := by
  constructor
  · rintro rfl
    obtain ⟨after, blank, he⟩ := exists_stripRight (t.dropWhile CodePoint.isBlank)
    refine ⟨trimmed_strip t, t.takeWhile CodePoint.isBlank, after, List.all_takeWhile, blank, ?_⟩
    rw [List.append_assoc]
    calc t = t.takeWhile CodePoint.isBlank ++ t.dropWhile CodePoint.isBlank := List.takeWhile_append_dropWhile.symm
      _ = t.takeWhile CodePoint.isBlank ++ (t.strip ++ after) := congrArg _ he
  · rintro ⟨trimmed, before, after, hb, ha, rfl⟩
    by_cases hne : name = []
    · subst hne
      have blank : Text.isBlank (before ++ after) := by rw [isBlank, List.all_append, Bool.and_eq_true]; exact ⟨hb, ha⟩
      have nothing : (before ++ after).dropWhile CodePoint.isBlank = [] :=
        List.dropWhile_eq_nil_iff.2 fun c hc => List.all_eq_true.1 blank c hc
      rw [List.append_nil, strip, nothing]
      rfl
    · rw [strip, dropWhile_append_of_trimmed hb trimmed hne, stripRight_append name ha, stripRight_of_last trimmed.2]

end Text

end SaslBind
