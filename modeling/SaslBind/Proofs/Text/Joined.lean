import Mathlib.Data.List.Basic
import SaslBind.Proofs.Text.Utf8

/-!
# The octets of texts one after the other

A text stands for its octets as a whole: one surrogate that carries no octet makes all surrogates of the text stand
for three octets each, also those that would stand for one.  So the octets of two texts, one after the other, are those
of the first and then those of the second, unless only one of them has such a surrogate and the other one carries
octets.

* `Text.IsForeign`, `Text.Carries` : a text with a surrogate that carries no octet, and one whose surrogates all carry
  one;
* `length_octets` : three octets for a surrogate that carries one are two too many;
* `restore_append`, `restore_append_of_foreign` : texts that are alike in this, and texts that are not.

Main statement: `restore_append_iff`.
-/

namespace SaslBind

namespace Text

/-- A surrogate stands in the text that carries no octet. -/
def IsForeign (t : Text) : Prop := ∃ c ∈ t, c.isSurrogate ∧ c.isEscapedOctet = false

/-- Surrogates stand in the text, and each of them carries an octet. -/
def Carries (t : Text) : Prop := (∃ c ∈ t, c.isSurrogate) ∧ ∀ c ∈ t, c.isSurrogate → c.isEscapedOctet

variable {s t : Text}

theorem hasForeignSurrogate_iff : t.hasForeignSurrogate ↔ t.IsForeign := by
  simp [hasForeignSurrogate, IsForeign]

theorem hasForeignSurrogate_append (s t : Text) :
    hasForeignSurrogate (s ++ t) = (s.hasForeignSurrogate || t.hasForeignSurrogate) := List.any_append

/-! ### One octet or three -/

theorem length_octets_of_isEscapedOctet {c : CodePoint} (h : c.isEscapedOctet) : c.octets.length = 3 := by
  simp only [CodePoint.isEscapedOctet, Bool.and_eq_true, decide_eq_true_eq] at h
  rw [octets_eq, if_neg (by omega), if_neg (by omega), if_pos (by omega)]
  rfl

theorem length_octets (t : Text) :
    t.octets.length = (t.flatMap CodePoint.restored).length + 2 * t.countP CodePoint.isEscapedOctet := by
  induction t with
  | nil => rfl
  | cons c t ih =>
    have split : octets (c :: t) = c.octets ++ octets t := rfl
    rw [split, List.flatMap_cons, List.countP_cons, List.length_append, List.length_append, ih]
    by_cases hc : c.isEscapedOctet
    · rw [length_octets_of_isEscapedOctet hc, CodePoint.restored, if_pos hc, if_pos hc, List.length_singleton]
      omega
    · rw [CodePoint.restored, if_neg hc, if_neg hc]
      omega

/-- Each surrogate in three octets is what the text stands for only if none carries an octet. -/
theorem octets_eq_restored_iff : t.octets = t.flatMap CodePoint.restored ↔ ∀ c ∈ t, c.isEscapedOctet = false := by
  constructor
  · intro h
    have lengths := length_octets t
    have none : t.countP CodePoint.isEscapedOctet = 0 := by
      rw [h] at lengths
      omega
    intro c hc
    exact Bool.eq_false_iff.2 (List.countP_eq_zero.1 none c hc)
  · intro h
    refine List.flatMap_congr fun c hc => ?_
    rw [CodePoint.restored, if_neg (Bool.eq_false_iff.1 (h c hc))]

theorem Carries.not_isForeign (h : t.Carries) : ¬ t.IsForeign := by
  rintro ⟨c, hc, surrogate, alone⟩
  rw [h.2 c hc surrogate] at alone
  cases alone

/-- A text that carries octets stands for fewer of them than its surrogates have. -/
theorem Carries.octets_ne (h : t.Carries) : t.octets ≠ t.flatMap CodePoint.restored := by
  intro he
  obtain ⟨⟨c, hc, surrogate⟩, carries⟩ := h
  have alone := octets_eq_restored_iff.1 he c hc
  rw [carries c hc surrogate] at alone
  cases alone

/-- A text that carries no octets, but has no surrogate of another kind, has no surrogate at all. -/
theorem octets_eq_restored_of_not_carries (hf : ¬ t.IsForeign) (hc : ¬ t.Carries) :
    t.octets = t.flatMap CodePoint.restored := by
  have escaped : ∀ c ∈ t, c.isSurrogate → c.isEscapedOctet := by
    intro c hm hs
    cases he : c.isEscapedOctet with
    | true => rfl
    | false => exact absurd ⟨c, hm, hs, he⟩ hf
  refine octets_eq_restored_iff.2 fun c hm => Bool.eq_false_iff.2 fun he => ?_
  exact hc ⟨⟨c, hm, isSurrogate_of_isEscapedOctet he⟩, escaped⟩

/-! ### Texts as a whole -/

theorem restore_of_foreign (h : t.IsForeign) : t.restore = t.octets := by
  rw [restore, if_pos (hasForeignSurrogate_iff.2 h)]

theorem restore_of_not_foreign (h : ¬ t.IsForeign) : t.restore = t.flatMap CodePoint.restored := by
  rw [restore, if_neg (mt hasForeignSurrogate_iff.1 h)]

theorem restore_of_plain (h : t.hasSurrogate = false) : t.restore = t.octets := by
  have plain : ∀ c ∈ t, c.isSurrogate = false := fun c hc => Bool.eq_false_iff.2 (List.any_eq_false.1 h c hc)
  have native : ¬ t.IsForeign := by
    rintro ⟨c, hc, surrogate, -⟩
    rw [plain c hc] at surrogate
    cases surrogate
  rw [restore_of_not_foreign native]
  refine (octets_eq_restored_iff.2 fun c hc => Bool.eq_false_iff.2 fun carries => ?_).symm
  have surrogate := isSurrogate_of_isEscapedOctet carries
  rw [plain c hc] at surrogate
  cases surrogate

theorem isForeign_append : IsForeign (s ++ t) ↔ s.IsForeign ∨ t.IsForeign := by
  rw [← hasForeignSurrogate_iff, hasForeignSurrogate_append, Bool.or_eq_true, hasForeignSurrogate_iff,
    hasForeignSurrogate_iff]

/-- Texts that are written in the same way are written one after the other. -/
theorem restore_append (h : s.IsForeign ↔ t.IsForeign) : restore (s ++ t) = s.restore ++ t.restore := by
  by_cases hs : s.IsForeign
  · rw [restore_of_foreign (isForeign_append.2 (.inl hs)), restore_of_foreign hs, restore_of_foreign (h.1 hs),
      octets_append]
  · have ht := mt h.2 hs
    rw [restore_of_not_foreign (mt isForeign_append.1 (not_or.2 ⟨hs, ht⟩)), restore_of_not_foreign hs,
      restore_of_not_foreign ht, List.flatMap_append]

/-- Where one of two texts has a surrogate that carries no octet, all surrogates of both have three octets. -/
theorem restore_append_of_foreign (h : s.IsForeign ∨ t.IsForeign) : restore (s ++ t) = s.octets ++ t.octets := by
  rw [restore_of_foreign (isForeign_append.2 h), octets_append]

theorem restore_append_left (hs : s.IsForeign) (ht : ¬ t.IsForeign) :
    restore (s ++ t) = s.restore ++ t.restore ↔ ¬ t.Carries := by
  rw [restore_append_of_foreign (.inl hs), restore_of_foreign hs, restore_of_not_foreign ht,
    List.append_cancel_left_eq]
  exact ⟨fun h carries => carries.octets_ne h, octets_eq_restored_of_not_carries ht⟩

theorem restore_append_right (hs : ¬ s.IsForeign) (ht : t.IsForeign) :
    restore (s ++ t) = s.restore ++ t.restore ↔ ¬ s.Carries := by
  rw [restore_append_of_foreign (.inr ht), restore_of_not_foreign hs, restore_of_foreign ht,
    List.append_cancel_right_eq]
  exact ⟨fun h carries => carries.octets_ne h, octets_eq_restored_of_not_carries hs⟩

/-- **Texts one after the other.**  The octets of two texts, one after the other, are those of the first and then those
of the second, except where one of them has a surrogate that carries no octet and the surrogates of the other one, of
which there are some, all carry one. -/
theorem restore_append_iff (s t : Text) :
    restore (s ++ t) = s.restore ++ t.restore ↔ ¬ (s.IsForeign ∧ t.Carries ∨ t.IsForeign ∧ s.Carries) := by
  by_cases hs : s.IsForeign
  · by_cases ht : t.IsForeign
    · refine iff_of_true (restore_append (iff_of_true hs ht)) ?_
      rintro (⟨-, carries⟩ | ⟨-, carries⟩)
      · exact carries.not_isForeign ht
      · exact carries.not_isForeign hs
    · rw [restore_append_left hs ht]
      simp only [hs, ht, true_and, false_and, or_false]
  · by_cases ht : t.IsForeign
    · rw [restore_append_right hs ht]
      simp only [hs, ht, true_and, false_and, false_or]
    · refine iff_of_true (restore_append (iff_of_false hs ht)) ?_
      rintro (⟨foreign, -⟩ | ⟨foreign, -⟩)
      · exact hs foreign
      · exact ht foreign

end Text

end SaslBind
