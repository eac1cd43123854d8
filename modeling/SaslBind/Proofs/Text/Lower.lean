import SaslBind.Text.Lower

/-!
# Lower case and ASCII

Hardly a character beyond ASCII has a lower case in ASCII.  The Kelvin sign becomes a k, and a dotted capital i an i with
a mark after it that is beyond ASCII; the lower case of any other one is beyond ASCII itself.  So a name in ASCII
without a k is the lower case of its own case variants and of nothing else.

* `CodePoint.isAscii`, `CodePoint.lowerAscii` : ASCII, and the lower case of its letters;
* `Text.CaseVariant t name` : a text in ASCII that is the name once its letters are in lower case;
* `CodePoint.lower_beyond` : what becomes of a character beyond ASCII.

Main statement: `lower_eq_iff`.
-/

namespace SaslBind

namespace CodePoint

def isAscii (c : CodePoint) : Bool := c.value < 0x80

/-- An ASCII letter in lower case; any other character as it is. -/
def lowerAscii (c : CodePoint) : CodePoint :=
  if 0x41 ≤ c.value ∧ c.value ≤ 0x5A then c.ofNatOr (c.value + 0x20) else c

theorem value_ofNatOr (c : CodePoint) (n : Nat) : (c.ofNatOr n).value = n ∨ (c.ofNatOr n).value = c.value := by
  unfold ofNatOr
  split
  · exact .inl rfl
  · exact .inr rfl

/-! ### Characters -/

/-- Where a row of the table leads: it is about ASCII, or leads beyond it, or it is that of the Kelvin sign. -/
theorem lowerRows_cases : ∀ r ∈ lowerRows,
    r.last < 0x80 ∨ (0x80 : Int) ≤ r.first + r.shift ∨ (r.first = r.last ∧ (r.first : Int) + r.shift = 0x6B) := by
  decide +kernel

theorem shiftBy_lowerRows {c : CodePoint} (h : 0x80 ≤ c.value) :
    0x80 ≤ (shiftBy lowerRows c).value ∨ (shiftBy lowerRows c).value = 0x6B := by
  unfold shiftBy
  cases hf : lowerRows.find? (·.holds c.value) with
  | none => exact .inl h
  | some r =>
    have held : r.first ≤ c.value ∧ c.value ≤ r.last := by
      have := List.find?_some hf
      simp only [CaseRow.holds, Bool.and_eq_true, decide_eq_true_eq] at this
      exact this.1
    have target := value_ofNatOr c (c.value + r.shift).toNat
    simp only
    rcases lowerRows_cases r (List.mem_of_find?_eq_some hf) with below | beyond | ⟨single, kelvin⟩
    · omega
    · omega
    · omega

theorem lower_of_isAscii {c : CodePoint} (h : c.isAscii) (before after : Text) :
    c.lower before after = [c.lowerAscii] := by
  have low : c.value < 0x80 := of_decide_eq_true h
  simp only [lower, if_pos low, lowerAscii, Bool.and_eq_true, decide_eq_true_eq]

/-- **Characters beyond ASCII.**  In the lower case of a character beyond ASCII there is one beyond ASCII or a k. -/
theorem lower_beyond {c : CodePoint} (h : c.isAscii = false) (before after : Text) :
    ∃ d ∈ c.lower before after, d.isAscii = false ∨ d = ofChar 'k' := by
  have high : 0x80 ≤ c.value := Nat.le_of_not_lt (of_decide_eq_false h)
  have beyond {d : CodePoint} (hd : 0x80 ≤ d.value) : d.isAscii = false := decide_eq_false (Nat.not_lt.2 hd)
  unfold lower
  rw [if_neg (Nat.not_lt.2 high)]
  split
  · -- a capital sigma has two lower cases, and both are Greek
    refine ⟨_, List.mem_singleton_self _, .inl (beyond ?_)⟩
    rcases value_ofNatOr c (if cased before && !cased after then 0x3C2 else 0x3C3) with hv | hv
    · rw [hv]
      split <;> decide
    · rwa [hv]
  split
  · refine ⟨c.ofNatOr 0x307, by simp, .inl (beyond ?_)⟩
    rcases value_ofNatOr c 0x307 with hv | hv
    · rw [hv]
      decide
    · rwa [hv]
  · refine ⟨_, List.mem_singleton_self _, ?_⟩
    rcases shiftBy_lowerRows high with hv | hv
    · exact .inl (beyond hv)
    · exact .inr (ext_value hv)

end CodePoint

/-! ### Texts -/

namespace Text

/-- A text in ASCII that is the name once its letters are in lower case. -/
def CaseVariant (t name : Text) : Prop := (∀ c ∈ t, c.isAscii) ∧ t.map CodePoint.lowerAscii = name

instance (t name : Text) : Decidable (CaseVariant t name) := inferInstanceAs (Decidable (_ ∧ _))

theorem lowerAfter_of_isAscii {t : Text} (h : ∀ c ∈ t, c.isAscii) (before : Text) :
    lowerAfter before t = t.map CodePoint.lowerAscii := by
  induction t generalizing before with
  | nil => rfl
  | cons c t ih =>
    rw [lowerAfter, CodePoint.lower_of_isAscii (h c List.mem_cons_self), ih fun d hd => h d (List.mem_cons_of_mem _ hd)]
    rfl

theorem mem_lowerAfter {t : Text} {c : CodePoint} (hc : c ∈ t) (before : Text) :
    ∃ others after, ∀ d ∈ c.lower others after, d ∈ lowerAfter before t := by
  induction t generalizing before with
  | nil => cases hc
  | cons e t ih =>
    rcases List.mem_cons.1 hc with rfl | hc
    · exact ⟨before, t, fun d hd => List.mem_append_left _ hd⟩
    · obtain ⟨others, after, h⟩ := ih hc (e :: before)
      exact ⟨others, after, fun d hd => List.mem_append_right _ (h d hd)⟩

/-- **Names in ASCII.**  A name in ASCII without a k is the lower case of its case variants and of no other texts. -/
theorem lower_eq_iff {t name : Text} (plain : ∀ c ∈ name, c.isAscii ∧ c ≠ CodePoint.ofChar 'k') :
    t.lower = name ↔ CaseVariant t name := by
  constructor
  · intro h
    have ascii : ∀ c ∈ t, c.isAscii := by
      intro c hc
      refine Bool.of_not_eq_false fun beyond => ?_
      obtain ⟨others, after, hl⟩ := mem_lowerAfter hc []
      obtain ⟨d, hd, hk⟩ := CodePoint.lower_beyond beyond others after
      have inName : d ∈ name := h ▸ hl d hd
      obtain ⟨hascii, hnot⟩ := plain d inName
      rcases hk with hk | hk
      · rw [hascii] at hk
        cases hk
      · exact hnot hk
    exact ⟨ascii, by rw [← h, lower, lowerAfter_of_isAscii ascii]⟩
  · rintro ⟨ascii, rfl⟩
    exact lowerAfter_of_isAscii ascii []

end Text

end SaslBind
