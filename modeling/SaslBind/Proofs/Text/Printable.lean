import SaslBind.Text.Quoted

/-!
# Printable texts

Numbers are printable, and so is what stands between quotes, whatever was quoted: there a character that is not
printable is written by a letter or by its number.

* `Text.IsPrintable` : a text of printable characters, with a lemma for each way in which texts are put together;
* `isPrintable_digits` : the digits of a number to any base.

Main statements: `isPrintable_quoted` and `isPrintable_quotedOctets`.
-/

namespace SaslBind

namespace Text

/-- A text of which all characters are printable. -/
def IsPrintable (t : Text) : Prop := ∀ c ∈ t, c.isPrintable = true

instance (t : Text) : Decidable t.IsPrintable := inferInstanceAs (Decidable (∀ c ∈ t, c.isPrintable = true))

variable {s t : Text} {c mark : CodePoint}

@[simp] theorem isPrintable_nil : IsPrintable [] := List.forall_mem_nil _

@[simp] theorem isPrintable_cons : IsPrintable (c :: t) ↔ c.isPrintable = true ∧ t.IsPrintable := List.forall_mem_cons

@[simp] theorem isPrintable_append : (s ++ t).IsPrintable ↔ s.IsPrintable ∧ t.IsPrintable := List.forall_mem_append

theorem IsPrintable.subset (h : t.IsPrintable) (hs : s ⊆ t) : s.IsPrintable := fun c hc => h c (hs hc)

theorem IsPrintable.take (h : t.IsPrintable) (n : Nat) : IsPrintable (t.take n) := h.subset (List.take_subset n t)

theorem IsPrintable.drop (h : t.IsPrintable) (n : Nat) : IsPrintable (t.drop n) := h.subset (List.drop_subset n t)

theorem IsPrintable.ite {p : Prop} [Decidable p] (hs : s.IsPrintable) (ht : t.IsPrintable) :
    Text.IsPrintable (if p then s else t) := by
  split
  · exact hs
  · exact ht

theorem isPrintable_flatMap {α : Type} {f : α → Text} {l : List α} (h : ∀ a ∈ l, (f a).IsPrintable) :
    Text.IsPrintable (l.flatMap f) := by
  intro c hc
  obtain ⟨a, ha, hc⟩ := List.mem_flatMap.1 hc
  exact h a ha c hc

theorem isPrintable_replicate (hc : c.isPrintable = true) (n : Nat) : Text.IsPrintable (List.replicate n c) :=
  fun _ hd => List.eq_of_mem_replicate hd ▸ hc

theorem isPrintable_join {items : List Text} (hs : s.IsPrintable) (h : ∀ t ∈ items, t.IsPrintable) :
    (join s items).IsPrintable := by
  cases items with
  | nil => exact isPrintable_nil
  | cons first rest =>
    obtain ⟨here, others⟩ := List.forall_mem_cons.1 h
    rw [join_cons]
    exact isPrintable_append.2 ⟨here, isPrintable_flatMap fun t ht => isPrintable_append.2 ⟨hs, others t ht⟩⟩

/-! ### Numbers -/

theorem isPrintable_digitChar (d : Nat) : (CodePoint.ofChar d.digitChar).isPrintable = true := by
  have digits : ∀ d < 16, (CodePoint.ofChar (Nat.digitChar d)).isPrintable = true := by decide
  rcases Nat.lt_or_ge d 16 with h | h
  · exact digits d h
  · rw [Nat.digitChar_eq_star.2 h]
    decide

theorem isPrintable_digits {b : Nat} (hb : 1 < b) (n : Nat) :
    Text.IsPrintable ((Nat.toDigits b n).map CodePoint.ofChar) := by
  induction n using Nat.strongRecOn with
  | ind n ih =>
    rw [Nat.toDigits_eq_if hb]
    split
    · simp [isPrintable_digitChar]
    · next h =>
      have before := ih (n / b) (Nat.div_lt_self (by omega) hb)
      simp [before, isPrintable_digitChar]

@[simp] theorem isPrintable_ofNat (n : Nat) : (ofNat n).IsPrintable := isPrintable_digits (by decide) n

@[simp] theorem isPrintable_ofInt (n : Int) : (ofInt n).IsPrintable := by
  cases n with
  | ofNat n => exact isPrintable_ofNat n
  | negSucc n => exact isPrintable_cons.2 ⟨by decide, isPrintable_ofNat (n + 1)⟩

@[simp] theorem isPrintable_hex (width n : Nat) : (hex width n).IsPrintable :=
  isPrintable_append.2 ⟨isPrintable_replicate (by decide) _, isPrintable_digits (by decide) n⟩

/-! ### Quotes -/

theorem isPrintable_byNumber (c : CodePoint) : c.byNumber.IsPrintable := by
  have two : "\\x".toText.IsPrintable := by decide
  have four : "\\u".toText.IsPrintable := by decide
  have eight : "\\U".toText.IsPrintable := by decide
  exact .ite (isPrintable_append.2 ⟨two, isPrintable_hex 2 _⟩)
    (.ite (isPrintable_append.2 ⟨four, isPrintable_hex 4 _⟩) (isPrintable_append.2 ⟨eight, isPrintable_hex 8 _⟩))

theorem isPrintable_escaped (hc : c.isPrintable = true) : IsPrintable [CodePoint.ofChar '\\', c] :=
  isPrintable_cons.2 ⟨by decide, isPrintable_cons.2 ⟨hc, isPrintable_nil⟩⟩

theorem isPrintable_quotedIn (hm : mark.isPrintable = true) (c : CodePoint) :
    (CodePoint.quotedIn mark c).IsPrintable := by
  unfold CodePoint.quotedIn
  split
  · next h =>
    rcases h with rfl | rfl
    · exact isPrintable_escaped hm
    · decide
  split
  · decide
  split
  · decide
  split
  · decide
  split
  · next h => exact isPrintable_cons.2 ⟨h, isPrintable_nil⟩
  · exact isPrintable_byNumber c

theorem isPrintable_quoteMark (single double : Bool) : (quoteMark single double).isPrintable = true := by
  cases single <;> cases double <;> decide

theorem isPrintable_between (hm : mark.isPrintable = true) {written : CodePoint → Text}
    (h : ∀ c, (written c).IsPrintable) (t : Text) : IsPrintable (mark :: t.flatMap written ++ [mark]) := by
  have inside : Text.IsPrintable (t.flatMap written) := isPrintable_flatMap fun c _ => h c
  simp [hm, inside]

/-- **Quotes are printable.**  What stands between quotes is printable, whatever was quoted. -/
theorem isPrintable_quoted (t : Text) : t.quoted.IsPrintable :=
  isPrintable_between (isPrintable_quoteMark _ _) (isPrintable_quotedIn (isPrintable_quoteMark _ _)) t

theorem isPrintable_quotedOctets (singles : Bool) (bs : List UInt8) : (quotedOctets singles bs).IsPrintable := by
  refine isPrintable_cons.2 ⟨by decide, isPrintable_between (isPrintable_quoteMark _ _) (fun c => ?_) _⟩
  split
  · next h =>
    simp only [Bool.and_eq_true, decide_eq_true_eq] at h
    rw [h.2]
    decide
  split
  · exact isPrintable_quotedIn (isPrintable_quoteMark _ _) c
  · exact isPrintable_byNumber c

end Text

end SaslBind
