import Mathlib.Data.List.Perm.Basic
import SaslBind.Value.Order

/-!
# Things in order are the same things

`sortBy` gives a permutation of its things, and gives one if every two of them have an order; texts have.

Main statements: `perm_sortBy`, `exists_sortBy`, and for texts `sorted_texts`.
-/

namespace SaslBind

section Sorting

variable {α : Type} {before : α → α → Except Fault Bool}

/-! ### Nothing is lost and nothing comes in -/

theorem perm_insertInOrder {sorted bs : List α} {a : α} (h : insertInOrder before sorted a = .ok bs) :
    bs.Perm (a :: sorted) := by
  unfold insertInOrder at h
  split at h
  · cases h
  · next k _ =>
    obtain rfl := Except.ok.inj h
    have hp : (sorted.take k ++ a :: sorted.drop k).Perm (a :: (sorted.take k ++ sorted.drop k)) := List.perm_middle
    rwa [List.take_append_drop] at hp

theorem perm_insertAll {sorted as bs : List α} (h : insertAll before sorted as = .ok bs) :
    bs.Perm (sorted ++ as) := by
  induction as generalizing sorted with
  | nil =>
    obtain rfl := Except.ok.inj h
    rw [List.append_nil]
  | cons a as ih =>
    unfold insertAll at h
    split at h
    · cases h
    · next next hn =>
      have here : next.Perm (a :: sorted) := perm_insertInOrder hn
      exact (ih h).trans ((here.append_right as).trans List.perm_middle.symm)

/-- The run at the beginning, turned round if it goes down, with what comes after it. -/
theorem perm_run (down : Bool) (n : Nat) (as : List α) :
    ((if down then (as.take n).reverse else as.take n) ++ as.drop n).Perm as := by
  have run : (if down then (as.take n).reverse else as.take n).Perm (as.take n) := by
    split
    · exact List.reverse_perm _
    · exact .refl _
  have all := run.append_right (as.drop n)
  rwa [List.take_append_drop] at all

theorem perm_sortBy {as bs : List α} (h : sortBy before as = .ok bs) : bs.Perm as := by
  match as with
  | [] =>
    obtain rfl := Except.ok.inj h
    exact .refl _
  | [_] =>
    obtain rfl := Except.ok.inj h
    exact .refl _
  | a :: b :: rest =>
    simp only [sortBy, bind, Except.bind] at h
    split at h
    · cases h
    next down _ =>
      split at h
      · cases h
      next n _ => exact (perm_insertAll h).trans (perm_run down (n + 2) _)

/-! ### Things that have an order -/

/-- Whether every two of some things have an order. -/
def Ordered (before : α → α → Except Fault Bool) (as : List α) : Prop :=
  ∀ a ∈ as, ∀ b ∈ as, ∃ r, before a b = .ok r

theorem Ordered.mono {as bs : List α} (h : Ordered before as) (hs : bs ⊆ as) : Ordered before bs :=
  fun a ha b hb => h a (hs ha) b (hs hb)

theorem exists_runLength (down : Bool) {last : α} {as : List α} (h : Ordered before (last :: as)) :
    ∃ n, runLength before down last as = .ok n := by
  induction as generalizing last with
  | nil => exact ⟨0, rfl⟩
  | cons a as ih =>
    obtain ⟨r, hr⟩ := h a (by simp) last (by simp)
    obtain ⟨n, hn⟩ := ih (h.mono (List.subset_cons_self _ _))
    simp only [runLength, hr, hn, bind, Except.bind]
    split
    · exact ⟨n + 1, rfl⟩
    · exact ⟨0, rfl⟩

theorem exists_placeOf {a : α} {sorted : List α} (h : ∀ b ∈ sorted, ∃ r, before a b = .ok r) (low high : Nat) :
    ∃ k, placeOf before a sorted low high = .ok k := by
  induction low, high using placeOf.induct before a sorted with
  | case1 low high hlt middle hm =>
    refine ⟨low, ?_⟩
    rw [placeOf, if_pos hlt]
    simp only [show sorted[low + (high - low) / 2]? = none from hm]
  | case2 low high hlt middle b hm f hf =>
    obtain ⟨r, hr⟩ := h b (List.mem_of_getElem? hm)
    rw [hr] at hf
    cases hf
  | case3 low high hlt middle b hm hb ih =>
    obtain ⟨k, hk⟩ := ih
    refine ⟨k, ?_⟩
    rw [placeOf, if_pos hlt]
    simp only [show sorted[low + (high - low) / 2]? = some b from hm, hb]
    exact hk
  | case4 low high hlt middle b hm hb ih =>
    obtain ⟨k, hk⟩ := ih
    refine ⟨k, ?_⟩
    rw [placeOf, if_pos hlt]
    simp only [show sorted[low + (high - low) / 2]? = some b from hm, hb]
    exact hk
  | case5 low high hlt => exact ⟨low, by rw [placeOf, if_neg hlt]⟩

theorem exists_insertAll {sorted as : List α} (h : Ordered before (sorted ++ as)) :
    ∃ bs, insertAll before sorted as = .ok bs := by
  induction as generalizing sorted with
  | nil => exact ⟨sorted, rfl⟩
  | cons a as ih =>
    have order : ∀ b ∈ sorted, ∃ r, before a b = .ok r :=
      fun b hb => h a (by simp) b (List.mem_append_left _ hb)
    obtain ⟨k, hk⟩ := exists_placeOf order 0 sorted.length
    have here : insertInOrder before sorted a = .ok (sorted.take k ++ a :: sorted.drop k) := by
      simp [insertInOrder, hk]
    have same := ((perm_insertInOrder here).append_right as).trans List.perm_middle.symm
    obtain ⟨bs, hbs⟩ := ih (h.mono same.subset)
    exact ⟨bs, by rw [insertAll, here]; exact hbs⟩

theorem exists_sortBy {as : List α} (h : Ordered before as) : ∃ bs, sortBy before as = .ok bs := by
  match as with
  | [] => exact ⟨[], rfl⟩
  | [a] => exact ⟨[a], rfl⟩
  | a :: b :: rest =>
    obtain ⟨down, hd⟩ := h b (by simp) a (by simp)
    obtain ⟨n, hn⟩ := exists_runLength down (h.mono (List.subset_cons_self _ _))
    simp only [sortBy, hd, hn, bind, Except.bind]
    have same := perm_run down (n + 2) (a :: b :: rest)
    exact exists_insertAll (h.mono same.subset)

end Sorting

theorem sorted_texts (ts : List Text) :
    ∃ vs, sortBy Value.precedes (ts.map .text) = .ok vs ∧ vs.Perm (ts.map .text) := by
  have order : Ordered Value.precedes (ts.map .text) := by
    intro v hv w hw
    obtain ⟨t, -, rfl⟩ := List.mem_map.1 hv
    obtain ⟨u, -, rfl⟩ := List.mem_map.1 hw
    exact ⟨t.precedes u, rfl⟩
  obtain ⟨vs, hvs⟩ := exists_sortBy order
  exact ⟨vs, hvs, perm_sortBy hvs⟩

end SaslBind
