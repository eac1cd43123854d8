import Mathlib.Data.List.Basic
import SaslBind.Proofs.Text.Lower
import SaslBind.Text.Upper

/-!
# Upper case twice

The upper case of a text is its own upper case: a row of the table leads to characters of which no row says anything,
and neither a row nor an expansion leads to a character that is expanded.

* `CaseRow.target`, `CaseRow.misses` : where a row leads, and whether another row says nothing about that;
* `CodePoint.IsCapital` : the numbers that upper case leaves as they are.

Main statement: `upper_upper`.
-/

namespace SaslBind

namespace CaseRow

theorem holds_iff {r : CaseRow} {n : Nat} :
    r.holds n = true ↔ r.first ≤ n ∧ n ≤ r.last ∧ (n - r.first) % r.step = 0 := by
  simp [holds, and_assoc]

/-- Where a row leads. -/
def target (r : CaseRow) (n : Nat) : Nat := (n + r.shift).toNat

/-- Whether none of the numbers from `first` to `last` can be one of the row.  All pairs of rows are compared by this,
so it is put into the comparison of numbers that is computed fastest. -/
def isBeside (r : CaseRow) (first last : Nat) : Bool := Nat.blt last r.first || Nat.blt r.last first

/-- Whether the row `r` leads to no place of the row `q`: beside it, or between its places, which are two apart. -/
def misses (r q : CaseRow) : Bool :=
  q.isBeside (r.target r.first) (r.target r.last) ||
    (q.step == 2 && (r.step == 2 || r.first == r.last) && (r.target r.first + q.first) % 2 == 1)

theorem isBeside_iff {r : CaseRow} {first last : Nat} :
    r.isBeside first last = true ↔ last < r.first ∨ r.last < first := by
  simp [isBeside, Nat.blt_eq]

theorem holds_of_isBeside {r : CaseRow} {first last n : Nat} (h : r.isBeside first last) (hf : first ≤ n)
    (hl : n ≤ last) : r.holds n = false := by
  rw [← Bool.not_eq_true, holds_iff]
  rintro ⟨rfirst, rlast, -⟩
  rcases isBeside_iff.1 h with before | behind <;> omega

section

variable {r q : CaseRow} {n : Nat}

/-- A row that leads nowhere below zero moves all its numbers by the same. -/
theorem target_eq (low : 0 ≤ r.first + r.shift) (hn : r.holds n) :
    r.target n = r.target r.first + (n - r.first) ∧ r.target n ≤ r.target r.last := by
  obtain ⟨first, last, -⟩ := holds_iff.1 hn
  unfold target
  omega

theorem holds_of_misses (h : r.misses q) (low : 0 ≤ r.first + r.shift) (hn : r.holds n) :
    q.holds (r.target n) = false := by
  obtain ⟨moved, bound⟩ := target_eq low hn
  rw [misses, Bool.or_eq_true] at h
  rcases h with beside | between
  · exact holds_of_isBeside beside (by omega) bound
  · -- an even number of steps from where `r` leads first, and that is an odd one from the first place of `q`
    rw [← Bool.not_eq_true, holds_iff]
    rintro ⟨first, -, even⟩
    obtain ⟨rfirst, rlast, steps⟩ := holds_iff.1 hn
    simp only [Bool.and_eq_true, Bool.or_eq_true, beq_iff_eq] at between
    obtain ⟨⟨two, rtwo | single⟩, odd⟩ := between
    · rw [two] at even
      rw [rtwo] at steps
      omega
    · rw [two] at even
      omega

end

end CaseRow

namespace CodePoint

theorem value_ofNatOr_of_lt (c : CodePoint) {n : Nat} (h : n < 0x110000) : (c.ofNatOr n).value = n := by
  rw [ofNatOr, dif_pos h]

/-- A number of which neither the rows nor the expansions of upper case say anything. -/
def IsCapital (n : Nat) : Prop := (∀ q ∈ upperRows, q.holds n = false) ∧ ∀ e ∈ upperExpansions, n ≠ e.1

theorem lookup_eq_none_of_ne {n : Nat} (h : ∀ e ∈ upperExpansions, n ≠ e.1) : upperExpansions.lookup n = none :=
  List.lookup_eq_none_iff.2 fun e he => by simpa using h e he

theorem shiftBy_of_not_holds {c : CodePoint} (h : ∀ q ∈ upperRows, q.holds c.value = false) :
    shiftBy upperRows c = c := by
  have none : upperRows.find? (·.holds c.value) = none := List.find?_eq_none.2 fun q hq => by simp [h q hq]
  simp only [shiftBy, none]

/-! ### ASCII -/

/-- The small letters of ASCII are in the table too, though they are not looked up there. -/
def asciiRow : CaseRow := ⟨0x61, 0x7A, 1, -32⟩

theorem asciiRow_mem : asciiRow ∈ upperRows := List.mem_cons_self

theorem holds_asciiRow {n : Nat} : asciiRow.holds n = true ↔ 0x61 ≤ n ∧ n ≤ 0x7A := by
  simp [CaseRow.holds_iff, asciiRow, Nat.mod_one]

theorem upper_of_ascii {c : CodePoint} (h : c.value < 0x80) :
    c.upper = [if asciiRow.holds c.value then c.ofNatOr (asciiRow.target c.value) else c] := by
  unfold upper
  rw [if_pos h]
  by_cases small : asciiRow.holds c.value
  · obtain ⟨low, high⟩ := holds_asciiRow.1 small
    have there : asciiRow.target c.value = c.value - 0x20 := by
      have shift : asciiRow.shift = -32 := rfl
      rw [CaseRow.target, shift]
      omega
    rw [if_pos small, there, if_pos (by simp [low, high])]
  · have outside : ¬ (0x61 ≤ c.value ∧ c.value ≤ 0x7A) := fun inside => small (holds_asciiRow.2 inside)
    rw [if_neg small, if_neg (by simpa using outside)]

theorem upper_of_isCapital {c : CodePoint} (h : IsCapital c.value) : c.upper = [c] := by
  obtain ⟨unheld, unexpanded⟩ := h
  by_cases ascii : c.value < 0x80
  · rw [upper_of_ascii ascii, unheld _ asciiRow_mem]
    rfl
  · rw [upper, if_neg ascii, lookup_eq_none_of_ne unexpanded]
    simp only [shiftBy_of_not_holds unheld]

/-! ### Where the table leads -/

theorem upperRows_misses : (upperRows.all fun r => upperRows.all fun q => r.misses q) = true := by decide +kernel

theorem upperRows_beside : (upperExpansions.all fun e => upperRows.all fun r =>
    Nat.blt (r.target r.last) e.1 || Nat.blt e.1 (r.target r.first)) = true := by decide +kernel

theorem upperRows_bounds : ∀ r ∈ upperRows, 0 ≤ r.first + r.shift ∧ r.target r.last < 0x110000 := by decide +kernel

/-- The numbers that expansions consist of. -/
def expandedCodes : List Nat := (upperExpansions.flatMap (·.2)).eraseDups

theorem expandedCodes_bounds : ∀ n ∈ expandedCodes, n < 0x110000 := by decide +kernel

theorem expandedCodes_unheld : (expandedCodes.all fun n => upperRows.all fun q => !q.holds n) = true := by
  decide +kernel

theorem expandedCodes_unexpanded : (expandedCodes.all fun n => upperExpansions.all fun e => !Nat.beq n e.1) = true := by
  decide +kernel

theorem isCapital_of_row {r : CaseRow} (hr : r ∈ upperRows) {n : Nat} (hn : r.holds n) :
    IsCapital (r.target n) ∧ r.target n < 0x110000 := by
  obtain ⟨low, high⟩ := upperRows_bounds r hr
  obtain ⟨moved, bound⟩ := CaseRow.target_eq low hn
  refine ⟨⟨fun q hq => ?_, fun e he => ?_⟩, by omega⟩
  · exact CaseRow.holds_of_misses (List.all_eq_true.1 (List.all_eq_true.1 upperRows_misses r hr) q hq) low hn
  · have beside := List.all_eq_true.1 (List.all_eq_true.1 upperRows_beside e he) r hr
    simp only [Bool.or_eq_true, Nat.blt_eq] at beside
    omega

theorem isCapital_of_expansion {n : Nat} {codes : List Nat} (h : upperExpansions.lookup n = some codes) {m : Nat}
    (hm : m ∈ codes) : IsCapital m ∧ m < 0x110000 := by
  obtain ⟨before, after, he, -⟩ := List.lookup_eq_some_iff.1 h
  have listed : m ∈ expandedCodes := by
    refine List.mem_eraseDups.2 (List.mem_flatMap.2 ⟨(n, codes), ?_, hm⟩)
    rw [he]
    exact List.mem_append_right _ List.mem_cons_self
  have unheld := List.all_eq_true.1 (List.all_eq_true.1 expandedCodes_unheld m listed)
  have unexpanded := List.all_eq_true.1 (List.all_eq_true.1 expandedCodes_unexpanded m listed)
  refine ⟨⟨fun q hq => by simpa using unheld q hq, fun e he => ?_⟩, expandedCodes_bounds m listed⟩
  have other : Nat.beq m e.1 = false := by simpa using unexpanded e he
  exact Nat.ne_of_beq_eq_false other

/-- **Capitals.**  Upper case leaves the characters of an upper case as they are. -/
theorem upper_of_mem_upper {c d : CodePoint} (h : d ∈ c.upper) : d.upper = [d] := by
  have led {r : CaseRow} (hr : r ∈ upperRows) (hn : r.holds c.value) :
      (c.ofNatOr (r.target c.value)).upper = [c.ofNatOr (r.target c.value)] := by
    obtain ⟨capital, bound⟩ := isCapital_of_row hr hn
    exact upper_of_isCapital ((value_ofNatOr_of_lt c bound).symm ▸ capital)
  by_cases ascii : c.value < 0x80
  · have single := upper_of_ascii ascii
    rw [single] at h
    obtain rfl := List.mem_singleton.1 h
    by_cases small : asciiRow.holds c.value
    · rw [if_pos small]
      exact led asciiRow_mem small
    · rw [if_neg small] at single ⊢
      exact single
  · unfold upper at h
    rw [if_neg ascii] at h
    split at h
    next codes expanded =>
      obtain ⟨n, hn, rfl⟩ := List.mem_map.1 h
      obtain ⟨capital, bound⟩ := isCapital_of_expansion expanded hn
      exact upper_of_isCapital ((value_ofNatOr_of_lt c bound).symm ▸ capital)
    next unexpanded =>
      obtain rfl := List.mem_singleton.1 h
      unfold shiftBy
      cases hf : upperRows.find? (·.holds c.value) with
      | some r =>
        have held : r.holds c.value := by simpa using List.find?_some hf
        exact led (List.mem_of_find?_eq_some hf) held
      | none =>
        have others : ∀ e ∈ upperExpansions, c.value ≠ e.1 := fun e he => by
          simpa using List.lookup_eq_none_iff.1 unexpanded e he
        refine upper_of_isCapital ⟨fun q hq => ?_, others⟩
        simpa using List.find?_eq_none.1 hf q hq

end CodePoint

/-- **Upper case twice** is upper case. -/
theorem Text.upper_upper (t : Text) : t.upper.upper = t.upper := by
  have once (c : CodePoint) : c.upper.flatMap CodePoint.upper = c.upper :=
    calc c.upper.flatMap CodePoint.upper
        = c.upper.flatMap (fun d => [d]) := List.flatMap_congr fun d hd => CodePoint.upper_of_mem_upper hd
      _ = c.upper := List.flatMap_singleton' _
  unfold Text.upper
  rw [List.flatMap_assoc]
  exact List.flatMap_congr fun c _ => once c

end SaslBind
