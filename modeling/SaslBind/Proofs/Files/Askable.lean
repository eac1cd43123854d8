import SaslBind.Files.System
import SaslBind.Proofs.Text.Surrogate

/-!
# Paths that can be asked for

The text of a path is written in the characters that it was made from, with slashes and points.  So a path can be
asked for if the text it is made from has no NUL and carries octets at most, and then reading is answered: with the
content of a file or an error of the file system.

* `Text.mem_of_mem_split`, `Text.mem_join` : characters of items and of joined items;
* `Path.mem_text` : the characters of a path;
* `Text.Askable` : texts of paths that can be asked for.

Main statements: `read_of_askable`, and `pathFault?_eq_none_iff`, no other path can be asked for.
-/

namespace SaslBind

namespace Text

theorem mem_of_mem_split {separator : CodePoint} {t : Text} :
    ∀ item ∈ t.split separator, ∀ c ∈ item, c ∈ t := by
  fun_induction split separator t with
  | case1 => simp
  | case2 t ih =>
    intro item hi c hc
    rcases List.mem_cons.1 hi with rfl | hi
    · cases hc
    · exact List.mem_cons_of_mem _ (ih item hi c hc)
  | case3 d t hd h => exact absurd h (split_ne_nil separator t)
  | case4 d t hd first items h ih =>
    rw [h] at ih
    intro item hi c hc
    rcases List.mem_cons.1 hi with rfl | hi
    · rcases List.mem_cons.1 hc with rfl | hc
      · exact List.mem_cons_self
      · exact List.mem_cons_of_mem _ (ih first List.mem_cons_self c hc)
    · exact List.mem_cons_of_mem _ (ih item (List.mem_cons_of_mem _ hi) c hc)

theorem mem_join {separator : Text} {items : List Text} {c : CodePoint} (h : c ∈ join separator items) :
    c ∈ separator ∨ ∃ item ∈ items, c ∈ item := by
  fun_induction join separator items with
  | case1 => cases h
  | case2 item => exact .inr ⟨item, List.mem_singleton_self _, h⟩
  | case3 item items hne ih =>
    rcases List.mem_append.1 h with h | h
    · rcases List.mem_append.1 h with h | h
      · exact .inr ⟨item, List.mem_cons_self, h⟩
      · exact .inl h
    · rcases ih h with h | ⟨other, ho, h⟩
      · exact .inl h
      · exact .inr ⟨other, List.mem_cons_of_mem _ ho, h⟩

theorem mem_join_of_mem {separator : Text} {items : List Text} {item : Text} (hi : item ∈ items) {c : CodePoint}
    (hc : c ∈ item) : c ∈ join separator items := by
  fun_induction join separator items with
  | case1 => cases hi
  | case2 only =>
    obtain rfl := List.mem_singleton.1 hi
    exact hc
  | case3 first items _ ih =>
    rcases List.mem_cons.1 hi with rfl | hi
    · exact List.mem_append_left _ (List.mem_append_left _ hc)
    · exact List.mem_append_right _ (ih hi)

/-- The characters of a text, separators apart, are in its items. -/
theorem exists_item_of_mem {separator : CodePoint} {t : Text} {c : CodePoint} (hc : c ∈ t) (hne : c ≠ separator) :
    ∃ item ∈ t.split separator, c ∈ item := by
  rw [← join_split separator t] at hc
  exact (mem_join hc).resolve_left fun h => hne (List.mem_singleton.1 h)

/-- A text without NUL and without a surrogate that carries no octet. -/
def Askable (t : Text) : Prop := (∀ c ∈ t, c.value ≠ 0) ∧ t.hasForeignSurrogate = false

end Text

namespace Path

def point : CodePoint := CodePoint.ofChar '.'

theorem mem_rootOf {t : Text} {c : CodePoint} (h : c ∈ rootOf t) : c = slash := by
  unfold rootOf at h
  split at h
  · cases h
  · exact (List.mem_cons.1 h).elim id List.mem_singleton.1
  · exact List.mem_singleton.1 h

/-- The characters of a path are those of the text that it is made from, slashes and points. -/
theorem mem_text {t : Text} {c : CodePoint} (h : c ∈ (ofText t).text) : c ∈ t ∨ c = slash ∨ c = point := by
  unfold text at h
  split at h
  · exact .inr (.inr (List.mem_singleton.1 h))
  · rcases List.mem_append.1 h with h | h
    · exact .inr (.inl (mem_rootOf h))
    · rcases Text.mem_join h with h | ⟨name, hn, h⟩
      · exact .inr (.inl (List.mem_singleton.1 h))
      · exact .inl (Text.mem_of_mem_split name (List.mem_filter.1 hn).1 c h)

theorem mem_text_of_mem {t : Text} {c : CodePoint} (hc : c ∈ t) (hs : c ≠ slash) (hp : c ≠ point) :
    c ∈ (ofText t).text := by
  obtain ⟨name, hn, hcn⟩ := Text.exists_item_of_mem hc hs
  have counts : name ≠ [] ∧ name ≠ here := by
    constructor
    · rintro rfl
      cases hcn
    · rintro rfl
      exact hp (List.mem_singleton.1 hcn)
  have kept : name ∈ (ofText t).names := List.mem_filter.2 ⟨hn, by simpa using counts⟩
  unfold text
  split
  · next h =>
    obtain ⟨-, none⟩ := Bool.and_eq_true_iff.1 h
    rw [List.isEmpty_iff.1 none] at kept
    cases kept
  · exact List.mem_append_right _ (Text.mem_join_of_mem kept hcn)

end Path

namespace FileSystem

theorem pathFault?_of_askable {t : Text} (h : t.Askable) : pathFault? (.ofText t) = none := by
  obtain ⟨noNull, noForeign⟩ := h
  have foreign : ∀ c ∈ (Path.ofText t).text, (c.isSurrogate && !c.isEscapedOctet) = false := by
    intro c hc
    rcases Path.mem_text hc with hc | rfl | rfl
    · simpa using (List.any_eq_false.1 noForeign) c hc
    · decide
    · decide
  have null : (Path.ofText t).text.any (·.value = 0) = false := by
    rw [List.any_eq_false]
    intro c hc
    rcases Path.mem_text hc with hc | rfl | rfl
    · simpa using noNull c hc
    · decide
    · decide
  have run : (Path.ofText t).text.foreignRun? = none := Text.runFrom?_eq_none foreign
  rw [pathFault?, run, null]
  rfl

/-- A path can be asked for exactly if the text that it is made from has no NUL and carries octets at most. -/
theorem pathFault?_eq_none_iff {t : Text} : pathFault? (.ofText t) = none ↔ t.Askable := by
  refine ⟨fun h => ?_, pathFault?_of_askable⟩
  unfold pathFault? at h
  split at h
  · cases h
  next foreign =>
  split at h
  · cases h
  next null =>
  constructor
  · intro c hc hz
    have there : c ∈ (Path.ofText t).text := by
      refine Path.mem_text_of_mem hc ?_ ?_ <;>
      · rintro rfl
        revert hz
        decide
    exact null (List.any_eq_true.2 ⟨c, there, decide_eq_true hz⟩)
  · refine List.any_eq_false.2 fun c hc hf => ?_
    have there : c ∈ (Path.ofText t).text := by
      refine Path.mem_text_of_mem hc ?_ ?_ <;>
      · rintro rfl
        revert hf
        decide
    have none := Text.begins_of_runFrom?_eq_none foreign c there
    rw [hf] at none
    cases none

/-- A path that can not be asked for has a surrogate that carries no octet, or a NUL. -/
theorem pathFault?_cases {p : Path} {fault : Fault} (h : pathFault? p = some fault) :
    fault = .nullInPath ∨ ∃ run, fault = .unencodable run := by
  unfold pathFault? at h
  split at h
  · exact .inr ⟨_, (Option.some.inj h).symm⟩
  · split at h
    · exact .inl (Option.some.inj h).symm
    · cases h

/-- A path that can be asked for is answered, with a content or with an error of the file system. -/
theorem read_of_askable (fs : FileSystem) {t : Text} (h : t.Askable) : ∃ answer, fs.read (.ofText t) = .ok answer := by
  unfold read
  rw [pathFault?_of_askable h]
  cases fs.locate (.ofText t) with
  | error e => exact ⟨_, rfl⟩
  | ok node => cases node <;> exact ⟨_, rfl⟩

end FileSystem

end SaslBind
