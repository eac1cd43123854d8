import Mathlib.Data.Set.Function
import SaslBind.Proofs.Text.Joined

/-!
# Texts that stand for the same octets

The octets of a code point say where they end, so a text can be read off its octets, surrogates included: two halves of
a pair in UTF-16 stay apart from the character that they would make.  Different texts stand for the same octets only
where one of them carries octets by surrogates and has no other surrogate.

* `octets_append_inj` : octets begin with those of one code point only;
* `octets_injective` : octets with each surrogate in three are those of one text only;
* `not_carries_iff` : texts without surrogates, and those with a surrogate that carries no octet.

Main statement: `restore_injOn`.
-/

namespace SaslBind

namespace Text

theorem octets_ne_nil (c : CodePoint) : c.octets ≠ [] := by
  obtain ⟨b, count, least, ho, -⟩ := octets_cons c
  rw [ho]
  exact List.cons_ne_nil _ _

/-- Octets begin with those of one code point only. -/
theorem octets_append_inj {c d : CodePoint} {bs cs : List UInt8} (h : c.octets ++ bs = d.octets ++ cs) :
    c = d ∧ bs = cs := by
  obtain ⟨b, count, least, hc, hb, -⟩ := octets_cons c
  obtain ⟨b', count', least', hd, hb', -⟩ := octets_cons d
  rw [hc, hd, List.cons_append, List.cons_append] at h
  obtain ⟨rfl, follow⟩ := List.cons.inj h
  -- the first octet is the same, so as many octets go on the one number as the other
  rw [hb] at hb'
  simp only [Option.some.injEq, Prod.mk.injEq] at hb'
  obtain ⟨rfl, high, -⟩ := hb'
  have first : continued? count (c.value / 0x40 ^ count) (continuation count c.value ++ bs) = some (c.value, bs) :=
    continued?_eq_some_iff.2 ⟨rfl, rfl⟩
  have second : continued? count (c.value / 0x40 ^ count) (continuation count c.value ++ bs) = some (d.value, cs) :=
    continued?_eq_some_iff.2 ⟨high.symm, follow⟩
  rw [first] at second
  simp only [Option.some.injEq, Prod.mk.injEq] at second
  exact ⟨CodePoint.ext_value second.1, second.2⟩

/-- Octets with each surrogate in three are those of one text only. -/
theorem octets_injective : Function.Injective octets := by
  intro s t h
  induction s generalizing t with
  | nil =>
    cases t with
    | nil => rfl
    | cons d t => exact absurd (List.append_eq_nil_iff.1 h.symm).1 (octets_ne_nil d)
  | cons c s ih =>
    cases t with
    | nil => exact absurd (List.append_eq_nil_iff.1 h).1 (octets_ne_nil c)
    | cons d t =>
      obtain ⟨rfl, rest⟩ := octets_append_inj (h : c.octets ++ octets s = d.octets ++ octets t)
      rw [ih rest]

variable {s t : Text}

/-- The texts that carry no octets are those without surrogates and those with a surrogate of another kind. -/
theorem not_carries_iff : ¬ t.Carries ↔ t.hasSurrogate = false ∨ t.IsForeign := by
  constructor
  · intro h
    by_cases foreign : t.IsForeign
    · exact .inr foreign
    · refine .inl (List.any_eq_false.2 fun c hc surrogate => h ⟨⟨c, hc, surrogate⟩, fun d hd hs => ?_⟩)
      cases carries : d.isEscapedOctet with
      | true => rfl
      | false => exact absurd ⟨d, hd, hs, carries⟩ foreign
  · rintro (plain | foreign) carries
    · obtain ⟨⟨c, hc, surrogate⟩, -⟩ := carries
      exact List.any_eq_false.1 plain c hc surrogate
    · exact carries.not_isForeign foreign

/-- A text that carries no octets stands for its own. -/
theorem restore_of_not_carries (h : ¬ t.Carries) : t.restore = t.octets := by
  rcases not_carries_iff.1 h with plain | foreign
  · exact restore_of_plain plain
  · exact restore_of_foreign foreign

/-- **Collisions.**  Texts that carry no octets by surrogates stand for the same octets only if they are the same. -/
theorem restore_injOn : Set.InjOn restore {t | ¬ t.Carries} := by
  intro s hs t ht h
  rw [restore_of_not_carries hs, restore_of_not_carries ht] at h
  exact octets_injective h

end Text

end SaslBind
