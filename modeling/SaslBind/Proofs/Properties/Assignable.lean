import SaslBind.Proofs.Properties.Secret

/-!
# Objects that take assignments

An object that takes any value at all, in any of its fields, takes every value that the rule of a field takes, and
refuses all others with the fault of that rule.  So it does not matter which of these objects a value is assigned to.

* `Properties.TakesAssignments` : some value can be assigned to some field;
* `assign_congr` : values of which a field makes the same are assigned alike, whatever became of the object;
* `takes_run` : after runs that make objects with their fields and leave their records in order, all objects take
  assignments.

Main statement: `TakesAssignments.assign_agree`.
-/

namespace SaslBind

/-- A record of given fields that takes one name takes any other. -/
theorem Object.exists_givenWith_of {o : Object} {name : Text} {given : Option Value}
    (h : o.givenWith name = .ok given) (other : Text) : ∃ given, o.givenWith other = .ok given := by
  unfold givenWith at h ⊢
  split at h
  · exact ⟨_, rfl⟩
  · exact ⟨_, rfl⟩
  · cases h

namespace Properties

variable {p q : Properties} {f : Field} {v w : Value}

/-- The object takes some value in some field. -/
def TakesAssignments (p : Properties) : Prop :=
  ∃ (f : Field) (v : Value) (q : Properties), p.assign f.name.toText v = .ok q

/-- Values of which a field makes the same are assigned alike. -/
theorem assign_congr (p : Properties) (h : f.check v = f.check w) :
    p.assign f.name.toText v = p.assign f.name.toText w := by
  rw [assign_name, assign_name, set, set, h]

theorem check_of_assign (h : p.assign f.name.toText v = .ok q) :
    ∃ a, f.check v = .ok a ∧ q.read f.name.toText = .ok a.value := by
  rw [assign_name] at h
  obtain ⟨a, ha, -, hs⟩ := set_ok h
  exact ⟨a, ha, Object.read_store (isPlain_name f) hs⟩

namespace TakesAssignments

/-- An object that takes assignments keeps what is beyond its fields, and a record that takes names. -/
theorem records (h : p.TakesAssignments) (name : Text) :
    p.extra.isNone = false ∧ ∃ given, p.givenWith name = .ok given := by
  obtain ⟨f, v, q, hq⟩ := h
  rw [assign_name] at hq
  obtain ⟨a, -, hx, hs⟩ := set_ok hq
  obtain ⟨hg, -⟩ := Object.store_ok hs
  exact ⟨Option.isNone_eq_false_iff.2 (Option.isSome_iff_ne_none.2 hx), Object.exists_givenWith_of hg name⟩

/-- **One object for all.**  An object that takes assignments takes the values that the rule of a field takes, and reads
what that makes of them; it refuses the others with the fault of the rule. -/
theorem assign_agree (h : p.TakesAssignments) (f : Field) (v : Value) :
    Agree (fun a q => q.read f.name.toText = .ok a.value) ((f.check v).mapError fault)
      (p.assign f.name.toText v) := by
  obtain ⟨there, given, hg⟩ := h.records f.name.toText
  rw [assign_name, set, there]
  cases hc : f.check v with
  | error r => exact .error _
  | ok a =>
    obtain ⟨q, hq⟩ : ∃ q, p.store f.name.toText a.value = .ok q := by
      rw [Object.store, hg]
      exact ⟨_, rfl⟩
    simp only [Bool.false_eq_true, if_false, hq]
    exact .ok (Object.read_store (isPlain_name f) hq)

theorem assign_of_ok (h : p.TakesAssignments) {a : Attribute} (hc : f.check v = .ok a) :
    ∃ q, p.assign f.name.toText v = .ok q ∧ q.read f.name.toText = .ok a.value := by
  have agree := h.assign_agree f v
  rw [hc] at agree
  exact agree.of_ok

theorem assign_of_error (h : p.TakesAssignments) {r : Rejection} (hc : f.check v = .error r) :
    p.assign f.name.toText v = .error (fault r) := by
  have agree := h.assign_agree f v
  rw [hc] at agree
  exact agree.of_error

end TakesAssignments

end Properties

namespace Slots

/-- All objects take assignments after a run that made them with their fields and left their records in order. -/
theorem takes_run (steps : List (Text × Action)) (h : ∀ step ∈ steps, step.2.KeepsFields ∧ step.2 ≠ .makeBlank)
    {slot : Text} {p : Properties} (hp : (run [] steps).2.lookup slot = some p) : p.TakesAssignments := by
  have settled : p.Settled := settled_run steps (fun step hs => (h step hs).1) slot p hp
  have assigned := settled.set_eq (open_run steps h slot p hp) .password .null
  obtain ⟨q, hq, -⟩ := assigned.of_ok
  exact ⟨.password, .null, q, by rw [Properties.assign_name, hq]⟩

/-- The object of a plain run takes assignments. -/
theorem exists_plain : ∃ p, (run [] plainRun).2.lookup "a".toText = some p ∧ p.TakesAssignments := by
  have there : ((run [] plainRun).2.lookup "a".toText).isSome := by decide
  obtain ⟨p, hp⟩ := Option.isSome_iff_exists.1 there
  refine ⟨p, hp, takes_run plainRun (fun step hs => ?_) hp⟩
  obtain rfl := List.mem_singleton.1 hs
  exact ⟨trivial, Action.noConfusion⟩

end Slots

end SaslBind
