import SaslBind.Proofs.Properties.Line
import SaslBind.Proofs.Properties.Typed

/-!
# Objects have lines

An object has a line if its fields hold values of their kind and nothing is known beyond them, also if fields were
deleted or no constructor ever ran.  Runs keep that, unless they replace its attributes by others of another kind or
assign what is beyond its fields.

* `readOr_field` : what is read where a field may be absent;
* `Typed.exists_text`, `Typed.exists_levels` : what comes out of the fields of such an object, and
  `Typed.exists_describe`, it has a line;
* `Action.AddsNothing`, `Slots.nothingBeyond_run` : runs that let nothing be known beyond the fields.

Main statement: `exists_describe_run`.
-/

namespace SaslBind

namespace Properties

open Attribute (optionalText)

variable {p : Properties}

theorem readOr_field (hm : p.model = .properties) (hx : p.NothingBeyond) (f : Field) (other : Value) :
    p.readOr f.name.toText other = .ok ((p.table.lookup f.name.toText).getD other) := by
  rw [Object.readOr, read_field hm hx]
  cases p.table.lookup f.name.toText <;> rfl

namespace Typed

theorem exists_text (h : p.Typed) (hx : p.NothingBeyond) {f : Field}
    (hf : ∀ v, f.Holds v → v = .null ∨ ∃ t, v = .text t) : ∃ t, p.valueOf f = .ok (optionalText t) := by
  rw [valueOf, readOr_field h.model hx]
  cases hv : p.table.lookup f.name.toText with
  | none => exact ⟨none, rfl⟩
  | some v =>
    rcases hf v (h.held.lookup hv) with rfl | ⟨t, rfl⟩
    · exact ⟨none, rfl⟩
    · exact ⟨some t, rfl⟩

theorem exists_levels (h : p.Typed) (hx : p.NothingBeyond) :
    ∃ levels : List Qop, p.levels = .ok (.tuple (levels.map .qop)) := by
  rw [Properties.levels, readOr_field h.model hx]
  cases hv : p.table.lookup Field.allowedQop.name.toText with
  | none => exact ⟨[], rfl⟩
  | some v =>
    obtain ⟨q, levels, rfl⟩ := h.held.lookup hv
    exact ⟨q :: levels, rfl⟩

/-- An object has a line if its fields hold values of their kind, or are absent. -/
theorem exists_describe (h : p.Typed) (hx : p.NothingBeyond) : ∃ line, p.describe = .ok line := by
  obtain ⟨a, ha⟩ := h.exists_text hx (f := .authenticationId) fun v hv => .inr hv
  obtain ⟨z, hz⟩ := h.exists_text hx (f := .authorizationId) fun v hv => hv
  obtain ⟨r, hr⟩ := h.exists_text hx (f := .realm) fun v hv => hv
  obtain ⟨levels, hl⟩ := h.exists_levels hx
  exact ⟨_, describe_of_valueOf ha hz hr hl⟩

end Typed

end Properties

/-- An action that lets nothing be known of an object beyond its fields. -/
def Action.AddsNothing : Action → Prop
  | .set name _ => name ≠ Model.extraName
  | _ => True

namespace Object.NothingBeyond

variable {p q : Properties} {name : Text}

theorem note (h : p.NothingBeyond) (hn : name ≠ Model.extraName) {v : Value} (hq : p.note name v = .ok q) :
    q.NothingBeyond := by
  rcases Object.note_cases hq with rfl | ⟨es, -, -, rfl⟩ | rfl
  · rwa [Object.NothingBeyond, Object.extra_keep hn]
  · exact h
  · exact h

theorem set {f : Field} {v : Value} (hs : p.set f v = .ok q) : q.NothingBeyond := by
  obtain ⟨a, -, -, hs⟩ := Properties.set_ok hs
  rw [(Object.store_ok hs).2]
  exact .inr rfl

theorem delete (h : p.NothingBeyond) (hd : p.delete name = .ok q) : q.NothingBeyond := by
  rcases Properties.delete_cases hd with ⟨-, rfl⟩ | ⟨-, rfl⟩ | ⟨-, -, rfl⟩ | ⟨es, he, -, -⟩
  · exact h
  · exact h
  · by_cases hn : name = Model.extraName
    · subst hn
      exact .inl (by simp [Object.keep])
    · rwa [Object.NothingBeyond, Object.extra_keep hn]
  · rcases h with hx | hx <;> cases hx.symm.trans he

end Object.NothingBeyond

namespace Slots

theorem nothingBeyond_run (steps : List (Text × Action)) (h : ∀ step ∈ steps, step.2.AddsNothing) (slot : Text)
    (p : Properties) (hp : (run [] steps).2.lookup slot = some p) : p.NothingBeyond :=
  forall_run (P := fun p => p.NothingBeyond) (fun hc => .inr (Properties.construct_ok hc).2.1) (fun _ => .inl rfl)
    (fun hx hc => .inr (Object.extra_of_copy hx hc).2) (fun hx _ ha hq => hx.note ha hq) (fun _ hs => .set hs)
    (fun hx _ hd => hx.delete hd) steps h slot p hp

/-- **Objects have lines** after runs that keep values of their kind in the fields and let nothing be known beyond
these, also objects without some of their fields. -/
theorem exists_describe_run (steps : List (Text × Action)) (h : ∀ step ∈ steps, step.2.KeepsTypes ∧ step.2.AddsNothing)
    (slot : Text) (p : Properties) (hp : (run [] steps).2.lookup slot = some p) : ∃ line, p.describe = .ok line :=
  (typed_run steps (fun step hs => (h step hs).1) slot p hp).exists_describe
    (nothingBeyond_run steps (fun step hs => (h step hs).2) slot p hp)

end Slots

end SaslBind
