import SaslBind.Proofs.Properties.Remade
import SaslBind.Proofs.Text.Entries

/-!
# Fields hold values of their kind

Assignments are checked, so what a field holds is a value of its kind; but all attributes of an object can be
replaced at once, and what is put beyond the fields comes to them with the next assignment.  As long as no table that
is assigned in one of these two ways has a value under the name of a field that the field does not hold, all fields
hold values of their kind, whatever else became of an object: the records of it may be replaced or deleted, and it may
have been made without its fields.

* `Action.KeepsTypes` : actions that assign no such table;
* `Properties.Typed` : objects whose fields hold values of their kind, in the table and beyond it;
* `Typed.holds_of_read` : what is read under the name of a field is of its kind.

Main statement: `typed_run`.
-/

namespace SaslBind

/-- Entries of which those under names of fields are values of the kind that the field holds. -/
def EntriesHold (es : Entries Value) : Prop := ∀ (f : Field) (v : Value), (f.name.toText, v) ∈ es → f.Holds v

/-- An action that assigns no table in which a field would hold a value that is not of its kind, neither for all
attributes of an object nor for what is beyond its fields.  A table has each of its names once. -/
def Action.KeepsTypes : Action → Prop
  | .set name v => ∀ es, v = .dict es →
    (name = Model.tableName → EntriesHold es ∧ (es.map Prod.fst).Nodup) ∧ (name = Model.extraName → EntriesHold es)
  | _ => True

namespace EntriesHold

variable {es more : Entries Value}

theorem lookup (h : EntriesHold es) {f : Field} {v : Value} (hv : es.lookup f.name.toText = some v) : f.Holds v :=
  h f v (Entries.mem_of_lookup hv)

theorem put (h : EntriesHold es) {name : Text} {v : Value} (hv : ∀ f : Field, f.name.toText = name → f.Holds v) :
    EntriesHold (Entries.put name v es) := by
  intro f w hw
  rcases Entries.mem_put hw with he | hw
  · obtain ⟨hn, rfl⟩ := Prod.mk.inj he
    exact hv f hn
  · exact h f w hw

theorem overlay (h : EntriesHold es) (hm : EntriesHold more) : EntriesHold (Entries.overlay es more) :=
  fun f v hv => (Entries.mem_overlay hv).elim (h f v) (hm f v)

theorem remove (h : EntriesHold es) (name : Text) : EntriesHold (Entries.remove name es) :=
  fun f v hv => h f v (List.mem_filter.1 hv).1

end EntriesHold

namespace Object

theorem extra_of_read {o : Object} {v : Value} (h : o.read Model.extraName = .ok v) : o.extra = some v := by
  have kept : o.kept? Model.extraName = some o.extra := by simp [kept?]
  have other : Model.extraName ≠ Model.tableName := by decide
  unfold read at h
  rw [if_neg other, kept] at h
  cases hx : o.extra with
  | some w =>
    rw [hx] at h
    exact congrArg some (Except.ok.inj h)
  | none =>
    simp only [hx, beyond, beyond?] at h
    cases h

end Object

namespace Properties

variable {p q : Properties}

/-- An object whose fields hold values of their kind, in its table, which has each name once, and beyond it. -/
structure Typed (p : Properties) : Prop where
  model : p.model = .properties
  names : (p.table.map Prod.fst).Nodup
  held : EntriesHold p.table
  beyond : ∀ es, p.extra = some (.dict es) → EntriesHold es

/-! ### New objects -/

theorem fields_of_attributes {values : Arguments} {fs : List Field} {as : List Attribute}
    (h : fs.map (construct1 values) = as.map .ok) : as.map Attribute.field = fs := by
  induction fs generalizing as with
  | nil => rw [List.map_eq_nil_iff.1 h.symm, List.map_nil]
  | cons f fs ih =>
    cases as with
    | nil => cases h
    | cons a as =>
      obtain ⟨ha, has⟩ := List.cons.inj h
      rw [List.map_cons, (construct1_ok ha).1, ih has]

theorem names_of_construct {values : Arguments} (h : construct values = .ok p) :
    p.table.map Prod.fst = Field.names := by
  unfold construct at h
  split at h
  · cases h
  · next attributes hg =>
    obtain rfl := Except.ok.inj h
    rw [Field.names, ← fields_of_attributes (ok_of_gather hg), List.map_map]
    exact List.map_map

namespace Typed

theorem construct {values : Arguments} (h : Properties.construct values = .ok p) : p.Typed := by
  obtain ⟨hm, hx, -, fields⟩ := construct_ok h
  have names : (p.table.map Prod.fst).Nodup := by
    rw [names_of_construct h]
    decide
  refine ⟨hm, names, fun f v hv => ?_, fun es he => ?_⟩
  · obtain ⟨a, ha, hl⟩ := fields f
    rw [Entries.lookup_of_mem names hv] at hl
    exact Option.some.inj hl ▸ (construct1_ok ha).2
  · rw [hx] at he
    cases he

theorem blank : Typed Properties.blank where
  model := rfl
  names := List.nodup_nil
  held f v h := by cases h
  beyond es h := by cases h

/-- A table can be changed if it keeps each name once and its fields hold values of their kind. -/
theorem withTable (h : p.Typed) {table : Entries Value} (hn : (table.map Prod.fst).Nodup) (ht : EntriesHold table) :
    Typed { p with table } := { h with names := hn, held := ht }

theorem remove (h : p.Typed) (name : Text) : Typed { p with table := Entries.remove name p.table } :=
  h.withTable (h.names.sublist (List.filter_sublist.map _)) (h.held.remove name)

/-- What the object keeps for itself can be replaced and deleted, if no field holds a value of another kind then. -/
theorem keep (h : p.Typed) {name : Text} {v : Option Value}
    (hv : name = Model.extraName → ∀ es, v = some (.dict es) → EntriesHold es) : Typed (p.keep name v) := by
  unfold Object.keep
  split
  · next hn => exact { h with beyond := hv hn }
  · split
    · exact { h with }
    · split
      · exact { h with }
      · exact h

theorem fullTable (h : p.Typed) : (p.fullTable.map Prod.fst).Nodup ∧ EntriesHold p.fullTable := by
  unfold Object.fullTable
  split
  · next es he => exact ⟨Entries.nodup_overlay h.names es, h.held.overlay (h.beyond es he)⟩
  · exact ⟨h.names, h.held⟩

/-- An assignment puts what the field makes of the value into the table, with all that was beyond the fields. -/
theorem set (h : p.Typed) {f : Field} {v : Value} (hs : p.set f v = .ok q) : q.Typed := by
  obtain ⟨a, ha, -, hs⟩ := set_ok hs
  obtain ⟨-, hq⟩ := Object.store_ok hs
  obtain ⟨names, held⟩ := h.fullTable
  rw [hq]
  refine ⟨h.model, Entries.nodup_put names _ _, held.put fun g hg => ?_, fun es he => by cases he⟩
  rw [Field.name_injective hg]
  exact Field.holds_of_check ha

theorem note (h : p.Typed) {name : Text} (hn : isNote name = true) {v : Value}
    (ha : Action.KeepsTypes (.set name v)) (hp : p.note name v = .ok q) : q.Typed := by
  rcases Object.note_cases hp with rfl | ⟨es, ht, rfl, rfl⟩ | rfl
  · exact h.keep fun he es hes => (ha es (Option.some.inj hes)).2 he
  · obtain ⟨held, names⟩ := (ha es rfl).1 ht
    exact h.withTable names held
  · refine h.withTable (Entries.nodup_put h.names _ _) (h.held.put fun f hf => ?_)
    have plain : isNote f.name.toText = false := by cases f <;> decide
    rw [hf, hn] at plain
    cases plain

theorem copy (h : p.Typed) (hc : p.copy = .ok q) : q.Typed := by
  obtain ⟨v, extra, given, inner, hv, he, rfl⟩ := Object.copy_ok hc
  obtain rfl := Object.eq_of_copied he
  exact { h with beyond := fun es hes => h.beyond es ((Object.extra_of_read hv).trans hes) }

theorem delete (h : p.Typed) {name : Text} (hd : p.delete name = .ok q) : q.Typed := by
  rcases delete_cases hd with ⟨-, rfl⟩ | ⟨-, rfl⟩ | ⟨-, -, rfl⟩ | ⟨es, hx, -, rfl⟩
  · exact h.withTable List.nodup_nil fun f v hv => by cases hv
  · exact h.remove name
  · exact h.keep fun _ es hes => by cases hes
  · exact { h with beyond := fun fs hfs => Value.dict.inj (Option.some.inj hfs) ▸ (h.beyond es hx).remove name }

/-- What is read under the name of a field is of its kind. -/
theorem holds_of_read (h : p.Typed) {f : Field} {v : Value} (hv : p.read f.name.toText = .ok v) : f.Holds v := by
  rcases lookup_of_read_field h.model hv with hl | ⟨es, hx, hl⟩
  · exact h.held.lookup hl
  · exact (h.beyond es hx).lookup hl

end Typed

end Properties

namespace Slots

/-- Fields hold values of their kind after every run of actions that keep them so. -/
theorem typed_run (steps : List (Text × Action)) (h : ∀ step ∈ steps, step.2.KeepsTypes) (slot : Text)
    (p : Properties) (hp : (run [] steps).2.lookup slot = some p) : p.Typed :=
  forall_run (P := fun p => p.Typed) .construct (fun _ => .blank) .copy (fun hp hn ha hq => hp.note hn ha hq)
    (fun hp hq => hp.set hq) (fun hp _ hq => hp.delete hq) steps h slot p hp

end Slots

end SaslBind
