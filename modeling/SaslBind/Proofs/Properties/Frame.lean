import SaslBind.Proofs.Properties.Operations
import SaslBind.Proofs.Value.Sorting

/-!
# One action changes one field of one object

An action that fails changes nothing at all.  One that succeeds changes the object in its slot and no other
one; if it assigns a field, then only that field changes and counts as given from now on, and if it deletes a
field, then only that field is gone.

The records that an object keeps have to be in order for this.  An assignment puts all that is known beyond the
fields into the table, and it does not take up a record of given fields again that was deleted; so runs that
replace the one or delete the other are left out, and `records_matter` shows that they must be.

* `Action.KeepsRecords`, `Properties.Recorded` : actions that leave the records in order, objects that have them;
* `Properties.AssignedOnly`, `Properties.DeletedOnly` : what changes with one field;
* `recorded_run` : objects have their records after every such run.

Main statement: `frame_of_run`.
-/

namespace SaslBind

/-- An action that neither replaces what is known beyond the fields nor deletes the record of given fields. -/
def Action.KeepsRecords : Action → Prop
  | .set name _ => name ≠ Model.extraName
  | .delete name => name ≠ Model.givenName
  | _ => True

/-- An action that assigns a value to a field. -/
def Action.Assigns (a : Action) (f : Field) (v : Value) : Prop :=
  a = .set f.name.toText v ∨ f = .allowedQop ∧ ∃ levels, v = .tuple levels ∧ a = .setAllowedQop levels

namespace Object

variable {o : Object}

theorem extra_keep {name : Text} (hn : name ≠ Model.extraName) (v : Option Value) :
    (o.keep name v).extra = o.extra := by
  unfold keep
  rw [if_neg hn]
  split
  · rfl
  · split <;> rfl

theorem given_keep {name : Text} (hn : name ≠ Model.givenName) (v : Option Value) :
    (o.keep name v).given = o.given := by
  unfold keep
  split
  · rfl
  · split <;> rfl

theorem isSome_given_keep (h : o.given.isSome) (name : Text) (v : Value) : (o.keep name (some v)).given.isSome := by
  unfold keep
  split
  · exact h
  · split
    · rfl
    · split <;> exact h

theorem model_keep (name : Text) (v : Option Value) : (o.keep name v).model = o.model := by
  unfold keep
  split
  · rfl
  · split
    · rfl
    · split <;> rfl

end Object

namespace Properties

/-- An object that keeps the record of its given fields, unless it does not even keep what is known beyond them;
of that there is nothing. -/
structure Recorded (p : Properties) : Prop where
  model : p.model = .properties
  records : p.extra = none ∨ p.extra = some .null ∧ p.given.isSome

/-- Only a value was assigned to a field: the field reads as what it makes of the value, the others read as
before, and it counts as given besides those that did. -/
structure AssignedOnly (f : Field) (v : Value) (p q : Properties) : Prop where
  assigned : ∃ a, f.check v = .ok a ∧ q.read f.name.toText = .ok a.value
  others : ∀ g : Field, g ≠ f → q.read g.name.toText = p.read g.name.toText
  given : ∃ vs ws, p.givenNames = .ok vs ∧ q.givenNames = .ok ws ∧ ∀ v, v ∈ ws ↔ v ∈ vs ∨ v = .text f.name.toText

/-- Only a field was deleted: it was there and is not any more, the others read as before, and the same fields
count as given. -/
structure DeletedOnly (f : Field) (p q : Properties) : Prop where
  wasThere : ∃ v, p.read f.name.toText = .ok v
  deleted : q.read f.name.toText = .error (q.noAttribute f.name.toText)
  others : ∀ g : Field, g ≠ f → q.read g.name.toText = p.read g.name.toText
  given : q.givenNames = p.givenNames

namespace Recorded

variable {p q : Properties}

theorem nothingBeyond (h : p.Recorded) : p.NothingBeyond := h.records.imp_right And.left

/-! ### The records stay in order -/

theorem construct {values : Arguments} (h : Properties.construct values = .ok p) : p.Recorded := by
  obtain ⟨hm, hx, hg, -⟩ := construct_ok h
  exact ⟨hm, .inr ⟨hx, by rw [hg]; rfl⟩⟩

theorem copy (h : p.Recorded) (hc : p.copy = .ok q) : q.Recorded := by
  obtain ⟨-, hx⟩ := Object.extra_of_copy h.nothingBeyond hc
  obtain ⟨v, extra, given, inner, -, -, rfl⟩ := Object.copy_ok hc
  exact ⟨h.model, .inr ⟨hx, rfl⟩⟩

theorem keep (h : p.Recorded) {name : Text} {v : Option Value}
    (hn : v.isSome ∧ name ≠ Model.extraName ∨ v = none ∧ name ≠ Model.givenName) : Recorded (p.keep name v) := by
  refine ⟨(Object.model_keep name v).trans h.model, ?_⟩
  rcases hn with ⟨hv, hn⟩ | ⟨rfl, hn⟩
  · obtain ⟨w, rfl⟩ := Option.isSome_iff_exists.1 hv
    rw [Object.extra_keep hn]
    exact h.records.imp_right fun ⟨hx, hg⟩ => ⟨hx, Object.isSome_given_keep hg name w⟩
  -- what is known beyond the fields may be deleted: then no field can be assigned any more
  · by_cases he : name = Model.extraName
    · subst he
      exact .inl (by simp [Object.keep])
    · rw [Object.extra_keep he, Object.given_keep hn]
      exact h.records

theorem withTable (h : p.Recorded) (table : Entries Value) : Recorded { p with table } := ⟨h.model, h.records⟩

theorem note (h : p.Recorded) {name : Text} (hn : name ≠ Model.extraName) {v : Value} (ha : p.note name v = .ok q) :
    q.Recorded := by
  rcases Object.note_ok ha with rfl | ⟨table, rfl⟩
  · exact h.keep (.inl ⟨rfl, hn⟩)
  · exact h.withTable table

theorem delete (h : p.Recorded) {name : Text} (hn : name ≠ Model.givenName) (hd : p.delete name = .ok q) :
    q.Recorded := by
  rcases delete_ok h.nothingBeyond hd with ⟨f, -, rfl⟩ | ⟨-, hd⟩
  · exact h.withTable _
  · rcases Object.deleteOwn_ok hd with ⟨-, rfl⟩ | ⟨-, rfl⟩ | ⟨-, rfl⟩
    · exact h.withTable _
    · exact h.keep (.inr ⟨rfl, hn⟩)
    · exact h.withTable _

/-- An assignment that succeeds finds names in the record of given fields, and puts that of the field to them. -/
theorem set_ok (h : p.Recorded) {f : Field} {v : Value} (hs : p.set f v = .ok q) :
    ∃ (a : Attribute) (ts : List Text), f.check v = .ok a ∧ p.given = some (.names ts) ∧
      q.Recorded ∧ q.table = Entries.put f.name.toText a.value p.table ∧
      q.given = some (.names (if f.name.toText ∈ ts then ts else ts ++ [f.name.toText])) := by
  obtain ⟨a, ha, hx, hs⟩ := Properties.set_ok hs
  -- an assignment that succeeds found the records there
  obtain ⟨hx, hg⟩ := h.records.resolve_left hx
  obtain ⟨w, hw⟩ := Option.isSome_iff_exists.1 hg
  obtain ⟨hgiven, hq⟩ := Object.store_ok hs
  unfold Object.givenWith at hgiven
  rw [hw, Option.some_or] at hgiven
  split at hgiven
  · next hn => cases hn
  · next ts hn =>
    obtain rfl := Option.some.inj hn
    rw [← Except.ok.inj hgiven, Object.fullTable_of_nothing h.nothingBeyond] at hq
    subst hq
    exact ⟨a, ts, ha, hw, ⟨h.model, .inr ⟨rfl, rfl⟩⟩, rfl, rfl⟩
  · cases hgiven

theorem set (h : p.Recorded) {f : Field} {v : Value} (hs : p.set f v = .ok q) : q.Recorded := by
  obtain ⟨a, ts, -, -, hq, -, -⟩ := h.set_ok hs
  exact hq

/-! ### One field changes -/

theorem givenNames {ts : List Text} (hg : p.given = some (.names ts)) :
    ∃ vs, p.givenNames = .ok vs ∧ vs.Perm (ts.map .text) := by
  obtain ⟨vs, hvs, hp⟩ := sorted_texts ts
  have record : p.readDerived "model_fields_set".toText Model.givenName = .ok (.names ts) := by
    have hk : p.kept? Model.givenName = some (some (.names ts)) := by
      have hn : Model.givenName ≠ Model.extraName := by decide
      simp [Object.kept?, hn, hg]
    simp [Object.readDerived, hk]
  refine ⟨vs, ?_, hp⟩
  rw [Object.givenNames, record]
  exact hvs

theorem assignedOnly (h : p.Recorded) {f : Field} {v : Value} (hs : p.set f v = .ok q) : AssignedOnly f v p q := by
  obtain ⟨a, ts, ha, hg, hq, htable, hgiven⟩ := h.set_ok hs
  have title : q.noAttribute = p.noAttribute := by
    unfold Object.noAttribute
    rw [hq.model, h.model]
  refine ⟨⟨a, ha, ?_⟩, fun g hgf => ?_, ?_⟩
  · rw [read_field hq.model hq.nothingBeyond, htable, Entries.lookup_put, if_pos rfl]
  · rw [read_field hq.model hq.nothingBeyond, read_field h.model h.nothingBeyond, htable, Entries.lookup_put,
      if_neg (Field.name_ne hgf), title]
  · obtain ⟨vs, hvs, hpv⟩ := givenNames hg
    obtain ⟨ws, hws, hpw⟩ := givenNames hgiven
    refine ⟨vs, ws, hvs, hws, fun w => ?_⟩
    rw [hpw.mem_iff, hpv.mem_iff]
    split
    · next hm =>
      refine ⟨.inl, fun hw => hw.elim id fun hw => ?_⟩
      rw [hw]
      exact List.mem_map_of_mem hm
    · rw [List.map_append, List.mem_append]
      simp

theorem deletedOnly (h : p.Recorded) {f : Field} (hd : p.delete f.name.toText = .ok q) : DeletedOnly f p q := by
  obtain ⟨ht, rfl⟩ := delete_name_ok hd
  have hq := h.withTable (Entries.remove f.name.toText p.table)
  obtain ⟨v, hv⟩ := Option.isSome_iff_exists.1 ht
  refine ⟨⟨v, ?_⟩, ?_, fun g hgf => ?_, rfl⟩
  · rw [read_field h.model h.nothingBeyond, hv]
  · rw [read_field hq.model hq.nothingBeyond, Entries.lookup_remove, if_pos rfl]
  · rw [read_field hq.model hq.nothingBeyond, read_field h.model h.nothingBeyond, Entries.lookup_remove,
      if_neg (Field.name_ne hgf)]
    rfl

end Recorded

end Properties

namespace Slots

variable {s : Slots} {slot : Text} {a : Action}

/-! ### Actions and runs -/

/-- Objects have their records after every run of actions that keep them. -/
theorem recorded_run (steps : List (Text × Action)) (h : ∀ step ∈ steps, step.2.KeepsRecords) (slot : Text)
    (p : Properties) (hp : (run [] steps).2.lookup slot = some p) : p.Recorded :=
  forall_run (P := fun p => p.Recorded) .construct (fun _ => ⟨rfl, .inl rfl⟩) .copy (fun hp _ ha hq => hp.note ha hq)
    (fun hp hq => hp.set hq) (fun hp ha hq => hp.delete ha hq) steps h slot p hp

/-- Where an action that assigns a value makes an object, the field takes the value. -/
theorem Makes.set_of_assigns {p q : Properties} (hq : s.Makes slot a q) (hp : s.lookup slot = some p) {f : Field}
    {v : Value} (ha : a.Assigns f v) : p.set f v = .ok q := by
  rcases ha with rfl | ⟨rfl, levels, rfl, rfl⟩
  · cases hq with
    | set hp' hq =>
      obtain rfl := Option.some.inj (hp.symm.trans hp')
      rwa [Properties.assign_name] at hq
  · cases hq with
    | setAllowedQop hp' hq =>
      obtain rfl := Option.some.inj (hp.symm.trans hp')
      exact hq

theorem Makes.delete_of_eq {p q : Properties} (hq : s.Makes slot a q) (hp : s.lookup slot = some p) {name : Text}
    (ha : a = .delete name) : p.delete name = .ok q := by
  subst ha
  cases hq with
  | delete hp' hq =>
    obtain rfl := Option.some.inj (hp.symm.trans hp')
    exact hq

/-- The answer to one more action after a run that begins without objects, and the slots after it. -/
def next (steps : List (Text × Action)) (slot : Text) (a : Action) : Answer × Slots :=
  (run [] steps).2.perform slot a

/-- **One action changes one field of one object.**  After every run, an action on a slot that does not succeed
leaves everything as it was, and one that does leaves all other slots as they were.  If the run kept the records
of objects, an assignment to a field that succeeds changes only that field, which counts as given then, and a
deletion of a field that succeeds only takes that field away. -/
theorem frame_of_run (steps : List (Text × Action)) (slot : Text) (a : Action) :
    ((next steps slot a).1.isDone = false → (next steps slot a).2 = (run [] steps).2) ∧
    (∀ other, other ≠ slot → (next steps slot a).2.lookup other = (run [] steps).2.lookup other) ∧
    ((∀ step ∈ steps, step.2.KeepsRecords) → (next steps slot a).1.isDone →
      ∀ p, (run [] steps).2.lookup slot = some p →
        ∃ q, (next steps slot a).2.lookup slot = some q ∧ (∀ f v, a.Assigns f v → p.AssignedOnly f v q) ∧
          ∀ f : Field, a = .delete f.name.toText → p.DeletedOnly f q) := by
  unfold next
  refine ⟨fun hf => ?_, fun other ho => lookup_perform _ ho a, fun hk hd p hp => ?_⟩
  · rcases perform_cases (run [] steps).2 slot a with ⟨-, hs⟩ | ⟨q, -, hs⟩
    · exact hs
    · rw [hs] at hf
      cases hf
  · have recorded : p.Recorded := recorded_run steps hk slot p hp
    rcases perform_cases (run [] steps).2 slot a with ⟨hf, -⟩ | ⟨q, hq, hs⟩
    · rw [hf] at hd
      cases hd
    · rw [hs]
      refine ⟨q, (Entries.lookup_put slot q _ slot).trans (if_pos rfl), fun f v ha => ?_, fun f ha => ?_⟩
      · exact recorded.assignedOnly (hq.set_of_assigns hp ha)
      · exact recorded.deletedOnly (hq.delete_of_eq hp ha)

/-- A run that makes an object, copies it and deletes its secret. -/
def partRun : List (Text × Action) :=
  [("a".toText, .make [.word "u:a"] []), ("b".toText, .copy "a".toText), ("a".toText, .delete "password".toText)]

def setRealm : Action := .set Field.realm.name.toText (.word "r")

/-- Assigning the realm of one of two objects changes only that, and not the copy. -/
theorem frame_of_partRun :
    (∀ step ∈ partRun, step.2.KeepsRecords) ∧
    (∃ p q, (run [] partRun).2.lookup "a".toText = some p ∧
      (next partRun "a".toText setRealm).2.lookup "a".toText = some q ∧ p.AssignedOnly .realm (.word "r") q) ∧
    (next partRun "a".toText setRealm).2.lookup "b".toText = (run [] partRun).2.lookup "b".toText := by
  have keeps : ∀ step ∈ partRun, step.2.KeepsRecords := by
    have : "password".toText ≠ Model.givenName := by decide
    simp [partRun, Action.KeepsRecords, this]
  have there : ((run [] partRun).2.lookup "a".toText).isSome := by decide
  have done : (next partRun "a".toText setRealm).1.isDone := by decide
  obtain ⟨p, hp⟩ := Option.isSome_iff_exists.1 there
  obtain ⟨-, others, frame⟩ := frame_of_run partRun "a".toText setRealm
  obtain ⟨q, hq, assigned, -⟩ := frame keeps done p hp
  exact ⟨keeps, ⟨p, q, hp, hq, assigned _ _ (.inl rfl)⟩, others _ (by decide)⟩

/-! ### Records that are not in order -/

/-- A run that makes an object and deletes the record of its given fields. -/
def forgottenRun : List (Text × Action) :=
  [("a".toText, .make [.word "u:a"] []), ("a".toText, .delete Model.givenName)]

/-- A run that makes an object and puts a realm beyond its fields. -/
def beyondRun : List (Text × Action) :=
  [("a".toText, .make [.word "u:a"] []),
    ("a".toText, .set Model.extraName (.dict [(Field.realm.name.toText, .word "z")]))]

/-- Whether an object has no realm. -/
def hasNoRealm (p : Properties) : Bool :=
  match p.read Field.realm.name.toText with
  | .ok .null => true
  | _ => false

def setAuthorization : Action := .set Field.authorizationId.name.toText (.word "q")

/-- An object without the record of its given fields does not take it up again, and what is known beyond the
fields goes into the table with the next assignment to any of them. -/
theorem records_matter :
    (∃ p q, (run [] forgottenRun).2.lookup "a".toText = some p ∧ (next forgottenRun "a".toText setRealm).1.isDone ∧
      (next forgottenRun "a".toText setRealm).2.lookup "a".toText = some q ∧
      ¬ p.AssignedOnly .realm (.word "r") q) ∧
    ∃ p q, (run [] beyondRun).2.lookup "a".toText = some p ∧ (next beyondRun "a".toText setAuthorization).1.isDone ∧
      (next beyondRun "a".toText setAuthorization).2.lookup "a".toText = some q ∧
      ¬ p.AssignedOnly .authorizationId (.word "q") q := by
  constructor
  · have before : ((run [] forgottenRun).2.lookup "a".toText).map (·.givenNames.isOk) = some false := by decide
    have after : ((next forgottenRun "a".toText setRealm).2.lookup "a".toText).isSome := by decide
    obtain ⟨p, hp, hno⟩ := Option.map_eq_some_iff.1 before
    obtain ⟨q, hq⟩ := Option.isSome_iff_exists.1 after
    refine ⟨p, q, hp, by decide, hq, fun h => ?_⟩
    obtain ⟨vs, -, hvs, -⟩ := h.given
    rw [hvs] at hno
    cases hno
  · have before : ((run [] beyondRun).2.lookup "a".toText).map hasNoRealm = some true := by decide
    have after : ((next beyondRun "a".toText setAuthorization).2.lookup "a".toText).map hasNoRealm = some false := by
      decide
    obtain ⟨p, hp, hno⟩ := Option.map_eq_some_iff.1 before
    obtain ⟨q, hq, hsome⟩ := Option.map_eq_some_iff.1 after
    refine ⟨p, q, hp, by decide, hq, fun h => ?_⟩
    have same : hasNoRealm q = hasNoRealm p := by
      unfold hasNoRealm
      rw [h.others .realm (by decide)]
    rw [hno, hsome] at same
    cases same

end Slots

end SaslBind
