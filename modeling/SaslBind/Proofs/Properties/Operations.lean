import SaslBind.Proofs.Related
import SaslBind.Properties.Slots

/-!
# What the operations do when they succeed

Each operation on bind properties gives a new object or a fault.  Here is, one lemma for each of them, what the
new object is; the theories of runs need no more of the operations than this.

* `Field.Holds` : what a field may hold; `holds_of_check`, what a field makes of a value it may hold;
* `construct_ok`, `call_ok`, `validate_ok` : new objects have all fields;
* `set_ok`, `assign_ok`, `note_ok`, `delete_ok`, `deleteOwn_ok`, `copy_ok` : changed objects and copies;
* `read_field` : a field is read from the table, if nothing is known beyond the fields;
* `Slots.Makes` : the objects that an action makes; `perform_cases`, an action makes one or leaves all slots alone;
* `Slots.forall_run` : what holds of new objects and stays true of changed ones holds after whole runs.
-/

namespace SaslBind

theorem Entries.lookup_put_cases {α : Type} {es : Entries α} {name other : Text} {a b : α}
    (h : (put name a es).lookup other = some b) :
    (other = name ∧ a = b) ∨ (other ≠ name ∧ es.lookup other = some b) := by
  rw [lookup_put] at h
  by_cases ho : other = name
  · rw [if_pos ho] at h
    exact .inl ⟨ho, Option.some.inj h⟩
  · rw [if_neg ho] at h
    exact .inr ⟨ho, h⟩

namespace Field

theorem name_ne {f g : Field} (h : g ≠ f) : g.name.toText ≠ f.name.toText := fun he => h (name_injective he)

/-- The values that a field may hold: texts, octets, and a sequence of levels that is not empty. -/
def Holds : Field → Value → Prop
  | .authenticationId, v => ∃ t, v = .text t
  | .password, v => ∃ bs, v = .secret bs
  | .authorizationId, v | .realm, v => v = .null ∨ ∃ t, v = .text t
  | .allowedQop, v => ∃ q qs, v = .tuple ((q :: qs).map .qop)

theorem orDefault_ne_nil (levels : List Qop) : orDefault levels ≠ [] := by
  unfold orDefault
  split
  · exact List.cons_ne_nil _ _
  · next h => simpa using h

theorem ne_nil_of_checkItems {f : Field} {items : List Value} {levels : List Qop}
    (h : checkItems f items = .ok levels) : levels ≠ [] := by
  unfold checkItems at h
  split at h
  · obtain rfl := Except.ok.inj h
    exact orDefault_ne_nil _
  · cases h

theorem ne_nil_of_checkList {f : Field} {t : Text} {levels : List Qop} (h : checkList f t = .ok levels) :
    levels ≠ [] := by
  unfold checkList at h
  split at h
  · obtain rfl := Except.ok.inj h
    exact orDefault_ne_nil _
  · split at h <;> cases h

/-- No way to give levels leaves a field without any. -/
theorem ne_nil_of_checkLevels {f : Field} {v : Value} {levels : List Qop} (h : checkLevels f v = .ok levels) :
    levels ≠ [] := by
  unfold checkLevels at h
  split at h
  · exact ne_nil_of_checkList h
  · obtain rfl := Except.ok.inj h
    exact List.cons_ne_nil _ _
  · split at h
    · exact ne_nil_of_checkItems h
    · cases h

theorem holds_optionalText (t : Option Text) :
    Attribute.optionalText t = .null ∨ ∃ u, Attribute.optionalText t = .text u := by
  cases t with
  | none => exact .inl rfl
  | some u => exact .inr ⟨u, rfl⟩

theorem holds_of_check {f : Field} {v : Value} {a : Attribute} (h : f.check v = .ok a) : f.Holds a.value := by
  cases f with
  | authenticationId =>
    obtain ⟨t, -, rfl⟩ := ok_of_map h
    exact ⟨t, rfl⟩
  | password =>
    obtain ⟨bs, -, rfl⟩ := ok_of_map h
    exact ⟨bs, rfl⟩
  | authorizationId =>
    obtain ⟨t, -, rfl⟩ := ok_of_map h
    exact holds_optionalText t
  | realm =>
    obtain ⟨t, -, rfl⟩ := ok_of_map h
    exact holds_optionalText t
  | allowedQop =>
    obtain ⟨levels, hl, rfl⟩ := ok_of_map h
    obtain ⟨q, qs, rfl⟩ := List.exists_cons_of_ne_nil (ne_nil_of_checkLevels hl)
    exact ⟨q, qs, rfl⟩

theorem holds_unset (f : Field) : f.Holds f.unset.value := by
  cases f with
  | authenticationId => exact ⟨[], rfl⟩
  | password => exact ⟨[], rfl⟩
  | authorizationId => exact .inl rfl
  | realm => exact .inl rfl
  | allowedQop => exact ⟨.auth, [], rfl⟩

theorem field_unset (f : Field) : f.unset.field = f := by cases f <;> rfl

end Field

namespace Object

variable {o p : Object}

/-- Nothing is known of the object beyond its fields. -/
def NothingBeyond (o : Object) : Prop := o.extra = none ∨ o.extra = some .null

theorem beyond_of_nothing (h : o.NothingBeyond) (name : Text) (f : Fault) : o.beyond name f = .error f := by
  have hb : o.beyond? name = .ok none := by
    rcases h with h | h
    · simp [beyond?, h]
    · simp [beyond?, h, Value.isVoid]
  simp [beyond, hb]

theorem fullTable_of_nothing (h : o.NothingBeyond) : o.fullTable = o.table := by
  rcases h with h | h
  · simp [fullTable, h]
  · simp [fullTable, h]

theorem store_ok {name : Text} {v : Value} (h : o.store name v = .ok p) :
    o.givenWith name = .ok p.given ∧
      p = { o with table := Entries.put name v o.fullTable, extra := some .null, given := p.given } := by
  obtain ⟨given, hg, rfl⟩ := ok_of_map h
  exact ⟨hg, rfl⟩

theorem removeEntry_ok {name : Text} (h : o.removeEntry name = .ok p) :
    (o.table.lookup name).isSome ∧ p = { o with table := Entries.remove name o.table } := by
  unfold removeEntry at h
  split at h
  · next hs => exact ⟨hs, (Except.ok.inj h).symm⟩
  · cases h

/-- Besides fields, the table as a whole can be deleted, and what the object keeps for itself. -/
theorem deleteOwn_ok {name : Text} (h : o.deleteOwn name = .ok p) :
    (name = Model.tableName ∧ p = { o with table := [] }) ∨
    (name ≠ Model.tableName ∧ p = o.keep name none) ∨
    (name ≠ Model.tableName ∧ p = { o with table := Entries.remove name o.table }) := by
  unfold deleteOwn at h
  split at h
  · cases h
  · split at h
    · next ht => exact .inl ⟨ht, (Except.ok.inj h).symm⟩
    · next ht =>
      split at h
      · exact .inr (.inl ⟨ht, (Except.ok.inj h).symm⟩)
      · cases h
      · split at h
        · cases h
        · exact .inr (.inr ⟨ht, (removeEntry_ok h).2⟩)

theorem deleteOther_ok (hx : o.NothingBeyond) {name : Text} (h : o.deleteOther name = .ok p) :
    o.deleteOwn name = .ok p := by
  unfold deleteOther at h
  rcases hx with hx | hx
  · rw [hx] at h
    cases h
  · rwa [hx] at h

theorem note_ok {name : Text} {v : Value} (h : o.note name v = .ok p) :
    p = o.keep name (some v) ∨ ∃ table, p = { o with table } := by
  unfold note at h
  split at h
  · cases h
  · split at h
    · exact .inl (Except.ok.inj h).symm
    · exact .inr ⟨_, (Except.ok.inj h).symm⟩
    · exact .inr ⟨_, (Except.ok.inj h).symm⟩

theorem copy_ok (h : o.copy = .ok p) :
    ∃ v extra given inner, o.read Model.extraName = .ok v ∧ copied v = .ok extra ∧
      p = ⟨o.model, o.table, some extra, some given, some inner⟩ := by
  unfold copy at h
  obtain ⟨v, hv, h⟩ := ok_of_bind h
  obtain ⟨extra, he, h⟩ := ok_of_bind h
  obtain ⟨w, -, h⟩ := ok_of_bind h
  obtain ⟨given, -, h⟩ := ok_of_bind h
  obtain ⟨u, -, h⟩ := ok_of_bind h
  obtain ⟨inner, -, h⟩ := ok_of_bind h
  exact ⟨v, extra, given, inner, hv, he, (Except.ok.inj h).symm⟩

/-- An object without anything beyond its fields has copies only while it keeps that. -/
theorem extra_of_copy (hx : o.NothingBeyond) (h : o.copy = .ok p) : o.extra = some .null ∧ p.extra = some .null := by
  obtain ⟨v, extra, given, inner, hv, he, rfl⟩ := copy_ok h
  have hk : o.kept? Model.extraName = some o.extra := by simp [kept?]
  have ht : Model.extraName ≠ Model.tableName := by decide
  rcases hx with hn | hn
  · simp [read, ht, hk, hn, beyond_of_nothing (.inl hn)] at hv
  · simp [read, ht, hk, hn] at hv
    subst hv
    obtain rfl := Except.ok.inj he
    exact ⟨hn, rfl⟩

end Object

namespace Properties

variable {p q : Properties}

/-- No field has the name of an attribute that is kept in a special place, or that the model itself has. -/
theorem isPlain_name (f : Field) : Object.IsPlain f.name.toText := by cases f <;> decide

theorem lookup_constants_name (f : Field) : (Model.constants .properties).lookup f.name.toText = none := by
  have : ((Model.constants .properties).lookup f.name.toText).isNone := by cases f <;> decide
  simpa using this

theorem read_field (hm : p.model = .properties) (hx : p.NothingBeyond) (f : Field) :
    p.read f.name.toText =
      match p.table.lookup f.name.toText with
      | some v => .ok v
      | none => .error (p.noAttribute f.name.toText) := by
  obtain ⟨ht, he, hg, hp, hd⟩ := isPlain_name f
  have own : f.name.toText ∉ Model.ownNames := by cases f <;> decide
  cases hl : p.table.lookup f.name.toText with
  | some v => exact Object.read_of_lookup (isPlain_name f) hl
  | none =>
    simp [Object.read, Object.kept?, ht, he, hg, hp, hd, hl, hm, lookup_constants_name, own,
      Object.beyond_of_nothing hx]

/-! ### New objects -/

theorem ok_of_gather {rs : List (Except Rejection Attribute)} {as : List Attribute} (h : gather rs = .ok as) :
    rs = as.map .ok := by
  induction rs generalizing as with
  | nil =>
    obtain rfl := Except.ok.inj h
    rfl
  | cons r rs ih =>
    cases r with
    | ok a =>
      obtain ⟨as', has, rfl⟩ := ok_of_map h
      rw [ih has, List.map_cons]
    | error e =>
      cases e with
      | fault f => cases h
      | errors es =>
        simp only [gather] at h
        split at h <;> cases h

theorem construct1_ok {values : Arguments} {f : Field} {a : Attribute} (h : construct1 values f = .ok a) :
    a.field = f ∧ f.Holds a.value := by
  unfold construct1 at h
  split at h
  · exact ⟨Field.field_of_check h, Field.holds_of_check h⟩
  · obtain rfl := Except.ok.inj h
    exact ⟨Field.field_unset f, Field.holds_unset f⟩

/-- Attributes made for some fields are found under the names of these. -/
theorem lookup_attributes {values : Arguments} {fs : List Field} {as : List Attribute}
    (h : fs.map (construct1 values) = as.map .ok) {f : Field} (hf : f ∈ fs) :
    ∃ a, construct1 values f = .ok a ∧
      (as.map fun a => (a.field.name.toText, a.value)).lookup f.name.toText = some a.value := by
  induction fs generalizing as with
  | nil => cases hf
  | cons g fs ih =>
    cases as with
    | nil => cases h
    | cons a as =>
      obtain ⟨ha, has⟩ := List.cons.inj h
      have hfield : a.field = g := (construct1_ok ha).1
      rw [List.map_cons, Text.lookup_cons, hfield]
      by_cases hfg : f = g
      · subst hfg
        exact ⟨a, ha, by rw [if_pos rfl]⟩
      · rw [if_neg (Field.name_ne hfg)]
        exact ih has ((List.mem_cons.1 hf).resolve_left hfg)

/-- A new object has all fields, each with what is made of the value that was given for it. -/
theorem construct_ok {values : Arguments} (h : construct values = .ok p) :
    p.model = .properties ∧ p.extra = some .null ∧
    p.given = some (.names (Field.names.filter fun name => (values.lookup name).isSome)) ∧
    ∀ f : Field, ∃ a, construct1 values f = .ok a ∧ p.table.lookup f.name.toText = some a.value := by
  unfold construct at h
  split at h
  · cases h
  · next attributes hg =>
    obtain rfl := Except.ok.inj h
    exact ⟨rfl, rfl, rfl, fun f => lookup_attributes (ok_of_gather hg) (Field.mem_all f)⟩

theorem call_ok {args : List Value} {named : Arguments} (h : call args named = .ok p) :
    ∃ values, construct values = .ok p := by
  unfold call at h
  split at h
  · next values _ => exact ⟨values, h⟩
  · cases h

theorem validate_ok {v : Value} (h : validate v = .ok p) : ∃ values, construct values = .ok p := by
  unfold validate at h
  split at h
  · split at h
    · cases h
    · exact call_ok h
  · cases h

/-! ### Changed objects -/

theorem set_ok {f : Field} {v : Value} (h : p.set f v = .ok q) :
    ∃ a, f.check v = .ok a ∧ p.extra ≠ none ∧ p.store f.name.toText a.value = .ok q := by
  unfold set at h
  split at h
  · cases h
  · next hx =>
    split at h
    · next a ha => exact ⟨a, ha, by simpa using hx, h⟩
    · cases h

/-- Under the name of a field the field is assigned. -/
theorem assign_name (p : Properties) (f : Field) (v : Value) : p.assign f.name.toText v = p.set f v := by
  have constant : f.name.toText ≠ Model.mechanismName := by cases f <;> decide
  have note : isNote f.name.toText = false := by cases f <;> decide
  have derived : f.name.toText ∉ Model.derivedNames := by cases f <;> decide
  simp [assign, constant, note, derived]

theorem eq_name_of_ofName? {name : Text} {f : Field} (h : Field.ofName? name = some f) : name = f.name.toText := by
  have := List.find?_some h
  simpa using (of_decide_eq_true this).symm

/-- An assignment that succeeds is one to a field, or past all checks to a name with an underscore. -/
theorem assign_ok {name : Text} {v : Value} (h : p.assign name v = .ok q) :
    (isNote name = true ∧ p.note name v = .ok q) ∨ ∃ f : Field, name = f.name.toText ∧ p.set f v = .ok q := by
  unfold assign at h
  split at h
  · cases h
  · split at h
    · next hn => exact .inl ⟨hn, h⟩
    · split at h
      · cases h
      · split at h
        · next f hf => exact .inr ⟨f, eq_name_of_ofName? hf, h⟩
        · cases h

/-- Under the name of a field the field is deleted, which must be there. -/
theorem delete_name_ok {f : Field} (h : p.delete f.name.toText = .ok q) :
    (p.table.lookup f.name.toText).isSome ∧ q = { p with table := Entries.remove f.name.toText p.table } := by
  unfold delete Object.delete at h
  rw [if_pos (Field.name_mem_names f)] at h
  exact Object.removeEntry_ok h

theorem delete_ok (hx : p.NothingBeyond) {name : Text} (h : p.delete name = .ok q) :
    (∃ f : Field, name = f.name.toText ∧ q = { p with table := Entries.remove name p.table }) ∨
    (name ∉ Field.names ∧ p.deleteOwn name = .ok q) := by
  by_cases hn : name ∈ Field.names
  · obtain ⟨f, -, rfl⟩ := List.mem_map.1 hn
    exact .inl ⟨f, rfl, (delete_name_ok h).2⟩
  · unfold delete Object.delete at h
    rw [if_neg hn] at h
    exact .inr ⟨hn, Object.deleteOther_ok hx h⟩

end Properties

/-- Whether an answer says that something was done. -/
def Answer.isDone : Answer → Bool
  | .done => true
  | _ => false

namespace Slots

/-- The objects that an action on a slot makes, anew or from those in the slots. -/
inductive Makes (s : Slots) (slot : Text) : Action → Properties → Prop
  | make {args : List Value} {named : Properties.Arguments} {p : Properties} (h : Properties.call args named = .ok p) :
      Makes s slot (.make args named) p
  | validate {data : Value} {p : Properties} (h : Properties.validate data = .ok p) : Makes s slot (.validate data) p
  | makeBlank : Makes s slot .makeBlank .blank
  | copy {source : Text} {p q : Properties} (hp : s.lookup source = some p) (h : p.copy = .ok q) :
      Makes s slot (.copy source) q
  | set {name : Text} {v : Value} {p q : Properties} (hp : s.lookup slot = some p) (h : p.assign name v = .ok q) :
      Makes s slot (.set name v) q
  | setAllowedQop {levels : List Value} {p q : Properties} (hp : s.lookup slot = some p)
      (h : p.setAllowedQop levels = .ok q) : Makes s slot (.setAllowedQop levels) q
  | delete {name : Text} {p q : Properties} (hp : s.lookup slot = some p) (h : p.delete name = .ok q) :
      Makes s slot (.delete name) q

/-- What comes of an action: nothing was done and all slots are as before, or an object is in its slot. -/
def Outcome (s : Slots) (slot : Text) (a : Action) (x : Answer × Slots) : Prop :=
  (x.1.isDone = false ∧ x.2 = s) ∨ ∃ p, s.Makes slot a p ∧ x = (.done, Entries.put slot p s)

variable {s : Slots} {slot : Text} {a : Action}

theorem outcome_store {r : Except Fault Properties} (h : ∀ p, r = .ok p → s.Makes slot a p) :
    s.Outcome slot a (s.store slot r) := by
  cases r with
  | error f => exact .inl ⟨rfl, rfl⟩
  | ok p => exact .inr ⟨p, h p rfl, rfl⟩

theorem outcome_report {α : Type} {answer : α → Answer} (h : ∀ x, (answer x).isDone = false) (r : Except Fault α) :
    s.Outcome slot a (s.report answer r) := by
  cases r with
  | error f => exact .inl ⟨rfl, rfl⟩
  | ok x => exact .inl ⟨h x, rfl⟩

theorem outcome_withObject {target : Text} {act : Properties → Answer × Slots}
    (h : ∀ p, s.lookup target = some p → s.Outcome slot a (act p)) : s.Outcome slot a (s.withObject target act) := by
  unfold withObject
  split
  · next p hp => exact h p hp
  · exact .inl ⟨rfl, rfl⟩

/-- An action makes an object for its slot, or leaves all slots alone. -/
theorem perform_cases (s : Slots) (slot : Text) (a : Action) : s.Outcome slot a (s.perform slot a) := by
  cases a with
  | make args named => exact outcome_store fun p h => .make h
  | validate data => exact outcome_store fun p h => .validate h
  | makeBlank => exact outcome_store fun p h => Except.ok.inj h ▸ .makeBlank
  | copy source => exact outcome_withObject fun p hp => outcome_store fun q h => .copy hp h
  | set name v => exact outcome_withObject fun p hp => outcome_store fun q h => .set hp h
  | setAllowedQop levels => exact outcome_withObject fun p hp => outcome_store fun q h => .setAllowedQop hp h
  | delete name => exact outcome_withObject fun p hp => outcome_store fun q h => .delete hp h
  | agrees other => exact outcome_withObject fun p _ => outcome_withObject fun q _ => outcome_report (fun _ => rfl) _
  | read name => exact outcome_withObject fun p _ => outcome_report (fun _ => rfl) _
  | describe => exact outcome_withObject fun p _ => outcome_report (fun _ => rfl) _
  | dump => exact outcome_withObject fun p _ => outcome_report (fun _ => rfl) _
  | given => exact outcome_withObject fun p _ => outcome_report (fun _ => rfl) _

/-- What holds of all objects holds of them after an action, if it holds of those that the action makes. -/
theorem forall_perform {P : Text → Properties → Prop} (h : ∀ other p, s.lookup other = some p → P other p)
    (hmade : ∀ p, s.Makes slot a p → P slot p) (other : Text) (p : Properties)
    (hp : (s.perform slot a).2.lookup other = some p) : P other p := by
  rcases perform_cases s slot a with ⟨-, hs⟩ | ⟨q, hq, hs⟩
  · exact h other p (hs ▸ hp)
  · rw [hs] at hp
    rcases Entries.lookup_put_cases hp with ⟨rfl, rfl⟩ | ⟨-, hp⟩
    · exact hmade q hq
    · exact h other p hp

/-! ### Runs -/

theorem run_append (s : Slots) (steps more : List (Text × Action)) :
    s.run (steps ++ more) =
      ((s.run steps).1 ++ ((s.run steps).2.run more).1, ((s.run steps).2.run more).2) := by
  induction steps generalizing s with
  | nil => rfl
  | cons step steps ih =>
    obtain ⟨slot, a⟩ := step
    simp only [List.cons_append, run, ih]

/-- What holds of new objects and stays true of copies and of changed objects, as long as the changes are of some kind,
holds of all objects after a run of actions of this kind. -/
theorem forall_run {P : Properties → Prop} {A : Action → Prop}
    (hconstruct : ∀ {values q}, Properties.construct values = .ok q → P q) (hblank : A .makeBlank → P .blank)
    (hcopy : ∀ {p q : Properties}, P p → p.copy = .ok q → P q)
    (hnote : ∀ {p q : Properties} {name v}, P p → Properties.isNote name = true → A (.set name v) →
      p.note name v = .ok q → P q)
    (hset : ∀ {p q : Properties} {f v}, P p → p.set f v = .ok q → P q)
    (hdelete : ∀ {p q : Properties} {name}, P p → A (.delete name) → p.delete name = .ok q → P q)
    (steps : List (Text × Action)) (h : ∀ step ∈ steps, A step.2) (slot : Text) (p : Properties)
    (hp : (run [] steps).2.lookup slot = some p) : P p := by
  have made (s : Slots) {slot a q} (hs : ∀ other p, s.lookup other = some p → P p) (ha : A a) (hq : s.Makes slot a q) :
      P q := by
    cases hq with
    | make hq => exact (Properties.call_ok hq).elim fun _ => hconstruct
    | validate hq => exact (Properties.validate_ok hq).elim fun _ => hconstruct
    | makeBlank => exact hblank ha
    | copy hp hq => exact hcopy (hs _ _ hp) hq
    | set hp hq =>
      rcases Properties.assign_ok hq with ⟨hn, hq⟩ | ⟨f, -, hq⟩
      · exact hnote (hs _ _ hp) hn ha hq
      · exact hset (hs _ _ hp) hq
    | setAllowedQop hp hq => exact hset (hs _ _ hp) hq
    | delete hp hq => exact hdelete (hs _ _ hp) ha hq
  -- from the front, so for runs that begin with any objects of which it holds
  suffices all : ∀ s : Slots, (∀ other q, s.lookup other = some q → P q) →
      ∀ other q, (s.run steps).2.lookup other = some q → P q from
    all [] (fun other q hq => by cases hq) slot p hp
  clear hp
  induction steps with
  | nil => exact fun s hs => hs
  | cons step steps ih =>
    intro s hs
    have after : ∀ other q, (s.perform step.1 step.2).2.lookup other = some q → P q :=
      forall_perform (P := fun _ q => P q) hs fun q hq => made s hs (h step List.mem_cons_self) hq
    exact ih (fun step hm => h step (List.mem_cons_of_mem _ hm)) _ after

theorem length_run (s : Slots) (steps : List (Text × Action)) : (s.run steps).1.length = steps.length := by
  induction steps generalizing s with
  | nil => rfl
  | cons step steps ih => simp [run, ih]

end Slots

end SaslBind
