import Mathlib.Data.List.Nodup
import Mathlib.Logic.Function.Basic
import SaslBind.Proofs.Properties.Frame
import SaslBind.Proofs.Related

/-!
# Assigning a field is making the object anew

Assigning a value to a field of an object that has all its fields is the same as making a new object of what the
fields store, with the value in the place of the one: the same fault, or objects with the same fields.  What a field
stores it takes as it is, so assigning that changes nothing.

The records that an object keeps have to be in order for this: `remade_matters` shows that assignments differ from
new objects after what the object knows beyond its fields was deleted or replaced by a table, after the record of its
given fields was replaced by something that is none, and after all its attributes were replaced at once.  It also
shows that a new object made of a dictionary wraps the fault of a text that can not be encoded, as `wrapped` does.

* `Field.check_of_holds` : what a field holds it takes as it is;
* `gather_insert` : a single fault among results is the fault of all of them;
* `Action.KeepsFields`, `Properties.Settled` : actions that leave the records in order, and objects that have them;
* `settled_run` : objects are settled after every such run;
* `Properties.Remakes` : assigning and making anew have the same outcome.

Main statement: `assign_remakes`.
-/

namespace SaslBind

/-! ### What a field stores -/

namespace Field

/-- Items that are all taken as levels are the levels of the sequence. -/
theorem checkItems_of_levels {f : Field} {items : List Value} {levels : List Qop}
    (h : items.map checkLevel = levels.map .ok) : checkItems f items = .ok (orDefault levels) := by
  have taken : ∀ i, levelErrors f i items = [] ∧ items.filterMap (fun v => (checkLevel v).toOption) = levels := by
    induction items generalizing levels with
    | nil => exact fun i => ⟨rfl, (List.map_eq_nil_iff.1 h.symm).symm⟩
    | cons v items ih =>
      intro i
      cases levels with
      | nil => cases h
      | cons q levels =>
        obtain ⟨here, there⟩ := List.cons.inj h
        obtain ⟨none, rest⟩ := ih there (i + 1)
        have first : (checkLevel v).toOption = some q := by rw [here]; rfl
        refine ⟨?_, ?_⟩
        · simp only [levelErrors, here, none]
        · simp only [List.filterMap_cons, first, rest]
  unfold checkItems
  rw [(taken 0).1, (taken 0).2]

theorem checkItems_levels (f : Field) (levels : List Qop) :
    checkItems f (levels.map .qop) = .ok (orDefault levels) := by
  refine checkItems_of_levels ?_
  rw [List.map_map]
  rfl

/-- What a field holds it takes as it is. -/
theorem check_of_holds {f : Field} {v : Value} (h : f.Holds v) : ∃ a, f.check v = .ok a ∧ a.value = v := by
  cases f with
  | authenticationId =>
    obtain ⟨t, rfl⟩ := h
    exact ⟨.authenticationId t, rfl, rfl⟩
  | password =>
    obtain ⟨bs, rfl⟩ := h
    exact ⟨.password bs, rfl, rfl⟩
  | authorizationId =>
    rcases h with rfl | ⟨t, rfl⟩
    · exact ⟨.authorizationId none, rfl, rfl⟩
    · exact ⟨.authorizationId (some t), rfl, rfl⟩
  | realm =>
    rcases h with rfl | ⟨t, rfl⟩
    · exact ⟨.realm none, rfl, rfl⟩
    · exact ⟨.realm (some t), rfl, rfl⟩
  | allowedQop =>
    obtain ⟨q, qs, rfl⟩ := h
    refine ⟨.allowedQop (q :: qs), ?_, rfl⟩
    change (checkItems .allowedQop ((q :: qs).map .qop)).map Attribute.allowedQop = _
    rw [checkItems_levels]
    rfl

end Field

namespace Value

/-- A table. -/
def IsTable (v : Value) : Prop := ∃ es, v = .dict es

/-- Names in no order. -/
def IsNames (v : Value) : Prop := ∃ ts, v = .names ts

theorem entry_ok {v w : Value} {name : Text} (h : v.entry name = .ok w) :
    ∃ es, v = .dict es ∧ es.lookup name = some w := by
  unfold entry at h
  split at h
  · next es =>
    cases hl : es.lookup name with
    | some u =>
      rw [hl] at h
      exact ⟨es, rfl, hl.trans (congrArg some (Except.ok.inj h))⟩
    | none =>
      rw [hl] at h
      cases h
  · cases h
  · cases h
  · cases h
  · cases h
  · cases h

theorem isTable_of_without {v w : Value} {name : Text} (h : v.without name = .ok w) : v.IsTable := by
  unfold without at h
  split at h
  · exact ⟨_, rfl⟩
  · cases h
  · cases h

end Value

/-- An action that leaves the records of objects in order: it gives none a table for all its attributes or for what is
beyond its fields, nor a record of given fields that holds no names, and does not delete what is beyond its fields. -/
def Action.KeepsFields : Action → Prop
  | .set name v =>
    (name = Model.tableName ∨ name = Model.extraName → ¬ v.IsTable) ∧ (name = Model.givenName → v.IsNames)
  | .delete name => name ≠ Model.extraName
  | _ => True

namespace Object

variable {o p : Object} {v : Value}

/-- What is known of the object beyond its fields is no table. -/
def NoTableBeyond (o : Object) : Prop := ∀ v, o.extra = some v → ¬ v.IsTable

theorem beyond?_ok {name : Text} {w : Value} (h : o.beyond? name = .ok (some w)) :
    ∃ es, o.extra = some (.dict es) ∧ es.lookup name = some w := by
  unfold beyond? at h
  split at h
  · cases h
  next v hx =>
  split at h
  · cases h
  split at h
  · cases h
  · cases h
  · obtain ⟨u, hu, he⟩ := ok_of_map h
    obtain ⟨es, rfl, hl⟩ := Value.entry_ok hu
    exact ⟨es, hx, Option.some.inj he ▸ hl⟩

/-- Nothing is known under any name beyond the fields, if that is no table. -/
theorem NoTableBeyond.beyond?_ne (h : o.NoTableBeyond) (name : Text) (w : Value) : o.beyond? name ≠ .ok (some w) := by
  intro hw
  obtain ⟨es, hx, -⟩ := beyond?_ok hw
  exact h _ hx ⟨es, rfl⟩

theorem NoTableBeyond.fullTable (h : o.NoTableBeyond) : o.fullTable = o.table := by
  unfold Object.fullTable
  split
  · next es he => exact absurd ⟨es, rfl⟩ (h _ he)
  · rfl

theorem isNames_of_givenWith {name : Text} {given : Option Value} (h : o.givenWith name = .ok given) (w : Value)
    (hw : given = some w) : w.IsNames := by
  unfold givenWith at h
  split at h
  · rw [← Except.ok.inj h] at hw
    cases hw
  · rw [← Except.ok.inj h] at hw
    exact ⟨_, (Option.some.inj hw).symm⟩
  · cases h

/-- A record of given fields that holds names takes one more, and one that was deleted stays away. -/
theorem exists_givenWith (h : o.NoTableBeyond) (hg : ∀ w, o.given = some w → w.IsNames) (name : Text) :
    ∃ given, o.givenWith name = .ok given := by
  unfold givenWith
  cases hgiven : o.given with
  | some w =>
    obtain ⟨ts, rfl⟩ := hg w hgiven
    exact ⟨_, rfl⟩
  | none =>
    -- what was deleted could only be found beyond the fields again
    have nothing : (o.beyond? Model.givenName).toOption.bind id = none := by
      cases hb : o.beyond? Model.givenName with
      | error f => rfl
      | ok x =>
        cases x with
        | none => rfl
        | some w => exact absurd hb (h.beyond?_ne _ w)
    rw [Option.none_or, nothing]
    exact ⟨none, rfl⟩

theorem eq_of_copied {w : Value} (h : copied v = .ok w) : w = v := by
  unfold copied at h
  split at h
  · cases h
  · exact (Except.ok.inj h).symm

/-- What an object keeps for itself is read from nowhere else, if it is read and no table is beyond the fields. -/
theorem kept_of_read (h : o.NoTableBeyond) {name : Text} {kept : Option Value} {w : Value}
    (hn : name ≠ Model.tableName) (hk : o.kept? name = some kept) (hw : o.read name = .ok w) : kept = some w := by
  unfold read at hw
  rw [if_neg hn, hk] at hw
  cases kept with
  | some u =>
    obtain rfl := Except.ok.inj hw
    rfl
  | none =>
    simp only [beyond] at hw
    split at hw
    · cases hw
    · next u hu => exact absurd hu (h.beyond?_ne _ u)
    · cases hw

theorem copy_keeps (h : o.NoTableBeyond) (hc : o.copy = .ok p) :
    o.extra ≠ none ∧ p.model = o.model ∧ p.table = o.table ∧ p.extra = o.extra ∧ p.given = o.given := by
  unfold copy at hc
  obtain ⟨v, hv, hc⟩ := ok_of_bind hc
  obtain ⟨extra, he, hc⟩ := ok_of_bind hc
  obtain ⟨w, hw, hc⟩ := ok_of_bind hc
  obtain ⟨given, hg, hc⟩ := ok_of_bind hc
  obtain ⟨u, -, hc⟩ := ok_of_bind hc
  obtain ⟨inner, -, hc⟩ := ok_of_bind hc
  obtain rfl := (Except.ok.inj hc).symm
  obtain rfl := eq_of_copied he
  obtain rfl := eq_of_copied hg
  have keptExtra : o.extra = some extra := kept_of_read h (by decide) (by simp [kept?]) hv
  have other : Model.givenName ≠ Model.extraName := by decide
  have keptGiven : o.given = some given := kept_of_read h (by decide) (by simp [kept?, other]) hw
  exact ⟨by rw [keptExtra]; exact Option.some_ne_none _, rfl, rfl, keptExtra.symm, keptGiven.symm⟩

/-- A note is kept by the object itself, replaces its table, or is one more entry of it. -/
theorem note_cases {name : Text} (h : o.note name v = .ok p) :
    p = o.keep name (some v) ∨ (∃ es, name = Model.tableName ∧ v = .dict es ∧ p = { o with table := es }) ∨
      p = { o with table := Entries.put name v o.table } := by
  unfold note at h
  split at h
  · cases h
  · split at h
    · exact .inl (Except.ok.inj h).symm
    · next es _ _ =>
      by_cases hn : name = Model.tableName
      · rw [if_pos hn] at h
        exact .inr (.inl ⟨es, hn, rfl, (Except.ok.inj h).symm⟩)
      · rw [if_neg hn] at h
        exact .inr (.inr (Except.ok.inj h).symm)
    · exact .inr (.inr (Except.ok.inj h).symm)

end Object

namespace Properties

/-! ### New objects -/

theorem gather_map_ok (as : List Attribute) : gather (as.map .ok) = .ok as := by
  induction as with
  | nil => rfl
  | cons a as ih => rw [List.map_cons, gather, ih]; rfl

/-- The one result among others that are there decides on all of them. -/
theorem gather_insert (as bs : List Attribute) (r : Except Rejection Attribute) :
    gather (as.map .ok ++ r :: bs.map .ok) = r.map fun a => as ++ a :: bs := by
  induction as with
  | nil =>
    cases r with
    | ok a => exact gather_map_ok (a :: bs)
    | error e =>
      cases e with
      | fault f => rfl
      | errors es =>
        rw [List.map_nil, List.nil_append, gather, gather_map_ok]
        rfl
  | cons a as ih =>
    rw [List.map_cons, List.cons_append, gather, ih]
    cases r <;> rfl

/-- A value for each field, by name. -/
def arguments (values : Field → Value) : Arguments := Field.all.map fun f => (f.name.toText, values f)

theorem lookup_arguments (values : Field → Value) (f : Field) :
    (arguments values).lookup f.name.toText = some (values f) := by
  cases f <;> rfl

theorem construct1_arguments (values : Field → Value) (f : Field) :
    construct1 (arguments values) f = f.check (values f) := by
  rw [construct1, lookup_arguments]

theorem call_arguments (values : Field → Value) : call [] (arguments values) = construct (arguments values) := by
  have bound : bind [] (arguments values) = .ok (arguments values) := rfl
  rw [call, bound]

/-- The fault of making an object of a dictionary: that of a text that can not be encoded is an error of the
dictionary as a whole. -/
def wrapped : Fault → Fault
  | .unencodable run => .invalid .properties [⟨[], .rule (Fault.encodingMessage run)⟩]
  | f => f

theorem validate_dict (values : Arguments) : validate (.dict values) = (call [] values).mapError wrapped := by
  unfold validate
  simp only
  cases call [] values with
  | ok p => rfl
  | error f => cases f <;> rfl

/-- The values that all fields of an object store. -/
def Stores (p : Properties) (values : Field → Value) : Prop := ∀ f, p.read f.name.toText = .ok (values f)

/-- Objects whose fields read alike. -/
def SameFields (p q : Properties) : Prop := ∀ f : Field, p.read f.name.toText = q.read f.name.toText

variable {p q : Properties} {values : Field → Value}

/-- What is read under the name of a field stands in the table, or in one that is beyond the fields. -/
theorem lookup_of_read_field (hm : p.model = .properties) {f : Field} {v : Value}
    (hv : p.read f.name.toText = .ok v) :
    p.table.lookup f.name.toText = some v ∨
      ∃ es, p.extra = some (.dict es) ∧ es.lookup f.name.toText = some v := by
  cases hl : p.table.lookup f.name.toText with
  | some u =>
    rw [Object.read_of_lookup (isPlain_name f) hl] at hv
    exact .inl (congrArg some (Except.ok.inj hv))
  | none =>
    obtain ⟨ht, he, hg, hp, hd⟩ := isPlain_name f
    have own : f.name.toText ∉ Model.ownNames := by cases f <;> decide
    simp only [Object.read, Object.kept?, ht, he, hg, hp, hd, hl, hm, lookup_constants_name, own, if_false,
      Option.or_none, Object.beyond] at hv
    split at hv
    · cases hv
    · next u hu =>
      obtain rfl := Except.ok.inj hv
      exact .inr (Object.beyond?_ok hu)
    · cases hv

/-- One value among others that fields hold decides on the new object: it has its fault, or its field. -/
theorem construct_update (hv : ∀ f : Field, f.Holds (values f)) (f : Field) (v : Value) :
    Agree (fun a q => Stores q (Function.update values f a.value)) ((f.check v).mapError fault)
      (construct (arguments (Function.update values f v))) := by
  choose taken checked stored using fun g : Field => Field.check_of_holds (hv g)
  -- the fields before this one and those after it
  obtain ⟨before, after, split⟩ := List.append_of_mem (Field.mem_all f)
  have once : f ∉ before ++ after := by
    have distinct : Field.all.Nodup := by decide
    rw [split] at distinct
    exact (List.nodup_middle.1 distinct).notMem
  have others : ∀ g ∈ before ++ after, construct1 (arguments (Function.update values f v)) g = .ok (taken g) := by
    intro g hg
    have hne : g ≠ f := fun he => once (he ▸ hg)
    rw [construct1_arguments, Function.update_of_ne hne, checked]
  have all : Field.all.map (construct1 (arguments (Function.update values f v))) =
      (before.map taken).map .ok ++ f.check v :: (after.map taken).map .ok := by
    rw [split, List.map_append, List.map_cons, construct1_arguments, Function.update_self, List.map_map, List.map_map]
    congr 1
    · exact List.map_congr_left fun g hg => others g (List.mem_append_left _ hg)
    · congr 1
      exact List.map_congr_left fun g hg => others g (List.mem_append_right _ hg)
  cases hc : f.check v with
  | error r =>
    have fails : construct (arguments (Function.update values f v)) = .error (fault r) := by
      rw [construct, all, gather_insert, hc]
      rfl
    rw [fails]
    exact .error _
  | ok a =>
    obtain ⟨q, hq⟩ : ∃ q, construct (arguments (Function.update values f v)) = .ok q := by
      rw [construct, all, gather_insert, hc]
      exact ⟨_, rfl⟩
    rw [hq]
    refine .ok fun g => ?_
    obtain ⟨-, -, -, fields⟩ := construct_ok hq
    obtain ⟨b, hb, hl⟩ := fields g
    rw [Object.read_of_lookup (isPlain_name g) hl]
    rw [construct1_arguments] at hb
    by_cases hg : g = f
    · subst hg
      rw [Function.update_self, hc] at hb
      rw [Function.update_self, Except.ok.inj hb]
    · rw [Function.update_of_ne hg, checked] at hb
      rw [Function.update_of_ne hg, ← stored g, Except.ok.inj hb]

/-! ### Deletions -/

/-- A deletion that succeeds takes away the whole table, an entry of it, what the object keeps for itself, or an entry of
what is beyond the fields. -/
theorem delete_cases {name : Text} (h : p.delete name = .ok q) :
    (name = Model.tableName ∧ q = { p with table := [] }) ∨
    (name ≠ Model.tableName ∧ q = { p with table := Entries.remove name p.table }) ∨
    (name ≠ Model.tableName ∧ name ∉ Field.names ∧ q = p.keep name none) ∨
    ∃ es, p.extra = some (.dict es) ∧ (es.lookup name).isSome ∧
      q = { p with extra := some (.dict (Entries.remove name es)) } := by
  unfold delete Object.delete at h
  split at h
  · next hn =>
    obtain ⟨f, -, rfl⟩ := List.mem_map.1 hn
    exact .inr (.inl ⟨(isPlain_name f).1, (Object.removeEntry_ok h).2⟩)
  next hn =>
  -- a name that is not that of a field is deleted from what is beyond the fields, or else from the object itself
  have own (h : p.deleteOwn name = .ok q) :
      (name = Model.tableName ∧ q = { p with table := [] }) ∨
      (name ≠ Model.tableName ∧ q = { p with table := Entries.remove name p.table }) ∨
      (name ≠ Model.tableName ∧ name ∉ Field.names ∧ q = p.keep name none) ∨
      ∃ es, p.extra = some (.dict es) ∧ (es.lookup name).isSome ∧
        q = { p with extra := some (.dict (Entries.remove name es)) } := by
    rcases Object.deleteOwn_ok h with hq | ⟨ht, hq⟩ | hq
    · exact .inl hq
    · exact .inr (.inr (.inl ⟨ht, hn, hq⟩))
    · exact .inr (.inl hq)
  unfold Object.deleteOther at h
  split at h
  · cases h
  · exact own h
  split at h
  · cases h
  · next v hx _ holds =>
    obtain ⟨u, hu, rfl⟩ := ok_of_map h
    obtain ⟨es, rfl⟩ := Value.isTable_of_without hu
    obtain rfl := Except.ok.inj hu
    exact .inr (.inr (.inr ⟨es, hx, Except.ok.inj holds, rfl⟩))
  · exact own h

/-! ### Settled objects -/

/-- An object whose records are in order: its fields hold values of their kind, the record of those that were given
holds names if it is there, and what is beyond them is no table.  An object that keeps nothing of the latter was made
without its fields. -/
structure Settled (p : Properties) : Prop where
  model : p.model = .properties
  held : ∀ (f : Field) (v : Value), p.table.lookup f.name.toText = some v → f.Holds v
  given : ∀ w, p.given = some w → w.IsNames
  beyond : p.NoTableBeyond
  bare : p.extra = none → ∀ f : Field, p.table.lookup f.name.toText = none

namespace Settled

theorem construct {values : Arguments} (h : Properties.construct values = .ok p) : p.Settled := by
  obtain ⟨hm, hx, hg, fields⟩ := construct_ok h
  refine ⟨hm, fun f v hv => ?_, fun w hw => ?_, fun v hv => ?_, fun hn => ?_⟩
  · obtain ⟨a, ha, hl⟩ := fields f
    rw [hl] at hv
    exact Option.some.inj hv ▸ (construct1_ok ha).2
  · rw [hg] at hw
    exact ⟨_, (Option.some.inj hw).symm⟩
  · rw [hx] at hv
    rintro ⟨es, rfl⟩
    cases hv
  · rw [hx] at hn
    cases hn

theorem blank : Settled Properties.blank where
  model := rfl
  held f v h := by cases h
  given w h := by cases h
  beyond v h := by cases h
  bare _ f := rfl

theorem copy (h : p.Settled) (hc : p.copy = .ok q) : q.Settled := by
  obtain ⟨hn, hm, ht, hx, hg⟩ := Object.copy_keeps h.beyond hc
  refine ⟨hm.trans h.model, ?_, ?_, ?_, ?_⟩
  · rw [ht]
    exact h.held
  · rw [hg]
    exact h.given
  · unfold Object.NoTableBeyond
    rw [hx]
    exact h.beyond
  · rw [hx]
    exact fun he => absurd he hn

theorem set_ok (h : p.Settled) {f : Field} {v : Value} (hs : p.set f v = .ok q) :
    ∃ a, f.check v = .ok a ∧ q.model = .properties ∧ q.table = Entries.put f.name.toText a.value p.table ∧
      q.extra = some .null ∧ ∀ w, q.given = some w → w.IsNames := by
  obtain ⟨a, ha, -, hs⟩ := Properties.set_ok hs
  obtain ⟨hg, hq⟩ := Object.store_ok hs
  refine ⟨a, ha, ?_, ?_, ?_, Object.isNames_of_givenWith hg⟩
  · rw [hq]
    exact h.model
  · rw [hq, h.beyond.fullTable]
  · rw [hq]

theorem set (h : p.Settled) {f : Field} {v : Value} (hs : p.set f v = .ok q) : q.Settled := by
  obtain ⟨a, ha, hm, ht, hx, hg⟩ := h.set_ok hs
  refine ⟨hm, fun g w hw => ?_, hg, fun w hw => ?_, fun hn => ?_⟩
  · rw [ht] at hw
    rcases Entries.lookup_put_cases hw with ⟨hn, rfl⟩ | ⟨-, hw⟩
    · exact Field.name_injective hn ▸ Field.holds_of_check ha
    · exact h.held g w hw
  · rw [hx] at hw
    rintro ⟨es, rfl⟩
    cases hw
  · rw [hx] at hn
    cases hn

/-- What the object keeps for itself can be replaced and deleted, as long as it stays in order. -/
theorem keep (h : p.Settled) {name : Text} {v : Option Value}
    (hx : name = Model.extraName → ∃ w, v = some w ∧ ¬ w.IsTable)
    (hg : name = Model.givenName → ∀ w, v = some w → w.IsNames) : Settled (p.keep name v) := by
  unfold Object.keep
  split
  · next hn =>
    obtain ⟨w, rfl, hw⟩ := hx hn
    refine { h with beyond := fun u hu => ?_, bare := fun hn => by cases hn }
    exact Option.some.inj hu ▸ hw
  · split
    · next hn => exact { h with given := hg hn }
    · split
      · exact { h with }
      · exact h

/-- A table can be changed if each field in it holds a value of its kind, and no field comes in. -/
theorem withTable (h : p.Settled) {table : Entries Value}
    (ht : ∀ (f : Field) (v : Value), table.lookup f.name.toText = some v → p.table.lookup f.name.toText = some v) :
    Settled { p with table } := by
  refine { h with held := fun f w hw => h.held f w (ht f w hw), bare := fun hx f => ?_ }
  refine Option.eq_none_iff_forall_ne_some.2 fun w hw => ?_
  have here := ht f w hw
  rw [h.bare hx f] at here
  cases here

theorem remove (h : p.Settled) (name : Text) : Settled { p with table := Entries.remove name p.table } := by
  refine h.withTable fun f v hv => ?_
  rw [Entries.lookup_remove] at hv
  split at hv
  · cases hv
  · exact hv

theorem note (h : p.Settled) {name : Text} (hn : isNote name = true) {v : Value}
    (ha : Action.KeepsFields (.set name v)) (hp : p.note name v = .ok q) : q.Settled := by
  obtain ⟨notTable, names⟩ := ha
  rcases Object.note_cases hp with rfl | ⟨es, ht, rfl, -⟩ | rfl
  · refine h.keep (fun he => ⟨v, rfl, notTable (.inr he)⟩) fun he w hw => ?_
    exact Option.some.inj hw ▸ names he
  · exact absurd ⟨es, rfl⟩ (notTable (.inl ht))
  · refine h.withTable fun f w hw => ?_
    have plain : isNote f.name.toText = false := by cases f <;> decide
    rcases Entries.lookup_put_cases hw with ⟨he, -⟩ | ⟨-, hw⟩
    · rw [he, hn] at plain
      cases plain
    · exact hw

theorem delete (h : p.Settled) {name : Text} (hn : name ≠ Model.extraName) (hd : p.delete name = .ok q) :
    q.Settled := by
  rcases delete_cases hd with ⟨-, rfl⟩ | ⟨-, rfl⟩ | ⟨-, -, rfl⟩ | ⟨es, hx, -, -⟩
  · exact h.withTable fun f v hv => by cases hv
  · exact h.remove name
  · exact h.keep (fun he => absurd he hn) fun _ w hw => by cases hw
  · exact absurd ⟨es, rfl⟩ (h.beyond _ hx)

/-! ### Assigning -/

theorem lookup_of_read (h : p.Settled) {f : Field} {v : Value} (hv : p.read f.name.toText = .ok v) :
    p.table.lookup f.name.toText = some v :=
  (lookup_of_read_field h.model hv).resolve_right fun ⟨es, hx, _⟩ => h.beyond _ hx ⟨es, rfl⟩

/-- An object that takes assignments at all takes the values that the rule of the field takes. -/
theorem set_eq (h : p.Settled) (hx : p.extra ≠ none) (f : Field) (v : Value) :
    Agree (fun a q => q.table = Entries.put f.name.toText a.value p.table) ((f.check v).mapError fault)
      (p.set f v) := by
  have there : p.extra.isNone = false := Option.isNone_eq_false_iff.2 (Option.isSome_iff_ne_none.2 hx)
  cases hc : f.check v with
  | error r =>
    have fails : p.set f v = .error (fault r) := by
      rw [Properties.set, there, hc]
      rfl
    rw [fails]
    exact .error _
  | ok a =>
    obtain ⟨given, hg⟩ := Object.exists_givenWith h.beyond h.given f.name.toText
    obtain ⟨q, hq⟩ : ∃ q, p.set f v = .ok q := by
      rw [Properties.set, there, hc]
      simp only [Bool.false_eq_true, if_false, Object.store, hg]
      exact ⟨_, rfl⟩
    obtain ⟨b, hb, -, ht, -⟩ := h.set_ok hq
    rw [hc] at hb
    obtain rfl := Except.ok.inj hb
    rw [hq]
    exact .ok ht

/-- An assignment changes what the fields store in one place, if the field takes the value. -/
theorem assign_update (h : p.Settled) (hv : p.Stores values) (f : Field) (v : Value) :
    Agree (fun a q => Stores q (Function.update values f a.value)) ((f.check v).mapError fault)
      (p.assign f.name.toText v) := by
  have there : p.extra ≠ none := by
    intro hn
    -- an object that keeps nothing beyond its fields never had the fields that were read
    have here := h.lookup_of_read (hv f)
    rw [h.bare hn f] at here
    cases here
  rw [assign_name]
  refine (h.set_eq there f v).imp fun a q ht g => Object.read_of_lookup (isPlain_name g) ?_
  rw [ht, Entries.lookup_put]
  by_cases hg : g = f
  · subst hg
    rw [if_pos rfl, Function.update_self]
  · rw [if_neg (Field.name_ne hg), Function.update_of_ne hg]
    exact h.lookup_of_read (hv g)

end Settled

/-- Assigning a value to a field has the same outcome as making a new object of what all fields store, with the value
in the place of the one: of values by name, and of a dictionary. -/
structure Remakes (p : Properties) (values : Field → Value) (f : Field) (v : Value) : Prop where
  byName : Agree SameFields (p.assign f.name.toText v) (call [] (arguments (Function.update values f v)))
  fromDict : Agree SameFields (p.assign f.name.toText v) (validate (.dict (arguments (Function.update values f v))))

end Properties

namespace Slots

variable {s : Slots} {a : Action}

/-! ### Runs -/

/-- Objects are settled after every run of actions that leave their records in order. -/
theorem settled_run (steps : List (Text × Action)) (h : ∀ step ∈ steps, step.2.KeepsFields) (slot : Text)
    (p : Properties) (hp : (run [] steps).2.lookup slot = some p) : p.Settled :=
  forall_run (P := fun p => p.Settled) .construct (fun _ => .blank) .copy (fun hp hn ha hq => hp.note hn ha hq)
    (fun hp hq => hp.set hq) (fun hp ha hq => hp.delete ha hq) steps h slot p hp

/-- **Assigning a field is making the object anew.**  After a run that left the records of objects in order, assigning
any value to a field of an object that has all its fields has the same outcome as making a new object by name of what
the fields store, with the value in the place of the one: the same fault, or the same fields.  So it has with a new
object made of a dictionary, which wraps the fault of a text that can not be encoded.  Assigning what the field
stores leaves all fields as they are. -/
theorem assign_remakes {steps : List (Text × Action)} (h : ∀ step ∈ steps, step.2.KeepsFields) {slot : Text}
    {p : Properties} (hp : (run [] steps).2.lookup slot = some p) {values : Field → Value} (hv : p.Stores values)
    (f : Field) (v : Value) :
    Agree Properties.SameFields (p.assign f.name.toText v)
      (Properties.call [] (Properties.arguments (Function.update values f v))) ∧
    Agree Properties.SameFields ((p.assign f.name.toText v).mapError Properties.wrapped)
      (Properties.validate (.dict (Properties.arguments (Function.update values f v)))) ∧
    ∃ q, p.assign f.name.toText (values f) = .ok q ∧ Properties.Stores q values := by
  have settled : p.Settled := settled_run steps h slot p hp
  have holds : ∀ g : Field, g.Holds (values g) := fun g => settled.held g _ (settled.lookup_of_read (hv g))
  have byName : Agree Properties.SameFields (p.assign f.name.toText v)
      (Properties.call [] (Properties.arguments (Function.update values f v))) := by
    rw [Properties.call_arguments]
    refine (settled.assign_update hv f v).join (fun a q r hq hr g => ?_) (Properties.construct_update holds f v)
    rw [hq g, hr g]
  refine ⟨byName, ?_, ?_⟩
  · rw [Properties.validate_dict]
    exact byName.mapError _
  · obtain ⟨a, ha, stored⟩ := Field.check_of_holds (holds f)
    have assigned := settled.assign_update hv f (values f)
    rw [ha] at assigned
    obtain ⟨q, hq, stores⟩ := assigned.of_ok
    rw [stored, Function.update_eq_self] at stores
    exact ⟨q, hq, stores⟩

end Slots

namespace Properties

/-- What the fields of an object store, as far as they can be read. -/
def valuesOf (p : Properties) (f : Field) : Value :=
  match p.read f.name.toText with
  | .ok v => v
  | .error _ => .null

/-- Whether all fields of an object can be read. -/
def isWhole (p : Properties) : Bool := Field.all.all fun f => (p.read f.name.toText).isOk

theorem stores_valuesOf {p : Properties} (h : p.isWhole) : p.Stores p.valuesOf := by
  intro f
  have read := List.all_eq_true.1 h f (Field.mem_all f)
  unfold valuesOf
  cases hf : p.read f.name.toText with
  | ok v => rfl
  | error e =>
    rw [hf] at read
    cases read

/-- Whether all texts that fields of an object store pass a test. -/
def textsPass (test : Text → Bool) (p : Properties) : Bool :=
  Field.all.all fun f => match p.valuesOf f with
    | .text t => test t
    | _ => true

theorem passes_of_textsPass {test : Text → Bool} {p : Properties} (h : p.textsPass test) {f : Field} {t : Text}
    (hf : p.valuesOf f = .text t) : test t = true := by
  have here := List.all_eq_true.1 h f (Field.mem_all f)
  rwa [hf] at here

end Properties

namespace Slots

/-- A run after which an object has all its fields, and no record of those that were given. -/
def wholeRun : List (Text × Action) :=
  [("a".toText, .make [.word "u:a"] []), ("a".toText, .delete Field.realm.name.toText),
    ("a".toText, .set Field.realm.name.toText (.word "r")), ("a".toText, .delete Model.givenName)]

/-- Levels that are no levels are refused by the object as by a new one made of it. -/
theorem assign_remakes_wholeRun :
    (∀ step ∈ wholeRun, step.2.KeepsFields) ∧
    ∃ p, (run [] wholeRun).2.lookup "a".toText = some p ∧ p.Stores p.valuesOf ∧
      Agree Properties.SameFields (p.assign Field.allowedQop.name.toText (.tuple [.word "AUTH"]))
        (Properties.call []
          (Properties.arguments (Function.update p.valuesOf .allowedQop (.tuple [.word "AUTH"])))) := by
  have keeps : ∀ step ∈ wholeRun, step.2.KeepsFields := by
    have realm : Field.realm.name.toText ≠ Model.tableName ∧ Field.realm.name.toText ≠ Model.extraName ∧
        Field.realm.name.toText ≠ Model.givenName := by decide
    have given : Model.givenName ≠ Model.extraName := by decide
    simp [wholeRun, Action.KeepsFields, realm, given]
  have whole : ((run [] wholeRun).2.lookup "a".toText).any Properties.isWhole := by decide
  obtain ⟨p, hp, hw⟩ := (Option.any_eq_true _ _).1 whole
  have stores := Properties.stores_valuesOf hw
  exact ⟨keeps, p, hp, stores, (assign_remakes keeps hp stores .allowedQop (.tuple [.word "AUTH"])).1⟩

/-! ### Records that are not in order -/

/-- Whether an object has no realm, or why there is no object. -/
def realmOf (r : Except Fault Properties) : Except Fault Bool := r.map hasNoRealm

theorem realmOf_eq {x y : Except Fault Properties} (h : Agree Properties.SameFields x y) : realmOf x = realmOf y := by
  cases h with
  | error f => rfl
  | ok h =>
    unfold realmOf hasNoRealm
    simp only [Except.map, h .realm]

/-- After a run, assigning a value to a field of an object that has all its fields differs from making it anew. -/
def Differs (steps : List (Text × Action)) (f : Field) (v : Value) : Prop :=
  ∃ p values, (run [] steps).2.lookup "a".toText = some p ∧ p.Stores values ∧ ¬ p.Remakes values f v

/-- Whether the outcomes can be told apart by the fault or by the realm. -/
def isToldApart (f : Field) (v : Value) (p : Properties) : Bool :=
  let anew := Properties.arguments (Function.update p.valuesOf f v)
  let assigned := realmOf (p.assign f.name.toText v)
  p.isWhole && (assigned ≠ realmOf (Properties.call [] anew) || assigned ≠ realmOf (Properties.validate (.dict anew)))

theorem differs_of_any {steps : List (Text × Action)} {f : Field} {v : Value}
    (h : ((run [] steps).2.lookup "a".toText).any (isToldApart f v)) : Differs steps f v := by
  obtain ⟨p, hp, ht⟩ := (Option.any_eq_true _ _).1 h
  unfold isToldApart at ht
  simp only [Bool.and_eq_true, Bool.or_eq_true, decide_eq_true_eq] at ht
  obtain ⟨whole, apart⟩ := ht
  refine ⟨p, p.valuesOf, hp, Properties.stores_valuesOf whole, fun same => ?_⟩
  rcases apart with apart | apart
  · exact apart (realmOf_eq same.byName)
  · exact apart (realmOf_eq same.fromDict)

/-- A run that makes an object. -/
def plainRun : List (Text × Action) := [("a".toText, .make [.word "u:a"] [])]

/-- A run that makes an object and takes away what is beyond its fields. -/
def closedRun : List (Text × Action) := plainRun ++ [("a".toText, .delete Model.extraName)]

/-- A run that makes an object and replaces the record of its given fields by nothing. -/
def namelessRun : List (Text × Action) := plainRun ++ [("a".toText, .set Model.givenName .null)]

/-- A run that makes an object and replaces its attributes by some that its fields do not take. -/
def replacedRun : List (Text × Action) :=
  plainRun ++ [("a".toText, .set Model.tableName
    (.dict (Properties.arguments fun f => if f = .authenticationId then .int 3 else f.unset.value)))]

/-- A text that is no list of levels, and can not be encoded. -/
def strayLevel : Value := .text [CodePoint.ofOctet 0xFF]

/-- An object does not take what a new one takes after what is beyond its fields was deleted or the record of its
given fields replaced; it takes what a new one does not after its attributes were replaced; what was put beyond its
fields comes to the fields with the next assignment, and not to a new object.  Where all is in order, a text that can
not be encoded is refused in two ways. -/
theorem remade_matters :
    Differs closedRun .realm (.word "r") ∧ Differs namelessRun .realm (.word "r") ∧
    Differs replacedRun .realm (.word "r") ∧ Differs beyondRun .authorizationId (.word "q") ∧
    Differs plainRun .allowedQop strayLevel := by
  refine ⟨differs_of_any ?_, differs_of_any ?_, differs_of_any ?_, differs_of_any ?_, differs_of_any ?_⟩
  · decide
  · decide
  · decide
  · decide
  · decide

end Slots

end SaslBind
