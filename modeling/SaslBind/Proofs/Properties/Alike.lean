import SaslBind.Proofs.Related
import SaslBind.Properties.Slots

/-!
# Objects that differ in the secret

Two objects are alike if they have the same attributes but for the octets of the secret.  How those may differ
is a parameter `S`: to mask a secret one has to know whether it is empty, and the other texts about an object
do not even need that.

* `Object.Alike S` : the same attributes, and secrets whose octets `S` relates;
* `Supplied S` : values that are both refused as secrets, or make octets that `S` relates;
* `Object.Alike.read_eq`, `Object.Alike.givenNames_eq`, `describe_eq`, `dump_eq` : alike objects answer the same;
* `Object.Alike.store`, `Object.Alike.delete`, `Object.Alike.note`, `Object.Alike.copy` : what is done to both
  leaves them alike.

Main statements: `assign_alike`, `call_alike` and `validate_alike`, the operations make alike objects of values that
are related as secrets, or refuse both with the same fault.
-/

namespace SaslBind

def secretName : Text := Field.password.name.toText

/-- Equal values, or values under the name of the secret that `R` relates. -/
def ButSecret (R : Value → Value → Prop) (name : Text) (v w : Value) : Prop := v = w ∨ name = secretName ∧ R v w

/-- Stored secrets with related octets. -/
def Stored (S : List UInt8 → List UInt8 → Prop) (v w : Value) : Prop :=
  ∃ bs cs, v = .secret bs ∧ w = .secret cs ∧ S bs cs

/-- Values that are refused as secrets, or make related octets. -/
def Supplied (S : List UInt8 → List UInt8 → Prop) (v w : Value) : Prop :=
  Agree S (Field.checkSecret v) (Field.checkSecret w)

theorem ButSecret.refl {R : Value → Value → Prop} (name : Text) (v : Value) : ButSecret R name v v := .inl rfl

theorem ButSecret.eq {R : Value → Value → Prop} {name : Text} (hn : name ≠ secretName) {v w : Value}
    (h : ButSecret R name v w) : v = w := h.resolve_right fun h => hn h.1

/-- Objects with the same attributes but for the octets of the secret. -/
structure Object.Alike (S : List UInt8 → List UInt8 → Prop) (o p : Object) : Prop where
  model : o.model = p.model
  table : Entries.Related (ButSecret (Stored S)) o.table p.table
  extra : o.extra = p.extra
  given : o.given = p.given
  inner : o.inner = p.inner

namespace Object

namespace Alike

variable {S : List UInt8 → List UInt8 → Prop} {o p : Object}

theorem refl (S : List UInt8 → List UInt8 → Prop) (o : Object) : o.Alike S o where
  model := rfl
  table := .refl ButSecret.refl o.table
  extra := rfl
  given := rfl
  inner := rfl

/-! ### Reading -/

theorem noAttribute_eq (h : o.Alike S p) (name : Text) : o.noAttribute name = p.noAttribute name := by
  rw [Object.noAttribute, Object.noAttribute, h.model]

theorem kept?_eq (h : o.Alike S p) (name : Text) : o.kept? name = p.kept? name := by
  rw [kept?, kept?, h.extra, h.given, h.inner]

theorem beyond?_eq (h : o.Alike S p) (name : Text) : o.beyond? name = p.beyond? name := by
  rw [beyond?, beyond?, h.extra]

theorem beyond_eq (h : o.Alike S p) (name : Text) (f : Fault) : o.beyond name f = p.beyond name f := by
  rw [beyond, beyond, h.beyond?_eq]

theorem readDerived_eq (h : o.Alike S p) (name source : Text) :
    o.readDerived name source = p.readDerived name source := by
  simp only [readDerived, h.kept?_eq, h.beyond?_eq, h.noAttribute_eq, h.beyond_eq]

theorem lookup_eq (h : o.Alike S p) {name : Text} (hn : name ≠ secretName) :
    o.table.lookup name = p.table.lookup name :=
  h.table.lookup_eq fun _ _ => ButSecret.eq hn

/-- All but the secret and the table as a whole is read alike. -/
theorem read_eq (h : o.Alike S p) {name : Text} (hn : name ≠ secretName) (ht : name ≠ Model.tableName) :
    o.read name = p.read name := by
  simp only [read, if_neg ht, h.kept?_eq, h.lookup_eq hn, h.model, h.beyond_eq, h.readDerived_eq, h.noAttribute_eq]

theorem readOr_eq (h : o.Alike S p) {name : Text} (hn : name ≠ secretName) (ht : name ≠ Model.tableName)
    (other : Value) : o.readOr name other = p.readOr name other := by
  rw [readOr, readOr, h.read_eq hn ht]

theorem givenNames_eq (h : o.Alike S p) : o.givenNames = p.givenNames := by
  rw [givenNames, givenNames, h.readDerived_eq]

/-! ### Changing -/

theorem keep (h : o.Alike S p) (name : Text) (v : Option Value) : (o.keep name v).Alike S (p.keep name v) := by
  unfold Object.keep
  split
  · exact { h with extra := rfl }
  · split
    · exact { h with given := rfl }
    · split
      · exact { h with inner := rfl }
      · exact h

theorem withTable (h : o.Alike S p) {es fs : Entries Value} (ht : Entries.Related (ButSecret (Stored S)) es fs) :
    Alike S { o with table := es } { p with table := fs } := { h with table := ht }

theorem removeEntry (h : o.Alike S p) (name : Text) : Agree (Alike S) (o.removeEntry name) (p.removeEntry name) := by
  rw [Object.removeEntry, Object.removeEntry, h.table.isSome_lookup, h.noAttribute_eq]
  split
  · exact .ok (h.withTable (h.table.remove name))
  · exact .error _

theorem deleteOwn (h : o.Alike S p) (name : Text) : Agree (Alike S) (o.deleteOwn name) (p.deleteOwn name) := by
  unfold Object.deleteOwn
  rw [h.kept?_eq, h.noAttribute_eq]
  split
  · exact .error _
  · split
    · exact .ok (h.withTable .nil)
    · split
      · exact .ok (h.keep name none)
      · exact .error _
      · split
        · exact .error _
        · exact h.removeEntry name

theorem deleteOther (h : o.Alike S p) (name : Text) : Agree (Alike S) (o.deleteOther name) (p.deleteOther name) := by
  unfold Object.deleteOther
  rw [h.extra, h.noAttribute_eq]
  split
  · exact .error _
  · exact h.deleteOwn name
  · split
    · exact .error _
    · exact .map_same (fun _ => { h with extra := rfl }) _
    · exact h.deleteOwn name

theorem delete (h : o.Alike S p) (fields : List Text) (name : Text) :
    Agree (Alike S) (o.delete fields name) (p.delete fields name) := by
  unfold Object.delete
  split
  · exact h.removeEntry name
  · exact h.deleteOther name

/-- A table that replaces those of both objects makes them the same. -/
theorem note (h : o.Alike S p) (name : Text) (v : Value) : Agree (Alike S) (o.note name v) (p.note name v) := by
  have fault : Fault.ofNote? o.model name v = Fault.ofNote? p.model name v := by rw [h.model]
  unfold Object.note
  rw [h.kept?_eq, fault]
  split
  · exact .error _
  · split
    · exact .ok (h.keep name _)
    · refine .ok (h.withTable ?_)
      split
      · exact .refl ButSecret.refl _
      · exact h.table.put (.refl _ _)
    · exact .ok (h.withTable (h.table.put (.refl _ _)))

theorem fullTable (h : o.Alike S p) : Entries.Related (ButSecret (Stored S)) o.fullTable p.fullTable := by
  unfold Object.fullTable
  rw [h.extra]
  split
  · exact h.table.overlay ButSecret.refl _
  · exact h.table

theorem givenWith_eq (h : o.Alike S p) (name : Text) : o.givenWith name = p.givenWith name := by
  rw [givenWith, givenWith, h.given, h.beyond?_eq]

theorem store (h : o.Alike S p) {name : Text} {v w : Value} (hv : ButSecret (Stored S) name v w) :
    Agree (Alike S) (o.store name v) (p.store name w) := by
  unfold Object.store
  rw [h.givenWith_eq]
  exact .map_same (fun _ => { h with table := h.fullTable.put hv, extra := rfl, given := rfl }) _

theorem copy (h : o.Alike S p) : Agree (Alike S) o.copy p.copy := by
  have extra : o.read Model.extraName = p.read Model.extraName := h.read_eq (by decide) (by decide)
  have given : o.read Model.givenName = p.read Model.givenName := h.read_eq (by decide) (by decide)
  have inner : o.readOr Model.privateName .null = p.readOr Model.privateName .null :=
    h.readOr_eq (by decide) (by decide) .null
  unfold Object.copy
  rw [extra, given, inner]
  -- what is kept is read from both objects as one value
  refine .bind_same (fun _ => .bind_same (fun extra => ?_) _) _
  refine .bind_same (fun _ => .bind_same (fun given => ?_) _) _
  refine .bind_same (fun _ => .bind_same (fun inner => ?_) _) _
  exact .ok ⟨h.model, h.table, rfl, rfl, rfl⟩

end Alike

end Object

/-! ### What is told of an object -/

namespace Properties

variable {S : List UInt8 → List UInt8 → Prop} {p q : Properties}

theorem field_eq_password {f : Field} (h : f.name.toText = secretName) : f = .password := Field.name_injective h

theorem valueOf_eq (h : p.Alike S q) {f : Field} (hf : f ≠ .password) : p.valueOf f = q.valueOf f :=
  h.readOr_eq (fun he => hf (field_eq_password he)) (by cases f <;> decide) .null

theorem levels_eq (h : p.Alike S q) : p.levels = q.levels := h.readOr_eq (by decide) (by decide) (.tuple [])

theorem describe_eq (h : p.Alike S q) : p.describe = q.describe := by
  have first : p.valueOf .authenticationId = q.valueOf .authenticationId := valueOf_eq h (by decide)
  have second : p.valueOf .authorizationId = q.valueOf .authorizationId := valueOf_eq h (by decide)
  have third : p.valueOf .realm = q.valueOf .realm := valueOf_eq h (by decide)
  rw [describe, describe, parts, parts, first, second, third, levels_eq h]

/-- Of the secret the text of an object shows no more than whether it is empty. -/
theorem members_eq (hS : ∀ bs cs, S bs cs → bs.isEmpty = cs.isEmpty) {es fs : Entries Value}
    (h : Entries.Related (ButSecret (Stored S)) es fs) : members es = members fs := by
  induction h with
  | nil => rfl
  | @cons e e' es fs he _ ih =>
    obtain ⟨name, v⟩ := e
    obtain ⟨name', w⟩ := e'
    obtain ⟨rfl, hv⟩ := he
    rcases hv with hv | ⟨hn, bs, cs, hv, hw, hbc⟩
    · simp only at hv
      rw [members, members, ih, hv]
    · simp only at hn hv hw
      have hf : Field.ofName? name = some .password := hn ▸ Field.ofName?_name .password
      have hj : fieldJson .password v = fieldJson .password w := by
        rw [hv, hw]
        exact Value.toJson_secret (hS bs cs hbc)
      simp only [members, hf, hj, ih]

theorem dump_eq (hS : ∀ bs cs, S bs cs → bs.isEmpty = cs.isEmpty) (h : p.Alike S q) : p.dump = q.dump := by
  rw [dump, dump, members_eq hS h.table]

end Properties

/-! ### What fields take -/

/-- Attributes of a field that differ in the octets of the secret only. -/
def Field.Alike (S : List UInt8 → List UInt8 → Prop) (f : Field) (a b : Attribute) : Prop :=
  a.field = f ∧ b.field = f ∧ ButSecret (Stored S) f.name.toText a.value b.value

namespace Properties

variable {S : List UInt8 → List UInt8 → Prop} {p q : Properties}

theorem check_alike {f : Field} {v w : Value} (h : ButSecret (Supplied S) f.name.toText v w) :
    Agree (f.Alike S) (f.check v) (f.check w) := by
  rcases h with rfl | ⟨hf, h⟩
  · cases hc : f.check v with
    | error r => exact .error r
    | ok a => exact .ok ⟨Field.field_of_check hc, Field.field_of_check hc, .refl _ _⟩
  · obtain rfl := field_eq_password hf
    exact (h.mapError _).map fun bs cs hbc => ⟨rfl, rfl, .inr ⟨rfl, bs, cs, rfl, rfl, hbc⟩⟩

theorem set_alike (h : p.Alike S q) {f : Field} {v w : Value} (hv : ButSecret (Supplied S) f.name.toText v w) :
    Agree (Object.Alike S) (p.set f v) (q.set f w) := by
  have hc := check_alike hv
  rw [set, set, h.extra, h.noAttribute_eq]
  split
  · exact .error _
  · revert hc
    generalize f.check v = x, f.check w = y
    rintro (⟨-, -, hab⟩ | r)
    · exact h.store hab
    · exact .error _

theorem noField_eq (h : p.Alike S q) (name : Text) : p.noField name = q.noField name := by
  simp only [noField, h.extra, h.noAttribute_eq]

/-- Assignments of values that are related as secrets, to alike objects. -/
theorem assign_alike (h : p.Alike S q) {name : Text} {v w : Value} (hv : ButSecret (Supplied S) name v w) :
    Agree (Object.Alike S) (p.assign name v) (q.assign name w) := by
  by_cases hn : name = secretName
  · have hm : secretName ≠ Model.mechanismName := by decide
    have hd : secretName ∉ Model.derivedNames := by decide
    have hf : Field.ofName? secretName = some .password := Field.ofName?_name .password
    have note : isNote secretName = false := by decide
    subst hn
    simpa [assign, hm, hd, hf, note] using set_alike h hv
  · obtain rfl := hv.eq hn
    unfold assign
    rw [noField_eq h]
    split
    · exact .error _
    · split
      · exact h.note name v
      · split
        · exact .error _
        · split
          · exact set_alike h (.refl _ _)
          · exact .error _

theorem setAllowedQop_alike (h : p.Alike S q) (levels : List Value) :
    Agree (Object.Alike S) (p.setAllowedQop levels) (q.setAllowedQop levels) := set_alike h (.refl _ _)

/-! ### New objects -/

/-- Attributes of one field that differ in the octets of the secret only. -/
def AttributesAlike (S : List UInt8 → List UInt8 → Prop) (a b : Attribute) : Prop :=
  a.field = b.field ∧ ButSecret (Stored S) a.field.name.toText a.value b.value

theorem attributesAlike_refl (a : Attribute) : AttributesAlike S a a := ⟨rfl, .refl _ _⟩

theorem construct1_alike {values values' : Arguments} (h : Entries.Related (ButSecret (Supplied S)) values values')
    (f : Field) : Agree (AttributesAlike S) (construct1 values f) (construct1 values' f) := by
  have hl := h.lookup f.name.toText
  unfold construct1
  revert hl
  generalize values.lookup f.name.toText = x, values'.lookup f.name.toText = y
  rintro (hv | _)
  · refine (check_alike hv).imp fun a b => ?_
    rintro ⟨ha, hb, hab⟩
    exact ⟨ha.trans hb.symm, ha.symm ▸ hab⟩
  · exact .ok (attributesAlike_refl _)

/-- The same errors come of results that agree one by one. -/
theorem gather_alike {R : Attribute → Attribute → Prop} {rs rs' : List (Except Rejection Attribute)}
    (h : List.Forall₂ (Agree R) rs rs') : Agree (List.Forall₂ R) (gather rs) (gather rs') := by
  induction h with
  | nil => exact .ok .nil
  | @cons r r' rs rs' hr _ ih =>
    cases hr with
    | ok hab => exact ih.map fun _ _ hrs => .cons hab hrs
    | error e =>
      cases e with
      | fault f => exact .error _
      | errors es =>
        simp only [gather]
        revert ih
        generalize gather rs = x, gather rs' = y
        rintro (_ | e)
        · exact .error _
        · cases e <;> exact .error _

/-- Values that are related as secrets make alike objects, or are refused with the same fault. -/
theorem construct_alike {values values' : Arguments} (h : Entries.Related (ButSecret (Supplied S)) values values') :
    Agree (Object.Alike S) (construct values) (construct values') := by
  have hg : Agree (List.Forall₂ (AttributesAlike S)) (gather (Field.all.map (construct1 values)))
      (gather (Field.all.map (construct1 values'))) := by
    refine gather_alike ?_
    rw [List.forall₂_map_left_iff, List.forall₂_map_right_iff]
    exact List.forall₂_same.2 fun f _ => construct1_alike h f
  have given : (Field.names.filter fun name => (values.lookup name).isSome) =
      Field.names.filter fun name => (values'.lookup name).isSome := by
    simp only [h.isSome_lookup]
  unfold construct
  rw [given]
  revert hg
  generalize gather (Field.all.map (construct1 values)) = x, gather (Field.all.map (construct1 values')) = y
  rintro (hab | r)
  · refine .ok ⟨rfl, ?_, rfl, rfl, rfl⟩
    refine List.rel_map ?_ hab
    rintro a b ⟨hf, hv⟩
    exact ⟨congrArg (·.name.toText) hf, hv⟩
  · exact .error _

/-- Arguments by place that are equal, or differ in the second one, the secret. -/
inductive Placed (R : Value → Value → Prop) : List Value → List Value → Prop
  | same (args : List Value) : Placed R args args
  | secret (first : Value) {v w : Value} (h : R v w) (rest : List Value) :
      Placed R (first :: v :: rest) (first :: w :: rest)

theorem Placed.imp {R R' : Value → Value → Prop} (hR : ∀ v w, R v w → R' v w) {args args' : List Value}
    (h : Placed R args args') : Placed R' args args' := by
  cases h with
  | same => exact .same _
  | secret first h rest => exact .secret first (hR _ _ h) rest

theorem Placed.length_eq {R : Value → Value → Prop} {args args' : List Value} (h : Placed R args args') :
    args.length = args'.length := by
  cases h <;> rfl

theorem Placed.named {R : Value → Value → Prop} {args args' : List Value} (h : Placed R args args') :
    Entries.Related (ButSecret R) ((parameters.drop 1).zip args) ((parameters.drop 1).zip args') := by
  cases h with
  | same => exact .refl .refl _
  | secret first h rest => exact .cons (.refl _ _) (.cons (.inr ⟨rfl, h⟩) (.refl .refl _))

theorem bind_alike {args args' : List Value} {named named' : Arguments} (ha : Placed (Supplied S) args args')
    (hn : Entries.Related (ButSecret (Supplied S)) named named') :
    Agree (Entries.Related (ButSecret (Supplied S))) (bind args named) (bind args' named') := by
  have repeated := hn.find? fun name => name ∈ parameters.take (args'.length + 1)
  have known := ha.named.append (hn.filter fun name => name ∈ parameters)
  have rest := hn.filter fun name => name ∉ parameters
  unfold bind
  simp only [ha.length_eq]
  revert repeated
  generalize named.find? _ = x, named'.find? _ = y
  intro repeated
  cases x with
  | some e =>
    obtain ⟨e', rfl, he⟩ := Option.map_eq_some_iff.1 repeated.symm
    simp only [he]
    exact .error _
  | none =>
    obtain rfl := Option.map_eq_none_iff.1 repeated.symm
    simp only [known.isNone_lookup, known.isSome_lookup]
    split
    · exact .error _
    · split
      · exact .error _
      · exact .ok ((known.append (.refl .refl _)).append rest)

theorem call_alike {args args' : List Value} {named named' : Arguments} (ha : Placed (Supplied S) args args')
    (hn : Entries.Related (ButSecret (Supplied S)) named named') :
    Agree (Object.Alike S) (call args named) (call args' named') := by
  have hb := bind_alike ha hn
  unfold call
  revert hb
  generalize bind args named = x, bind args' named' = y
  rintro (h | f)
  · exact construct_alike h
  · exact .error _

theorem validate_alike {data data' : Arguments} (h : Entries.Related (ButSecret (Supplied S)) data data') :
    Agree (Object.Alike S) (validate (.dict data)) (validate (.dict data')) := by
  have hc := call_alike (.same []) h
  simp only [validate]
  revert hc
  generalize call [] data = x, call [] data' = y
  rintro (hpq | f)
  · exact .ok hpq
  · split
    · exact .error _
    · exact .error _

end Properties

end SaslBind
