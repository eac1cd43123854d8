import SaslBind.Proofs.Properties.Levels
import SaslBind.Proofs.Properties.Rejected

/-!
# Errors of several fields

When an object is made of values, each field judges its own value.  What is reported is what the values are refused
for one by one, in the order of the fields; a value of the levels that can not be gone through hides all of it.

* `Properties.MadeOf values made` : a call or a dictionary that binds these values, with its outcome;
* `Field.check_allowedQop_settles` : the levels are taken or refused with errors, unless they hide what is wrong;
* `Field.itemErrors` : one error for each item of a sequence that is no level, in their order; `levelErrors_eq`, these
  are the errors of the field.

Main statement: `errors_independent`.  `errors_dependent` shows that nothing can be given for the levels though it can
not be gone through, that an item which can not be encoded is refused as a text, and that a list with such an item
hides the errors of other fields.
-/

namespace SaslBind

namespace Value

/-- Whether an item of a sequence is a level, or exactly the value of one. -/
def isLevel : Value → Bool
  | .qop _ => true
  | .text t => Qop.all.any (·.value = t)
  | _ => false

/-- Something that can not be gone through. -/
def IsNotIterable (v : Value) : Prop := v ≠ .null ∧ v.items? = none

/-- A list with an unknown item that no message can show, as it can not be encoded. -/
def IsStrayList (v : Value) : Prop :=
  ∃ t f, v.text? = some t ∧ Qop.decodeText t = .error f ∧ f.message.hasSurrogate

theorem text?_of_items? {v : Value} (h : v.items? = none) : v.text? = none := by
  cases v with
  | text t => cases h
  | qop q => cases h
  | _ => rfl

end Value

namespace Field

variable {field : Field} {v : Value} {items : List Value}

/-! ### Items of a sequence -/

/-- What is wrong with an item that is no level. -/
def itemComplaint : Value → Complaint
  | .text t => if t.hasSurrogate then .textNotUtf8 else .levelExpected
  | _ => .levelExpected

/-- The errors of a sequence: one for each item that is no level, at the index of the item. -/
def itemErrors (field : Field) (items : List Value) (start : Nat) : List FieldError :=
  ((items.zipIdx start).filter fun (item, _) => !item.isLevel).map fun (item, i) =>
    ⟨[.name field.name.toText, .index i], itemComplaint item⟩

theorem checkLevel_of_isLevel (h : v.isLevel) : ∃ q, checkLevel v = .ok q := by
  cases v with
  | qop q => exact ⟨q, rfl⟩
  | text t =>
    obtain ⟨q, -, value⟩ := List.any_eq_true.1 h
    obtain rfl : q.value = t := of_decide_eq_true value
    exact ⟨q, by cases q <;> decide⟩
  | _ => cases h

theorem checkLevel_of_not_isLevel (ho : ∀ kind bs, v ≠ .octets kind bs) (h : v.isLevel = false) :
    checkLevel v = .error (itemComplaint v) := by
  cases v with
  | qop q => cases h
  | octets kind bs => exact absurd rfl (ho kind bs)
  | text t =>
    have unknown : Qop.ofValue? t = none := by
      rw [Qop.ofValue?, List.find?_eq_none]
      exact List.any_eq_false.1 h
    simp only [checkLevel, itemComplaint, unknown]
    split <;> rfl
  | _ => rfl

/-- Where no item is octets, the errors of a sequence are those of the items that are no levels. -/
theorem levelErrors_eq {i : Nat} (h : ∀ item ∈ items, ∀ kind bs, item ≠ .octets kind bs) :
    levelErrors field i items = field.itemErrors items i := by
  induction items generalizing i with
  | nil => rfl
  | cons v items ih =>
    have rest := @ih (i + 1) fun item hi => h item (List.mem_cons_of_mem _ hi)
    rw [itemErrors, List.zipIdx_cons, levelErrors]
    cases hv : v.isLevel with
    | true =>
      obtain ⟨q, hq⟩ := checkLevel_of_isLevel hv
      rw [List.filter_cons_of_neg (by simp [hv]), hq]
      exact rest
    | false =>
      rw [List.filter_cons_of_pos (by simp [hv]), checkLevel_of_not_isLevel (h v List.mem_cons_self) hv]
      exact congrArg _ rest

/-- Items that are no levels are told as that, if they can be encoded. -/
theorem kind_of_mem_itemErrors {start : Nat} (h : ∀ t, .text t ∈ items → t.hasSurrogate = false) {e : FieldError}
    (he : e ∈ field.itemErrors items start) : e.complaint.kind = "enum" := by
  obtain ⟨⟨v, i⟩, hv, rfl⟩ := List.mem_map.1 he
  have mem : v ∈ items := List.fst_mem_of_mem_zipIdx (List.mem_of_mem_filter hv)
  cases v with
  | text t =>
    have plain := h t mem
    simp [itemComplaint, plain, Complaint.kind]
  | _ => rfl

/-! ### The levels among other fields -/

open Properties (Settles errorsOf)

theorem settles_checkItems (items : List Value) :
    Settles ((checkItems .allowedQop items).map .allowedQop) ∧
      errorsOf ((checkItems .allowedQop items).map .allowedQop) = levelErrors .allowedQop 0 items := by
  unfold checkItems
  split
  · next none => exact ⟨.taken _, none.symm⟩
  · next some => exact ⟨.refused some, rfl⟩

/-- Levels are taken or refused with errors, if they can be gone through and no message is in the way. -/
theorem check_allowedQop_settles (hi : ¬ v.IsNotIterable) (hs : ¬ v.IsStrayList) : Settles (allowedQop.check v) := by
  cases ht : v.text? with
  | some t =>
    cases hd : Qop.decodeText t with
    | ok levels =>
      rw [check_listing_ok ht hd]
      exact .taken _
    | error f =>
      have plain : f.message.hasSurrogate = false := by
        rw [Bool.eq_false_iff]
        exact fun surrogate => hs ⟨t, f, ht, hd, surrogate⟩
      rw [(check_listing_error ht hd).1 plain]
      exact .refused (List.cons_ne_nil _ _)
  | none =>
    cases hv : v.items? with
    | some items =>
      rw [check_items ht hv]
      exact (settles_checkItems items).1
    | none =>
      obtain rfl : v = .null := by_contra fun something => hi ⟨something, hv⟩
      exact .taken _

/-- Levels that can not be gone through are a fault. -/
theorem check_not_iterable (h : v.IsNotIterable) :
    allowedQop.check v = .error (.fault (.notIterable v.typeName)) := by
  obtain ⟨something, none⟩ := h
  have levels : checkLevels .allowedQop v = .error (.fault (.notIterable v.typeName)) := by
    unfold checkLevels
    split
    · next ht => rw [Value.text?_of_items? none] at ht; cases ht
    · exact absurd rfl something
    · rw [none]
  change (checkLevels .allowedQop v).map Attribute.allowedQop = _
  rw [levels]
  rfl

end Field

namespace Properties

open SaslBind.Field (allowedQop)

variable {p : Properties} {values : Arguments} {made r : Except Fault Properties} {es : List FieldError} {f : Field}
  {v : Value}

/-- The outcome of a call, or of making an object of a dictionary, whose arguments are these values. -/
inductive MadeOf (values : Arguments) : Except Fault Properties → Prop
  | call {args : List Value} {named : Arguments} (h : bind args named = .ok values) : MadeOf values (call args named)
  | validate {entries : Arguments} (h : bind [] entries = .ok values) : MadeOf values (validate (.dict entries))

/-- A value that a field settles for is assigned, or refused with the errors of the field. -/
theorem TakesAssignments.assign_reports (hp : p.TakesAssignments) (h : Settles (f.check v)) :
    Reports (p.assign f.name.toText v) (errorsOf (f.check v)) := by
  generalize hc : f.check v = result at h
  cases h with
  | taken a =>
    obtain ⟨q, hq, -⟩ := hp.assign_of_ok hc
    rw [hq]
    exact .made q
  | refused some =>
    rw [hp.assign_of_error hc]
    exact .refused some

/-- A fault after results that settle is the fault of all. -/
theorem gather_fault {rs : List (Except Rejection Attribute)} (h : ∀ r ∈ rs, Settles r) (f : Fault) :
    gather (rs ++ [.error (.fault f)]) = .error (.fault f) := by
  induction rs with
  | nil => rfl
  | cons r rs ih =>
    have rest := ih fun r hr => h r (List.mem_cons_of_mem _ hr)
    rw [List.cons_append]
    cases h r List.mem_cons_self with
    | taken a => rw [gather, rest]; rfl
    | refused => rw [gather, rest]

theorem construct1_settles (h : ∀ v, values.lookup f.name.toText = some v → Settles (f.check v)) :
    Settles (construct1 values f) := by
  rw [construct1]
  cases hv : values.lookup f.name.toText with
  | none => exact .taken _
  | some v => exact h v hv

/-- Levels that can not be gone through are the only fault, whatever the other values are. -/
theorem construct_not_iterable (hv : values.lookup allowedQop.name.toText = some v) (h : v.IsNotIterable) :
    construct values = .error (.notIterable v.typeName) := by
  have levels : construct1 values allowedQop = .error (.fault (.notIterable v.typeName)) := by
    rw [construct1, hv]
    exact Field.check_not_iterable h
  have others : ∀ r ∈ [.authenticationId, .password, .authorizationId, .realm].map (construct1 values), Settles r := by
    intro r hr
    obtain ⟨f, hf, rfl⟩ := List.mem_map.1 hr
    have notLevels : f ≠ allowedQop := by
      rintro rfl
      revert hf
      decide
    exact construct1_settles fun v _ => check_settles notLevels v
  have all : gather (Field.all.map (construct1 values)) = .error (.fault (.notIterable v.typeName)) := by
    have ordered : Field.all.map (construct1 values) =
        [.authenticationId, .password, .authorizationId, .realm].map (construct1 values) ++
          [construct1 values allowedQop] := rfl
    rw [ordered, levels]
    exact gather_fault others _
  rw [construct, all]
  rfl

theorem call_of_bind {args : List Value} {named : Arguments} (h : bind args named = .ok values) :
    call args named = construct values := by
  rw [call, h]

/-- Only a text that can not be encoded is told apart by the two ways to make an object. -/
theorem MadeOf.eq_construct (h : MadeOf values made) (hr : ∀ run, construct values ≠ .error (.unencodable run)) :
    made = construct values := by
  cases h with
  | call hb => exact call_of_bind hb
  | validate hb =>
    rw [validate_dict, call_of_bind hb]
    cases hc : construct values with
    | ok p => rfl
    | error f =>
      cases f with
      | unencodable run => exact absurd hc (hr run)
      | _ => rfl

theorem MadeOf.construct_eq_ok (h : MadeOf values made) (hp : made = .ok p) : construct values = .ok p := by
  cases h with
  | call hb => rw [← call_of_bind hb, hp]
  | validate hb =>
    rw [validate_dict, call_of_bind hb] at hp
    cases hc : construct values with
    | ok q =>
      rw [hc] at hp
      exact hp
    | error f =>
      rw [hc] at hp
      cases hp

theorem Reports.ne_unencodable (h : Reports r es) (run : Text.SurrogateRun) : r ≠ .error (.unencodable run) := by
  cases h <;> simp

/-- **Errors are independent.**  When an object is made of values, in a call or of a dictionary, levels that can not be
gone through are the only fault.  Otherwise, unless a level can not be encoded, what is reported are the errors that
each of the values has when it is assigned alone, in the order of the fields; an object is made if there are none.  A
sequence of levels has one error for each item that is no level, in the order of the items. -/
theorem errors_independent (h : MadeOf values made) :
    (∀ v, values.lookup allowedQop.name.toText = some v → v.IsNotIterable →
      made = .error (.notIterable v.typeName)) ∧
    ((∀ v, values.lookup allowedQop.name.toText = some v → ¬ v.IsNotIterable ∧ ¬ v.IsStrayList) →
      ∃ own : Field → List FieldError,
        (∀ f v, values.lookup f.name.toText = some v →
          ∀ p : Properties, p.TakesAssignments → Reports (p.assign f.name.toText v) (own f)) ∧
        (∀ f, values.lookup f.name.toText = none → own f = []) ∧
        Reports made (Field.all.flatMap own) ∧ ((∃ q, made = .ok q) ↔ ∀ f, own f = []) ∧
        ∀ v items, values.lookup allowedQop.name.toText = some v → v.text? = none → v.items? = some items →
          (∀ item ∈ items, ∀ kind bs, item ≠ .octets kind bs) →
          own allowedQop = allowedQop.itemErrors items 0 ∧
            ((∀ t, .text t ∈ items → t.hasSurrogate = false) →
              ∀ e ∈ own allowedQop, e.complaint.kind = "enum")) := by
  constructor
  · intro v hv not
    have only := construct_not_iterable hv not
    rw [h.eq_construct fun run => by simp [only], only]
  · intro hv
    have settled : ∀ (f : Field) v, values.lookup f.name.toText = some v → Settles (f.check v) := by
      intro f v hf
      by_cases levels : f = allowedQop
      · subst levels
        exact Field.check_allowedQop_settles (hv v hf).1 (hv v hf).2
      · exact check_settles levels v
    have reported := construct_reports fun f => construct1_settles (settled f)
    have same := h.eq_construct reported.ne_unencodable
    have own : ∀ (f : Field) v, values.lookup f.name.toText = some v →
        errorsOf (construct1 values f) = errorsOf (f.check v) := fun f v hf => by rw [construct1, hf]
    refine ⟨fun f => errorsOf (construct1 values f), fun f v hf p hp => ?_, fun f hf => ?_, same ▸ reported, ?_, ?_⟩
    · simp only [own f v hf]
      exact hp.assign_reports (settled f v hf)
    · simp only [construct1, hf]
      rfl
    · rw [same, reported.made_iff, List.flatMap_eq_nil_iff]
      exact ⟨fun none f => none f (Field.mem_all f), fun none f _ => none f⟩
    · intro v items hf ht hi noOctets
      have sequence : errorsOf (construct1 values allowedQop) = allowedQop.itemErrors items 0 := by
        rw [own _ v hf, Field.check_items ht hi, (Field.settles_checkItems items).2, Field.levelErrors_eq noOctets]
      refine ⟨sequence, fun plain e he => ?_⟩
      simp only [sequence] at he
      exact Field.kind_of_mem_itemErrors plain he

/-- Values of which those for two texts and three items of the levels are refused. -/
def mixed : Arguments :=
  [(Field.realm.name.toText, .bool true),
    (allowedQop.name.toText, .list [.word "auth", .word "AUTH", .null, .qop .authConf, .int 1])]

/-- No text, and a number for the levels. -/
def numbered : Arguments := [(Field.authenticationId.name.toText, .null), (allowedQop.name.toText, .int 7)]

/-- The items at three places are told, and no object is made; but a number for the levels is the only fault. -/
theorem errors_independent_mixed :
    (∃ values, MadeOf values (call [.int 3] mixed) ∧ ∃ own : Field → List FieldError,
      Reports (call [.int 3] mixed) (Field.all.flatMap own) ∧ (¬ ∃ q, call [.int 3] mixed = .ok q) ∧
      (own allowedQop).map (·.steps) = [1, 2, 4].map fun i => [.name allowedQop.name.toText, .index i]) ∧
    validate (.dict numbered) = .error (.notIterable "int") := by
  constructor
  · have bound : ∃ values, bind [.int 3] mixed = .ok values ∧
        values.lookup allowedQop.name.toText = mixed.lookup allowedQop.name.toText := ⟨_, rfl, rfl⟩
    obtain ⟨values, hb, found⟩ := bound
    have made : MadeOf values (call [.int 3] mixed) := .call hb
    have list : values.lookup allowedQop.name.toText =
        some (.list [.word "auth", .word "AUTH", .null, .qop .authConf, .int 1]) := found
    obtain ⟨-, several⟩ := errors_independent made
    obtain ⟨own, -, -, reported, success, sequence⟩ := several fun v hv => by
      obtain rfl := Option.some.inj (list.symm.trans hv)
      refine ⟨fun not => ?_, fun stray => ?_⟩
      · cases not.2
      · obtain ⟨t, f, ht, -⟩ := stray
        cases ht
    obtain ⟨items, -⟩ := sequence _ _ list rfl rfl (by simp [Value.word])
    refine ⟨values, made, own, reported, fun ok => ?_, by rw [items]; decide⟩
    have nothing := success.1 ok allowedQop
    rw [items] at nothing
    revert nothing
    decide
  · have bound : ∃ values, bind [] numbered = .ok values ∧
        values.lookup allowedQop.name.toText = some (.int 7) := ⟨_, rfl, rfl⟩
    obtain ⟨values, hb, found⟩ := bound
    exact (errors_independent (.validate hb)).1 (.int 7) found ⟨by simp, rfl⟩

/-- Nothing can not be gone through, but is taken for the levels.  An item that can not be encoded is refused as a
text, and not as a level.  A list with such an item is a fault by itself, whatever is wrong with the realm. -/
theorem errors_dependent :
    (Value.null.items? = none ∧ ∃ q, call [.word "u:a"] [(allowedQop.name.toText, .null)] = .ok q) ∧
    ((Value.text [CodePoint.ofOctet 0xFF]).isLevel = false ∧
      ∃ e, call [.word "u:a"] [(allowedQop.name.toText, .list [.text [CodePoint.ofOctet 0xFF]])] =
        .error (.invalid .properties [e]) ∧ e.complaint.kind ≠ "enum") ∧
    ∃ run, call [.word "u:a"]
      [(Field.realm.name.toText, .int 3), (allowedQop.name.toText, .text [CodePoint.ofOctet 0xFF])] =
        .error (.unencodable run) ∧
      ∃ p : Properties, p.TakesAssignments ∧ ∃ e, Reports (p.assign Field.realm.name.toText (.int 3)) [e] := by
  obtain ⟨p, -, hp⟩ := Slots.exists_plain
  have settles : Settles (Field.realm.check (.int 3)) := check_settles Field.noConfusion _
  exact ⟨⟨rfl, _, rfl⟩, ⟨by decide, _, rfl, by decide⟩, _, rfl, p, hp, _, hp.assign_reports settles⟩

end Properties

end SaslBind
