import SaslBind.Proofs.Properties.Invariant
import SaslBind.Proofs.Properties.Typed

/-!
# In which order fields stand in an object

The fields of a new object stand in it in the order of their declaration.  An assignment leaves a field where it is; one
that was deleted comes to the end when it is assigned again.  So the order is told by what was done, as long as no table
is assigned for all attributes of an object or for what is beyond its fields.

* `Properties.inOrder` : the fields of an object in the order in which they stand in it;
* `fieldOrder` : the order that a past tells; `fieldOrder_of_kept`, it is that of declaration where nothing is deleted;
* `Action.KeepsOrder` : actions that assign no such table;
* `Properties.Ordered` : objects whose fields stand in an order, and nowhere else.

Main statement: `ordered_run`.
-/

namespace SaslBind

/-- A field comes to the end of others, if it is not among them. -/
def Field.addTo (f : Field) (fs : List Field) : List Field := if f ∈ fs then fs else fs ++ [f]

/-- An action that gives an object no table for all its attributes or for what is beyond its fields. -/
def Action.KeepsOrder : Action → Prop
  | .set name v => name = Model.tableName ∨ name = Model.extraName → ¬ v.IsTable
  | _ => True

/-- The order in which the fields stand in the object in a slot, after a past whose latest deed comes first. -/
def fieldOrder : Text → List Deed → List Field
  | _, [] => Field.all
  | slot, d :: past =>
    if d.slot = slot ∧ d.answer.isDone then
      match d.action with
      | .make .. | .validate _ => Field.all
      | .makeBlank => []
      | .copy source => fieldOrder source past
      | .set name _ =>
        match Field.ofName? name with
        | some f => f.addTo (fieldOrder slot past)
        | none => fieldOrder slot past
      | .setAllowedQop _ => Field.allowedQop.addTo (fieldOrder slot past)
      | .delete name =>
        if name = Model.tableName then [] else (fieldOrder slot past).filter fun f => f.name.toText ≠ name
      | .read _ | .agrees _ | .describe | .dump | .given => fieldOrder slot past
    else fieldOrder slot past

/-- Where nothing is deleted and all objects are made with their fields, these stand in the order of declaration. -/
theorem fieldOrder_of_kept {past : List Deed}
    (h : ∀ d ∈ past, (∀ name, d.action ≠ .delete name) ∧ d.action ≠ .makeBlank) (slot : Text) :
    fieldOrder slot past = Field.all := by
  induction past generalizing slot with
  | nil => rfl
  | cons d past ih =>
    have before := ih fun d hd => h d (List.mem_cons_of_mem _ hd)
    obtain ⟨kept, made⟩ := h d List.mem_cons_self
    have added (f : Field) : f.addTo Field.all = Field.all := if_pos (Field.mem_all f)
    unfold fieldOrder
    split
    · split
      · rfl
      · rfl
      · next ha => exact absurd ha made
      · exact before _
      · split
        · rw [before, added]
        · exact before _
      · rw [before, added]
      · next ha => exact absurd ha (kept _)
      all_goals exact before _
    · exact before _

namespace Properties

variable {p q : Properties}

/-- The fields that have entries, in the order of these. -/
def fieldsOf (es : Entries Value) : List Field := (es.map Prod.fst).filterMap Field.ofName?

/-- The fields of an object in the order in which they stand in it. -/
def inOrder (p : Properties) : List Field := fieldsOf p.table

theorem mem_fieldsOf {es : Entries Value} {f : Field} : f ∈ fieldsOf es ↔ f.name.toText ∈ es.map Prod.fst := by
  unfold fieldsOf
  rw [List.mem_filterMap]
  constructor
  · rintro ⟨name, hn, hf⟩
    rwa [← eq_name_of_ofName? hf]
  · exact fun hn => ⟨_, hn, Field.ofName?_name f⟩

theorem fieldsOf_put_name (f : Field) (v : Value) (es : Entries Value) :
    fieldsOf (Entries.put f.name.toText v es) = f.addTo (fieldsOf es) := by
  unfold Field.addTo
  simp only [mem_fieldsOf]
  unfold fieldsOf
  rw [Entries.names_put]
  split
  · rfl
  · rw [List.filterMap_append, List.filterMap_cons_some (Field.ofName?_name f), List.filterMap_nil]

theorem fieldsOf_put_other {name : Text} (hn : Field.ofName? name = none) (v : Value) (es : Entries Value) :
    fieldsOf (Entries.put name v es) = fieldsOf es := by
  unfold fieldsOf
  rw [Entries.names_put]
  split
  · rfl
  · rw [List.filterMap_append, List.filterMap_cons_none hn, List.filterMap_nil, List.append_nil]

theorem ofName?_eq_none {name : Text} (h : ∀ f : Field, f.name.toText ≠ name) : Field.ofName? name = none := by
  cases hf : Field.ofName? name with
  | none => rfl
  | some f => exact absurd (eq_name_of_ofName? hf).symm (h f)

/-- A note has not the name of a field. -/
theorem ofName?_of_isNote {name : Text} (hn : isNote name = true) : Field.ofName? name = none := by
  refine ofName?_eq_none fun f hf => ?_
  have plain : isNote f.name.toText = false := by cases f <;> decide
  rw [hf, hn] at plain
  cases plain

theorem fieldsOf_remove (name : Text) (es : Entries Value) :
    fieldsOf (Entries.remove name es) = (fieldsOf es).filter fun f => f.name.toText ≠ name := by
  unfold fieldsOf Entries.remove
  rw [List.filter_filterMap, List.filterMap_map, List.filterMap_map, List.filterMap_filter]
  refine List.filterMap_congr fun e _ => ?_
  cases hf : Field.ofName? e.1 with
  | none => simp [hf]
  | some f =>
    have he : e.1 = f.name.toText := eq_name_of_ofName? hf
    by_cases hn : f.name.toText = name
    · have gone : ¬ e.1 ≠ name := not_not_intro (he.trans hn)
      simp [hf, gone, hn, Option.filter]
    · have stays : e.1 ≠ name := he ▸ hn
      simp [hf, stays, hn, Option.filter]

/-- An object whose fields stand in it in an order, and nowhere else. -/
structure Ordered (p : Properties) (fs : List Field) : Prop where
  inOrder : p.inOrder = fs
  beyond : p.NoTableBeyond

namespace Ordered

variable {fs : List Field}

theorem construct {values : Arguments} (h : Properties.construct values = .ok p) : Ordered p Field.all := by
  obtain ⟨-, hx, -, -⟩ := construct_ok h
  refine ⟨?_, fun v hv => ?_⟩
  · rw [Properties.inOrder, fieldsOf, names_of_construct h]
    decide
  · rw [hx] at hv
    rintro ⟨es, rfl⟩
    cases hv

theorem blank : Ordered Properties.blank [] := ⟨rfl, fun v hv => by cases hv⟩

theorem keep (h : Ordered p fs) {name : Text} {v : Option Value}
    (hv : name = Model.extraName → ∀ w, v = some w → ¬ w.IsTable) : Ordered (p.keep name v) fs := by
  unfold Object.keep
  split
  · next hn => exact ⟨h.inOrder, hv hn⟩
  · split
    · exact ⟨h.inOrder, h.beyond⟩
    · split
      · exact ⟨h.inOrder, h.beyond⟩
      · exact h

/-- A field that is assigned stays where it is, or comes to the end. -/
theorem set (h : Ordered p fs) {f : Field} {v : Value} (hs : p.set f v = .ok q) : Ordered q (f.addTo fs) := by
  obtain ⟨a, ha, -, hs⟩ := set_ok hs
  obtain ⟨-, hq⟩ := Object.store_ok hs
  rw [hq, h.beyond.fullTable]
  refine ⟨?_, fun w hw => ?_⟩
  · rw [Properties.inOrder, fieldsOf_put_name, ← h.inOrder, Properties.inOrder]
  · rintro ⟨es, rfl⟩
    cases hw

theorem note (h : Ordered p fs) {name : Text} (hn : isNote name = true) {v : Value}
    (ha : Action.KeepsOrder (.set name v)) (hp : p.note name v = .ok q) : Ordered q fs := by
  rcases Object.note_cases hp with rfl | ⟨es, ht, rfl, -⟩ | rfl
  · exact h.keep fun he w hw => Option.some.inj hw ▸ ha (.inr he)
  · exact absurd ⟨es, rfl⟩ (ha (.inl ht))
  · exact ⟨(fieldsOf_put_other (ofName?_of_isNote hn) v p.table).trans h.inOrder, h.beyond⟩

theorem copy (h : Ordered p fs) (hc : p.copy = .ok q) : Ordered q fs := by
  obtain ⟨-, -, ht, hx, -⟩ := Object.copy_keeps h.beyond hc
  refine ⟨?_, ?_⟩
  · rw [Properties.inOrder, ht]
    exact h.inOrder
  · unfold Object.NoTableBeyond
    rw [hx]
    exact h.beyond

/-- A field that is deleted is gone from the order, and all are gone with the whole table. -/
theorem delete (h : Ordered p fs) {name : Text} (hd : p.delete name = .ok q) :
    Ordered q (if name = Model.tableName then [] else fs.filter fun f => f.name.toText ≠ name) := by
  rcases delete_cases hd with ⟨ht, rfl⟩ | ⟨ht, rfl⟩ | ⟨ht, hn, rfl⟩ | ⟨es, hx, -, -⟩
  · rw [if_pos ht]
    exact ⟨rfl, h.beyond⟩
  · rw [if_neg ht]
    exact ⟨by rw [Properties.inOrder, fieldsOf_remove, ← h.inOrder, Properties.inOrder], h.beyond⟩
  · have others : (fs.filter fun f => f.name.toText ≠ name) = fs :=
      List.filter_eq_self.2 fun f _ => decide_eq_true fun he => hn (he ▸ Field.name_mem_names f)
    rw [if_neg ht, others]
    exact h.keep fun _ w hw => by cases hw
  · exact absurd ⟨es, rfl⟩ (h.beyond _ hx)

end Ordered

end Properties

namespace Slots

/-- The fields stand in an object in the order that was told by what was done. -/
theorem ordered_run (steps : List (Text × Action)) (h : ∀ step ∈ steps, step.2.KeepsOrder) (slot : Text)
    (p : Properties) (hp : (run [] steps).2.lookup slot = some p) : p.Ordered (fieldOrder slot (history steps)) := by
  refine forall_history (P := fun past slot p => p.Ordered (fieldOrder slot past)) (fun past slot p d hd hp => ?_)
    (fun past s slot a q hs ha hq => ?_) steps h slot p hp
  -- deeds that make no object for the slot are passed over, the others are told apart by how they made it
  · have same : fieldOrder slot (d :: past) = fieldOrder slot past := by
      rcases hd with hd | hd <;> simp [fieldOrder, hd]
    rwa [same]
  · unfold fieldOrder
    rw [if_pos ⟨rfl, rfl⟩]
    cases hq with
    | make hq =>
      obtain ⟨values, hv⟩ := Properties.call_ok hq
      exact .construct hv
    | validate hq =>
      obtain ⟨values, hv⟩ := Properties.validate_ok hq
      exact .construct hv
    | makeBlank => exact .blank
    | copy hp hq => exact (hs _ _ hp).copy hq
    | set hp hq =>
      rcases Properties.assign_ok hq with ⟨hn, hq⟩ | ⟨f, rfl, stored⟩
      · simp only [Properties.ofName?_of_isNote hn]
        exact (hs _ _ hp).note hn ha hq
      · simp only [Field.ofName?_name]
        exact (hs _ _ hp).set stored
    | setAllowedQop hp hq => exact (hs _ _ hp).set hq
    | delete hp hq => exact (hs _ _ hp).delete hq

end Slots

end SaslBind
