import SaslBind.Proofs.Properties.Described

/-!
# Objects that are made or rejected

Where no value is such that it hides what is wrong with the others, an object is made of values or rejected with all
errors of its fields, in the order of the fields.  Every object that is made has a line.

* `Properties.Settles` : what a field makes of a value, if that is an attribute or at least one error;
* `check_settles` : all fields but that of the levels settle for any value;
* `gather_of_settled` : all attributes, or all errors;
* `Reports r es` : an operation makes an object, or is refused with these errors; `construct_reports`;
* `describe_of_construct` : an object that was made has a line.

Main statement: `made_or_rejected`.
-/

namespace SaslBind

namespace Properties

def errorsOf : Except Rejection Attribute → List FieldError
  | .error (.errors es) => es
  | _ => []

/-- A result that is an attribute or at least one error; no fault hides the results of other fields. -/
inductive Settles : Except Rejection Attribute → Prop
  | taken (a : Attribute) : Settles (.ok a)
  | refused {es : List FieldError} (h : es ≠ []) : Settles (.error (.errors es))

theorem settles_of_complaint {α : Type} (f : Field) (r : Except Complaint α) (make : α → Attribute) :
    Settles ((r.mapError f.reject).map make) := by
  cases r with
  | ok a => exact .taken (make a)
  | error c => exact .refused (List.cons_ne_nil _ [])

theorem check_settles {f : Field} (hf : f ≠ .allowedQop) (v : Value) : Settles (f.check v) := by
  cases f with
  | allowedQop => exact absurd rfl hf
  | authenticationId => exact settles_of_complaint .authenticationId (Field.checkRequiredText v) _
  | password => exact settles_of_complaint .password (Field.checkSecret v) _
  | authorizationId => exact settles_of_complaint .authorizationId v.checkOptionalText _
  | realm => exact settles_of_complaint .realm v.checkOptionalText _

/-- Results that settle are gathered to all their attributes, or else to all their errors in order. -/
theorem gather_of_settled {rs : List (Except Rejection Attribute)} (h : ∀ r ∈ rs, Settles r) :
    (∃ as, gather rs = .ok as ∧ rs.flatMap errorsOf = []) ∨
      rs.flatMap errorsOf ≠ [] ∧ gather rs = .error (.errors (rs.flatMap errorsOf)) := by
  induction rs with
  | nil => exact .inl ⟨[], rfl, rfl⟩
  | cons r rs ih =>
    have rest := ih fun r hr => h r (List.mem_cons_of_mem _ hr)
    rw [List.flatMap_cons]
    cases h r List.mem_cons_self with
    | taken a =>
      rcases rest with ⟨as, hg, he⟩ | ⟨hne, hg⟩
      · exact .inl ⟨a :: as, by rw [gather, hg]; rfl, he⟩
      · exact .inr ⟨hne, by rw [gather, hg]; rfl⟩
    | @refused es hes =>
      refine .inr ⟨by simp [errorsOf, hes], ?_⟩
      rcases rest with ⟨as, hg, he⟩ | ⟨-, hg⟩
      · simp [gather, hg, he, errorsOf]
      · simp [gather, hg, errorsOf]

/-- An operation makes an object, or is refused with these errors and no others. -/
inductive Reports : Except Fault Properties → List FieldError → Prop
  | made (q : Properties) : Reports (.ok q) []
  | refused {es : List FieldError} (h : es ≠ []) : Reports (.error (.invalid .properties es)) es

theorem Reports.made_iff {r : Except Fault Properties} {es : List FieldError} (h : Reports r es) :
    (∃ q, r = .ok q) ↔ es = [] := by
  cases h with
  | made q => exact ⟨fun _ => rfl, fun _ => ⟨q, rfl⟩⟩
  | refused some =>
    refine ⟨fun ⟨q, hq⟩ => ?_, fun none => absurd none some⟩
    cases hq

/-- Values that all fields settle for make an object, or all of their errors are reported. -/
theorem construct_reports {values : Arguments} (h : ∀ f, Settles (construct1 values f)) :
    Reports (construct values) (Field.all.flatMap fun f => errorsOf (construct1 values f)) := by
  have settled : ∀ r ∈ Field.all.map (construct1 values), Settles r := by
    intro r hr
    obtain ⟨f, -, rfl⟩ := List.mem_map.1 hr
    exact h f
  rw [construct]
  rcases gather_of_settled settled with ⟨as, hg, none⟩ | ⟨some, hg⟩
  · rw [List.flatMap_map] at none
    rw [hg, none]
    exact .made _
  · rw [List.flatMap_map] at some hg
    rw [hg]
    exact .refused some

/-- An object that was made has a line. -/
theorem describe_of_construct {values : Arguments} {p : Properties} (h : construct values = .ok p) :
    ∃ line, p.describe = .ok line := (Typed.construct h).exists_describe (.inr (construct_ok h).2.1)

/-- **Objects are made or rejected.**  Where all fields settle, an object is made, and has a line, or all errors of the
fields are told, in the order of the fields and at least one. -/
theorem made_or_rejected {values : Arguments} (h : ∀ f, Settles (construct1 values f)) :
    (∃ p line, construct values = .ok p ∧ p.describe = .ok line) ∨
      ∃ es, es ≠ [] ∧ es = Field.all.flatMap (fun f => errorsOf (construct1 values f)) ∧
        construct values = .error (.invalid .properties es) := by
  have reported := construct_reports h
  generalize hc : construct values = made, (Field.all.flatMap fun f => errorsOf (construct1 values f)) = es
    at reported
  cases reported with
  | made p =>
    obtain ⟨line, hl⟩ := describe_of_construct hc
    exact .inl ⟨p, line, rfl, hl⟩
  | refused some => exact .inr ⟨_, some, rfl, rfl⟩

end Properties

end SaslBind
