import SaslBind.Proofs.Properties.LineTells
import SaslBind.Proofs.Value.Printable

/-!
# Where the line about an object breaks

The line shows three texts as they are, and nothing else that is not printable.  So its line breaks are those of the
texts, and it is a single line exactly if each of them is one.

* `Text.lineBreaks`, `Text.IsSingleLine` : line feeds and carriage returns;
* `shownFields` : the fields whose texts are shown; `mem_textsOf`, the text of a field;
* `lineBreaks_shown`, `lineBreaks_labelled`, `lineBreaks_labelledIfAny`, `lineBreaks_toText` : the parts of the line.

Main statements: `lineBreaks_describe` and `isSingleLine_describe`, for every object.
-/

namespace SaslBind

/-- Whether a character ends a line. -/
def CodePoint.isLineBreak (c : CodePoint) : Bool := c = CodePoint.ofChar '\n' || c = CodePoint.ofChar '\r'

namespace Text

variable {t : Text}

/-- The line breaks in a text, in their order. -/
def lineBreaks (t : Text) : Text := t.filter CodePoint.isLineBreak

/-- A text without a line feed and without a carriage return. -/
def IsSingleLine (t : Text) : Prop := CodePoint.ofChar '\n' ∉ t ∧ CodePoint.ofChar '\r' ∉ t

instance (t : Text) : Decidable t.IsSingleLine :=
  inferInstanceAs (Decidable (CodePoint.ofChar '\n' ∉ t ∧ CodePoint.ofChar '\r' ∉ t))

theorem isSingleLine_iff : t.IsSingleLine ↔ t.lineBreaks = [] := by
  simp only [lineBreaks, List.filter_eq_nil_iff, CodePoint.isLineBreak, Bool.or_eq_true, decide_eq_true_eq, not_or,
    forall_and]
  exact and_congr List.forall_mem_ne'.symm List.forall_mem_ne'.symm

@[simp] theorem lineBreaks_append (s t : Text) : (s ++ t).lineBreaks = s.lineBreaks ++ t.lineBreaks :=
  List.filter_append ..

theorem lineBreaks_join {separator : Text} (hs : separator.lineBreaks = []) (items : List Text) :
    (join separator items).lineBreaks = items.flatMap lineBreaks := by
  cases items with
  | nil => rfl
  | cons first rest =>
    have step : lineBreaks (rest.flatMap (separator ++ ·)) = rest.flatMap lineBreaks := by
      rw [lineBreaks, List.filter_flatMap]
      exact List.flatMap_congr fun t _ => (lineBreaks_append separator t).trans (by rw [hs, List.nil_append])
    rw [join_cons, lineBreaks_append, step, List.flatMap_cons]

theorem IsPrintable.lineBreaks_eq_nil (h : t.IsPrintable) : t.lineBreaks = [] := by
  have lineFeed : (CodePoint.ofChar '\n').isPrintable = false := by decide
  have carriageReturn : (CodePoint.ofChar '\r').isPrintable = false := by decide
  refine isSingleLine_iff.1 ⟨fun hm => ?_, fun hm => ?_⟩
  · rw [h _ hm] at lineFeed
    cases lineFeed
  · rw [h _ hm] at carriageReturn
    cases carriageReturn

end Text

theorem Value.lineBreaks_str (v : Value) : v.str.lineBreaks = v.bareTexts.flatMap Text.lineBreaks := by
  by_cases h : v.bareTexts = []
  · rw [h, (isPrintable_str h).lineBreaks_eq_nil]
    rfl
  · cases v with
    | text t => exact (List.append_nil _).symm
    | _ => exact absurd rfl h

namespace Properties

variable {p : Properties}

/-- The fields whose texts the line shows. -/
def shownFields : List Field := [.authenticationId, .authorizationId, .realm]

/-- The text of a field, if there is one. -/
def textsOf (p : Properties) (f : Field) : List Text :=
  match p.read f.name.toText with
  | .ok v => v.bareTexts
  | .error _ => []

theorem mem_textsOf {f : Field} {t : Text} : t ∈ p.textsOf f ↔ p.read f.name.toText = .ok (.text t) := by
  unfold textsOf
  cases p.read f.name.toText with
  | error fault => simp
  | ok v => cases v <;> simp [Value.bareTexts, eq_comm]

theorem bareTexts_valueOf {f : Field} {v : Value} (h : p.valueOf f = .ok v) : v.bareTexts = p.textsOf f := by
  unfold valueOf Object.readOr at h
  unfold textsOf
  split at h
  · next hr =>
    obtain rfl := Except.ok.inj h
    rw [hr]
    rfl
  · rw [h]

/-! ### Parts of the line -/

theorem lineBreaks_shown {v : Value} {t : Text} (h : shown v = .ok t) :
    t.lineBreaks = v.bareTexts.flatMap Text.lineBreaks := by
  unfold shown at h
  split at h
  · cases h
  · rw [← Except.ok.inj h, Value.lineBreaks_str]

theorem lineBreaks_labelled (f : Field) (t : Text) : (labelled f t).lineBreaks = t.lineBreaks := by
  have name : f.name.toText.lineBreaks = [] := by cases f <;> rfl
  have opened : "='".toText.lineBreaks = [] := rfl
  have closed : "'".toText.lineBreaks = [] := rfl
  simp [labelled, name, opened, closed]

theorem lineBreaks_labelledIfAny {f : Field} {v : Value} {ts : List Text} (h : labelledIfAny f v = .ok ts) :
    ts.flatMap Text.lineBreaks = v.bareTexts.flatMap Text.lineBreaks := by
  unfold labelledIfAny at h
  split at h
  · obtain rfl := Except.ok.inj h
    rfl
  · obtain ⟨t, ht, rfl⟩ := ok_of_map h
    rw [List.flatMap_singleton, lineBreaks_labelled, lineBreaks_shown ht]

theorem lineBreaks_toText (levels : List Qop) : (Qop.toText levels).lineBreaks = [] :=
  (Text.isPrintable_join (by decide) (List.forall_mem_map.2 fun q _ => q.isPrintable_value)).lineBreaks_eq_nil

/-- **The line breaks of a line** are those of the texts that it shows, in their order. -/
theorem lineBreaks_describe {line : Text} (h : p.describe = .ok line) :
    line.lineBreaks = (shownFields.flatMap p.textsOf).flatMap Text.lineBreaks := by
  obtain ⟨first, second, third, levels, ⟨a, ha, hfirst⟩, ⟨z, hz, hsecond⟩, ⟨r, hr, hthird⟩, -, rfl⟩ := describe_cases h
  have identity : first.lineBreaks = (p.textsOf .authenticationId).flatMap Text.lineBreaks := by
    rw [lineBreaks_shown hfirst, bareTexts_valueOf ha]
  have alternate : second.flatMap Text.lineBreaks = (p.textsOf .authorizationId).flatMap Text.lineBreaks := by
    rw [lineBreaks_labelledIfAny hsecond, bareTexts_valueOf hz]
  have realm : third.flatMap Text.lineBreaks = (p.textsOf .realm).flatMap Text.lineBreaks := by
    rw [lineBreaks_labelledIfAny hthird, bareTexts_valueOf hr]
  have title : Model.properties.title.toText.lineBreaks = [] := rfl
  have opened : "(".toText.lineBreaks = [] := rfl
  have label : "qop='".toText.lineBreaks = [] := rfl
  have quote : "'".toText.lineBreaks = [] := rfl
  have closed : ")".toText.lineBreaks = [] := rfl
  have joined (items : List Text) : (Text.join ", ".toText items).lineBreaks = items.flatMap Text.lineBreaks :=
    Text.lineBreaks_join rfl items
  simp [title, opened, label, quote, closed, joined, shownFields, lineBreaks_labelled, lineBreaks_toText, identity,
    alternate, realm]

/-- A line is single exactly if all texts are that it shows. -/
theorem isSingleLine_describe {line : Text} (h : p.describe = .ok line) :
    line.IsSingleLine ↔ ∀ f ∈ shownFields, ∀ t, p.read f.name.toText = .ok (.text t) → t.IsSingleLine := by
  simp only [Text.isSingleLine_iff, lineBreaks_describe h, List.flatMap_eq_nil_iff, List.mem_flatMap, ← mem_textsOf]
  exact ⟨fun all f hf t ht => all t ⟨f, hf, ht⟩, fun all t ⟨f, hf, ht⟩ => all f hf t ht⟩

end Properties

end SaslBind
