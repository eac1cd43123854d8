import SaslBind.Proofs.Text.Printable
import SaslBind.Value

/-!
# Values show nothing that is not printable

The text of a value that shows its type is printable.  The other one is, too, but for a text, which stands as it is.

* `isPrintable_repr` : the text that shows the type, with its items and entries;
* `Value.bareTexts` : what stands in the text of a value as it is.

Main statement: `isPrintable_str`.
-/

namespace SaslBind

open Text (isPrintable_ofNat isPrintable_ofInt isPrintable_replicate isPrintable_append isPrintable_cons
  isPrintable_nil isPrintable_join)

/-! ### Numbers -/

namespace Binary64

variable {digits : Text}

theorem isPrintable_trimZeros (h : digits.IsPrintable) : (trimZeros digits).1.IsPrintable := h.take _

theorem isPrintable_mantissa (h : digits.IsPrintable) : (mantissa digits).IsPrintable := by
  have point : (CodePoint.ofChar '.').isPrintable = true := by decide
  exact isPrintable_append.2 ⟨h.take 1, .ite isPrintable_nil (isPrintable_cons.2 ⟨point, h.drop 1⟩)⟩

theorem isPrintable_positional (h : digits.IsPrintable) (point : Int) : (positional digits point).IsPrintable := by
  have zero : (CodePoint.ofChar '0').isPrintable = true := by decide
  have dot : (CodePoint.ofChar '.').isPrintable = true := by decide
  have zeros := isPrintable_replicate zero
  have after : Text.IsPrintable (if (digits.drop point.toNat).isEmpty then [CodePoint.ofChar '0']
      else digits.drop point.toNat) := .ite (isPrintable_cons.2 ⟨zero, isPrintable_nil⟩) (h.drop _)
  exact .ite (isPrintable_cons.2 ⟨zero, isPrintable_cons.2 ⟨dot, isPrintable_append.2 ⟨zeros _, h⟩⟩⟩)
    (isPrintable_append.2 ⟨isPrintable_append.2 ⟨h.take _, zeros _⟩, isPrintable_cons.2 ⟨dot, after⟩⟩)

theorem isPrintable_scientific (h : digits.IsPrintable) (e : Int) : (scientific digits e).IsPrintable := by
  have zero : (CodePoint.ofChar '0').isPrintable = true := by decide
  have letter : (CodePoint.ofChar 'e').isPrintable = true := by decide
  have sign : (CodePoint.ofChar (if e < 0 then '-' else '+')).isPrintable = true := by split <;> decide
  simp [scientific, isPrintable_mantissa h, zero, letter, sign, isPrintable_replicate]

theorem isPrintable_text (x : Binary64) : x.text.IsPrintable := by
  cases x with
  | nan => decide
  | infinite negative => cases negative <;> decide
  | finite negative m e =>
    have sign : Text.IsPrintable (if negative then "-".toText else []) := by cases negative <;> decide
    have zero : "0.0".toText.IsPrintable := by decide
    have digits := isPrintable_trimZeros (isPrintable_ofNat (shortest m e).1)
    exact .ite (isPrintable_append.2 ⟨sign, zero⟩)
      (isPrintable_append.2 ⟨sign, .ite (isPrintable_positional digits _) (isPrintable_scientific digits _)⟩)

end Binary64

/-! ### Stamps -/

@[simp] theorem Text.isPrintable_padded (width n : Nat) : (padded width n).IsPrintable :=
  isPrintable_append.2 ⟨isPrintable_replicate (by decide) _, isPrintable_ofNat n⟩

@[simp] theorem Text.isPrintable_numbers (ns : List Nat) : (numbers ns).IsPrintable :=
  isPrintable_join (by decide) (List.forall_mem_map.2 fun n _ => isPrintable_ofNat n)

theorem ClockTime.isPrintable_str (c : ClockTime) : c.str.IsPrintable := by
  have colon : ":".toText.IsPrintable := by decide
  have point : ".".toText.IsPrintable := by decide
  have fraction : c.fraction.IsPrintable :=
    .ite isPrintable_nil (isPrintable_append.2 ⟨point, Text.isPrintable_padded 6 _⟩)
  simp [ClockTime.str, fraction, colon]

theorem Date.isPrintable_str (d : Date) : d.str.IsPrintable := by
  have hyphen : "-".toText.IsPrintable := by decide
  simp [Date.str, hyphen]

theorem TimeSpan.isPrintable_repr (s : TimeSpan) : s.repr.IsPrintable := by
  have named (name : String) (hn : name.toText.IsPrintable) (n : Int) : ∀ t ∈ named name n, t.IsPrintable := by
    have equals : "=".toText.IsPrintable := by decide
    unfold TimeSpan.named
    split
    · exact List.forall_mem_nil _
    · simp [hn, equals]
  have parts : ∀ t ∈ TimeSpan.named "days" s.days ++ TimeSpan.named "seconds" s.seconds ++
      TimeSpan.named "microseconds" s.microseconds, t.IsPrintable :=
    List.forall_mem_append.2 ⟨List.forall_mem_append.2 ⟨named _ (by decide) _, named _ (by decide) _⟩,
      named _ (by decide) _⟩
  refine isPrintable_append.2 ⟨isPrintable_append.2 ⟨by decide, isPrintable_join (by decide) ?_⟩, by decide⟩
  split
  · decide
  · exact parts

theorem Zone.isPrintable_offset {separator : String} (hs : separator.toText.IsPrintable) (z : Zone) :
    (z.offset separator).IsPrintable := by
  have sign : Text.IsPrintable (if z.minutes < 0 then "-".toText else "+".toText) := .ite (by decide) (by decide)
  simp [Zone.offset, hs, sign]

theorem Zone.isPrintable_repr (z : Zone) : z.repr.IsPrintable := by
  have universal : "datetime.timezone.utc".toText.IsPrintable := by decide
  have opened : "datetime.timezone(".toText.IsPrintable := by decide
  have comma : ", ".toText.IsPrintable := by decide
  have closed : ")".toText.IsPrintable := by decide
  have span := (TimeSpan.ofMinutes z.minutes).isPrintable_repr
  unfold Zone.repr
  cases z.name with
  | none => exact .ite universal (by simp [opened, closed, span])
  | some name => exact .ite universal (by simp [opened, closed, span, comma, name.isPrintable_quoted])

namespace Stamp

theorem isPrintable_str (s : Stamp) : s.str.IsPrintable := by
  cases s with
  | date d => exact d.isPrintable_str
  | time c => exact c.isPrintable_str
  | moment m =>
    have blank : " ".toText.IsPrintable := by decide
    have zone : Text.IsPrintable ((m.zone.map (Zone.offset ":")).getD []) := by
      cases m.zone with
      | none => exact isPrintable_nil
      | some z => exact z.isPrintable_offset (by decide)
    simp [str, Moment.str, m.date.isPrintable_str, m.clock.isPrintable_str, blank, zone]

theorem isPrintable_repr (s : Stamp) : s.repr.IsPrintable := by
  have opened : "(".toText.IsPrintable := by decide
  have closed : ")".toText.IsPrintable := by decide
  cases s with
  | date d =>
    have name : "datetime.date".toText.IsPrintable := by decide
    simp [repr, typeName, name, opened, closed]
  | time c =>
    have name : "datetime.time".toText.IsPrintable := by decide
    simp [repr, typeName, name, opened, closed]
  | moment m =>
    have name : "datetime.datetime".toText.IsPrintable := by decide
    have label : ", tzinfo=".toText.IsPrintable := by decide
    cases hz : m.zone with
    | none => simp [repr, typeName, Moment.typed, hz, name, opened, closed]
    | some z => simp [repr, typeName, Moment.typed, hz, name, opened, closed, label, z.isPrintable_repr]

end Stamp

/-! ### Values -/

theorem Qop.isPrintable_value (q : Qop) : q.value.IsPrintable := by cases q <;> decide

namespace Value

theorem isPrintable_mask (isEmpty : Bool) : (mask isEmpty).IsPrintable := by cases isEmpty <;> decide

mutual

theorem isPrintable_repr : ∀ v : Value, v.repr.IsPrintable
  | .null => by decide
  | .bool true => by decide
  | .bool false => by decide
  | .int n => isPrintable_ofInt n
  | .real x => x.isPrintable_text
  | .text t => t.isPrintable_quoted
  | .qop q => by cases q <;> decide
  | .octets .fixed bs => Text.isPrintable_quotedOctets false bs
  | .octets .changeable bs => by
    simp +decide [repr, Text.isPrintable_quotedOctets]
  | .octets .view _ => (by decide : "<memory>".toText.IsPrintable)
  | .secret bs => by simp +decide [repr, Text.isPrintable_quoted]
  | .secretText t => by simp +decide [repr, Text.isPrintable_quoted]
  | .list items => by simp +decide [repr, isPrintable_reprItems items]
  | .tuple [] => by decide
  | .tuple [item] => by simp +decide [repr, isPrintable_repr item]
  | .tuple (v :: w :: vs) => by simp +decide [repr, isPrintable_reprItems (v :: w :: vs)]
  | .iterator _ => (by decide : "<list_iterator>".toText.IsPrintable)
  | .dict entries => by simp +decide [repr, isPrintable_reprEntries entries]
  | .names [] => by decide
  | .names (t :: ts) => by
    have quoted : ∀ u ∈ (t :: ts).map Text.quoted, u.IsPrintable :=
      List.forall_mem_map.2 fun u _ => u.isPrintable_quoted
    have joined : (Text.join ", ".toText ((t :: ts).map Text.quoted)).IsPrintable := isPrintable_join (by decide) quoted
    exact isPrintable_append.2 ⟨isPrintable_append.2 ⟨by decide, joined⟩, by decide⟩
  | .stamp s => s.isPrintable_repr

theorem isPrintable_reprItems : ∀ vs : List Value, (reprItems vs).IsPrintable
  | [] => isPrintable_nil
  | [v] => isPrintable_repr v
  | v :: w :: vs => by simp +decide [reprItems, isPrintable_repr v, isPrintable_reprItems (w :: vs)]

theorem isPrintable_reprEntries : ∀ es : List (Text × Value), (reprEntries es).IsPrintable
  | [] => isPrintable_nil
  | [(k, v)] => by simp +decide [reprEntries, k.isPrintable_quoted, isPrintable_repr v]
  | (k, v) :: e :: es => by
    simp +decide [reprEntries, k.isPrintable_quoted, isPrintable_repr v, isPrintable_reprEntries (e :: es)]

end

/-- What stands in the text of a value as it is: a text itself, and nothing of any other value. -/
def bareTexts : Value → List Text
  | .text t => [t]
  | _ => []

/-- **Only a text is shown as it is.**  The text of any other value is printable. -/
theorem isPrintable_str {v : Value} (h : v.bareTexts = []) : v.str.IsPrintable := by
  cases v with
  | text t => cases h
  | qop q => exact q.isPrintable_value
  | secret bs => exact .ite (by decide) (by decide)
  | secretText t => exact isPrintable_mask _
  | stamp s => exact s.isPrintable_str
  | _ => exact isPrintable_repr _

end Value

end SaslBind
