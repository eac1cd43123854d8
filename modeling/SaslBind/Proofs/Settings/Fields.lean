import SaslBind.Proofs.Related
import SaslBind.Proofs.Text.Lower
import SaslBind.Proofs.Text.Surrogate
import SaslBind.Proofs.Text.Upper
import SaslBind.Proofs.Text.Utf8
import SaslBind.Settings

/-!
# What the settings take

Which values each field of the settings takes and what it stores for them, said without the way in which that is
checked.

* `Value.GivesText` : what can stand for a text;
* `Text.MeansTruth` : the words for a truth value, in any case;
* `Setting.Takes` : what a field stores for a value.

Main statements: `check_eq_ok_iff`, a field takes a value exactly if its check does, and `Takes.again`, what is stored
is taken as it is.
-/

namespace SaslBind

/-- What can stand for a text: a text, a level, or octets that are its UTF-8, unless they are only a view. -/
inductive Value.GivesText : Value → Text → Prop
  | text (t : Text) : GivesText (.text t) t
  | level (q : Qop) : GivesText (.qop q) q.value
  | octets {kind : OctetKind} {t : Text} (hk : kind ≠ .view) (ht : t.hasSurrogate = false) :
      GivesText (.octets kind t.octets) t

theorem Value.checkText_eq_ok_iff {v : Value} {t : Text} : v.checkText = .ok t ↔ v.GivesText t := by
  constructor
  · intro h
    unfold Value.checkText at h
    split at h
    · obtain rfl := Except.ok.inj h
      exact .text _
    · obtain rfl := Except.ok.inj h
      exact .level _
    · split at h
      next decoded =>
        obtain rfl := Except.ok.inj h
        obtain ⟨plain, rfl⟩ := Text.decode?_eq_some_iff.1 decoded
        exact .octets (by decide) plain
      · cases h
    · split at h
      next decoded =>
        obtain rfl := Except.ok.inj h
        obtain ⟨plain, rfl⟩ := Text.decode?_eq_some_iff.1 decoded
        exact .octets (by decide) plain
      · cases h
    · cases h
  · rintro (t | q | ⟨hk, ht⟩)
    · rfl
    · rfl
    · next kind =>
      have decoded : Text.decode? t.octets = some t := Text.decode?_octets ht
      cases kind with
      | view => exact absurd rfl hk
      | fixed | changeable => simp only [Value.checkText, decoded]

/-- The words for a truth value. -/
def Setting.wordsFor : Bool → List Text
  | true => trueWords
  | false => falseWords

/-- A text that is a word for a truth value, in any case. -/
def Text.MeansTruth (t : Text) (b : Bool) : Prop := ∃ word ∈ Setting.wordsFor b, t.CaseVariant word

namespace Setting

theorem mem_all (s : Setting) : s ∈ all := by cases s <;> decide

/-! ### Words -/

theorem wordsFor_ascii : ∀ b, ∀ word ∈ wordsFor b, ∀ c ∈ word, c.isAscii := by
  intro b
  cases b <;> decide

theorem trueWords_apart : ∀ word ∈ trueWords, word ∉ falseWords := by decide

theorem isAscii_of_lowerAscii {c : CodePoint} (h : c.lowerAscii.isAscii) : c.isAscii := by
  unfold CodePoint.lowerAscii at h
  split at h
  · exact decide_eq_true (by omega)
  · exact h

theorem lowerAscii_eq (t : Text) : lowerAscii t = t.map CodePoint.lowerAscii := rfl

theorem lowerAscii_eq_iff {t word : Text} (h : ∀ c ∈ word, c.isAscii) : lowerAscii t = word ↔ t.CaseVariant word := by
  rw [lowerAscii_eq]
  constructor
  · rintro rfl
    exact ⟨fun c hc => isAscii_of_lowerAscii (h _ (List.mem_map_of_mem hc)), rfl⟩
  · exact And.right

theorem meansTruth_iff {t : Text} {b : Bool} : t.MeansTruth b ↔ lowerAscii t ∈ wordsFor b := by
  constructor
  · rintro ⟨word, hw, variant⟩
    rwa [(lowerAscii_eq_iff (wordsFor_ascii b word hw)).2 variant]
  · intro h
    exact ⟨_, h, (lowerAscii_eq_iff (wordsFor_ascii b _ h)).1 rfl⟩

theorem truthOfWord_eq_ok_iff {t : Text} {b : Bool} : truthOfWord t = .ok b ↔ t.MeansTruth b := by
  rw [meansTruth_iff, truthOfWord]
  by_cases hf : lowerAscii t ∈ falseWords
  · have ht : lowerAscii t ∉ trueWords := fun ht => trueWords_apart _ ht hf
    cases b <;> simp [wordsFor, hf, ht]
  · by_cases ht : lowerAscii t ∈ trueWords <;> cases b <;> simp [wordsFor, hf, ht]

theorem hasSurrogate_of_meansTruth {t : Text} {b : Bool} (h : t.MeansTruth b) : t.hasSurrogate = false := by
  obtain ⟨word, -, ascii, -⟩ := h
  refine List.any_eq_false.2 fun c hc => ?_
  have low : c.value < 0x80 := of_decide_eq_true (ascii c hc)
  simp only [CodePoint.isSurrogate, Bool.and_eq_true, decide_eq_true_eq]
  omega

/-- A level is no word for a truth value. -/
theorem not_meansTruth_level (q : Qop) (b : Bool) : ¬ q.value.MeansTruth b := by
  rw [meansTruth_iff]
  cases q <;> cases b <;> decide

/-! ### Fields -/

/-- What a field stores for a value that it takes. -/
inductive Takes : Setting → Value → Value → Prop
  | truth (b : Bool) : Takes .debug (.bool b) (.bool b)
  | word {t : Text} {b : Bool} (h : t.MeansTruth b) : Takes .debug (.text t) (.bool b)
  | octets {t : Text} {b : Bool} (h : t.MeansTruth b) : Takes .debug (.octets .fixed t.octets) (.bool b)
  | int (b : Bool) : Takes .debug (.int (if b then 1 else 0)) (.bool b)
  | real {x : Binary64} {b : Bool} (h : x.toInt? = some (if b then 1 else 0)) : Takes .debug (.real x) (.bool b)
  | level {v : Value} (short : v.isTooLong = false) : Takes .logLevel v (.text v.str.upper)
  | noFile : Takes .logFile .null .null
  | text {s : Setting} {v : Value} {t : Text} (hd : s ≠ .debug) (hl : s ≠ .logLevel) (h : v.GivesText t) :
      Takes s v (.text t)

theorem Takes.truth_of_debug {v w : Value} (h : Takes .debug v w) : ∃ b, w = .bool b := by
  cases h with
  | truth b => exact ⟨b, rfl⟩
  | word => exact ⟨_, rfl⟩
  | octets => exact ⟨_, rfl⟩
  | int b => exact ⟨b, rfl⟩
  | real => exact ⟨_, rfl⟩
  | text hd => exact absurd rfl hd

theorem Takes.level_eq {v w : Value} (h : Takes .logLevel v w) : w = .text v.str.upper := by
  cases h with
  | level => rfl
  | text _ hl => exact absurd rfl hl

theorem truthOfInt_eq_ok_iff {n : Int} {b : Bool} : truthOfInt n = .ok b ↔ n = if b then 1 else 0 := by
  unfold truthOfInt
  split
  next zero => cases b <;> simp [zero]
  next notZero =>
    split
    next one => cases b <;> simp [one]
    next notOne => cases b <;> simp [notZero, notOne]

/-- The integers for truth values are within the bounds of machine integers. -/
theorem inMachine (b : Bool) : -machineBound < (if b then 1 else 0) ∧ (if b then 1 else 0) < machineBound := by
  cases b <;> decide

theorem checkTruth_of_takes {v : Value} {b : Bool} (h : Takes .debug v (.bool b)) : checkTruth v = .ok b := by
  cases h with
  | truth => rfl
  | word h => rw [checkTruth, hasSurrogate_of_meansTruth h, if_neg Bool.false_ne_true, truthOfWord_eq_ok_iff.2 h]
  | octets h =>
    simp only [checkTruth, Text.decode?_octets (hasSurrogate_of_meansTruth h)]
    exact truthOfWord_eq_ok_iff.2 h
  | int =>
    obtain ⟨low, high⟩ := inMachine b
    rw [checkTruth, if_pos ⟨Int.le_of_lt low, high⟩, truthOfInt_eq_ok_iff]
  | real h =>
    simp only [checkTruth, h]
    rw [if_pos (inMachine b), truthOfInt_eq_ok_iff]

theorem takes_of_checkTruth {v : Value} {b : Bool} (h : checkTruth v = .ok b) : Takes .debug v (.bool b) := by
  unfold checkTruth at h
  split at h
  · obtain rfl := Except.ok.inj h
    exact .truth _
  · split at h
    · cases h
    · exact .word (truthOfWord_eq_ok_iff.1 h)
  · exact absurd (truthOfWord_eq_ok_iff.1 h) (not_meansTruth_level _ b)
  · split at h
    next decoded =>
      obtain ⟨-, rfl⟩ := Text.decode?_eq_some_iff.1 decoded
      exact .octets (truthOfWord_eq_ok_iff.1 h)
    · cases h
  · split at h
    · obtain rfl := truthOfInt_eq_ok_iff.1 h
      exact .int b
    · cases h
  · split at h
    next whole =>
      split at h
      · obtain rfl := truthOfInt_eq_ok_iff.1 h
        exact .real whole
      · cases h
    · cases h
  · cases h

theorem check_eq_of_ne {s : Setting} {v : Value} (hd : s ≠ .debug) (hl : s ≠ .logLevel)
    (hf : s = .logFile → v ≠ .null) : s.check v = v.checkText.map .text := by
  cases s with
  | debug => exact absurd rfl hd
  | logLevel => exact absurd rfl hl
  | logFile =>
    have : v ≠ .null := hf rfl
    cases v <;> trivial
  | logRetention | logRotation | version => rfl

theorem check_eq_ok_iff {s : Setting} {v w : Value} : s.check v = .ok w ↔ s.Takes v w := by
  by_cases hd : s = .debug
  · subst hd
    constructor
    · intro h
      obtain ⟨b, checked, rfl⟩ := ok_of_map h
      exact takes_of_checkTruth checked
    · intro h
      obtain ⟨b, rfl⟩ := h.truth_of_debug
      rw [check, checkTruth_of_takes h]
      rfl
  by_cases hl : s = .logLevel
  · subst hl
    constructor
    · intro h
      simp only [check] at h
      split at h
      · cases h
      next short =>
        obtain rfl := Except.ok.inj h
        exact .level (Bool.eq_false_iff.2 short)
    · intro h
      cases h with
      | level short => simp only [check, short, Bool.false_eq_true, if_false]
      | text _ hl => exact absurd rfl hl
  by_cases hf : s = .logFile ∧ v = .null
  · obtain ⟨rfl, rfl⟩ := hf
    exact ⟨fun h => Except.ok.inj h ▸ .noFile, fun h => by cases h with
      | noFile => rfl
      | text _ _ h => cases h⟩
  · rw [check_eq_of_ne hd hl fun hs hv => hf ⟨hs, hv⟩]
    constructor
    · intro h
      obtain ⟨t, checked, rfl⟩ := ok_of_map h
      exact .text hd hl (Value.checkText_eq_ok_iff.1 checked)
    · intro h
      cases h with
      | truth | word | octets | int | real => exact absurd rfl hd
      | level => exact absurd rfl hl
      | noFile => exact absurd ⟨rfl, rfl⟩ hf
      | text _ _ given =>
        rw [Value.checkText_eq_ok_iff.2 given]
        rfl

/-- What is stored is taken as it is. -/
theorem Takes.again {s : Setting} {v w : Value} (h : s.Takes v w) : s.Takes w w := by
  cases h with
  | truth b | word | octets | int | real => exact .truth _
  | @level v _ =>
    have stored : Takes .logLevel (.text v.str.upper) (.text v.str.upper.upper) := .level rfl
    rwa [Text.upper_upper] at stored
  | noFile => exact .noFile
  | text hd hl => exact .text hd hl (.text _)

theorem takes_unset {s : Setting} {lookup : Except Fault Value} {w : Value} (hv : s ≠ .version)
    (h : s.unset lookup = .ok w) : s.Takes w w := by
  cases s with
  | version => exact absurd rfl hv
  | debug =>
    obtain rfl := Except.ok.inj h
    exact .truth false
  | logLevel =>
    obtain rfl := Except.ok.inj h
    exact Takes.again (.level (v := .word "info") rfl)
  | logFile =>
    obtain rfl := Except.ok.inj h
    exact .noFile
  | logRetention | logRotation =>
    obtain rfl := Except.ok.inj h
    exact .text (by decide) (by decide) (.text _)

end Setting

end SaslBind
