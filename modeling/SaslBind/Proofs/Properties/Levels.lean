import SaslBind.Proofs.Properties.Assignable
import SaslBind.Proofs.Properties.Line
import SaslBind.Proofs.Qop.Appending
import SaslBind.Proofs.Qop.Naming
import SaslBind.Proofs.Text.Surrogate

/-!
# The ways to give levels

The levels of an object are given as a list in a text, as a sequence of levels or of their values, or as arguments.  A
text is read leniently and a sequence is not, but where both are taken the same levels are stored, and a text that is
not decoded is refused with the message of the decoder.

* `Field.check_listing_ok`, `Field.check_listing_error` : the field makes of a text what the decoder makes of it;
* `Field.check_items_joined` : a sequence of texts that is taken, is taken as the text with commas between them;
* `Properties.LevelsAgree p s` : the object takes a text and its levels alike, or refuses the text as the decoder does.

Main statement: `levels_agree`.  `levels_disagree` shows that an object without the record of what is beyond its fields
refuses a good text, and that a message that can not be encoded comes out as a fault of its own.
-/

namespace SaslBind

namespace Field

open Qop (decodeText)

variable {s : Text} {v : Value} {items : List Value} {texts : List Text}

theorem orDefault_of_ne_nil {levels : List Qop} (h : levels ≠ []) : orDefault levels = levels := by
  rw [orDefault, if_neg (by simpa using h)]

/-- What is a text is taken as a list. -/
theorem check_listing (hv : v.text? = some s) : allowedQop.check v = (checkList .allowedQop s).map .allowedQop := by
  have levels : checkLevels .allowedQop v = checkList .allowedQop s := by simp only [checkLevels, hv]
  rw [← levels]
  rfl

/-- Levels that were decoded are stored, or the default if there are none. -/
theorem check_listing_ok {levels : List Qop} (hv : v.text? = some s) (h : decodeText s = .ok levels) :
    allowedQop.check v = .ok (.allowedQop (orDefault levels)) := by
  rw [check_listing hv, checkList, h]
  rfl

/-- A fault of the decoder becomes one error of the field, if its message can be encoded. -/
theorem check_listing_error {f : Fault} (hv : v.text? = some s) (h : decodeText s = .error f) :
    (f.message.hasSurrogate = false → allowedQop.check v = .error (reject .allowedQop (.rule f.message))) ∧
    ∃ r, allowedQop.check v = .error r := by
  simp only [check_listing hv, checkList, h]
  refine ⟨fun plain => ?_, ?_⟩
  · rw [Text.surrogateRun?_eq_none_iff.2 plain]
    rfl
  · cases f.message.surrogateRun? with
    | none => exact ⟨_, rfl⟩
    | some run => exact ⟨_, rfl⟩

/-- What is no text and can be gone through, is taken item by item. -/
theorem check_items (hv : v.text? = none) (hi : v.items? = some items) :
    allowedQop.check v = (checkItems .allowedQop items).map .allowedQop := by
  have levels : checkLevels .allowedQop v = checkItems .allowedQop items := by
    unfold checkLevels
    split
    · next ht => rw [hv] at ht; cases ht
    · cases hi
    · rw [hi]
  rw [← levels]
  rfl

/-- A text that an item of a sequence is taken for is the value of the level. -/
theorem value_of_checkLevel {t : Text} {q : Qop} (hv : v.text? = some t) (h : checkLevel v = .ok q) : t = q.value := by
  cases v with
  | qop p =>
    obtain rfl := Except.ok.inj h
    exact (Option.some.inj hv).symm
  | text u =>
    obtain rfl := Option.some.inj hv
    unfold checkLevel at h
    simp only at h
    split at h
    · cases h
    · split at h
      · next hq =>
        obtain rfl := Except.ok.inj h
        exact Qop.ofValue?_eq_some_iff.1 hq
      · cases h
  | _ => cases hv

/-- Texts that are taken as items of a sequence are the values of the levels that are stored. -/
theorem values_of_items {f : Field} {i : Nat} (h : levelErrors f i items = [])
    (ht : items.map Value.text? = texts.map some) :
    texts = (items.filterMap fun v => (checkLevel v).toOption).map Qop.value := by
  induction items generalizing i texts with
  | nil => exact List.map_eq_nil_iff.1 ht.symm
  | cons v items ih =>
    obtain ⟨t, texts, rfl⟩ : ∃ t rest, texts = t :: rest := by
      cases texts with
      | nil => cases ht
      | cons t rest => exact ⟨t, rest, rfl⟩
    obtain ⟨here, there⟩ := List.cons.inj ht
    rw [levelErrors] at h
    cases hc : checkLevel v with
    | error c => simp [hc] at h
    | ok q =>
      have rest := ih (by simpa only [hc] using h) there
      simp only [List.filterMap_cons, hc, Except.toOption, List.map_cons]
      rw [← value_of_checkLevel here hc]
      exact congrArg _ rest

/-- A sequence of texts that is taken, is taken as the text with commas between them. -/
theorem check_items_joined {a : Attribute} (hv : v.text? = none) (hi : v.items? = some items)
    (ht : items.map Value.text? = texts.map some) (h : allowedQop.check v = .ok a) :
    allowedQop.check (.text (Text.join ",".toText texts)) = .ok a := by
  rw [check_items hv hi] at h
  obtain ⟨kept, hk, rfl⟩ := ok_of_map h
  unfold checkItems at hk
  split at hk
  · next none =>
    obtain rfl := Except.ok.inj hk
    rw [values_of_items none ht]
    exact check_listing_ok rfl (Qop.decodeText_toText _)
  · cases hk

end Field

namespace Properties

open SaslBind.Field (allowedQop)

variable {p q : Properties} {s : Text} {v : Value} {items : List Value} {texts : List Text}

/-- The object takes a text, the levels that it is decoded to, and these as arguments alike, and stores some levels; or
the text is not decoded, and is refused with one error that has the message of the decoder. -/
inductive LevelsAgree (p : Properties) (s : Text) : Prop
  | taken {levels kept : List Qop} {q : Properties} (decoded : Qop.decodeText s = .ok levels)
      (asText : p.assign allowedQop.name.toText (.text s) = .ok q)
      (asList : p.assign allowedQop.name.toText (.list (levels.map .qop)) = .ok q)
      (asArguments : p.setAllowedQop (levels.map .qop) = .ok q)
      (stored : q.read allowedQop.name.toText = .ok (.tuple (kept.map .qop)))
      (notEmpty : kept ≠ []) (same : levels ≠ [] → kept = levels)
  | refused {f : Fault} {e : FieldError} (undecoded : Qop.decodeText s = .error f)
      (rejected : p.assign allowedQop.name.toText (.text s) = .error (.invalid .properties [e]))
      (place : e.steps = [.name allowedQop.name.toText]) (kind : e.complaint.kind = "value_error")
      (wording : e.complaint.message = "Value error, ".toText ++ f.message)

/-- Arguments are assigned as a sequence of them. -/
theorem setAllowedQop_eq (p : Properties) (items : List Value) :
    p.setAllowedQop items = p.assign allowedQop.name.toText (.list items) := by
  have alike : allowedQop.check (.tuple items) = allowedQop.check (.list items) := by
    rw [Field.check_items rfl rfl, Field.check_items rfl rfl]
  rw [← assign_congr p alike, assign_name]
  rfl

theorem TakesAssignments.levelsAgree (hp : p.TakesAssignments)
    (hs : ∀ f, Qop.decodeText s = .error f → f.message.hasSurrogate = false) : p.LevelsAgree s := by
  cases hd : Qop.decodeText s with
  | ok levels =>
    have text : allowedQop.check (.text s) = _ := Field.check_listing_ok rfl hd
    obtain ⟨q, hq, stored⟩ := hp.assign_of_ok text
    have list : p.assign allowedQop.name.toText (.list (levels.map .qop)) = .ok q := by
      rw [← hq, assign_congr p (text.trans (Field.check_levels levels).symm)]
    have arguments := (setAllowedQop_eq p (levels.map .qop)).trans list
    exact .taken hd hq list arguments stored (Field.orDefault_ne_nil levels) Field.orDefault_of_ne_nil
  | error f =>
    have refused := (Field.check_listing_error (rfl : (Value.text s).text? = some s) hd).1 (hs f hd)
    exact .refused hd (hp.assign_of_error refused) rfl rfl rfl

/-- A sequence of texts that was assigned is stored as the text with commas between them is. -/
theorem assign_joined (hv : v.text? = none) (hi : v.items? = some items) (ht : items.map Value.text? = texts.map some)
    (h : p.assign allowedQop.name.toText v = .ok q) :
    p.assign allowedQop.name.toText (.text (Text.join ",".toText texts)) = .ok q := by
  obtain ⟨a, ha, -⟩ := check_of_assign h
  rw [← h]
  exact assign_congr p ((Field.check_items_joined hv hi ht ha).trans ha.symm)

/-- A list of blank items is the default, as no levels are. -/
theorem TakesAssignments.assign_blank (hp : p.TakesAssignments) (hs : ∀ item ∈ s.split Qop.comma, item.isBlank) :
    Qop.decodeText s = .ok [] ∧ ∃ q, p.assign allowedQop.name.toText (.text s) = .ok q ∧
      p.assign allowedQop.name.toText (.list []) = .ok q ∧
      q.read allowedQop.name.toText = .ok (.tuple [.qop .auth]) := by
  have none : (s.split Qop.comma).filter (!·.isBlank) = [] := by
    rw [List.filter_eq_nil_iff]
    intro item hi
    simp [hs item hi]
  have decoded : Qop.decodeText s = .ok [] := by
    rw [Qop.decodeText_eq_ok_iff, none]
    rfl
  have text : allowedQop.check (.text s) = _ := Field.check_listing_ok rfl decoded
  obtain ⟨q, hq, stored⟩ := hp.assign_of_ok text
  refine ⟨decoded, q, hq, ?_, stored⟩
  rw [← hq]
  exact assign_congr p ((Field.check_levels []).trans text.symm)

/-- **The ways to give levels.**  All objects take assignments after a run that made them with their fields and left
their records in order.  An object that takes assignments takes a text and the levels that it is decoded to alike, or
refuses the text with the message of the decoder; a list of blank items is the default.  A sequence of texts and levels
that it takes, in whichever way, is stored as the text with commas between their values is. -/
theorem levels_agree :
    (∀ steps : List (Text × Action), (∀ step ∈ steps, step.2.KeepsFields ∧ step.2 ≠ .makeBlank) →
      ∀ slot p, (Slots.run [] steps).2.lookup slot = some p → p.TakesAssignments) ∧
    ∀ p : Properties, p.TakesAssignments →
      (∀ s, (∀ f, Qop.decodeText s = .error f → f.message.hasSurrogate = false) → p.LevelsAgree s) ∧
      (∀ s f, Qop.decodeText s = .error f → ∃ f', p.assign allowedQop.name.toText (.text s) = .error f') ∧
      (∀ s : Text, (∀ item ∈ s.split Qop.comma, item.isBlank) → Qop.decodeText s = .ok [] ∧
        ∃ q, p.assign allowedQop.name.toText (.text s) = .ok q ∧ p.assign allowedQop.name.toText (.list []) = .ok q ∧
          q.read allowedQop.name.toText = .ok (.tuple [.qop .auth])) ∧
      ∀ v items texts q, v.text? = none → v.items? = some items → items.map Value.text? = texts.map some →
        p.assign allowedQop.name.toText v = .ok q ∨ p.setAllowedQop items = .ok q →
        p.assign allowedQop.name.toText (.text (Text.join ",".toText texts)) = .ok q := by
  refine ⟨fun steps h slot p hp => Slots.takes_run steps h hp, fun p hp =>
    ⟨fun s hs => hp.levelsAgree hs, fun s f hd => ?_, fun s blank => hp.assign_blank blank,
      fun v items texts q hv hi ht h => ?_⟩⟩
  · obtain ⟨r, hr⟩ := (Field.check_listing_error (rfl : (Value.text s).text? = some s) hd).2
    exact ⟨_, hp.assign_of_error hr⟩
  · rcases h with h | h
    · exact assign_joined hv hi ht h
    · exact assign_joined rfl rfl ht ((setAllowedQop_eq p items).symm.trans h)

/-- A new object takes a list with a blank item and capitals as it takes its level, refuses a name that is none with
the message of the decoder, and takes two levels, of which one is written, as the text that names both. -/
theorem levels_agree_looseList :
    ∃ p, (Slots.run [] Slots.plainRun).2.lookup "a".toText = some p ∧ p.TakesAssignments ∧
      p.LevelsAgree Qop.looseList ∧ p.LevelsAgree "none".toText ∧
      ∃ q, p.setAllowedQop [.qop .auth, .word "auth-int"] = .ok q ∧
        p.assign allowedQop.name.toText (.word "auth,auth-int") = .ok q := by
  obtain ⟨p, hp, takes⟩ := Slots.exists_plain
  obtain ⟨-, all⟩ := levels_agree
  obtain ⟨agree, -, -, joined⟩ := all p takes
  refine ⟨p, hp, takes, agree _ fun f hf => ?_, agree _ fun f hf => ?_, ?_⟩
  · cases hf
  · obtain rfl := Except.error.inj hf
    decide
  · have taken : allowedQop.check (.list [.qop .auth, .word "auth-int"]) = .ok (.allowedQop [.auth, .authInt]) := by
      decide
    obtain ⟨q, hq, -⟩ := takes.assign_of_ok taken
    have set := (setAllowedQop_eq p _).trans hq
    exact ⟨q, set, joined (.list _) _ ["auth".toText, "auth-int".toText] q rfl rfl rfl (.inr set)⟩

end Properties

namespace Slots

open Properties

/-- An object without the record of what is beyond its fields refuses a text that is decoded.  One that is in order
refuses a text that can not be encoded, but not with the message of the decoder. -/
theorem levels_disagree :
    (∃ p, (run [] closedRun).2.lookup "a".toText = some p ∧ ¬ p.LevelsAgree "auth".toText) ∧
    ∃ p, (run [] plainRun).2.lookup "a".toText = some p ∧ ¬ p.LevelsAgree [CodePoint.ofOctet 0xFF] := by
  constructor
  · have closed : ((run [] closedRun).2.lookup "a".toText).any (·.extra.isNone) := by decide
    obtain ⟨p, hp, none⟩ := (Option.any_eq_true _ _).1 closed
    refine ⟨p, hp, fun agree => ?_⟩
    cases agree with
    | taken decoded asText =>
      rw [assign_name, Properties.set, none] at asText
      cases asText
    | refused undecoded => cases undecoded
  · obtain ⟨p, hp, takes⟩ := exists_plain
    refine ⟨p, hp, fun agree => ?_⟩
    have unencodable : Field.allowedQop.check (.text [CodePoint.ofOctet 0xFF]) =
        .error (.fault (.unencodable ⟨CodePoint.ofOctet 0xFF, 40, 1⟩)) := by decide
    have bare := takes.assign_of_error unencodable
    cases agree with
    | taken decoded => cases decoded
    | refused undecoded rejected =>
      rw [bare] at rejected
      cases rejected

end Slots

end SaslBind
