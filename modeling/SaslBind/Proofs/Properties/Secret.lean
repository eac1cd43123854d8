import SaslBind.Proofs.Properties.Remade
import SaslBind.Proofs.Text.Utf8

/-!
# Octets as secrets

Arguments and variables of a process are octets, and reach it as the texts that these are read as.  Such a text is
taken as a secret wherever one is, and what is stored are the octets.

* `bind_place`, `bind_name`, `bind_all` : a secret is bound alike by its place, by its name, and in a dictionary;
* `construct_secret` : a new object with another secret;
* `open_run` : objects that were made with their fields take assignments, whatever became of them.

Main statement: `secret_of_octets`.
-/

namespace SaslBind

namespace Field

/-- A text that octets are read as is taken as a secret of these octets. -/
theorem check_escaped {bs : List UInt8} {t : Text} (h : Text.Escaped bs t) :
    password.check (.text t) = .ok (.password bs) := by
  have restored : checkSecret (.text t) = .ok bs := congrArg Except.ok (Text.restore_of_escaped h)
  rw [check, restored]
  rfl

end Field

namespace Properties

variable {named : Arguments}

/-! ### Ways to give a secret -/

/-- Names that are not those of parameters. -/
def Free (named : Arguments) : Prop := ∀ e ∈ named, e.1 ∉ parameters

/-- Values that are bound with an identity, without a secret among them, have no names of parameters. -/
theorem free_of_bind {a : Value} {values : Arguments} (h : bind [a] named = .ok values)
    (hs : named.lookup Field.password.name.toText = none) : Free named := by
  intro e he hp
  unfold bind at h
  simp only at h
  split at h
  · cases h
  next none_filled =>
    have filled := List.find?_eq_none.1 none_filled e he
    have secret : e.1 ≠ Field.password.name.toText := by
      intro hn
      have := List.lookup_eq_none_iff.1 hs e he
      rw [hn] at this
      simp at this
    have others : parameters = parameters.take 2 ++ [Field.password.name.toText] := rfl
    rw [others, List.mem_append, List.mem_singleton] at hp
    exact filled (decide_eq_true (hp.resolve_right secret))

theorem Free.find? (h : Free named) (n : Nat) : named.find? (·.1 ∈ parameters.take n) = none := by
  refine List.find?_eq_none.2 fun e he ht => h e he ?_
  exact List.mem_of_mem_take (of_decide_eq_true ht)

theorem Free.filter (h : Free named) : named.filter (·.1 ∈ parameters) = [] := by
  refine List.filter_eq_nil_iff.2 fun e he ht => h e he ?_
  exact of_decide_eq_true ht

theorem Free.filter_not (h : Free named) : named.filter (·.1 ∉ parameters) = named :=
  List.filter_eq_self.2 fun e he => decide_eq_true (h e he)

/-- An identity and a secret by their names, in front of other values. -/
def withSecret (a w : Value) (named : Arguments) : Arguments :=
  (Field.authenticationId.name.toText, a) :: (Field.password.name.toText, w) :: named

theorem bind_left (h : Free named) (a : Value) : bind [a] named = .ok (withSecret a .null named) := by
  unfold bind
  simp only [h.find?, h.filter, h.filter_not]
  rfl

theorem bind_place (h : Free named) (a w : Value) : bind [a, w] named = .ok (withSecret a w named) := by
  unfold bind
  simp only [h.find?, h.filter, h.filter_not]
  rfl

theorem bind_name (h : Free named) (a w : Value) :
    bind [a] ((Field.password.name.toText, w) :: named) = .ok (withSecret a w named) := by
  have later : Field.password.name.toText ∉ parameters.take 2 := by decide
  have known : Field.password.name.toText ∈ parameters := by decide
  unfold bind
  simp only [List.length_singleton, List.find?_cons, List.filter_cons, later, known, h.find?, h.filter, h.filter_not,
    decide_false, decide_true, not_true_eq_false, Bool.false_eq_true, if_true, if_false]
  rfl

theorem bind_all (h : Free named) (a w : Value) : bind [] (withSecret a w named) = .ok (withSecret a w named) := by
  have later : Field.password.name.toText ∉ parameters.take 1 ∧ Field.authenticationId.name.toText ∉ parameters.take 1 := by
    decide
  have known : Field.password.name.toText ∈ parameters ∧ Field.authenticationId.name.toText ∈ parameters := by decide
  unfold bind withSecret
  simp only [List.length_nil, Nat.zero_add, List.find?_cons, List.filter_cons, later, known, h.find?, h.filter,
    h.filter_not, decide_false, decide_true, not_true_eq_false, Bool.false_eq_true, if_true, if_false]
  rfl

/-! ### Objects with another secret -/

theorem exists_construct {values : Arguments} (h : ∀ f, ∃ a, construct1 values f = .ok a) :
    ∃ p, construct values = .ok p := by
  choose taken checked using h
  have all : Field.all.map (construct1 values) = (Field.all.map taken).map .ok := by
    rw [List.map_map]
    exact List.map_congr_left fun f _ => checked f
  rw [construct, all, gather_map_ok]
  exact ⟨_, rfl⟩

theorem lookup_withSecret (a w : Value) (named : Arguments) :
    (withSecret a w named).lookup Field.password.name.toText = some w := rfl

theorem lookup_withSecret_of_ne (a w w' : Value) (named : Arguments) {f : Field} (hf : f ≠ .password) :
    (withSecret a w named).lookup f.name.toText = (withSecret a w' named).lookup f.name.toText := by
  unfold withSecret
  rw [Text.lookup_cons, Text.lookup_cons, Text.lookup_cons, Text.lookup_cons, if_neg (Field.name_ne hf),
    if_neg (Field.name_ne hf)]

/-- An object that is made with one secret is made with any other one that the field takes, and differs in that
field only. -/
theorem construct_secret {a w w' : Value} {p : Properties} (h : construct (withSecret a w named) = .ok p)
    {bs : List UInt8} (hw : Field.password.check w' = .ok (.password bs)) :
    ∃ q, construct (withSecret a w' named) = .ok q ∧ q.read Field.password.name.toText = .ok (.secret bs) ∧
      ∀ f : Field, f ≠ .password → q.read f.name.toText = p.read f.name.toText := by
  obtain ⟨-, -, -, fields⟩ := construct_ok h
  have secret : construct1 (withSecret a w' named) .password = .ok (.password bs) := by
    rw [construct1, lookup_withSecret]
    exact hw
  have others : ∀ f : Field, f ≠ .password →
      construct1 (withSecret a w' named) f = construct1 (withSecret a w named) f := by
    intro f hf
    rw [construct1, construct1, lookup_withSecret_of_ne a w' w named hf]
  -- the first object tells that the other fields take what is given for them
  obtain ⟨q, hq⟩ : ∃ q, construct (withSecret a w' named) = .ok q := by
    refine exists_construct fun f => ?_
    by_cases hf : f = .password
    · exact ⟨_, hf ▸ secret⟩
    · obtain ⟨b, hb, -⟩ := fields f
      exact ⟨b, (others f hf).trans hb⟩
  obtain ⟨-, -, -, fields'⟩ := construct_ok hq
  refine ⟨q, hq, ?_, fun f hf => ?_⟩
  · obtain ⟨b, hb, hl⟩ := fields' .password
    rw [secret] at hb
    rw [Object.read_of_lookup (isPlain_name .password) hl, ← Except.ok.inj hb]
    rfl
  · obtain ⟨b, hb, hl⟩ := fields f
    obtain ⟨b', hb', hl'⟩ := fields' f
    rw [others f hf, hb] at hb'
    rw [Object.read_of_lookup (isPlain_name f) hl', Object.read_of_lookup (isPlain_name f) hl, Except.ok.inj hb']

/-- An identity and values by name that make an object without a secret make one with any secret that the field takes,
in whichever way it is given: it stores the octets, and the other fields are the same. -/
theorem made_with_taken {w : Value} {bs : List UInt8} (hw : Field.password.check w = .ok (.password bs)) {a : Value}
    {p : Properties} (h : call [a] named = .ok p) (hs : named.lookup Field.password.name.toText = none) :
    ∃ q, call [a, w] named = .ok q ∧ call [a] ((Field.password.name.toText, w) :: named) = .ok q ∧
      validate (.dict (withSecret a w named)) = .ok q ∧ q.read Field.password.name.toText = .ok (.secret bs) ∧
      ∀ f : Field, f ≠ .password → q.read f.name.toText = p.read f.name.toText := by
  have free : Free named := by
    unfold call at h
    split at h
    · next values hb => exact free_of_bind hb hs
    · cases h
  rw [call, bind_left free] at h
  obtain ⟨q, hq, secret, others⟩ := construct_secret h hw
  refine ⟨q, ?_, ?_, ?_, secret, others⟩
  · rw [call, bind_place free]
    exact hq
  · rw [call, bind_name free]
    exact hq
  · rw [validate_dict, call, bind_all free]
    simp only [hq]
    rfl

/-- So does a text that octets are read as: it stores the octets. -/
theorem made_with_secret {bs : List UInt8} {t : Text} (ht : Text.Escaped bs t) {a : Value} {p : Properties}
    (h : call [a] named = .ok p) (hs : named.lookup Field.password.name.toText = none) :
    ∃ q, call [a, .text t] named = .ok q ∧ call [a] ((Field.password.name.toText, .text t) :: named) = .ok q ∧
      validate (.dict (withSecret a (.text t) named)) = .ok q ∧
      q.read Field.password.name.toText = .ok (.secret bs) ∧
      ∀ f : Field, f ≠ .password → q.read f.name.toText = p.read f.name.toText :=
  made_with_taken (Field.check_escaped ht) h hs

/-! ### Objects that take assignments -/

theorem extra_of_delete {p q : Properties} (hx : p.extra ≠ none) {name : Text} (hn : name ≠ Model.extraName)
    (hd : p.delete name = .ok q) : q.extra ≠ none := by
  rcases delete_cases hd with ⟨-, rfl⟩ | ⟨-, rfl⟩ | ⟨-, -, rfl⟩ | ⟨es, -, -, rfl⟩
  · exact hx
  · exact hx
  · rw [Object.extra_keep hn]
    exact hx
  · exact Option.some_ne_none _

theorem extra_of_note {p q : Properties} (hx : p.extra ≠ none) {name : Text} {v : Value} (ha : p.note name v = .ok q) :
    q.extra ≠ none := by
  rcases Object.note_ok ha with rfl | ⟨table, rfl⟩
  · by_cases hn : name = Model.extraName
    · rw [Object.keep, if_pos hn]
      exact Option.some_ne_none v
    · rw [Object.extra_keep hn]
      exact hx
  · exact hx

theorem extra_of_construct {values : Arguments} {p : Properties} (h : construct values = .ok p) : p.extra ≠ none := by
  obtain ⟨-, hx, -⟩ := construct_ok h
  rw [hx]
  exact Option.some_ne_none _

theorem extra_of_set {p q : Properties} {f : Field} {v : Value} (h : p.set f v = .ok q) : q.extra ≠ none := by
  obtain ⟨a, -, -, hs⟩ := set_ok h
  obtain ⟨-, hq⟩ := Object.store_ok hs
  rw [hq]
  exact Option.some_ne_none _

end Properties

namespace Slots

variable {s : Slots} {a : Action}

/-- Objects take assignments after every run that made them with their fields and left their records in order. -/
theorem open_run (steps : List (Text × Action)) (h : ∀ step ∈ steps, step.2.KeepsFields ∧ step.2 ≠ .makeBlank)
    (slot : Text) (p : Properties) (hp : (run [] steps).2.lookup slot = some p) : p.extra ≠ none := by
  refine forall_run (P := fun p => p.extra ≠ none) (A := fun a => a.KeepsFields ∧ a ≠ .makeBlank)
    Properties.extra_of_construct (fun ha => absurd rfl ha.2) (fun _ hq => ?_)
    (fun hp _ _ hq => Properties.extra_of_note hp hq) (fun _ hq => Properties.extra_of_set hq)
    (fun hp ha hq => Properties.extra_of_delete hp ha.1 hq) steps h slot p hp
  obtain ⟨v, extra, given, inner, -, -, rfl⟩ := Object.copy_ok hq
  exact Option.some_ne_none extra

/-- **Octets as secrets.**  Any octets are read as exactly one text, well-formed sequences as their code points and
every other octet as the surrogate that carries it.  Given as the secret, this text is taken and the octets are
stored: by a new object, if it is made without a secret, whether the text is given by its place, by its name or in a
dictionary; and by every object after a run that made it with its fields and left its records in order.  Whatever
became of an object, assigning the text is assigning the octets. -/
theorem secret_of_octets (bs : List UInt8) :
    ∃ t, (∀ u, Text.Escaped bs u ↔ u = t) ∧
      (∀ a named p, Properties.call [a] named = .ok p → named.lookup Field.password.name.toText = none →
        ∃ q, Properties.call [a, .text t] named = .ok q ∧
          Properties.call [a] ((Field.password.name.toText, .text t) :: named) = .ok q ∧
          Properties.validate (.dict (Properties.withSecret a (.text t) named)) = .ok q ∧
          q.read Field.password.name.toText = .ok (.secret bs) ∧
          ∀ f : Field, f ≠ .password → q.read f.name.toText = p.read f.name.toText) ∧
      (∀ steps, (∀ step ∈ steps, step.2.KeepsFields ∧ step.2 ≠ .makeBlank) →
        ∀ slot p, (run [] steps).2.lookup slot = some p →
          ∃ q, p.assign Field.password.name.toText (.text t) = .ok q ∧
            q.read Field.password.name.toText = .ok (.secret bs)) ∧
      ∀ p : Properties, p.assign Field.password.name.toText (.text t) =
        p.assign Field.password.name.toText (.octets .fixed bs) := by
  have ht := Text.escaped_decodeEscaped bs
  refine ⟨Text.decodeEscaped bs, fun u => Text.escaped_iff, fun a named p hp hs => ?_, fun steps h slot p hp => ?_,
    fun p => ?_⟩
  · exact Properties.made_with_secret ht hp hs
  · have settled : p.Settled := settled_run steps (fun step hs => (h step hs).1) slot p hp
    have assigned := settled.set_eq (open_run steps h slot p hp) .password (.text (Text.decodeEscaped bs))
    rw [Field.check_escaped ht] at assigned
    obtain ⟨q, hq, table⟩ := assigned.of_ok
    refine ⟨q, by rw [Properties.assign_name, hq], Object.read_of_lookup (Properties.isPlain_name .password) ?_⟩
    rw [table, Entries.lookup_put, if_pos rfl]
    rfl
  · have same : Field.password.check (.octets .fixed bs) = .ok (.password bs) := rfl
    rw [Properties.assign_name, Properties.assign_name, Properties.set, Properties.set, Field.check_escaped ht, same]

/-- Octets that are well-formed only in part: a surrogate, an overlong form, a number beyond the last code point and a
sequence that breaks off stand among letters. -/
def strayOctets : List UInt8 := [0x61, 0xED, 0xA0, 0x80, 0xC0, 0xAF, 0xE2, 0x82, 0xAC, 0xF4, 0x90, 0x80, 0x80, 0xE2, 0x82]

/-- The octets are stored by a new object and by one that has its secret no more. -/
theorem secret_of_strayOctets :
    ∃ t, Text.Escaped strayOctets t ∧
      (∃ q, Properties.call [.word "u:a", .text t] [] = .ok q ∧
        q.read Field.password.name.toText = .ok (.secret strayOctets)) ∧
      ∃ p q, (run [] [("a".toText, .make [.word "u:a"] []), ("a".toText, .delete Field.password.name.toText)]).2.lookup
          "a".toText = some p ∧ p.assign Field.password.name.toText (.text t) = .ok q ∧
        q.read Field.password.name.toText = .ok (.secret strayOctets) := by
  obtain ⟨t, ht, made, assigned, -⟩ := secret_of_octets strayOctets
  have plain : (Properties.call [.word "u:a"] []).isOk := by decide
  have there : ((run [] [("a".toText, .make [.word "u:a"] []),
      ("a".toText, .delete Field.password.name.toText)]).2.lookup "a".toText).isSome := by decide
  refine ⟨t, (ht t).2 rfl, ?_, ?_⟩
  · cases hp : Properties.call [.word "u:a"] [] with
    | error f =>
      rw [hp] at plain
      cases plain
    | ok p =>
      obtain ⟨q, hq, -, -, secret, -⟩ := made _ _ _ hp rfl
      exact ⟨q, hq, secret⟩
  · obtain ⟨p, hp⟩ := Option.isSome_iff_exists.1 there
    have other : Field.password.name.toText ≠ Model.extraName := by decide
    obtain ⟨q, hq, secret⟩ := assigned _ (by simp [Action.KeepsFields, other]) _ p hp
    exact ⟨p, q, hp, hq, secret⟩

end Slots

end SaslBind
