import SaslBind.Proofs.Properties.Errors
import SaslBind.Proofs.Text.Collision

/-!
# Texts and secrets as octets

A secret that is given as a text is stored as octets, and a field of texts that is given octets reads them as a text.
On texts without surrogates the one takes the other back.  Texts with surrogates can be secrets too, and then their
octets are not always those of their parts.

* `Field.IsOfTexts` : the fields of texts;
* `Properties.StoresSecret p t bs` : the object stores these octets when the text is assigned to it as the secret;
  `storesSecret_iff`, they are those that the text stands for;
* `Properties.StoredFor t bs` : some object stores these octets after the text was given to it in any way;
* `Field.check_octets` : octets are taken as the text that they are strictly read as, and are refused if there is none.

Main statements: `octets_read_iff_stored`, which ties fields of texts to the secret, `secret_of_joined`, when the
secret of two texts, one after the other, is that of the first and then that of the second, and `secrets_stored_alike`,
which texts are the same secret.
-/

namespace SaslBind

namespace Field

/-- The fields of texts. -/
def IsOfTexts (f : Field) : Prop := f = .authenticationId ∨ f = .authorizationId ∨ f = .realm

variable {f : Field} {kind : OctetKind} {bs : List UInt8}

theorem check_text (hf : f.IsOfTexts) (t : Text) : ∃ a, f.check (.text t) = .ok a ∧ a.value = .text t := by
  rcases hf with rfl | rfl | rfl
  · exact ⟨.authenticationId t, rfl, rfl⟩
  · exact ⟨.authorizationId (some t), rfl, rfl⟩
  · exact ⟨.realm (some t), rfl, rfl⟩

theorem checkText_octets (hk : kind ≠ .view) :
    Value.checkText (.octets kind bs) = (Text.decode? bs).elim (.error .textNotUtf8) .ok := by
  cases kind with
  | view => exact absurd rfl hk
  | fixed | changeable =>
    unfold Value.checkText
    simp only
    cases Text.decode? bs <;> rfl

theorem check_octets (hf : f.IsOfTexts) (hk : kind ≠ .view) :
    f.check (.octets kind bs) =
      (Text.decode? bs).elim (.error (f.reject .textNotUtf8)) fun t => f.check (.text t) := by
  rcases hf with rfl | rfl | rfl
  · have read : authenticationId.check (.octets kind bs) =
        ((Value.checkText (.octets kind bs)).mapError (reject .authenticationId)).map .authenticationId := rfl
    rw [read, checkText_octets hk]
    cases Text.decode? bs <;> rfl
  · have read : authorizationId.check (.octets kind bs) =
        (((Value.checkText (.octets kind bs)).map some).mapError (reject .authorizationId)).map .authorizationId := rfl
    rw [read, checkText_octets hk]
    cases Text.decode? bs <;> rfl
  · have read : realm.check (.octets kind bs) =
        (((Value.checkText (.octets kind bs)).map some).mapError (reject .realm)).map .realm := rfl
    rw [read, checkText_octets hk]
    cases Text.decode? bs <;> rfl

theorem check_secret (t : Text) : password.check (.text t) = .ok (.password t.restore) := rfl

end Field

namespace Properties

variable {p s : Properties} {f : Field} {kind : OctetKind} {bs : List UInt8} {t : Text}

/-- The object stores the octets when the text is assigned to it as the secret. -/
def StoresSecret (p : Properties) (t : Text) (bs : List UInt8) : Prop :=
  ∃ q, p.assign Field.password.name.toText (.text t) = .ok q ∧ q.read Field.password.name.toText = .ok (.secret bs)

/-- What is stored for a text that is taken as the secret are the octets that it stands for. -/
theorem StoresSecret.restore_eq (h : p.StoresSecret t bs) : t.restore = bs := by
  obtain ⟨q, hq, read⟩ := h
  obtain ⟨a, ha, read'⟩ := check_of_assign hq
  rw [Field.check_secret] at ha
  obtain rfl := Except.ok.inj ha
  exact Value.secret.inj (Except.ok.inj (read'.symm.trans read))

/-- Any text is taken as a secret, and the octets that it stands for are stored. -/
theorem TakesAssignments.storesSecret_iff (h : p.TakesAssignments) : p.StoresSecret t bs ↔ t.restore = bs := by
  refine ⟨StoresSecret.restore_eq, ?_⟩
  rintro rfl
  exact h.assign_of_ok (Field.check_secret t)

/-- A text without surrogates is stored as the octets that are read as this text. -/
theorem TakesAssignments.storesSecret_iff_decode (h : p.TakesAssignments) :
    t.hasSurrogate = false ∧ p.StoresSecret t bs ↔ Text.decode? bs = some t := by
  rw [Text.decode?_eq_some_iff, h.storesSecret_iff]
  refine and_congr_right fun plain => ?_
  rw [Text.restore_of_plain plain, eq_comm]

theorem TakesAssignments.assign_octets_of_some (h : p.TakesAssignments) (hf : f.IsOfTexts) (hk : kind ≠ .view)
    (hd : Text.decode? bs = some t) :
    ∃ q, p.assign f.name.toText (.octets kind bs) = .ok q ∧ q.read f.name.toText = .ok (.text t) := by
  obtain ⟨a, ha, value⟩ := Field.check_text hf t
  have taken : f.check (.octets kind bs) = .ok a := by
    rw [Field.check_octets hf hk, hd]
    exact ha
  rw [← value]
  exact h.assign_of_ok taken

theorem TakesAssignments.assign_octets_of_none (h : p.TakesAssignments) (hf : f.IsOfTexts) (hk : kind ≠ .view)
    (hd : Text.decode? bs = none) :
    p.assign f.name.toText (.octets kind bs) =
      .error (.invalid .properties [⟨[.name f.name.toText], .textNotUtf8⟩]) := by
  have refused : f.check (.octets kind bs) = .error (f.reject .textNotUtf8) := by
    rw [Field.check_octets hf hk, hd]
    rfl
  exact h.assign_of_error refused

/-- **Fields of texts and the secret.**  A field of texts takes octets if and only if they are stored for some text
without surrogates that is given as the secret.  There is only one such text, and the field reads it; if there is none,
the only error is that the octets are no UTF-8.  And each text without surrogates comes back from the octets that are
stored for it. -/
theorem octets_read_iff_stored (hp : p.TakesAssignments) (hs : s.TakesAssignments) (hf : f.IsOfTexts)
    (hk : kind ≠ .view) :
    (∀ bs, ((∃ q, p.assign f.name.toText (.octets kind bs) = .ok q) ↔
        ∃ t, t.hasSurrogate = false ∧ s.StoresSecret t bs) ∧
      (∀ t, t.hasSurrogate = false → s.StoresSecret t bs →
        (∀ u, u.hasSurrogate = false → s.StoresSecret u bs → u = t) ∧
          ∃ q, p.assign f.name.toText (.octets kind bs) = .ok q ∧ q.read f.name.toText = .ok (.text t)) ∧
      ((∀ t, t.hasSurrogate = false → ¬ s.StoresSecret t bs) →
        ∃ e, p.assign f.name.toText (.octets kind bs) = .error (.invalid .properties [e]) ∧
          e.steps = [.name f.name.toText] ∧ e.complaint.kind = "string_unicode")) ∧
    ∀ t, t.hasSurrogate = false → ∃ bs, s.StoresSecret t bs ∧
      ∃ q, p.assign f.name.toText (.octets kind bs) = .ok q ∧ q.read f.name.toText = .ok (.text t) := by
  have taken : ∀ {bs t}, t.hasSurrogate = false → s.StoresSecret t bs →
      ∃ q, p.assign f.name.toText (.octets kind bs) = .ok q ∧ q.read f.name.toText = .ok (.text t) :=
    fun plain stored => hp.assign_octets_of_some hf hk (hs.storesSecret_iff_decode.1 ⟨plain, stored⟩)
  refine ⟨fun bs => ⟨⟨?_, ?_⟩, fun t plain stored => ⟨fun u plain' stored' => ?_, taken plain stored⟩, fun none => ?_⟩,
    fun t plain => ?_⟩
  · rintro ⟨q, hq⟩
    cases hd : Text.decode? bs with
    | some t => exact ⟨t, hs.storesSecret_iff_decode.2 hd⟩
    | none =>
      rw [hp.assign_octets_of_none hf hk hd] at hq
      cases hq
  · rintro ⟨t, plain, stored⟩
    obtain ⟨q, hq, -⟩ := taken plain stored
    exact ⟨q, hq⟩
  · have read := hs.storesSecret_iff_decode.1 ⟨plain, stored⟩
    have read' := hs.storesSecret_iff_decode.1 ⟨plain', stored'⟩
    exact Option.some.inj (read'.symm.trans read)
  · cases hd : Text.decode? bs with
    | some t =>
      obtain ⟨plain, stored⟩ := hs.storesSecret_iff_decode.2 hd
      exact absurd stored (none t plain)
    | none => exact ⟨_, hp.assign_octets_of_none hf hk hd, rfl, rfl⟩
  · have stored := hs.storesSecret_iff.2 (rfl : t.restore = t.restore)
    exact ⟨t.restore, stored, taken plain stored⟩

/-- A letter and the first two octets of three. -/
def cutOctets : List UInt8 := [0x61, 0xE2, 0x82]

/-- The realm refuses octets that break off, as they are stored for no text without surrogates, and reads the euro sign
from its octets. -/
theorem octets_read_iff_stored_cutOctets :
    ∃ p, (Slots.run [] Slots.plainRun).2.lookup "a".toText = some p ∧ p.TakesAssignments ∧
      Field.realm.IsOfTexts ∧ OctetKind.changeable ≠ .view ∧
      (∃ e, p.assign Field.realm.name.toText (.octets .changeable cutOctets) = .error (.invalid .properties [e]) ∧
        e.steps = [.name Field.realm.name.toText] ∧ e.complaint.kind = "string_unicode") ∧
      ∃ q, p.assign Field.realm.name.toText (.octets .changeable [0xE2, 0x82, 0xAC]) = .ok q ∧
        q.read Field.realm.name.toText = .ok (.word "\u20AC") := by
  obtain ⟨p, hp, takes⟩ := Slots.exists_plain
  have realm : Field.realm.IsOfTexts := .inr (.inr rfl)
  have kind : OctetKind.changeable ≠ .view := by decide
  obtain ⟨octets, -⟩ := octets_read_iff_stored takes takes realm kind
  have unread : Text.decode? cutOctets = none := by decide +kernel
  have none : ∀ t : Text, t.hasSurrogate = false → ¬ p.StoresSecret t cutOctets := by
    intro t plain stored
    rw [takes.storesSecret_iff_decode.1 ⟨plain, stored⟩] at unread
    cases unread
  have euro : p.StoresSecret "\u20AC".toText [0xE2, 0x82, 0xAC] := takes.storesSecret_iff.2 (by decide)
  exact ⟨p, hp, takes, realm, kind, (octets cutOctets).2.2 none, ((octets _).2.1 _ (by decide) euro).2⟩

/-! ### Secrets one after the other -/

/-- **Secrets one after the other.**  Any text is taken as a secret, by a new object in each of the ways to give it, and
by an assignment; what is stored are the octets that the text stands for.  The octets of two texts, one after the
other, are those of the first and then those of the second, except where one of the texts has a surrogate that carries
no octet, and the other one has surrogates and all of them carry one. -/
theorem secret_of_joined :
    (∀ (t : Text) a named p, call [a] named = .ok p → named.lookup Field.password.name.toText = none →
      ∃ q, call [a, .text t] named = .ok q ∧ call [a] ((Field.password.name.toText, .text t) :: named) = .ok q ∧
        validate (.dict (withSecret a (.text t) named)) = .ok q ∧
        q.read Field.password.name.toText = .ok (.secret t.restore)) ∧
    (∀ p : Properties, p.TakesAssignments → ∀ t, p.StoresSecret t t.restore) ∧
    ∀ s t, Text.restore (s ++ t) = s.restore ++ t.restore ↔
      ¬ (s.IsForeign ∧ t.Carries ∨ t.IsForeign ∧ s.Carries) := by
  refine ⟨fun t a named p hp hs => ?_, fun p hp t => hp.storesSecret_iff.2 rfl, Text.restore_append_iff⟩
  obtain ⟨q, byPlace, byName, inDict, secret, -⟩ := made_with_taken (Field.check_secret t) hp hs
  exact ⟨q, byPlace, byName, inDict, secret⟩

/-- A surrogate that carries no octet. -/
def foreign : Text := [⟨0xD800, by decide⟩]

/-- A surrogate that carries an octet. -/
def carrier : Text := [.ofOctet 0xFF]

/-- The octet that a surrogate carries is stored alone and after an accented letter, but not before a surrogate that
carries none. -/
theorem secret_of_joined_carrier :
    (∃ p, (Slots.run [] Slots.plainRun).2.lookup "a".toText = some p ∧ p.TakesAssignments ∧
      p.StoresSecret carrier [0xFF] ∧ p.StoresSecret ("\u00E9".toText ++ carrier) [0xC3, 0xA9, 0xFF]) ∧
    Text.restore ("\u00E9".toText ++ carrier) = Text.restore "\u00E9".toText ++ carrier.restore ∧
    Text.restore (carrier ++ foreign) ≠ carrier.restore ++ foreign.restore := by
  obtain ⟨-, stored, joined⟩ := secret_of_joined
  obtain ⟨p, hp, takes⟩ := Slots.exists_plain
  refine ⟨⟨p, hp, takes, stored p takes carrier, stored p takes _⟩, (joined _ _).2 ?_, fun h => (joined _ _).1 h ?_⟩
  · rintro (⟨⟨c, hc, surrogate, -⟩, -⟩ | ⟨⟨c, hc, surrogate, alone⟩, -⟩)
    · obtain rfl := List.mem_singleton.1 hc
      exact absurd surrogate (by decide)
    · obtain rfl := List.mem_singleton.1 hc
      exact absurd alone (by decide)
  · refine .inr ⟨⟨_, List.mem_singleton_self _, by decide, by decide⟩, ⟨_, List.mem_singleton_self _, by decide⟩, ?_⟩
    intro c hc _
    obtain rfl := List.mem_singleton.1 hc
    decide

/-! ### Secrets that are stored alike -/

/-- An object stores these octets after the text was given to it as the secret: it was made with the text, or the text
was assigned to it. -/
inductive StoredFor (t : Text) (bs : List UInt8) : Prop
  | made {values : Arguments} {p : Properties} (h : MadeOf values (.ok p))
      (given : values.lookup Field.password.name.toText = some (.text t))
      (stored : p.read Field.password.name.toText = .ok (.secret bs))
  | assigned {p : Properties} (h : p.StoresSecret t bs)

theorem StoredFor.restore_eq (h : StoredFor t bs) : t.restore = bs := by
  cases h with
  | assigned h => exact h.restore_eq
  | @made values p h given stored =>
    obtain ⟨-, -, -, fields⟩ := construct_ok (h.construct_eq_ok rfl)
    obtain ⟨a, ha, hl⟩ := fields .password
    have taken : construct1 values .password = .ok (.password t.restore) := by
      rw [construct1, given]
      exact Field.check_secret t
    rw [taken] at ha
    obtain rfl := Except.ok.inj ha
    rw [Object.read_of_lookup (isPlain_name .password) hl] at stored
    exact Value.secret.inj (Except.ok.inj stored)

theorem storedFor_iff : StoredFor t bs ↔ t.restore = bs := by
  refine ⟨StoredFor.restore_eq, ?_⟩
  rintro rfl
  obtain ⟨p, -, takes⟩ := Slots.exists_plain
  exact .assigned (takes.storesSecret_iff.2 rfl)

/-- **Secrets that are stored alike.**  For each text certain octets are stored, in whichever way it is given.  Where
the same octets are stored for two texts, one of them has surrogates and all of these carry an octet; two texts that
have no surrogates, or one that carries no octet, are the same then. -/
theorem secrets_stored_alike :
    (∀ t, ∃ bs, ∀ cs, StoredFor t cs ↔ bs = cs) ∧
    (∀ s t bs, StoredFor s bs → StoredFor t bs → s ≠ t → s.Carries ∨ t.Carries) ∧
    ∀ s t bs, StoredFor s bs → StoredFor t bs → s.hasSurrogate = false ∨ s.IsForeign →
      t.hasSurrogate = false ∨ t.IsForeign → s = t := by
  have alone : ∀ s t bs, StoredFor s bs → StoredFor t bs → ¬ s.Carries → ¬ t.Carries → s = t :=
    fun s t bs hs ht cs ct => Text.restore_injOn cs ct (hs.restore_eq.trans ht.restore_eq.symm)
  refine ⟨fun t => ⟨t.restore, fun cs => storedFor_iff⟩, fun s t bs hs ht hne => ?_, fun s t bs hs ht cs ct => ?_⟩
  · by_contra h
    obtain ⟨cs, ct⟩ := not_or.1 h
    exact hne (alone s t bs hs ht cs ct)
  · exact alone s t bs hs ht (Text.not_carries_iff.2 cs) (Text.not_carries_iff.2 ct)

/-- The two octets of an accented letter, each carried by a surrogate. -/
def carriedLetter : Text := [.ofOctet 0xC3, .ofOctet 0xA9]

/-- A character beyond the first 65536. -/
def astral : Text := [⟨0x1F600, by decide⟩]

/-- The two halves of that character in UTF-16. -/
def halves : Text := [⟨0xD83D, by decide⟩, ⟨0xDE00, by decide⟩]

/-- The same octets are stored for an accented letter and for the surrogates that carry its octets, so these carry
some; but not for an astral character and for its two halves. -/
theorem secrets_stored_alike_letter :
    (StoredFor "\u00E9".toText [0xC3, 0xA9] ∧ StoredFor carriedLetter [0xC3, 0xA9] ∧
      ("\u00E9".toText.Carries ∨ carriedLetter.Carries)) ∧
    ∀ bs, ¬ (StoredFor astral bs ∧ StoredFor halves bs) := by
  obtain ⟨-, carries, same⟩ := secrets_stored_alike
  have letter : StoredFor "\u00E9".toText [0xC3, 0xA9] := storedFor_iff.2 (by decide)
  have carried : StoredFor carriedLetter [0xC3, 0xA9] := storedFor_iff.2 (by decide)
  refine ⟨⟨letter, carried, carries _ _ _ letter carried (by decide)⟩, ?_⟩
  rintro bs ⟨whole, parts⟩
  have foreign : halves.IsForeign := ⟨_, List.mem_cons_self, by decide, by decide⟩
  have equal := same _ _ bs whole parts (.inl (by decide)) (.inr foreign)
  exact absurd equal (by decide)

end Properties

end SaslBind
