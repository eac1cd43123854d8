import SaslBind.Proofs.Properties.Secret

/-!
# The line about an object

An object that is made of texts, a secret and levels is always made, and it has a line, which shows the texts that
were given and the levels.  A realm that is empty is shown, one that was not given is not.

* `Properties.line` : the line, from texts and levels;
* `describe_of_valueOf`, `describe_of_read` : an object whose fields come out as these has that line;
* `check_levels` : a list of levels is taken.

Main statements: `made_of_texts`, and `line_ne_line`, the line tells an empty realm from none.
-/

namespace SaslBind

namespace Qop

theorem mapM_textOfValue (levels : List Qop) :
    (levels.map Value.qop).mapM textOfValue = .ok (levels.map value) := by
  induction levels with
  | nil => rfl
  | cons q levels ih =>
    rw [List.map_cons, List.mapM_cons, ih]
    rfl

theorem listOfValue_levels (levels : List Qop) : listOfValue (.tuple (levels.map .qop)) = .ok (toText levels) := by
  have items : (Value.tuple (levels.map .qop)).items? = some (levels.map .qop) := rfl
  rw [listOfValue, items]
  simp only [mapM_textOfValue]
  rfl

end Qop

namespace Field

theorem check_levels (levels : List Qop) :
    allowedQop.check (.list (levels.map .qop)) = .ok (.allowedQop (orDefault levels)) := by
  change (checkItems .allowedQop (levels.map .qop)).map Attribute.allowedQop = _
  rw [checkItems_levels]
  rfl

end Field

namespace Properties

open Attribute (optionalText)

/-- The line about an object with these texts and levels. -/
def line (authenticationId : Text) (authorizationId realm : Option Text) (levels : List Qop) : Text :=
  Model.properties.title.toText ++ "(".toText ++
    Text.join ", ".toText
      (labelled .authenticationId authenticationId ::
        (authorizationId.toList.map (labelled .authorizationId) ++ realm.toList.map (labelled .realm) ++
          ["qop='".toText ++ Qop.toText levels ++ "'".toText])) ++
    ")".toText

theorem readOr_of_read {o : Object} {name : Text} {v : Value} (h : o.read name = .ok v) (other : Value) :
    o.readOr name other = .ok v := by
  rw [Object.readOr, h]

theorem labelledIfAny_optionalText (f : Field) (t : Option Text) :
    labelledIfAny f (optionalText t) = .ok (t.toList.map (labelled f)) := by
  cases t <;> rfl

/-- An object whose fields come out as texts and levels has the line about these; it shows an identity even if there is
none. -/
theorem describe_of_valueOf {p : Properties} {a z r : Option Text} {levels : List Qop}
    (ha : p.valueOf .authenticationId = .ok (optionalText a))
    (hz : p.valueOf .authorizationId = .ok (optionalText z)) (hr : p.valueOf .realm = .ok (optionalText r))
    (hl : p.levels = .ok (.tuple (levels.map .qop))) :
    p.describe = .ok (line (a.getD Value.null.str) z r levels) := by
  have first : shown (optionalText a) = .ok (a.getD Value.null.str) := by cases a <;> rfl
  have parts : p.parts = .ok (labelled .authenticationId (a.getD Value.null.str) ::
      (z.toList.map (labelled .authorizationId) ++ r.toList.map (labelled .realm) ++
        ["qop='".toText ++ Qop.toText levels ++ "'".toText])) := by
    unfold Properties.parts
    simp only [ha, hz, hr, hl, first, Bind.bind, Except.bind, labelledIfAny_optionalText, Qop.listOfValue_levels]
    rfl
  rw [describe, parts]
  rfl

/-- An object whose fields read as texts and levels has the line about these. -/
theorem describe_of_read {p : Properties} {a : Text} {z r : Option Text} {levels : List Qop}
    (ha : p.read Field.authenticationId.name.toText = .ok (.text a))
    (hz : p.read Field.authorizationId.name.toText = .ok (optionalText z))
    (hr : p.read Field.realm.name.toText = .ok (optionalText r))
    (hl : p.read Field.allowedQop.name.toText = .ok (.tuple (levels.map .qop))) :
    p.describe = .ok (line a z r levels) :=
  describe_of_valueOf (a := some a) (readOr_of_read ha _) (readOr_of_read hz _) (readOr_of_read hr _)
    (readOr_of_read hl _)

/-- What is given by name besides an identity and a secret. -/
def furtherTexts (z r : Option Text) (levels : List Qop) : Arguments :=
  [(Field.authorizationId.name.toText, optionalText z), (Field.realm.name.toText, optionalText r),
    (Field.allowedQop.name.toText, .list (levels.map .qop))]

/-- The names besides those of an identity and a secret are those of no parameters. -/
theorem free_further (z r levels : Value) :
    Free [(Field.authorizationId.name.toText, z), (Field.realm.name.toText, r),
      (Field.allowedQop.name.toText, levels)] := by
  have names : ∀ name ∈ [Field.authorizationId, Field.realm, Field.allowedQop].map (·.name.toText),
      name ∉ parameters := by decide
  intro e he
  exact names e.1 (List.mem_map_of_mem (f := Prod.fst) he)

theorem free_furtherTexts (z r : Option Text) (levels : List Qop) : Free (furtherTexts z r levels) :=
  free_further _ _ _

/-- What fields make of texts, octets and levels. -/
def attributesOf (a : Text) (bs : List UInt8) (z r : Option Text) (levels : List Qop) : Field → Attribute
  | .authenticationId => .authenticationId a
  | .password => .password bs
  | .authorizationId => .authorizationId z
  | .realm => .realm r
  | .allowedQop => .allowedQop (Field.orDefault levels)

/-- **An object of texts is made.**  Whatever the texts are, an object is made of them, a secret that is taken and
levels, and it has the line about these. -/
theorem made_of_texts {secret : Value} {bs : List UInt8} (hs : Field.password.check secret = .ok (.password bs))
    (a : Text) (z r : Option Text) (levels : List Qop) :
    ∃ p, call [.text a, secret] (furtherTexts z r levels) = .ok p ∧
      p.describe = .ok (line a z r (Field.orDefault levels)) := by
  have taken : ∀ f, construct1 (withSecret (.text a) secret (furtherTexts z r levels)) f =
      .ok (attributesOf a bs z r levels f) := by
    intro f
    cases f with
    | authenticationId => rfl
    | password => exact hs
    | authorizationId => cases z <;> rfl
    | realm => cases r <;> rfl
    | allowedQop => exact Field.check_levels levels
  obtain ⟨p, hp⟩ := exists_construct fun f => ⟨_, taken f⟩
  obtain ⟨-, -, -, fields⟩ := construct_ok hp
  have read : ∀ f : Field, p.read f.name.toText = .ok (attributesOf a bs z r levels f).value := by
    intro f
    obtain ⟨b, hb, hl⟩ := fields f
    rw [taken f] at hb
    rw [Object.read_of_lookup (isPlain_name f) hl, ← Except.ok.inj hb]
  refine ⟨p, ?_, describe_of_read (read .authenticationId) (read .authorizationId) (read .realm) (read .allowedQop)⟩
  rw [call, bind_place (free_furtherTexts z r levels)]
  exact hp

/-- The line tells an empty realm from none. -/
theorem line_ne_line (a : Text) (z : Option Text) (levels : List Qop) :
    line a z none levels ≠ line a z (some []) levels := by
  intro h
  -- the empty realm is shown in quotes after a comma, so its line is the longer one
  have lengths := congrArg List.length h
  have comma : (", ".toText).length = 2 := rfl
  cases z <;>
  · simp [line, Text.join, labelled] at lengths
    omega

end Properties

end SaslBind
