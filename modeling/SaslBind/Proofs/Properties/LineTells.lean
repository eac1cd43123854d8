import SaslBind.Proofs.Properties.Line
import SaslBind.Proofs.Properties.Typed
import SaslBind.Proofs.Qop.Listing

/-!
# What the line about an object tells

The line shows texts as they are, between quotes that no backslash guards, so a text may look like the rest of a line.
But the levels come last, and no level has a quote in it: they can be told from the end of the line, whatever stands
before them.  From its beginning the line tells a text up to the first quote.

* `Text.append_cons_inj`, `Text.append_cons_inj_last` : where a text is parted by the first, or the last, of a character;
* `Properties.describe_cases` : what a line is made of;
* `Properties.ShowsLevels` : the levels that the line shows; `describe_ok`, they stand at its end;
* `Properties.line_inj` : lines about texts without quotes.

Main statement: `line_tells`.  It is about objects whose fields hold values of their kind; `line_hides_kind` shows that a
truth value in the place of a text can not be told from the word for it.
-/

namespace SaslBind

namespace Text

/-! ### Parting a text -/

theorem append_cons_inj {c : CodePoint} {s s' t t' : Text} (hs : c ∉ s) (hs' : c ∉ s')
    (h : s ++ c :: t = s' ++ c :: t') : s = s' ∧ t = t' := by
  induction s generalizing s' with
  | nil =>
    cases s' with
    | nil => exact ⟨rfl, (List.cons.inj h).2⟩
    | cons d s' => exact absurd ((List.cons.inj h).1 ▸ List.mem_cons_self) hs'
  | cons d s ih =>
    cases s' with
    | nil => exact absurd ((List.cons.inj h).1 ▸ List.mem_cons_self) hs
    | cons d' s' =>
      obtain ⟨hd, rest⟩ := List.cons.inj h
      obtain ⟨rfl, rfl⟩ := ih (mt (List.mem_cons_of_mem _) hs) (mt (List.mem_cons_of_mem _) hs') rest
      exact ⟨congrArg (· :: s) hd, rfl⟩

theorem append_cons_inj_last {c : CodePoint} {s s' t t' : Text} (ht : c ∉ t) (ht' : c ∉ t')
    (h : s ++ c :: t = s' ++ c :: t') : s = s' ∧ t = t' := by
  have reversed : t.reverse ++ c :: s.reverse = t'.reverse ++ c :: s'.reverse := by
    simpa using congrArg List.reverse h
  obtain ⟨after, before⟩ := append_cons_inj (mt List.mem_reverse.1 ht) (mt List.mem_reverse.1 ht') reversed
  exact ⟨List.reverse_inj.1 before, List.reverse_inj.1 after⟩

end Text

namespace Qop

def quote : CodePoint := CodePoint.ofChar '\''

theorem quote_not_mem_toText (levels : List Qop) : quote ∉ toText levels := by
  have values (q : Qop) : quote ∉ q.value := by cases q <;> decide
  have comma : quote ∉ ",".toText := by decide
  cases levels with
  | nil => exact List.not_mem_nil
  | cons q levels =>
    rw [toText, List.map_cons, Text.join_cons, List.mem_append, List.mem_flatMap]
    rintro (h | ⟨item, hi, h⟩)
    · exact values q h
    · obtain ⟨r, -, rfl⟩ := List.mem_map.1 hi
      exact (List.mem_append.1 h).elim comma (values r)

theorem toText_injective {levels levels' : List Qop} (h : toText levels = toText levels') : levels = levels' := by
  have decoded := decodeText_toText levels
  rw [h, decodeText_toText] at decoded
  exact (Except.ok.inj decoded).symm

theorem mapM_textOfValue_ok {vs : List Value} {ts : List Text} (h : vs.mapM textOfValue = .ok ts) :
    ∃ levels : List Qop, vs = levels.map .qop ∧ ts = levels.map value := by
  induction vs generalizing ts with
  | nil =>
    obtain rfl := Except.ok.inj h
    exact ⟨[], rfl, rfl⟩
  | cons v vs ih =>
    rw [List.mapM_cons] at h
    obtain ⟨t, ht, h⟩ := ok_of_bind h
    obtain ⟨rest, hr, h⟩ := ok_of_bind h
    obtain rfl := Except.ok.inj h
    obtain ⟨levels, rfl, rfl⟩ := ih hr
    unfold textOfValue at ht
    split at ht
    · next q => exact ⟨q :: levels, rfl, by rw [← Except.ok.inj ht]; rfl⟩
    · cases ht

theorem listOfValue_ok {v : Value} {t : Text} (h : listOfValue v = .ok t) :
    ∃ levels : List Qop, v.items? = some (levels.map .qop) ∧ t = toText levels := by
  unfold listOfValue at h
  split at h
  · next vs hv =>
    obtain ⟨ts, ht, rfl⟩ := ok_of_map h
    obtain ⟨levels, rfl, rfl⟩ := mapM_textOfValue_ok ht
    exact ⟨levels, hv, rfl⟩
  · cases h

end Qop

namespace Properties

open Attribute (optionalText)

/-- The levels that the line about an object shows: those that come out of its field of levels, and none if that was
deleted. -/
def ShowsLevels (p : Properties) (levels : List Qop) : Prop :=
  ∃ v, p.levels = .ok v ∧ v.items? = some (levels.map .qop)

def levelsEnd (levels : List Qop) : Text := "qop=".toText ++ Qop.quote :: (Qop.toText levels ++ "')".toText)

/-- A line is made of what is shown of the fields of texts, and of the levels. -/
theorem describe_cases {p : Properties} {line : Text} (h : p.describe = .ok line) :
    ∃ (first : Text) (second third : List Text) (levels : List Qop),
      (∃ a, p.valueOf .authenticationId = .ok a ∧ shown a = .ok first) ∧
      (∃ z, p.valueOf .authorizationId = .ok z ∧ labelledIfAny .authorizationId z = .ok second) ∧
      (∃ r, p.valueOf .realm = .ok r ∧ labelledIfAny .realm r = .ok third) ∧ p.ShowsLevels levels ∧
      line = Model.properties.title.toText ++ "(".toText ++
        Text.join ", ".toText (labelled .authenticationId first ::
          (second ++ third ++ ["qop='".toText ++ Qop.toText levels ++ "'".toText])) ++ ")".toText := by
  obtain ⟨parts, hp, rfl⟩ := ok_of_map h
  unfold Properties.parts at hp
  obtain ⟨a, ha, hp⟩ := ok_of_bind hp
  obtain ⟨z, hz, hp⟩ := ok_of_bind hp
  obtain ⟨r, hr, hp⟩ := ok_of_bind hp
  obtain ⟨v, hv, hp⟩ := ok_of_bind hp
  obtain ⟨first, hfirst, hp⟩ := ok_of_bind hp
  obtain ⟨second, hsecond, hp⟩ := ok_of_bind hp
  obtain ⟨third, hthird, hp⟩ := ok_of_bind hp
  obtain ⟨last, hlast, hp⟩ := ok_of_bind hp
  obtain rfl := Except.ok.inj hp
  obtain ⟨levels, items, rfl⟩ := Qop.listOfValue_ok hlast
  exact ⟨first, second, third, levels, ⟨a, ha, hfirst⟩, ⟨z, hz, hsecond⟩, ⟨r, hr, hthird⟩, ⟨v, hv, items⟩, rfl⟩

/-- A line ends with the levels of the object. -/
theorem describe_ok {p : Properties} {t : Text} (h : p.describe = .ok t) :
    ∃ levels, p.ShowsLevels levels ∧ ∃ before, t = before ++ levelsEnd levels := by
  obtain ⟨first, second, third, levels, -, -, -, shows, rfl⟩ := describe_cases h
  refine ⟨levels, shows, Model.properties.title.toText ++ "(".toText ++ (labelled .authenticationId first ++
    (second ++ third).flatMap (", ".toText ++ ·)) ++ ", ".toText, ?_⟩
  rw [Text.join_cons, List.flatMap_append]
  simp [levelsEnd, String.toText, Qop.quote]

/-- Lines that are the same show the same levels. -/
theorem levelsEnd_inj {before before' : Text} {levels levels' : List Qop}
    (h : before ++ levelsEnd levels = before' ++ levelsEnd levels') : before = before' ∧ levels = levels' := by
  unfold levelsEnd at h
  have open' : (before ++ "qop=".toText) ++ Qop.quote :: Qop.toText levels =
      (before' ++ "qop=".toText) ++ Qop.quote :: Qop.toText levels' := by
    have closed : (before ++ "qop=".toText) ++ Qop.quote :: Qop.toText levels ++ "')".toText =
        (before' ++ "qop=".toText) ++ Qop.quote :: Qop.toText levels' ++ "')".toText := by simpa using h
    exact List.append_cancel_right closed
  obtain ⟨front, list⟩ := Text.append_cons_inj_last (Qop.quote_not_mem_toText _) (Qop.quote_not_mem_toText _) open'
  exact ⟨List.append_cancel_right front, Qop.toText_injective list⟩

/-! ### Texts without quotes -/

/-- A field and its text, after a comma; nothing if it has none. -/
def part (f : Field) (t : Option Text) : Text := t.elim [] fun t => ", ".toText ++ labelled f t

theorem line_eq (a : Text) (z r : Option Text) (levels : List Qop) :
    line a z r levels = Model.properties.title.toText ++ "(".toText ++ (labelled .authenticationId a ++
      (part .authorizationId z ++ (part .realm r ++ (", ".toText ++ levelsEnd levels)))) := by
  rw [line, Text.join_cons]
  cases z <;> cases r <;> simp [part, levelsEnd, labelled, String.toText, Qop.quote]

theorem line_ends (a : Text) (z r : Option Text) (levels : List Qop) :
    ∃ before, line a z r levels = before ++ levelsEnd levels := by
  refine ⟨Model.properties.title.toText ++ "(".toText ++ labelled .authenticationId a ++ part .authorizationId z ++
    part .realm r ++ ", ".toText, ?_⟩
  simp only [line_eq, List.append_assoc]

/-- Without quotes in it, a text between quotes is told from what comes after it. -/
theorem labelled_append_inj {f : Field} {t t' u u' : Text} (ht : Qop.quote ∉ t) (ht' : Qop.quote ∉ t')
    (h : labelled f t ++ u = labelled f t' ++ u') : t = t' ∧ u = u' := by
  have close : f.name.toText ++ "='".toText ++ (t ++ Qop.quote :: u) =
      f.name.toText ++ "='".toText ++ (t' ++ Qop.quote :: u') := by
    simpa [labelled, String.toText, Qop.quote] using h
  exact Text.append_cons_inj ht ht' (List.append_cancel_left close)

/-- A field that is shown begins with another letter than what comes after it, so it is told whether it is shown. -/
theorem part_append_inj {f : Field} {t t' : Option Text} {u u' : Text} (ht : ∀ s ∈ t, Qop.quote ∉ s)
    (ht' : ∀ s ∈ t', Qop.quote ∉ s) (hu : u[2]? ≠ f.name.toText[0]?) (hu' : u'[2]? ≠ f.name.toText[0]?)
    (h : part f t ++ u = part f t' ++ u') : t = t' ∧ u = u' := by
  have letter (s v : Text) : (part f (some s) ++ v)[2]? = f.name.toText[0]? := by cases f <;> rfl
  cases t with
  | none =>
    cases t' with
    | none => exact ⟨rfl, h⟩
    | some s => exact absurd ((congrArg (·[2]?) h).trans (letter s u')) hu
  | some s =>
    cases t' with
    | none => exact absurd ((congrArg (·[2]?) h).symm.trans (letter s u)) hu'
    | some s' =>
      have shown : labelled f s ++ u = labelled f s' ++ u' := by simpa [part] using h
      obtain ⟨rfl, rfl⟩ := labelled_append_inj (ht s rfl) (ht' s' rfl) shown
      exact ⟨rfl, rfl⟩

/-- Lines about texts without quotes are the same only for the same texts. -/
theorem line_inj {a a' : Text} {z z' r r' : Option Text} {levels levels' : List Qop} (ha : Qop.quote ∉ a)
    (ha' : Qop.quote ∉ a') (hz : ∀ s ∈ z, Qop.quote ∉ s) (hz' : ∀ s ∈ z', Qop.quote ∉ s)
    (hr : ∀ s ∈ r, Qop.quote ∉ s) (hr' : ∀ s ∈ r', Qop.quote ∉ s) (h : line a z r levels = line a' z' r' levels') :
    a = a' ∧ z = z' ∧ r = r' := by
  -- the third character after a text tells which of the three parts comes next
  have levelsOther (levels : List Qop) :
      (", ".toText ++ levelsEnd levels)[2]? ≠ Field.realm.name.toText[0]? := by
    have letter : (", ".toText ++ levelsEnd levels)[2]? = some (CodePoint.ofChar 'q') := rfl
    rw [letter]
    decide
  have realmOther (r : Option Text) (levels : List Qop) :
      (part .realm r ++ (", ".toText ++ levelsEnd levels))[2]? ≠ Field.authorizationId.name.toText[0]? := by
    have letter : (part .realm r ++ (", ".toText ++ levelsEnd levels))[2]? =
        some (CodePoint.ofChar (if r.isSome then 'r' else 'q')) := by cases r <;> rfl
    rw [letter]
    cases r.isSome <;> decide
  rw [line_eq, line_eq] at h
  obtain ⟨rfl, further⟩ := labelled_append_inj ha ha' (List.append_cancel_left h)
  obtain ⟨rfl, last⟩ := part_append_inj hz hz' (realmOther _ _) (realmOther _ _) further
  obtain ⟨rfl, -⟩ := part_append_inj hr hr' (levelsOther _) (levelsOther _) last
  exact ⟨rfl, rfl, rfl⟩

/-- No field holds a text with a quote in it. -/
def NoQuotes (values : Field → Value) : Prop := ∀ f t, values f = .text t → Qop.quote ∉ t

/-- Fields that hold values of their kind hold texts and levels. -/
theorem exists_texts {values : Field → Value} (h : ∀ f : Field, f.Holds (values f)) :
    ∃ (a : Text) (z r : Option Text) (levels : List Qop), values .authenticationId = .text a ∧
      values .authorizationId = optionalText z ∧ values .realm = optionalText r ∧
      values .allowedQop = .tuple (levels.map .qop) := by
  have optional {v : Value} (hv : v = .null ∨ ∃ t, v = .text t) : ∃ t, v = optionalText t := by
    rcases hv with rfl | ⟨t, rfl⟩
    · exact ⟨none, rfl⟩
    · exact ⟨some t, rfl⟩
  obtain ⟨a, ha⟩ := h .authenticationId
  obtain ⟨z, hz⟩ := optional (h .authorizationId)
  obtain ⟨r, hr⟩ := optional (h .realm)
  obtain ⟨q, levels, hl⟩ := h .allowedQop
  exact ⟨a, z, r, q :: levels, ha, hz, hr, hl⟩

theorem NoQuotes.optional {values : Field → Value} (h : NoQuotes values) {f : Field} {t : Option Text}
    (hf : values f = optionalText t) : ∀ s ∈ t, Qop.quote ∉ s := by
  rintro s rfl
  exact h f s hf

/-- Objects that hold values of their kind in all fields have lines, and lines that are the same tell the same levels,
and the same texts if there are no quotes in these. -/
theorem Typed.texts_of_line {p q : Properties} (hp : p.Typed) (hq : q.Typed) {values values' : Field → Value}
    (hv : p.Stores values) (hv' : q.Stores values') :
    (∃ t, p.describe = .ok t) ∧
    (p.describe = q.describe → values .allowedQop = values' .allowedQop ∧
      (NoQuotes values → NoQuotes values' → ∀ f, f ≠ .password → values f = values' f)) := by
  obtain ⟨a, z, r, levels, ha, hz, hr, hl⟩ := exists_texts fun f => hp.holds_of_read (hv f)
  obtain ⟨a', z', r', levels', ha', hz', hr', hl'⟩ := exists_texts fun f => hq.holds_of_read (hv' f)
  have shown := describe_of_read (ha ▸ hv _) (hz ▸ hv _) (hr ▸ hv _) (hl ▸ hv _)
  have shown' := describe_of_read (ha' ▸ hv' _) (hz' ▸ hv' _) (hr' ▸ hv' _) (hl' ▸ hv' _)
  refine ⟨⟨_, shown⟩, fun same => ?_⟩
  rw [shown, shown'] at same
  have lines := Except.ok.inj same
  have levelsSame : levels = levels' := by
    obtain ⟨before, hb⟩ := line_ends a z r levels
    obtain ⟨before', hb'⟩ := line_ends a' z' r' levels'
    rw [hb, hb'] at lines
    exact (levelsEnd_inj lines).2
  refine ⟨by rw [hl, hl', levelsSame], fun plain plain' f hf => ?_⟩
  obtain ⟨rfl, rfl, rfl⟩ := line_inj (plain _ _ ha) (plain' _ _ ha') (plain.optional hz) (plain'.optional hz')
    (plain.optional hr) (plain'.optional hr') lines
  cases f with
  | authenticationId => rw [ha, ha']
  | password => exact absurd rfl hf
  | authorizationId => rw [hz, hz']
  | realm => rw [hr, hr']
  | allowedQop => rw [hl, hl', levelsSame]

def hasNoQuotes (p : Properties) : Bool := p.textsPass (Qop.quote ∉ ·)

theorem noQuotes_valuesOf {p : Properties} (h : p.hasNoQuotes) : NoQuotes p.valuesOf :=
  fun _ _ hf => of_decide_eq_true (passes_of_textsPass h hf)

end Properties

namespace Slots

/-- **What the line tells.**  Two objects with the same line show the same levels, whatever became of them.  After runs
that kept values of their kind in the fields, objects with all their fields have lines; if these are the same then the
fields of levels are equal, and so are all other fields but the secret, if no field has a text with a single quote:
nothing and an empty text are told apart. -/
theorem line_tells :
    (∀ (p q : Properties) (t : Text), p.describe = .ok t → q.describe = .ok t →
      ∃ levels, p.ShowsLevels levels ∧ q.ShowsLevels levels) ∧
    ∀ steps more : List (Text × Action), (∀ step ∈ steps, step.2.KeepsTypes) → (∀ step ∈ more, step.2.KeepsTypes) →
      ∀ slot p other q, (run [] steps).2.lookup slot = some p → (run [] more).2.lookup other = some q →
        ∀ values values', p.Stores values → q.Stores values' →
          (∃ t, p.describe = .ok t) ∧
          (p.describe = q.describe → values .allowedQop = values' .allowedQop ∧
            (Properties.NoQuotes values → Properties.NoQuotes values' →
              ∀ f, f ≠ Field.password → values f = values' f)) := by
  refine ⟨fun p q t hp hq => ?_, fun steps more hs hm slot p other q hp hq values values' hv hv' => ?_⟩
  · obtain ⟨levels, shows, before, rfl⟩ := Properties.describe_ok hp
    obtain ⟨levels', shows', before', same⟩ := Properties.describe_ok hq
    obtain ⟨-, rfl⟩ := Properties.levelsEnd_inj same
    exact ⟨levels, shows, shows'⟩
  · exact (typed_run steps hs slot p hp).texts_of_line (typed_run more hm other q hq) hv hv'

def realmRun : List (Text × Action) :=
  [("a".toText, .make [.word "u:a"] [(Field.realm.name.toText, .word "r")])]

/-- A run that makes an object of which all but the levels are changed, and the record of its given fields is deleted. -/
def changedRun : List (Text × Action) :=
  [("b".toText, .make [.word "u:b"] []), ("b".toText, .delete Field.realm.name.toText),
    ("b".toText, .set Field.realm.name.toText (.word "r")), ("b".toText, .delete Model.givenName),
    ("b".toText, .set Field.authenticationId.name.toText (.word "u:a"))]

/-- Objects that were made in two ways have the same line, so they have the same realm. -/
theorem line_tells_realm :
    (∀ step ∈ realmRun, step.2.KeepsTypes) ∧ (∀ step ∈ changedRun, step.2.KeepsTypes) ∧
    ∃ p q, (run [] realmRun).2.lookup "a".toText = some p ∧ (run [] changedRun).2.lookup "b".toText = some q ∧
      p.Stores p.valuesOf ∧ q.Stores q.valuesOf ∧ p.describe = q.describe ∧
      Properties.NoQuotes p.valuesOf ∧ Properties.NoQuotes q.valuesOf ∧ p.valuesOf .realm = q.valuesOf .realm := by
  have keeps : ∀ step ∈ realmRun, step.2.KeepsTypes := by simp [realmRun, Action.KeepsTypes]
  have keeps' : ∀ step ∈ changedRun, step.2.KeepsTypes := by simp [changedRun, Action.KeepsTypes, Value.word]
  obtain ⟨p, hp, whole, plain, line⟩ : ∃ p, (run [] realmRun).2.lookup "a".toText = some p ∧ p.isWhole ∧
      p.hasNoQuotes ∧ p.describe = .ok (Properties.line "u:a".toText none (some "r".toText) [.auth]) :=
    ⟨_, rfl, by decide, by decide, rfl⟩
  obtain ⟨q, hq, whole', plain', line'⟩ : ∃ q, (run [] changedRun).2.lookup "b".toText = some q ∧ q.isWhole ∧
      q.hasNoQuotes ∧ q.describe = .ok (Properties.line "u:a".toText none (some "r".toText) [.auth]) :=
    ⟨_, rfl, by decide, by decide, rfl⟩
  have stores := Properties.stores_valuesOf whole
  have stores' := Properties.stores_valuesOf whole'
  have same := line.trans line'.symm
  have noQuotes := Properties.noQuotes_valuesOf plain
  have noQuotes' := Properties.noQuotes_valuesOf plain'
  obtain ⟨-, tells⟩ := line_tells
  obtain ⟨-, fields⟩ := tells realmRun changedRun keeps keeps' _ p _ q hp hq _ _ stores stores'
  exact ⟨keeps, keeps', p, q, hp, hq, stores, stores', same, noQuotes, noQuotes',
    (fields same).2 noQuotes noQuotes' .realm Field.noConfusion⟩

/-! ### Values of another kind -/

/-- A run that makes an object, and then replaces its attributes: a truth value is the identity, the levels are a list. -/
def truthRun : List (Text × Action) :=
  plainRun ++ [("a".toText, .set Model.tableName (.dict (Properties.arguments fun
    | .authenticationId => .bool true
    | .allowedQop => .list [.qop .auth]
    | f => f.unset.value)))]

def wordRun : List (Text × Action) := [("b".toText, .make [.word "True"] [])]

/-- The line does not tell a truth value from the word for it, nor a list of levels from the sequence that a field
holds. -/
theorem line_hides_kind :
    ∃ p q, (run [] truthRun).2.lookup "a".toText = some p ∧ (run [] wordRun).2.lookup "b".toText = some q ∧
      p.Stores p.valuesOf ∧ q.Stores q.valuesOf ∧ Properties.NoQuotes p.valuesOf ∧ Properties.NoQuotes q.valuesOf ∧
      (∃ t, p.describe = .ok t ∧ q.describe = .ok t) ∧
      p.valuesOf .authenticationId ≠ q.valuesOf .authenticationId ∧ p.valuesOf .allowedQop ≠ q.valuesOf .allowedQop := by
  obtain ⟨p, hp, whole, plain, line, truth, list⟩ : ∃ p, (run [] truthRun).2.lookup "a".toText = some p ∧
      p.isWhole ∧ p.hasNoQuotes ∧ p.describe = .ok (Properties.line "True".toText none none [.auth]) ∧
      p.valuesOf .authenticationId = .bool true ∧ p.valuesOf .allowedQop = .list [.qop .auth] :=
    ⟨_, rfl, by decide, by decide, rfl, rfl, rfl⟩
  obtain ⟨q, hq, whole', plain', line', text, tuple⟩ : ∃ q, (run [] wordRun).2.lookup "b".toText = some q ∧
      q.isWhole ∧ q.hasNoQuotes ∧ q.describe = .ok (Properties.line "True".toText none none [.auth]) ∧
      q.valuesOf .authenticationId = .word "True" ∧ q.valuesOf .allowedQop = .tuple [.qop .auth] :=
    ⟨_, rfl, by decide, by decide, rfl, rfl, rfl⟩
  refine ⟨p, q, hp, hq, Properties.stores_valuesOf whole, Properties.stores_valuesOf whole',
    Properties.noQuotes_valuesOf plain, Properties.noQuotes_valuesOf plain', ⟨_, line, line'⟩, ?_, ?_⟩
  · rw [truth, text]
    exact Value.noConfusion
  · rw [list, tuple]
    exact Value.noConfusion

end Slots

end SaslBind
