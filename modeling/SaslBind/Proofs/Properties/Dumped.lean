import SaslBind.Proofs.Properties.Members
import SaslBind.Proofs.Properties.Secret

/-!
# Objects that come back from JSON

An object that is written as JSON loses nothing but its secret: made again of what is read of this, with the secret put
in its place, it has the same values in all fields, and so it agrees with the first one.  The members stand in the order
in which the fields stand in the object.

* `bind_dict`, `exists_validate` : objects made of dictionaries;
* `agrees_iff` : when an object agrees with a new one; `Properties.IsBare`, one with nothing besides its fields;
* `Properties.ComesBack` : an object is written as JSON, and another one is made of this;
* `Typed.comesBack` : an object whose fields hold values of their kind comes back with these.

Main statement: `dump_comes_back`.  Fields that were assigned past all checks need not come back, and there is more to
objects than their fields: `dump_not_back`.
-/

namespace SaslBind

namespace Value

theorem agree_none {α : Type} [BEq α] (a : Option α) : agree a none = false := by cases a <;> rfl

theorem equals_null {v : Value} : v.equals .null = true ↔ v = .null := by
  cases v <;> simp [equals, equalsPlain, agree_none, toInt?, fraction?, text?, octets?]

theorem equalsAll_levels (levels : List Qop) : equalsAll (levels.map .qop) (levels.map .qop) = true := by
  induction levels with
  | nil => rfl
  | cons q levels ih =>
    have first : (qop q).equals (.qop q) = true := by simp [equals, equalsPlain, agree, text?, toInt?, fraction?]
    rw [List.map_cons, equalsAll, first, ih]
    rfl

theorem equalsEntries_of_lookup {es fs : Entries Value}
    (h : ∀ e ∈ es, ∃ w, fs.lookup e.1 = some w ∧ e.2.equals w = true) : equalsEntries fs es = true := by
  induction es with
  | nil => rfl
  | cons e es ih =>
    obtain ⟨w, hw, same⟩ := h e List.mem_cons_self
    simp only [equalsEntries, hw, same, ih fun d hd => h d (List.mem_cons_of_mem _ hd), Bool.and_self]

end Value

namespace Field

theorem equals_of_holds {f : Field} {v : Value} (h : f.Holds v) : v.equals v = true := by
  have text (t : Text) : (Value.text t).equals (.text t) = true := by simp [Value.equals_text, Value.text?]
  cases f with
  | authenticationId =>
    obtain ⟨t, rfl⟩ := h
    exact text t
  | password =>
    obtain ⟨bs, rfl⟩ := h
    simp [Value.equals, Value.equalsPlain]
  | authorizationId =>
    rcases h with rfl | ⟨t, rfl⟩
    · rfl
    · exact text t
  | realm =>
    rcases h with rfl | ⟨t, rfl⟩
    · rfl
    · exact text t
  | allowedQop =>
    obtain ⟨q, qs, rfl⟩ := h
    exact Value.equalsAll_levels (q :: qs)

end Field

namespace Properties

variable {p q : Properties} {es : Entries Value}

/-! ### Dictionaries -/

/-- A dictionary with an identity and a secret is bound as it is, but for the order; it must not have the name that the
object itself has in a call. -/
theorem bind_dict {es : Arguments} (hself : "self".toText ∉ es.map Prod.fst)
    (ha : (es.lookup Field.authenticationId.name.toText).isSome) (hs : (es.lookup Field.password.name.toText).isSome) :
    ∃ values, bind [] es = .ok values ∧ ∀ name, values.lookup name = es.lookup name := by
  have none : es.find? (·.1 ∈ parameters.take 1) = none := by
    refine List.find?_eq_none.2 fun e he ht => hself ?_
    have named : e.1 = "self".toText := List.mem_singleton.1 (of_decide_eq_true ht)
    exact named ▸ List.mem_map_of_mem he
  have asked : Field.authenticationId.name.toText ∈ parameters ∧ Field.password.name.toText ∈ parameters := by decide
  have identity : (List.lookup Field.authenticationId.name.toText (es.filter (·.1 ∈ parameters))).isNone = false := by
    rw [Entries.lookup_filter (· ∈ parameters), if_pos (decide_eq_true asked.1)]
    exact Option.isNone_eq_false_iff.2 ha
  have secret : (List.lookup Field.password.name.toText (es.filter (·.1 ∈ parameters))).isSome = true := by
    rw [Entries.lookup_filter (· ∈ parameters), if_pos (decide_eq_true asked.2)]
    exact hs
  refine ⟨es.filter (·.1 ∈ parameters) ++ es.filter (·.1 ∉ parameters), ?_, fun name => ?_⟩
  · unfold bind
    simp only [List.length_nil, Nat.zero_add, none, List.zip_nil_right, List.nil_append, identity, secret]
    simp
  · rw [List.lookup_append, Entries.lookup_filter (· ∈ parameters), Entries.lookup_filter (· ∉ parameters)]
    by_cases hn : name ∈ parameters
    · simp [hn]
    · simp [hn]

theorem inner_of_construct {values : Arguments} (h : construct values = .ok p) : p.inner = some .null := by
  unfold construct at h
  split at h
  · cases h
  · obtain rfl := Except.ok.inj h
    rfl

/-- An object is made of a dictionary that has, under the names of all fields, what these take. -/
theorem exists_validate {es : Arguments} {values : Field → Value} (hself : "self".toText ∉ es.map Prod.fst)
    (h : ∀ f : Field, ∃ v a, es.lookup f.name.toText = some v ∧ f.check v = .ok a ∧ a.value = values f) :
    ∃ q, validate (.dict es) = .ok q ∧ q.extra = some .null ∧ q.inner = some .null ∧
      q.table.map Prod.fst = Field.names ∧ ∀ f : Field, q.table.lookup f.name.toText = some (values f) := by
  choose given taken there checked stored using h
  obtain ⟨bound, hb, same⟩ := bind_dict hself (Option.isSome_iff_exists.2 ⟨_, there .authenticationId⟩)
    (Option.isSome_iff_exists.2 ⟨_, there .password⟩)
  have each (f : Field) : construct1 bound f = .ok (taken f) := by
    rw [construct1, same, there]
    exact checked f
  obtain ⟨q, hq⟩ := exists_construct fun f => ⟨_, each f⟩
  obtain ⟨-, extra, -, fields⟩ := construct_ok hq
  refine ⟨q, ?_, extra, inner_of_construct hq, names_of_construct hq, fun f => ?_⟩
  · rw [validate_dict, call, hb]
    simp only [hq]
    rfl
  · obtain ⟨a, ha, hl⟩ := fields f
    rw [each f] at ha
    rw [hl, ← Except.ok.inj ha, stored]

/-! ### Equal objects -/

/-- Nothing is private to the object, and what is known of it beyond its fields is nothing. -/
def IsBare (p : Properties) : Prop :=
  p.readOr Model.privateName .null = .ok .null ∧ ∃ v, p.read Model.extraName = .ok v ∧ v.isVoid = true

theorem perm_fieldsOf (hn : (es.map Prod.fst).Nodup) (h : ∀ f : Field, (es.lookup f.name.toText).isSome) :
    (fieldsOf es).Perm Field.all := by
  refine (List.perm_ext_iff_of_nodup (nodup_fieldsOf hn) (by decide)).2 fun f => ?_
  obtain ⟨v, hv⟩ := Option.isSome_iff_exists.1 (h f)
  exact ⟨fun _ => Field.mem_all f, fun _ => mem_fieldsOf.2 (List.mem_map_of_mem (Entries.mem_of_lookup hv))⟩

/-- Tables agree that have the same values under the names of all fields, the one of them nothing else. -/
theorem tablesAgree_of_lookup {values : Field → Value} (held : ∀ f : Field, f.Holds (values f))
    (hn : (p.table.map Prod.fst).Nodup) (hp : ∀ f : Field, p.table.lookup f.name.toText = some (values f))
    (hm : q.table.map Prod.fst = Field.names) (hq : ∀ f : Field, q.table.lookup f.name.toText = some (values f)) :
    p.tablesAgree Field.names q = true := by
  unfold Object.tablesAgree
  -- with notes among them the tables are not equal, and then the fields are compared one by one
  by_cases known : ∀ e ∈ p.table, e.1 ∈ Field.names
  · have names : (p.table.map Prod.fst).Perm Field.names := by
      refine (List.perm_ext_iff_of_nodup hn (by decide)).2 fun name => ⟨fun h => ?_, fun h => ?_⟩
      · obtain ⟨e, he, rfl⟩ := List.mem_map.1 h
        exact known e he
      · obtain ⟨f, -, rfl⟩ := List.mem_map.1 h
        exact List.mem_map_of_mem (Entries.mem_of_lookup (hp f))
    have size : p.table.length = q.table.length := by
      rw [← List.length_map (f := Prod.fst), names.length_eq, ← hm, List.length_map]
    have entries : Value.equalsEntries q.table p.table = true := by
      refine Value.equalsEntries_of_lookup fun e he => ?_
      obtain ⟨f, -, hf⟩ := List.mem_map.1 (known e he)
      have here := Entries.lookup_of_mem hn he
      rw [← hf, hp f] at here
      refine ⟨values f, hf ▸ hq f, ?_⟩
      rw [← Option.some.inj here]
      exact Field.equals_of_holds (held f)
    simp [Value.equals, size, entries]
  · have other : p.table.all (fun e => Field.names.contains e.1) = false := by
      obtain ⟨e, he, hne⟩ : ∃ e ∈ p.table, e.1 ∉ Field.names := by simpa using known
      exact List.all_eq_false.2 ⟨e, he, by simpa using hne⟩
    have fields : p.agreesIn Field.names q = true := by
      refine List.all_eq_true.2 fun name hname => ?_
      obtain ⟨f, -, rfl⟩ := List.mem_map.1 hname
      simp only [hp f, hq f, Field.equals_of_holds (held f)]
    simp only [other, fields, Bool.false_and, Bool.not_false, Bool.true_and, Bool.or_true]

theorem extrasAgree_null (v : Value) : Object.extrasAgree v .null = v.isVoid := by
  have nothing : v.equals .null = true → v.isVoid = true := by
    intro h
    obtain rfl := Value.equals_null.1 h
    rfl
  unfold Object.extrasAgree
  cases hv : v.isVoid <;> cases he : v.equals .null <;> simp_all [Value.isVoid]

/-- An object agrees with a new one, where the tables agree, if there is nothing besides. -/
theorem agrees_iff (hx : q.extra = some .null) (hi : q.inner = some .null) (ht : p.tablesAgree Field.names q = true) :
    p.agrees q = .ok true ↔ p.IsBare := by
  have other : Model.privateName ≠ Model.tableName ∧ Model.extraName ≠ Model.tableName ∧
      Model.privateName ≠ Model.extraName ∧ Model.privateName ≠ Model.givenName := by decide
  have extra : q.read Model.extraName = .ok .null := by simp [Object.read, Object.kept?, other, hx]
  have inner : q.readOr Model.privateName .null = .ok .null := by
    simp [Object.readOr, Object.read, Object.kept?, other, hi]
  constructor
  · intro agree
    unfold agrees Object.agrees at agree
    obtain ⟨v, hv, compared⟩ := ok_of_bind agree
    rw [inner] at compared
    replace compared : (if v.equals .null = true then _ else _) = Except.ok true := compared
    split at compared
    · next same =>
      obtain ⟨w, hw, rest⟩ := ok_of_bind compared
      rw [extra] at rest
      obtain ⟨void, -⟩ := (Bool.and_eq_true _ _).mp (Except.ok.inj rest)
      exact ⟨hv.trans (congrArg _ (Value.equals_null.1 same)), w, hw, (extrasAgree_null w).symm.trans void⟩
    · cases compared
  · rintro ⟨nothing, w, hw, void⟩
    have agree : Object.extrasAgree w .null = true := (extrasAgree_null w).trans void
    unfold agrees Object.agrees
    rw [nothing, inner, hw, extra, ht]
    exact congrArg (fun b => Except.ok (b && true)) agree

/-! ### Written and made again -/

/-- No text that a field holds has a surrogate in it. -/
def NoSurrogates (values : Field → Value) : Prop := ∀ f t, values f = .text t → t.hasSurrogate = false

/-- An object whose fields hold some values comes back from JSON as another one: it is written with its fields in an
order and the secret masked, and the other one is made of the dictionary that is read of this, after the secret was put
in its place again. -/
def ComesBack (p : Properties) (values : Field → Value) (order : List Field) (q : Properties) : Prop :=
  ∃ t ms es bs, p.dump = .ok t ∧ Json.read? t = some (.object ms) ∧
    ms.map Prod.fst = order.map (·.name.toText) ∧ values .password = .secret bs ∧
    ms.lookup Field.password.name.toText = some (.text (if bs = [] then [] else "**********".toText)) ∧
    (Json.object ms).toValue = .dict es ∧
    validate (.dict (Entries.put Field.password.name.toText (values .password) es)) = .ok q

/-- An object whose fields all hold values of their kind comes back with these. -/
theorem Typed.comesBack (h : p.Typed) {values : Field → Value}
    (hv : ∀ f : Field, p.table.lookup f.name.toText = some (values f)) (plain : NoSurrogates values) :
    ∃ q, p.ComesBack values p.inOrder q ∧ q.Stores values ∧ (p.agrees q = .ok true ↔ p.IsBare) := by
  have held (f : Field) : f.Holds (values f) := h.held.lookup (hv f)
  choose json written plainJson taken using fun f => Field.exists_fieldJson (held f) (plain f)
  obtain ⟨ms, hms, plainMembers⟩ : ∃ ms, members p.table = .ok ms ∧ Json.MembersPlain ms := by
    refine exists_members fun f v hm => ?_
    obtain rfl : v = values f := Option.some.inj ((Entries.lookup_of_mem h.names hm).symm.trans (hv f))
    exact ⟨json f, written f, plainJson f⟩
  have dumped : p.dump = .ok (Json.object ms).print := by rw [dump, hms]; rfl
  have names := names_of_members hms
  have lookup (f : Field) : ms.lookup f.name.toText = some (json f) := by
    obtain ⟨j, hj, hl⟩ := lookup_of_members hms (hv f)
    rw [hl, Except.ok.inj (hj.symm.trans (written f))]
  -- each member is there once, so the dictionary has the members as they stand
  have entries : (Json.toEntries ms).map Prod.fst = (fieldsOf p.table).map (·.name.toText) := by
    rw [Json.toEntries_eq, List.map_map, ← names]
    rfl
  have once : ((Json.toEntries ms).map Prod.fst).Nodup := by
    rw [entries]
    exact (nodup_fieldsOf h.names).map fun f g => Field.name_injective
  have read : (Json.object ms).toValue = .dict (Json.toEntries ms) := by
    rw [Json.toValue, Entries.overlay_of_nodup once, List.nil_append]
  obtain ⟨bs, hbs⟩ := held .password
  have masked : json .password = .text (if bs = [] then [] else "**********".toText) := by
    have mask : fieldJson .password (values .password) = .ok (.text (Value.mask bs.isEmpty)) := by rw [hbs]; rfl
    rw [← Except.ok.inj (mask.symm.trans (written .password))]
    cases bs <;> rfl
  -- every field takes what is in the dictionary under its name, once the secret is there
  have back (f : Field) : ∃ v a,
      (Entries.put Field.password.name.toText (values .password) (Json.toEntries ms)).lookup f.name.toText = some v ∧
        f.check v = .ok a ∧ a.value = values f := by
    rw [Entries.lookup_put]
    by_cases hf : f = .password
    · subst hf
      obtain ⟨a, ha, same⟩ := Field.check_of_holds (held .password)
      exact ⟨_, a, if_pos rfl, ha, same⟩
    · obtain ⟨a, ha, same⟩ := taken f hf
      refine ⟨_, a, ?_, ha, same⟩
      rw [if_neg (Field.name_ne hf), Json.toEntries_eq, Entries.lookup_map fun _ j => Json.toValue j, lookup]
      rfl
  have noSelf : "self".toText ∉
      (Entries.put Field.password.name.toText (values .password) (Json.toEntries ms)).map Prod.fst := by
    have there : Field.password.name.toText ∈ (Json.toEntries ms).map Prod.fst := by
      rw [entries]
      exact List.mem_map_of_mem (mem_fieldsOf.2 (List.mem_map_of_mem (Entries.mem_of_lookup (hv .password))))
    rw [Entries.names_put, if_pos there, entries]
    intro hs
    obtain ⟨f, -, hf⟩ := List.mem_map.1 hs
    cases f <;> exact absurd hf (by decide)
  obtain ⟨q, hq, extra, inner, fields, stored⟩ := exists_validate noSelf back
  refine ⟨q, ⟨_, ms, _, bs, dumped, Json.read?_print (v := .object ms) plainMembers, names, hbs, ?_, read, hq⟩,
    fun f => Object.read_of_lookup (isPlain_name f) (stored f), ?_⟩
  · rw [lookup, masked]
  · exact agrees_iff extra inner (tablesAgree_of_lookup held h.names hv fields stored)

/-- A field that is read stands in the object itself, or in a table that is beyond the fields. -/
theorem mem_inOrder_or_beyond (hm : p.model = .properties) {values : Field → Value} (hv : p.Stores values) (f : Field) :
    f ∈ p.inOrder ∨ ∃ es, p.read Model.extraName = .ok (.dict es) ∧ es.lookup f.name.toText = some (values f) := by
  have other : Model.extraName ≠ Model.tableName := by decide
  rcases lookup_of_read_field hm (hv f) with hl | ⟨es, hx, hl⟩
  · exact .inl (mem_fieldsOf.2 (List.mem_map_of_mem (Entries.mem_of_lookup hl)))
  · exact .inr ⟨es, by simp [Object.read, Object.kept?, other, hx], hl⟩

theorem lookup_of_mem_inOrder {values : Field → Value} (hv : p.Stores values) {f : Field} (hf : f ∈ p.inOrder) :
    p.table.lookup f.name.toText = some (values f) := by
  obtain ⟨w, hw⟩ := Entries.exists_lookup (mem_fieldsOf.1 hf)
  rw [hw, ← Except.ok.inj ((hv f).symm.trans (Object.read_of_lookup (isPlain_name f) hw))]

def hasNoSurrogates (p : Properties) : Bool := p.textsPass fun t => t.hasSurrogate = false

theorem noSurrogates_valuesOf {p : Properties} (h : p.hasNoSurrogates) : NoSurrogates p.valuesOf :=
  fun _ _ hf => of_decide_eq_true (passes_of_textsPass h hf)

end Properties

namespace Slots

/-- **Objects come back from JSON.**  After a run that kept values of their kind in the fields, take an object with all
fields, none of whose texts has a surrogate.  Each of its fields stands in the object itself or in a table beyond them.
If all stand in the object, it is written as JSON with just these fields, in the order in which they stand in it, and
comes back with the same values; what comes back agrees with it exactly if there is nothing besides the fields.
The order is told by what was done if no table was assigned, and is that of declaration if nothing was deleted either
and all objects were made with their fields. -/
theorem dump_comes_back (steps : List (Text × Action)) (h : ∀ step ∈ steps, step.2.KeepsTypes) (slot : Text)
    (p : Properties) (hp : (run [] steps).2.lookup slot = some p) (values : Field → Value) (hv : p.Stores values)
    (plain : Properties.NoSurrogates values) :
    (∀ f : Field, f ∈ p.inOrder ∨
      ∃ es, p.read Model.extraName = .ok (.dict es) ∧ es.lookup f.name.toText = some (values f)) ∧
    ((∀ f, f ∈ p.inOrder) → p.inOrder.Perm Field.all ∧
      ∃ q, p.ComesBack values p.inOrder q ∧ q.Stores values ∧ (p.agrees q = .ok true ↔ p.IsBare)) ∧
    ((∀ step ∈ steps, step.2.KeepsOrder) → p.inOrder = fieldOrder slot (history steps) ∧
      ((∀ step ∈ steps, (∀ name, step.2 ≠ .delete name) ∧ step.2 ≠ .makeBlank) → p.inOrder = Field.all)) := by
  have typed := typed_run steps h slot p hp
  refine ⟨Properties.mem_inOrder_or_beyond typed.model hv, fun own => ?_, fun keeps => ?_⟩
  · have stands (f : Field) := Properties.lookup_of_mem_inOrder hv (own f)
    exact ⟨Properties.perm_fieldsOf typed.names fun f => Option.isSome_iff_exists.2 ⟨_, stands f⟩,
      typed.comesBack stands plain⟩
  · have order := (ordered_run steps keeps slot p hp).inOrder
    refine ⟨order, fun kept => order.trans (fieldOrder_of_kept (fun d hd => ?_) slot)⟩
    obtain ⟨⟨step, answer⟩, hs, rfl⟩ := List.mem_map.1 (List.mem_reverse.1 hd)
    exact kept step (List.of_mem_zip hs).1

/-- A run that makes an object with a realm that has characters in it to be escaped, and assigns its identity anew. -/
def quotedRun : List (Text × Action) :=
  [("a".toText, .make [.word "u:a"] [(Field.password.name.toText, .word "x"),
      (Field.realm.name.toText, .word "say \"\u00e9\"\n\\")]),
    ("a".toText, .delete Field.authenticationId.name.toText),
    ("a".toText, .set Field.authenticationId.name.toText (.word "u:b"))]

/-- The object comes back, with its identity in the last place. -/
theorem dump_comes_back_quotedRun :
    (∀ step ∈ quotedRun, step.2.KeepsTypes ∧ step.2.KeepsOrder) ∧
    ∃ p q, (run [] quotedRun).2.lookup "a".toText = some p ∧ p.Stores p.valuesOf ∧
      Properties.NoSurrogates p.valuesOf ∧
      p.ComesBack p.valuesOf [.password, .authorizationId, .realm, .allowedQop, .authenticationId] q ∧
      p.agrees q = .ok true := by
  have keeps : ∀ step ∈ quotedRun, step.2.KeepsTypes ∧ step.2.KeepsOrder := by
    have identity : Field.authenticationId.name.toText ≠ Model.tableName ∧
        Field.authenticationId.name.toText ≠ Model.extraName := by decide
    simp [quotedRun, Action.KeepsTypes, Action.KeepsOrder, identity]
  obtain ⟨p, hp, whole, plain, bare⟩ : ∃ p, (run [] quotedRun).2.lookup "a".toText = some p ∧ p.isWhole ∧
      p.hasNoSurrogates ∧ p.IsBare := ⟨_, rfl, by decide, by decide, rfl, .null, rfl, rfl⟩
  have stores := Properties.stores_valuesOf whole
  have noSurrogates := Properties.noSurrogates_valuesOf plain
  obtain ⟨-, back, told⟩ := dump_comes_back quotedRun (fun step hs => (keeps step hs).1) _ p hp _ stores noSurrogates
  have order : p.inOrder = [.password, .authorizationId, .realm, .allowedQop, .authenticationId] :=
    (told fun step hs => (keeps step hs).2).1
  have own : ∀ f, f ∈ p.inOrder := by
    rw [order]
    intro f
    cases f <;> decide
  obtain ⟨-, q, comes, -, agrees⟩ := back own
  rw [order] at comes
  exact ⟨keeps, p, q, hp, stores, noSurrogates, comes, agrees.2 bare⟩

/-! ### Objects that do not come back -/

/-- After a run, an object with all fields, none of whose texts has a surrogate, does not come back in the order of
declaration as one that agrees with it. -/
def StaysAway (steps : List (Text × Action)) : Prop :=
  ∃ p, (run [] steps).2.lookup "a".toText = some p ∧ p.Stores p.valuesOf ∧ Properties.NoSurrogates p.valuesOf ∧
    ¬ ∃ q, p.ComesBack p.valuesOf Field.all q ∧ p.agrees q = .ok true

/-- Whether what comes back of an object from JSON agrees with it, and its fields are written in the order of
declaration; nothing if nothing comes back. -/
def returns? (p : Properties) : Option Bool := do
  let t ← p.dump.toOption
  let .object ms ← Json.read? t | none
  let .dict es := (Json.object ms).toValue | none
  let q ← (Properties.validate (.dict (Entries.put Field.password.name.toText (p.valuesOf .password) es))).toOption
  let b ← (p.agrees q).toOption
  pure (b && ms.map Prod.fst = Field.names)

theorem returns?_of_comesBack {p q : Properties} (h : p.ComesBack p.valuesOf Field.all q)
    (ha : p.agrees q = .ok true) : returns? p = some true := by
  obtain ⟨t, ms, es, bs, dumped, read, names, -, -, dict, made⟩ := h
  have inOrder : ms.map Prod.fst = Field.names := names
  simp [returns?, dumped, read, dict, made, ha, inOrder, Except.toOption]

theorem staysAway_of_any {steps : List (Text × Action)} (h : ((run [] steps).2.lookup "a".toText).any fun p =>
    p.isWhole && p.hasNoSurrogates && returns? p ≠ some true) : StaysAway steps := by
  obtain ⟨p, hp, ht⟩ := (Option.any_eq_true _ _).1 h
  simp only [Bool.and_eq_true, decide_eq_true_eq] at ht
  obtain ⟨⟨whole, plain⟩, other⟩ := ht
  exact ⟨p, hp, Properties.stores_valuesOf whole, Properties.noSurrogates_valuesOf plain,
    fun ⟨q, back, agree⟩ => other (returns?_of_comesBack back agree)⟩

def lateRun : List (Text × Action) :=
  plainRun ++ [("a".toText, .delete Field.authenticationId.name.toText),
    ("a".toText, .set Field.authenticationId.name.toText (.word "u:a"))]

/-- A run that assigns all attributes at once, the fields in another order. -/
def turnedRun : List (Text × Action) :=
  plainRun ++ [("a".toText, .set Model.tableName (.dict (Properties.arguments fun f => f.unset.value).reverse))]

/-- A run that makes an object without its fields, and assigns them in another order. -/
def filledRun : List (Text × Action) :=
  [("a".toText, .makeBlank), ("a".toText, .set Model.extraName .null)] ++
    Field.all.reverse.map fun f => ("a".toText, .set f.name.toText f.unset.value)

/-- A run that puts a value that is no text beyond the fields, from where the next assignment brings it to them. -/
def mixedRun : List (Text × Action) :=
  plainRun ++ [("a".toText, .set Model.extraName (.dict [(Field.authorizationId.name.toText, .int 3)])),
    ("a".toText, .set Field.realm.name.toText .null)]

/-- A run that leaves a field beyond the fields only. -/
def movedRun : List (Text × Action) :=
  plainRun ++ [("a".toText, .delete Field.realm.name.toText),
    ("a".toText, .set Model.extraName (.dict [(Field.realm.name.toText, .null)]))]

def innerRun : List (Text × Action) := plainRun ++ [("a".toText, .set Model.privateName (.dict []))]

/-- Objects do not come back as they were where a field was deleted and assigned again, where all attributes were
replaced by fields in another order or by values that fields do not hold, where such values came from beyond the fields
or fields stand there only, and where something is private to them, is known of them beyond their fields, or can not be
known any more. -/
theorem dump_not_back :
    (StaysAway lateRun ∧ StaysAway turnedRun ∧ StaysAway filledRun) ∧
    (StaysAway replacedRun ∧ StaysAway mixedRun ∧ StaysAway movedRun) ∧
    StaysAway innerRun ∧ StaysAway beyondRun ∧ StaysAway closedRun := by
  have all : [lateRun, turnedRun, filledRun, replacedRun, mixedRun, movedRun, innerRun, beyondRun, closedRun].all
      (fun steps => ((run [] steps).2.lookup "a".toText).any fun p =>
        p.isWhole && p.hasNoSurrogates && returns? p ≠ some true) = true := by
    decide +kernel
  have away := fun steps hs => staysAway_of_any (List.all_eq_true.1 all steps hs)
  simp only [List.forall_mem_cons] at away
  obtain ⟨late, turned, filled, replaced, mixed, moved, inner, beyond, closed, -⟩ := away
  exact ⟨⟨late, turned, filled⟩, ⟨replaced, mixed, moved⟩, inner, beyond, closed⟩

end Slots

end SaslBind
