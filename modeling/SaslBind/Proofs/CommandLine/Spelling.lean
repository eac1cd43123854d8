import Mathlib.Data.List.Nodup
import Mathlib.Data.List.TakeWhile
import SaslBind.CommandLine.Parse

/-!
# Spellings and plain tokens

What a token is read as, said without the way in which it is found out.  An option may be spelled by its name or by
a beginning of it with which no other name begins, and a value may be attached to either.  A plain token can be the
value of the option before it: it does not begin with a hyphen or, if it does, asks for nothing and is a negative
number or has a space in it.

* `withValue`, `cutValue_eq_iff` : a name with a value attached, and how it is taken apart;
* `NegativeNumber`, `isNegativeNumber_iff` : the form of a negative number;
* `Spec.Named` : what the names of options must be for spellings to make sense;
* `Spec.Spells`, `Spec.AsksNothing`, `Spec.Plain` : what spells an option, and what can be a value;
* `Spec.Stray` : what is no option.

Main statements: `read_eq_option_iff`, a token is read as an option exactly if it spells it; `isValue_iff`, it can be a
value exactly if it is plain; and `stray_iff`.
-/

namespace SaslBind

namespace CommandLine

def equalsSign : CodePoint := CodePoint.ofChar '='

def space : CodePoint := CodePoint.ofChar ' '

def point : CodePoint := CodePoint.ofChar '.'

def lineEnd : CodePoint := CodePoint.ofChar '\n'

/-! ### Names with values -/

/-- A name with the value that is attached to it, if there is one. -/
def withValue (name : Text) : Option Text → Text
  | none => name
  | some value => name ++ equalsSign :: value

theorem cut?_append_cons {separator : CodePoint} {before : Text} (h : separator ∉ before) (after : Text) :
    Text.cut? separator (before ++ separator :: after) = some (before, after) := by
  induction before with
  | nil => simp [Text.cut?]
  | cons c before ih =>
    rw [List.mem_cons, not_or] at h
    have hc : c ≠ separator := Ne.symm h.1
    simp [Text.cut?, hc, ih h.2]

theorem cut?_eq_none_iff {separator : CodePoint} {t : Text} : Text.cut? separator t = none ↔ separator ∉ t := by
  induction t with
  | nil => simp [Text.cut?]
  | cons c t ih =>
    by_cases hc : c = separator
    · simp [Text.cut?, hc]
    · simp [Text.cut?, hc, ih, Ne.symm hc]

theorem eq_append_cons_of_cut? {separator : CodePoint} {t before after : Text}
    (h : Text.cut? separator t = some (before, after)) : separator ∉ before ∧ t = before ++ separator :: after := by
  induction t generalizing before with
  | nil => cases h
  | cons c t ih =>
    rw [Text.cut?] at h
    split at h
    · next hc =>
      cases h
      exact ⟨List.not_mem_nil, by rw [hc, List.nil_append]⟩
    · next hc =>
      obtain ⟨⟨b, a⟩, hcut, he⟩ := Option.map_eq_some_iff.1 h
      cases he
      obtain ⟨hb, rfl⟩ := ih hcut
      exact ⟨fun hm => (List.mem_cons.1 hm).elim (fun he => hc he.symm) hb, rfl⟩

/-- What is cut off is a name without an equals sign, and the rest is the value attached to it. -/
theorem cutValue_eq_iff {token name : Text} {attached : Option Text} :
    Spec.cutValue token = (name, attached) ↔ equalsSign ∉ name ∧ token = withValue name attached := by
  have sign : CodePoint.ofChar '=' = equalsSign := rfl
  unfold Spec.cutValue
  rw [sign]
  constructor
  · intro h
    split at h
    · next before after hcut =>
      cases h
      exact eq_append_cons_of_cut? hcut
    · next hcut =>
      cases h
      exact ⟨cut?_eq_none_iff.1 hcut, rfl⟩
  · rintro ⟨hn, rfl⟩
    cases attached with
    | none => rw [withValue, cut?_eq_none_iff.2 hn]
    | some value => rw [withValue, cut?_append_cons hn value]

theorem cutValue_fst (token : Text) : (Spec.cutValue token).1 = token.takeWhile (· ≠ equalsSign) := by
  rcases hcut : Spec.cutValue token with ⟨name, attached⟩
  obtain ⟨hn, rfl⟩ := cutValue_eq_iff.1 hcut
  have before : ∀ c ∈ name, decide (c ≠ equalsSign) = true := fun c hc => decide_eq_true fun he => hn (he ▸ hc)
  cases attached with
  | none => rw [withValue, List.takeWhile_eq_self_iff.2 before]
  | some value =>
    rw [withValue, List.takeWhile_append_of_pos before, List.takeWhile_cons_of_neg (by simp), List.append_nil]

/-! ### Negative numbers -/

/-- A point and digits. -/
def Fraction (t : Text) : Prop := ∃ places : Text, t = point :: places ∧ places ≠ [] ∧ ∀ c ∈ places, c.isDecimal

/-- A hyphen before decimal digits, before a point and digits, or before all of these; a line feed may end it. -/
def NegativeNumber (t : Text) : Prop :=
  ∃ whole fraction feed : Text, t = hyphen :: (whole ++ fraction ++ feed) ∧ (∀ c ∈ whole, c.isDecimal) ∧
    (fraction = [] ∧ whole ≠ [] ∨ Fraction fraction) ∧ (feed = [] ∨ feed = [lineEnd])

/-- The part of a number after its hyphen, without the line feed that may end it. -/
def numberBody (rest : Text) : Text := if rest.getLast? = some lineEnd then rest.dropLast else rest

/-- What is left of a number after its first digits. -/
def fractionOf (body : Text) : Text := body.dropWhile CodePoint.isDecimal

theorem fraction_iff (t : Text) :
    (t.head? = some point && 1 < t.length && (t.drop 1).all CodePoint.isDecimal) = true ↔ Fraction t := by
  unfold Fraction
  cases t with
  | nil => simp
  | cons c places => simp [List.length_pos_iff, and_assoc]

theorem isNegativeNumber_cons (c : CodePoint) (rest : Text) :
    isNegativeNumber (c :: rest) = true ↔ c = hyphen ∧ numberBody rest ≠ [] ∧
      (fractionOf (numberBody rest) = [] ∨ Fraction (fractionOf (numberBody rest))) := by
  have unfolded : isNegativeNumber (c :: rest) =
      (c = hyphen && !(numberBody rest).isEmpty && ((fractionOf (numberBody rest)).isEmpty ||
        ((fractionOf (numberBody rest)).head? = some point && 1 < (fractionOf (numberBody rest)).length &&
          ((fractionOf (numberBody rest)).drop 1).all CodePoint.isDecimal))) := rfl
  rw [unfolded, ← fraction_iff]
  -- the test of the fraction is the same on both sides, and is not to be taken apart
  generalize ((fractionOf (numberBody rest)).head? = some point && 1 < (fractionOf (numberBody rest)).length &&
    ((fractionOf (numberBody rest)).drop 1).all CodePoint.isDecimal : Bool) = fraction
  simp [and_assoc]

theorem exists_feed (rest : Text) :
    ∃ feed : Text, (feed = [] ∨ feed = [lineEnd]) ∧ rest = numberBody rest ++ feed := by
  unfold numberBody
  split
  · next h => exact ⟨[lineEnd], .inr rfl, (List.dropLast_append_getLast? lineEnd h).symm⟩
  · exact ⟨[], .inl rfl, (List.append_nil rest).symm⟩

theorem numberBody_append {body feed : Text} (hb : lineEnd ∉ body) (hf : feed = [] ∨ feed = [lineEnd]) :
    numberBody (body ++ feed) = body := by
  unfold numberBody
  rcases hf with rfl | rfl
  · rw [List.append_nil, if_neg fun h => hb (List.mem_of_getLast? h)]
  · rw [List.getLast?_concat, if_pos rfl, List.dropLast_concat]

theorem fractionOf_append {whole fraction : Text} (hw : ∀ c ∈ whole, c.isDecimal)
    (hf : fraction = [] ∨ Fraction fraction) : fractionOf (whole ++ fraction) = fraction := by
  unfold fractionOf
  rw [List.dropWhile_append_of_pos hw]
  rcases hf with rfl | ⟨places, rfl, -, -⟩
  · rfl
  · exact List.dropWhile_cons_of_neg (by decide)

theorem lineEnd_not_mem {whole fraction : Text} (hw : ∀ c ∈ whole, c.isDecimal)
    (hf : fraction = [] ∨ Fraction fraction) : lineEnd ∉ whole ++ fraction := by
  have noDigit : ¬ lineEnd.isDecimal := by decide
  intro hm
  rcases List.mem_append.1 hm with hm | hm
  · exact noDigit (hw _ hm)
  · rcases hf with rfl | ⟨places, rfl, -, hp⟩
    · cases hm
    · rcases List.mem_cons.1 hm with he | hm
      · exact absurd he (by decide)
      · exact noDigit (hp _ hm)

theorem isNegativeNumber_iff (t : Text) : isNegativeNumber t = true ↔ NegativeNumber t := by
  cases t with
  | nil => simp [isNegativeNumber, NegativeNumber]
  | cons c rest =>
    rw [isNegativeNumber_cons]
    constructor
    · rintro ⟨rfl, hne, hf⟩
      obtain ⟨feed, hfeed, hrest⟩ := exists_feed rest
      have parts : (numberBody rest).takeWhile CodePoint.isDecimal ++ fractionOf (numberBody rest) = numberBody rest :=
        List.takeWhile_append_dropWhile
      refine ⟨_, _, feed, by rw [parts, ← hrest], fun c hc => List.mem_takeWhile_imp hc, ?_, hfeed⟩
      refine hf.imp_left fun hf => ⟨hf, fun hw => hne ?_⟩
      rw [← parts, hw, hf]
      rfl
    · rintro ⟨whole, fraction, feed, he, hw, hf, hfeed⟩
      obtain ⟨rfl, rfl⟩ := List.cons.inj he
      have form : fraction = [] ∨ Fraction fraction := hf.imp_left And.left
      rw [numberBody_append (lineEnd_not_mem hw form) hfeed, fractionOf_append hw form]
      refine ⟨rfl, fun hnil => ?_, form⟩
      obtain ⟨hwhole, rfl⟩ := List.append_eq_nil_iff.1 hnil
      rcases hf with ⟨-, hne⟩ | ⟨places, he, -, -⟩
      · exact hne hwhole
      · cases he

/-- A reading of a token that asks for something. -/
def Reading.Asks {κ : Type} (r : Reading κ) : Prop := r ≠ .plain ∧ r ≠ .unknown

namespace Spec

variable {κ : Type}

/-! ### Spellings -/

/-- The long names: that of the option that asks for help, and those of all other options. -/
def longStrings (s : Spec κ) : List Text := longHelp :: s.options.map (·.name)

def optionStrings (s : Spec κ) : List Text := shortHelp :: s.longStrings

/-- No name of an option has an equals sign. -/
def NamesArePlain (s : Spec κ) : Prop := ∀ o ∈ s.options, equalsSign ∉ o.name

/-- The names of options begin with two hyphens, after which more follows; they have no equals sign, and differ from
each other and from the name of the option that asks for help. -/
structure Named (s : Spec κ) : Prop where
  plain : s.NamesArePlain
  hyphens : ∀ o ∈ s.options, terminator <+: o.name
  longer : ∀ o ∈ s.options, terminator ≠ o.name
  distinct : s.longStrings.Nodup

/-- What an option may be written as: its name, or a beginning of it that is longer than two hyphens, is not itself
a name, and with which no other name begins. -/
def Spells (s : Spec κ) (spelling : Text) (o : Opt κ) : Prop :=
  o ∈ s.options ∧ (spelling = o.name ∨
    terminator.length < spelling.length ∧ spelling ∉ s.optionStrings ∧ spelling <+: o.name ∧
      ∀ name ∈ s.optionStrings, spelling <+: name → name = o.name)

/-- The token has no reading as an option: neither it nor the part before its first equals sign is a name, that part
is not the beginning of a long name, and it does not begin with the short name of the option that asks for help. -/
structure AsksNothing (s : Spec κ) (token : Text) : Prop where
  whole : token ∉ s.optionStrings
  part : token.takeWhile (· ≠ equalsSign) ∉ s.optionStrings
  long : terminator <+: token → ∀ name ∈ s.longStrings, ¬ token.takeWhile (· ≠ equalsSign) <+: name
  short : ¬ shortHelp <+: token

/-- A token that gives nothing and asks for nothing: it does not begin with a hyphen or has no reading as an option. -/
def Stray (s : Spec κ) (token : Text) : Prop :=
  token.head? ≠ some hyphen ∨ token = [hyphen] ∨ s.AsksNothing token

/-- What can be the value of the option before it. -/
def Plain (s : Spec κ) (token : Text) : Prop :=
  token.head? ≠ some hyphen ∨ token = [hyphen] ∨
    token ≠ terminator ∧ s.AsksNothing token ∧ (NegativeNumber token ∨ space ∈ token)

variable {s : Spec κ}

theorem longNames_map_fst (s : Spec κ) : s.longNames.map (·.1) = s.longStrings := by
  simp [longNames, longStrings]

theorem startsWith_iff {t start : Text} : t.startsWith start = true ↔ start <+: t := List.isPrefixOf_iff_prefix

theorem not_shortHelp_of_terminator {t : Text} (h : terminator <+: t) : ¬ shortHelp <+: t := by
  obtain ⟨rest, rfl⟩ := h
  rintro ⟨rest', he⟩
  injection he with _ he
  injection he with he _
  exact absurd he (by decide)

theorem exactly?_eq_none_iff {name : Text} : s.exactly? name = none ↔ name ∉ s.optionStrings := by
  unfold exactly? optionStrings
  rw [List.mem_cons, not_or, ← longNames_map_fst]
  by_cases hn : name = shortHelp
  · simp [hn]
  · rw [if_neg hn, List.lookup_eq_none_iff]
    constructor
    · intro h
      refine ⟨hn, fun hm => ?_⟩
      obtain ⟨n, hl, rfl⟩ := List.mem_map.1 hm
      simpa using h n hl
    · rintro ⟨-, h⟩ n hl
      have hne : name ≠ n.1 := fun he => h (he ▸ List.mem_map_of_mem hl)
      simpa using hne

/-- What is asked for by a name in full is help by one letter, or what a long name asks for. -/
theorem mem_of_exactly? {name : Text} {ask : Option Text → Reading κ} (h : s.exactly? name = some ask) :
    ask = .help true ∨ (name, ask) ∈ s.longNames := by
  unfold exactly? at h
  split at h
  · exact .inl (Option.some.inj h).symm
  · obtain ⟨l₁, l₂, hl, -⟩ := List.lookup_eq_some_iff.1 h
    exact .inr (by simp [hl])

theorem not_mem_optionStrings (hs : s.NamesArePlain) {token : Text} (h : equalsSign ∈ token) :
    token ∉ s.optionStrings := by
  intro hm
  rcases List.mem_cons.1 hm with rfl | hm
  · exact absurd h (by decide)
  · rcases List.mem_cons.1 hm with rfl | hm
    · exact absurd h (by decide)
    · obtain ⟨o, ho, rfl⟩ := List.mem_map.1 hm
      exact hs o ho h

theorem attached_ne_terminator (name value : Text) : name ++ equalsSign :: value ≠ terminator := by
  intro he
  have mem : equalsSign ∈ name ++ equalsSign :: value := List.mem_append_right _ List.mem_cons_self
  rw [he] at mem
  exact absurd mem (by decide)

/-- A long name that asks for an option is the name of that option. -/
theorem eq_of_longNames {n : Text × (Option Text → Reading κ)} (h : n ∈ s.longNames) {a b : Option Text} {o : Opt κ}
    (hask : n.2 a = .option o b) : o ∈ s.options ∧ n = (o.name, .option o) ∧ a = b := by
  rcases List.mem_cons.1 h with rfl | h
  · cases hask
  · obtain ⟨o', ho, rfl⟩ := List.mem_map.1 h
    cases hask
    exact ⟨ho, rfl, rfl⟩

theorem asks_of_longNames {n : Text × (Option Text → Reading κ)} (h : n ∈ s.longNames) (a : Option Text) :
    (n.2 a).Asks := by
  rcases List.mem_cons.1 h with rfl | h
  · exact ⟨nofun, nofun⟩
  · obtain ⟨o', -, rfl⟩ := List.mem_map.1 h
    exact ⟨nofun, nofun⟩

/-! ### What a token asks for -/

/-- A token that begins with a hyphen and more asks by its name in full, if that is a name. -/
theorem named?_eq (hs : s.NamesArePlain) (token : Text) :
    s.named? token = (s.exactly? (cutValue token).1).map fun ask => ask (cutValue token).2 := by
  rcases hcut : cutValue token with ⟨name, attached⟩
  obtain ⟨-, rfl⟩ := cutValue_eq_iff.1 hcut
  unfold named?
  rw [hcut]
  cases attached with
  | none =>
    rw [withValue]
    cases s.exactly? name <;> rfl
  | some value =>
    -- the whole token is looked up first, but no name has an equals sign
    have mem : equalsSign ∈ withValue name (some value) := List.mem_append_right _ List.mem_cons_self
    rw [exactly?_eq_none_iff.2 (not_mem_optionStrings hs mem)]

/-- The names that a token with two hyphens in front may shorten. -/
theorem abbreviated_of_hyphens {token : Text} (h : terminator <+: token) :
    s.abbreviated token = (s.longNames.filter fun n => n.1.startsWith (cutValue token).1).map
      fun n => (n.1, n.2 (cutValue token).2) := by
  rw [abbreviated, if_pos (startsWith_iff.2 h)]

theorem abbreviated_of_not_hyphens {token : Text} (h : ¬ terminator <+: token) :
    s.abbreviated token =
      if token.startsWith shortHelp then [(shortHelp, .help true (some (token.drop 2)))] else [] := by
  rw [abbreviated, if_neg fun he => h (startsWith_iff.1 he)]

theorem abbreviated_eq_nil_iff (token : Text) :
    s.abbreviated token = [] ↔
      (terminator <+: token → ∀ name ∈ s.longStrings, ¬ (cutValue token).1 <+: name) ∧ ¬ shortHelp <+: token := by
  by_cases h : terminator <+: token
  · rw [abbreviated_of_hyphens h, List.map_eq_nil_iff, List.filter_eq_nil_iff, ← longNames_map_fst]
    simp only [startsWith_iff, List.forall_mem_map, h, forall_const, not_shortHelp_of_terminator h, not_false_eq_true,
      and_true]
  · rw [abbreviated_of_not_hyphens h]
    by_cases hh : shortHelp <+: token <;> simp [startsWith_iff, h, hh]

theorem asks_of_abbreviated {token name : Text} {r : Reading κ} (h : (name, r) ∈ s.abbreviated token) : r.Asks := by
  by_cases hy : terminator <+: token
  · rw [abbreviated_of_hyphens hy] at h
    obtain ⟨n, hn, he⟩ := List.mem_map.1 h
    cases he
    exact asks_of_longNames (List.mem_filter.1 hn).1 _
  · rw [abbreviated_of_not_hyphens hy] at h
    split at h
    · cases List.mem_singleton.1 h
      exact ⟨nofun, nofun⟩
    · cases h

/-! ### Values -/

theorem asks_of_exactly? {name : Text} {ask : Option Text → Reading κ} (h : s.exactly? name = some ask)
    (a : Option Text) : (ask a).Asks := by
  rcases mem_of_exactly? h with rfl | hm
  · exact ⟨nofun, nofun⟩
  · exact asks_of_longNames hm a

theorem read_of_hyphen {token : Text} (h : token.head? = some hyphen) (hm : token ≠ [hyphen]) :
    s.read token =
      match s.named? token with
      | some reading => reading
      | none =>
        match s.abbreviated token with
        | [] => readOther token
        | [(_, reading)] => reading
        | several => .ambiguous (several.map (·.1)) := by
  have begins : ¬ token.head? ≠ some hyphen := fun hne => hne h
  exact (if_neg begins).trans (if_neg hm)

theorem readOther_cases (token : Text) : readOther (κ := κ) token = .plain ∨ readOther (κ := κ) token = .unknown := by
  unfold readOther
  split
  · exact .inl rfl
  · exact .inr rfl

theorem readOther_eq_plain_iff {token : Text} :
    readOther (κ := κ) token = .plain ↔ NegativeNumber token ∨ space ∈ token := by
  unfold readOther
  rw [← isNegativeNumber_iff]
  split
  · next h => simpa [space] using h
  · next h => simpa [space] using h

/-- No token with an equals sign is a name, so a name is its own part before the first of them. -/
theorem asksNothing_iff (hs : s.NamesArePlain) (token : Text) :
    s.AsksNothing token ↔ s.exactly? (cutValue token).1 = none ∧ s.abbreviated token = [] := by
  rw [exactly?_eq_none_iff, abbreviated_eq_nil_iff, cutValue_fst]
  constructor
  · rintro ⟨-, hpart, hlong, hshort⟩
    exact ⟨hpart, hlong, hshort⟩
  · rintro ⟨hpart, hlong, hshort⟩
    refine ⟨fun hm => hpart ?_, hpart, hlong, hshort⟩
    have plain : equalsSign ∉ token := fun he => not_mem_optionStrings hs he hm
    have self : token.takeWhile (· ≠ equalsSign) = token :=
      List.takeWhile_eq_self_iff.2 fun c hc => decide_eq_true fun he => plain (he ▸ hc)
    rwa [self]

/-- A token that begins with a hyphen and more either asks for nothing, and is read as what is left then, or asks. -/
theorem read_cases (hs : s.NamesArePlain) {token : Text} (h : token.head? = some hyphen) (hm : token ≠ [hyphen]) :
    s.AsksNothing token ∧ s.read token = readOther token ∨ ¬ s.AsksNothing token ∧ (s.read token).Asks := by
  rw [asksNothing_iff hs, read_of_hyphen h hm, named?_eq hs]
  cases hask : s.exactly? (cutValue token).1 with
  | some ask => simpa using asks_of_exactly? hask _
  | none =>
    rcases hab : s.abbreviated token with _ | ⟨⟨name, r⟩, _ | ⟨n, ns⟩⟩
    · simp
    · simpa using asks_of_abbreviated (hab ▸ List.mem_singleton_self _)
    · simp [Reading.Asks]

/-- A token is stray exactly if it is read as a value or as nothing that is known. -/
theorem stray_iff (hs : s.NamesArePlain) {token : Text} :
    s.Stray token ↔ s.read token = .plain ∨ s.read token = .unknown := by
  unfold Stray
  by_cases h : token.head? = some hyphen
  · by_cases hm : token = [hyphen]
    · simp [hm, read]
    · rcases read_cases hs h hm with ⟨nothing, read⟩ | ⟨something, asks⟩
      · simpa [nothing, read] using readOther_cases token
      · simpa [h, hm, something, asks.1] using asks.2
  · simp [h, read]

/-- A token that begins with a hyphen and more is a value exactly if it asks for nothing and does not look like an
option. -/
theorem read_eq_plain_iff (hs : s.NamesArePlain) {token : Text} (h : token.head? = some hyphen)
    (hm : token ≠ [hyphen]) :
    s.read token = .plain ↔ s.AsksNothing token ∧ (NegativeNumber token ∨ space ∈ token) := by
  rcases read_cases hs h hm with ⟨nothing, read⟩ | ⟨something, asks⟩
  · rw [read, readOther_eq_plain_iff, and_iff_right nothing]
  · exact iff_of_false asks.1 fun h => something h.1

theorem isValue_eq_true_iff {token : Text} : s.isValue token = true ↔ token ≠ terminator ∧ s.read token = .plain := by
  unfold isValue
  cases s.read token <;> simp

/-- A token can be a value exactly if it is plain. -/
theorem isValue_iff (hs : s.NamesArePlain) (token : Text) : s.isValue token = true ↔ s.Plain token := by
  rw [isValue_eq_true_iff]
  unfold Plain
  by_cases h : token.head? = some hyphen
  · by_cases hm : token = [hyphen]
    · subst hm
      have ht : [hyphen] ≠ terminator := by decide
      simp [read, ht]
    · rw [read_eq_plain_iff hs h hm]
      simp [h, hm]
  · have ht : token ≠ terminator := fun he => h (he ▸ rfl)
    simp [h, ht, read]

/-! ### Options -/

theorem filter_eq_singleton {β : Type} {l : List (Text × β)} (hl : (l.map (·.1)).Nodup) {x : Text × β} (hx : x ∈ l)
    {p : Text → Bool} (hp : p x.1 = true) (only : ∀ y ∈ l, p y.1 = true → y.1 = x.1) :
    l.filter (fun y => p y.1) = [x] := by
  -- neither side holds a pair twice, so the same members are the same list
  have left : (l.filter fun y => p y.1).Nodup := (List.Nodup.of_map _ hl).filter _
  rw [← List.perm_singleton, List.perm_ext_iff_of_nodup left (List.nodup_singleton x)]
  intro y
  rw [List.mem_filter, List.mem_singleton]
  constructor
  · rintro ⟨hy, hpy⟩
    exact List.inj_on_of_nodup_map hl hy hx (only y hy hpy)
  · rintro rfl
    exact ⟨hx, hp⟩

theorem Named.ne_shortHelp (hs : s.Named) {o : Opt κ} (ho : o ∈ s.options) : o.name ≠ shortHelp := by
  intro he
  have hy := hs.hyphens o ho
  rw [he] at hy
  exact absurd hy (by decide)

theorem Named.ne_longHelp (hs : s.Named) {o : Opt κ} (ho : o ∈ s.options) : o.name ≠ longHelp := by
  intro he
  exact (List.nodup_cons.1 hs.distinct).1 (he ▸ List.mem_map_of_mem ho)

theorem mem_longNames {o : Opt κ} (ho : o ∈ s.options) : (o.name, Reading.option o) ∈ s.longNames :=
  List.mem_cons_of_mem _ (List.mem_map_of_mem ho)

theorem exactly?_name (hs : s.Named) {o : Opt κ} (ho : o ∈ s.options) : s.exactly? o.name = some (.option o) := by
  rw [exactly?, if_neg (hs.ne_shortHelp ho), List.lookup_eq_some_iff]
  obtain ⟨l₁, l₂, hl⟩ := List.append_of_mem (mem_longNames ho)
  refine ⟨l₁, l₂, hl, fun n hn => ?_⟩
  have distinct := hs.distinct
  rw [← longNames_map_fst, hl, List.map_append, List.map_cons, List.nodup_middle, List.nodup_cons] at distinct
  have hne : o.name ≠ n.1 := by
    intro he
    exact distinct.1 (List.mem_append_left _ (List.mem_map.2 ⟨n, hn, he.symm⟩))
  simpa using hne

theorem eq_of_exactly? {name : Text} {ask : Option Text → Reading κ} (h : s.exactly? name = some ask)
    {a b : Option Text} {o : Opt κ} (hask : ask a = .option o b) : o ∈ s.options ∧ name = o.name ∧ a = b := by
  rcases mem_of_exactly? h with rfl | hm
  · cases hask
  · obtain ⟨ho, he, hb⟩ := eq_of_longNames hm hask
    exact ⟨ho, congrArg Prod.fst he, hb⟩

theorem Spells.hyphens (hs : s.Named) {spelling : Text} {o : Opt κ} (h : s.Spells spelling o) :
    terminator <+: spelling := by
  obtain ⟨ho, rfl | ⟨hlen, -, hpre, -⟩⟩ := h
  · exact hs.hyphens o ho
  · exact List.prefix_of_prefix_length_le (hs.hyphens o ho) hpre hlen.le

theorem Spells.plain (hs : s.Named) {spelling : Text} {o : Opt κ} (h : s.Spells spelling o) :
    equalsSign ∉ spelling := by
  obtain ⟨ho, rfl | ⟨-, -, hpre, -⟩⟩ := h
  · exact hs.plain o ho
  · exact fun hm => hs.plain o ho (hpre.subset hm)

theorem Spells.ne_terminator (hs : s.Named) {spelling : Text} {o : Opt κ} (h : s.Spells spelling o) :
    spelling ≠ terminator := by
  obtain ⟨ho, rfl | ⟨hlen, -, -, -⟩⟩ := h
  · exact (hs.longer o ho).symm
  · rintro rfl
    exact lt_irrefl _ hlen

/-- A token with two hyphens in front asks by its name in full, or else by the names that it shortens. -/
theorem read_of_hyphens (hs : s.NamesArePlain) {start : Text} (hy : terminator <+: start) (plain : equalsSign ∉ start)
    (attached : Option Text) :
    s.read (withValue start attached) =
      match (s.exactly? start).map fun ask => ask attached with
      | some reading => reading
      | none =>
        match (s.longNames.filter fun n => n.1.startsWith start).map fun n => (n.1, n.2 attached) with
        | [] => readOther (withValue start attached)
        | [(_, reading)] => reading
        | several => .ambiguous (several.map (·.1)) := by
  have cut : cutValue (withValue start attached) = (start, attached) := cutValue_eq_iff.2 ⟨plain, rfl⟩
  have begins : terminator <+: withValue start attached := by
    refine hy.trans ?_
    cases attached with
    | none => exact List.prefix_rfl
    | some value => exact List.prefix_append _ _
  have head : (withValue start attached).head? = some hyphen := by
    obtain ⟨rest, hr⟩ := begins
    rw [← hr]
    rfl
  have more : withValue start attached ≠ [hyphen] := by
    intro he
    rw [he] at begins
    exact absurd begins (by decide)
  rw [read_of_hyphen head more, named?_eq hs, abbreviated_of_hyphens begins, cut]

/-- What spells an option is read as that option, with a value attached or without. -/
theorem read_of_spells (hs : s.Named) {spelling : Text} {o : Opt κ} (h : s.Spells spelling o)
    (attached : Option Text) : s.read (withValue spelling attached) = .option o attached := by
  rw [read_of_hyphens hs.plain (h.hyphens hs) (h.plain hs)]
  obtain ⟨ho, rfl | ⟨-, hnot, hpre, only⟩⟩ := h
  · rw [exactly?_name hs ho]
    rfl
  · -- no name in full, so it is the only one that it shortens
    have one : (s.longNames.filter fun n => n.1.startsWith spelling) = [(o.name, .option o)] := by
      refine filter_eq_singleton (p := fun name => name.startsWith spelling) ?_ (mem_longNames ho)
        (startsWith_iff.2 hpre) fun n hn hp => ?_
      · rw [longNames_map_fst]
        exact hs.distinct
      · have hm : n.1 ∈ s.longStrings := longNames_map_fst s ▸ List.mem_map_of_mem hn
        exact only n.1 (List.mem_cons_of_mem _ hm) (startsWith_iff.1 hp)
    rw [exactly?_eq_none_iff.2 hnot, one]
    rfl

theorem read_attached (hs : s.Named) {spelling : Text} {o : Opt κ} (h : s.Spells spelling o) (value : Text) :
    s.read (spelling ++ equalsSign :: value) = .option o (some value) := read_of_spells hs h (some value)

theorem read_bare (hs : s.Named) {spelling : Text} {o : Opt κ} (h : s.Spells spelling o) :
    s.read spelling = .option o none := read_of_spells hs h none

/-- The beginning of several long names is ambiguous, with a value attached or without. -/
theorem read_ambiguous (hs : s.NamesArePlain) {start : Text} (hy : terminator <+: start) (plain : equalsSign ∉ start)
    (none : start ∉ s.optionStrings) (several : 1 < (s.longStrings.filter (·.startsWith start)).length)
    (attached : Option Text) :
    s.read (withValue start attached) = .ambiguous (s.longStrings.filter (·.startsWith start)) := by
  have names : ((s.longNames.filter fun n => n.1.startsWith start).map fun n => (n.1, n.2 attached)).map (·.1) =
      s.longStrings.filter (·.startsWith start) := by
    rw [← longNames_map_fst, List.filter_map, List.map_map]
    rfl
  rw [← names] at several ⊢
  rw [read_of_hyphens hs hy plain, exactly?_eq_none_iff.2 none]
  generalize (s.longNames.filter fun n => n.1.startsWith start).map (fun n => (n.1, n.2 attached)) = found at several ⊢
  rcases found with _ | ⟨x, _ | ⟨y, rest⟩⟩
  · simp at several
  · simp at several
  · rfl

theorem hyphens_cutValue {token : Text} (h : terminator <+: token) : terminator <+: (cutValue token).1 := by
  obtain ⟨rest, rfl⟩ := h
  rw [cutValue_fst]
  change terminator <+: (hyphen :: hyphen :: rest).takeWhile _
  rw [List.takeWhile_cons_of_pos (by decide), List.takeWhile_cons_of_pos (by decide)]
  exact ⟨_, rfl⟩

/-- The only long name that a token with two hyphens shortens is that of the option that it is read as. -/
theorem spells_of_abbreviated (hs : s.Named) {token name : Text} {o : Opt κ} {attached : Option Text}
    (hnot : s.exactly? (cutValue token).1 = none) (h : s.abbreviated token = [(name, .option o attached)]) :
    s.Spells (cutValue token).1 o ∧ (cutValue token).2 = attached := by
  by_cases hy : terminator <+: token
  · rw [abbreviated_of_hyphens hy] at h
    obtain ⟨n, hf, he⟩ := List.map_eq_singleton_iff.1 h
    have mem : n ∈ s.longNames ∧ (cutValue token).1 <+: n.1 := by
      have hm : n ∈ s.longNames.filter fun n => n.1.startsWith (cutValue token).1 := hf ▸ List.mem_singleton_self n
      exact (List.mem_filter.1 hm).imp_right startsWith_iff.1
    obtain ⟨ho, rfl, ha⟩ := eq_of_longNames mem.1 (congrArg Prod.snd he)
    -- a long name that begins in this way is left by the filter, so it is that of the option
    have only : ∀ name ∈ s.longStrings, (cutValue token).1 <+: name → name = o.name := by
      intro name hm hp
      rw [← longNames_map_fst] at hm
      obtain ⟨n, hn, rfl⟩ := List.mem_map.1 hm
      have left : n ∈ s.longNames.filter fun n => n.1.startsWith (cutValue token).1 :=
        List.mem_filter.2 ⟨hn, startsWith_iff.2 hp⟩
      rw [hf] at left
      exact congrArg Prod.fst (List.mem_singleton.1 left)
    have before : terminator <+: (cutValue token).1 := hyphens_cutValue hy
    have longer : terminator.length < (cutValue token).1.length := by
      refine lt_of_le_of_ne before.length_le fun he => hs.ne_longHelp ho ?_
      have all : (cutValue token).1 = terminator := (before.eq_of_length he).symm
      exact (only longHelp List.mem_cons_self (all ▸ by decide)).symm
    refine ⟨⟨ho, .inr ⟨longer, exactly?_eq_none_iff.1 hnot, mem.2, fun name hm hp => ?_⟩⟩, ha⟩
    rcases List.mem_cons.1 hm with rfl | hm
    · exact absurd (before.trans hp) (by decide)
    · exact only name hm hp
  · rw [abbreviated_of_not_hyphens hy] at h
    split at h <;> cases h

/-- What is read as an option has a spelling of it before its equals sign, and its value after that. -/
theorem spells_of_read (hs : s.Named) {token : Text} {o : Opt κ} {attached : Option Text}
    (h : s.read token = .option o attached) :
    s.Spells (cutValue token).1 o ∧ (cutValue token).2 = attached := by
  by_cases head : token.head? = some hyphen
  · by_cases hm : token = [hyphen]
    · rw [hm] at h
      cases h
    · rw [read_of_hyphen head hm, named?_eq hs.plain] at h
      cases hask : s.exactly? (cutValue token).1 with
      | some ask =>
        rw [hask] at h
        obtain ⟨ho, hname, ha⟩ := eq_of_exactly? hask h
        exact ⟨⟨ho, .inl hname⟩, ha⟩
      | none =>
        rw [hask] at h
        rcases hab : s.abbreviated token with _ | ⟨⟨name, r⟩, _ | ⟨n, ns⟩⟩
        · rw [hab] at h
          simp only [Option.map_none, readOther] at h
          split at h <;> cases h
        · rw [hab] at h
          obtain rfl : r = .option o attached := h
          exact spells_of_abbreviated hs hask hab
        · rw [hab] at h
          cases h
  · rw [read, if_pos head] at h
    cases h

/-- A token is read as an option exactly if it spells it, with what is attached to the spelling as its value. -/
theorem read_eq_option_iff (hs : s.Named) {token : Text} {o : Opt κ} {attached : Option Text} :
    s.read token = .option o attached ↔ ∃ spelling, s.Spells spelling o ∧ token = withValue spelling attached := by
  constructor
  · intro h
    obtain ⟨hsp, ha⟩ := spells_of_read hs h
    have taken : cutValue token = ((cutValue token).1, attached) := Prod.ext rfl ha
    exact ⟨_, hsp, (cutValue_eq_iff.1 taken).2⟩
  · rintro ⟨spelling, hsp, rfl⟩
    exact read_of_spells hs hsp attached

end Spec

end CommandLine

end SaslBind
