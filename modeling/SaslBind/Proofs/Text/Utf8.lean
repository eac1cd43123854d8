import Mathlib.Algebra.Group.Nat.Defs
import SaslBind.Text.Utf8

/-!
# Octets that carry over

Any octets can be read as a text and written back: a well-formed sequence becomes its code point, and an octet that
begins none becomes the surrogate that carries it.  The octets of a text that was read in this way are the ones that
it was read from.

* `continuation n w` : the last `n` octets of the sequence for the number `w`; `continued?_eq_some_iff`, they are what
  is read after the first octet;
* `octets_cons` : what the first octet of a code point says of the others;
* `decodeOne?_eq_some_iff` : what is read as one code point are the octets of that code point, surrogates excepted;
* `Escaped bs t` : the text that octets are read as, by well-formed sequences and single octets;
  `escaped_iff`, there is exactly one.

Main statements: `restore_of_escaped`, and for octets that are read strictly `decode?_eq_some_iff`.
-/

namespace SaslBind

namespace Text

/-! ### One code point -/

/-- The last octets of the sequence for a number, six bits of it in each. -/
def continuation : Nat → Nat → List UInt8
  | 0, _ => []
  | n + 1, w => .ofNat (0x80 + w / 0x40 ^ n % 0x40) :: continuation n w

theorem toNat_ofNat {n : Nat} (h : n < 0x100) : (UInt8.ofNat n).toNat = n := by
  rw [UInt8.toNat_ofNat']
  exact Nat.mod_eq_of_lt h

theorem eq_ofNat {b : UInt8} {n : Nat} (h : b.toNat = n) : b = .ofNat n := by
  rw [← h, UInt8.ofNat_toNat]

/-- Octets go on a sequence to a number if they are the last ones of the number, and what was there before them is the
rest of it. -/
theorem continued?_eq_some_iff {n v w : Nat} {bs rest : List UInt8} :
    continued? n v bs = some (w, rest) ↔ w / 0x40 ^ n = v ∧ bs = continuation n w ++ rest := by
  -- the number read so far is `w` without the bits of the octets to come, so it grows from octet to octet
  induction n generalizing v bs with
  | zero =>
    simp only [continued?, continuation, Option.some.injEq, Prod.mk.injEq, Nat.pow_zero, Nat.div_one, List.nil_append]
    constructor
    · rintro ⟨rfl, rfl⟩
      exact ⟨rfl, rfl⟩
    · rintro ⟨rfl, rfl⟩
      exact ⟨rfl, rfl⟩
  | succ n ih =>
    have high : w / 0x40 ^ (n + 1) = w / 0x40 ^ n / 0x40 := by rw [Nat.pow_succ, Nat.div_div_eq_div_mul]
    cases bs with
    | nil => simp [continued?, continuation]
    | cons b bs =>
      simp only [continued?, continuation, List.cons_append, List.cons.injEq, high]
      constructor
      · intro h
        split at h
        · next hb =>
          obtain ⟨hv, hbs⟩ := ih.1 h
          refine ⟨by omega, eq_ofNat ?_, hbs⟩
          omega
        · cases h
      · rintro ⟨hv, hb, hbs⟩
        have value : b.toNat = 0x80 + w / 0x40 ^ n % 0x40 := by
          rw [hb]
          exact toNat_ofNat (by omega)
        rw [if_pos (by omega)]
        exact ih.2 ⟨by omega, hbs⟩

/-- The octets of a code point, the first one apart from those that continue it. -/
theorem octets_eq (c : CodePoint) :
    c.octets =
      if c.value < 0x80 then [.ofNat c.value]
      else if c.value < 0x800 then .ofNat (0xC0 + c.value / 0x40 ^ 1) :: continuation 1 c.value
      else if c.value < 0x10000 then .ofNat (0xE0 + c.value / 0x40 ^ 2) :: continuation 2 c.value
      else .ofNat (0xF0 + c.value / 0x40 ^ 3) :: continuation 3 c.value := by
  simp only [CodePoint.octets, continuation, Nat.reducePow, Nat.pow_zero, Nat.pow_one, Nat.div_one]

/-- What the first octet of a sequence says: how many octets follow it, its own part of the number, and the least
number that needs so many. -/
theorem lead?_eq_some_iff {b : UInt8} {count payload least : Nat} :
    lead? b = some (count, payload, least) ↔
      (count = 0 ∧ b.toNat = payload ∧ payload < 0x80 ∧ least = 0) ∨
      (count = 1 ∧ b.toNat = 0xC0 + payload ∧ payload < 0x20 ∧ least = 0x80) ∨
      (count = 2 ∧ b.toNat = 0xE0 + payload ∧ payload < 0x10 ∧ least = 0x800) ∨
      (count = 3 ∧ b.toNat = 0xF0 + payload ∧ payload < 0x08 ∧ least = 0x10000) := by
  have bound := b.toNat_lt
  unfold lead?
  simp only
  constructor
  · intro h
    split at h
    · simp only [Option.some.injEq, Prod.mk.injEq] at h
      omega
    split at h
    · cases h
    split at h
    · simp only [Option.some.injEq, Prod.mk.injEq] at h
      omega
    split at h
    · simp only [Option.some.injEq, Prod.mk.injEq] at h
      omega
    split at h
    · simp only [Option.some.injEq, Prod.mk.injEq] at h
      omega
    · cases h
  · rintro (⟨rfl, hb, hp, rfl⟩ | ⟨rfl, hb, hp, rfl⟩ | ⟨rfl, hb, hp, rfl⟩ | ⟨rfl, hb, hp, rfl⟩)
    · rw [if_pos (by omega), hb]
    · rw [if_neg (by omega), if_neg (by omega), if_pos (by omega), hb, Nat.add_sub_cancel_left]
    · rw [if_neg (by omega), if_neg (by omega), if_neg (by omega), if_pos (by omega), hb, Nat.add_sub_cancel_left]
    · rw [if_neg (by omega), if_neg (by omega), if_neg (by omega), if_neg (by omega), if_pos (by omega), hb,
        Nat.add_sub_cancel_left]

theorem ofNat?_eq_some_iff {n : Nat} {c : CodePoint} : CodePoint.ofNat? n = some c ↔ c.value = n := by
  unfold CodePoint.ofNat?
  constructor
  · intro h
    split at h
    · exact congrArg CodePoint.value (Option.some.inj h).symm
    · cases h
  · rintro rfl
    rw [dif_pos c.inRange]

/-- Octets are read as one code point in front of others if the first of them says how many belong to it, these are
the last ones of its number, and fewer would not do. -/
theorem decodeOne?_cons_iff {b : UInt8} {bs rest : List UInt8} {c : CodePoint} :
    decodeOne? (b :: bs) = some (c, rest) ↔
      ∃ count payload least, lead? b = some (count, payload, least) ∧ c.value / 0x40 ^ count = payload ∧
        bs = continuation count c.value ++ rest ∧ least ≤ c.value ∧ c.isSurrogate = false := by
  rw [decodeOne?]
  constructor
  · intro h
    split at h
    · cases h
    next count payload least hl =>
    split at h
    · cases h
    next n r hc =>
    split at h
    · cases h
    next d hd =>
    split at h
    · next hn =>
      simp only [Option.some.injEq, Prod.mk.injEq] at h
      obtain ⟨rfl, rfl⟩ := h
      obtain rfl := ofNat?_eq_some_iff.1 hd
      obtain ⟨hv, hbs⟩ := continued?_eq_some_iff.1 hc
      exact ⟨count, payload, least, hl, hv, hbs, hn⟩
    · cases h
  · rintro ⟨count, payload, least, hl, hv, hbs, hn⟩
    have here : CodePoint.ofNat? c.value = some c := ofNat?_eq_some_iff.2 rfl
    have after : continued? count payload bs = some (c.value, rest) := continued?_eq_some_iff.2 ⟨hv, hbs⟩
    simp only [hl, after, here]
    rw [if_pos hn]

/-- The first octet of a code point says how many octets follow it, and has the part of the number that these have not. -/
theorem octets_cons (c : CodePoint) :
    ∃ b count least, c.octets = b :: continuation count c.value ∧
      lead? b = some (count, c.value / 0x40 ^ count, least) ∧ least ≤ c.value := by
  have inRange := c.inRange
  rw [octets_eq]
  -- the octets that follow the first one leave it no more than the bits that it has for the number
  split
  · next h =>
    refine ⟨_, 0, 0, rfl, lead?_eq_some_iff.2 (.inl ⟨rfl, ?_, ?_, rfl⟩), Nat.zero_le _⟩
    · rw [Nat.pow_zero, Nat.div_one]
      exact toNat_ofNat (by omega)
    · rwa [Nat.pow_zero, Nat.div_one]
  split
  · next h _ =>
    refine ⟨_, 1, 0x80, rfl, lead?_eq_some_iff.2 (.inr (.inl ⟨rfl, toNat_ofNat ?_, ?_, rfl⟩)), by omega⟩
    · omega
    · omega
  split
  · next h _ =>
    refine ⟨_, 2, 0x800, rfl, lead?_eq_some_iff.2 (.inr (.inr (.inl ⟨rfl, toNat_ofNat ?_, ?_, rfl⟩))), by omega⟩
    · omega
    · omega
  · next h =>
    refine ⟨_, 3, 0x10000, rfl, lead?_eq_some_iff.2 (.inr (.inr (.inr ⟨rfl, toNat_ofNat ?_, ?_, rfl⟩))), by omega⟩
    · omega
    · omega

/-- **Reading one code point.**  What is read as a code point in front of other octets are the octets of that code
point; only surrogates are not read. -/
theorem decodeOne?_eq_some_iff {bs rest : List UInt8} {c : CodePoint} :
    decodeOne? bs = some (c, rest) ↔ c.isSurrogate = false ∧ bs = c.octets ++ rest := by
  constructor
  · intro h
    cases bs with
    | nil => cases h
    | cons b bs =>
      obtain ⟨count, payload, least, hl, hv, rfl, hle, hs⟩ := decodeOne?_cons_iff.1 h
      have inRange := c.inRange
      rw [octets_eq]
      refine ⟨hs, ?_⟩
      rcases lead?_eq_some_iff.1 hl with ⟨rfl, hb, hp, rfl⟩ | ⟨rfl, hb, hp, rfl⟩ | ⟨rfl, hb, hp, rfl⟩ | ⟨rfl, hb, hp, rfl⟩
      · rw [Nat.pow_zero, Nat.div_one] at hv
        rw [if_pos (by omega), hv, ← eq_ofNat hb]
        rfl
      · rw [if_neg (by omega), if_pos (by omega), hv, ← eq_ofNat hb]
        rfl
      · rw [if_neg (by omega), if_neg (by omega), if_pos (by omega), hv, ← eq_ofNat hb]
        rfl
      · rw [if_neg (by omega), if_neg (by omega), if_neg (by omega), hv, ← eq_ofNat hb]
        rfl
  · rintro ⟨hs, rfl⟩
    obtain ⟨b, count, least, ho, hl, hle⟩ := octets_cons c
    rw [ho]
    exact decodeOne?_cons_iff.2 ⟨count, _, least, hl, rfl, rfl, hle, hs⟩

/-- An octet of seven bits is a code point by itself. -/
theorem decodeOne?_of_lt {b : UInt8} (h : b.toNat < 0x80) (bs : List UInt8) : (decodeOne? (b :: bs)).isSome := by
  obtain ⟨c, hc⟩ : ∃ c : CodePoint, c.value = b.toNat := ⟨⟨b.toNat, by omega⟩, rfl⟩
  have low : c.isSurrogate = false := by
    simp only [CodePoint.isSurrogate, Bool.and_eq_false_iff, decide_eq_false_iff_not]
    omega
  have alone : c.octets = [b] := by rw [octets_eq, if_pos (by omega), hc, UInt8.ofNat_toNat]
  have read : decodeOne? (b :: bs) = some (c, bs) := decodeOne?_eq_some_iff.2 ⟨low, by rw [alone]; rfl⟩
  rw [read]
  rfl

/-! ### Strict reading -/

theorem decode?_of_some {bs rest : List UInt8} {c : CodePoint} (h : decodeOne? bs = some (c, rest)) :
    decode? bs = (decode? rest).map (c :: ·) := by
  cases bs with
  | nil => cases h
  | cons b bs =>
    rw [decode?]
    split
    · next hn =>
      rw [h] at hn
      cases hn
    · next d r hs =>
      rw [h] at hs
      simp only [Option.some.injEq, Prod.mk.injEq] at hs
      rw [hs.1, hs.2]

theorem decode?_of_none {b : UInt8} {bs : List UInt8} (h : decodeOne? (b :: bs) = none) : decode? (b :: bs) = none := by
  rw [decode?]
  split
  · rfl
  · next d r hs =>
    rw [h] at hs
    cases hs

theorem decode?_octets {t : Text} (h : t.hasSurrogate = false) : decode? t.octets = some t := by
  induction t with
  | nil => simp [octets, decode?]
  | cons c t ih =>
    simp only [hasSurrogate, List.any_cons, Bool.or_eq_false_iff] at h
    have first : decodeOne? (octets (c :: t)) = some (c, octets t) := decodeOne?_eq_some_iff.2 ⟨h.1, rfl⟩
    rw [decode?_of_some first, ih h.2]
    rfl

/-- **Reading strictly.**  Octets are read as the text whose octets they are, if it has no surrogate. -/
theorem decode?_eq_some_iff {bs : List UInt8} {t : Text} :
    decode? bs = some t ↔ t.hasSurrogate = false ∧ bs = t.octets := by
  constructor
  · intro h
    induction bs using decode?.induct generalizing t with
    | case1 =>
      rw [decode?] at h
      obtain rfl := Option.some.inj h
      exact ⟨rfl, rfl⟩
    | case2 b bs hn =>
      rw [decode?_of_none hn] at h
      cases h
    | case3 b bs c rest hs ih =>
      rw [decode?_of_some hs] at h
      obtain ⟨u, hu, rfl⟩ := Option.map_eq_some_iff.1 h
      obtain ⟨plain, hr⟩ := ih hu
      obtain ⟨alone, hb⟩ := decodeOne?_eq_some_iff.1 hs
      refine ⟨?_, ?_⟩
      · simp only [hasSurrogate, List.any_cons, alone, Bool.false_or]
        exact plain
      · rw [hb, hr]
        rfl
  · rintro ⟨plain, rfl⟩
    exact decode?_octets plain

/-! ### Any octets -/

/-- The text that octets are read as: where a well-formed sequence stands in front it is its code point, and
elsewhere the first octet is carried by a surrogate. -/
inductive Escaped : List UInt8 → Text → Prop
  | nil : Escaped [] []
  | sequence {c : CodePoint} {bs : List UInt8} {t : Text} (hc : c.isSurrogate = false) (h : Escaped bs t) :
      Escaped (c.octets ++ bs) (c :: t)
  | single {b : UInt8} {bs : List UInt8} {t : Text}
      (hb : ∀ (c : CodePoint) (rest : List UInt8), c.isSurrogate = false → b :: bs ≠ c.octets ++ rest)
      (h : Escaped bs t) : Escaped (b :: bs) (.ofOctet b :: t)

theorem decodeEscaped_of_some {bs rest : List UInt8} {c : CodePoint} (h : decodeOne? bs = some (c, rest)) :
    decodeEscaped bs = c :: decodeEscaped rest := by
  cases bs with
  | nil => cases h
  | cons b bs =>
    rw [decodeEscaped]
    split
    · next hn =>
      rw [h] at hn
      cases hn
    · next d r hs =>
      rw [h] at hs
      simp only [Option.some.injEq, Prod.mk.injEq] at hs
      rw [hs.1, hs.2]

theorem decodeEscaped_of_none {b : UInt8} {bs : List UInt8} (h : decodeOne? (b :: bs) = none) :
    decodeEscaped (b :: bs) = .ofOctet b :: decodeEscaped bs := by
  rw [decodeEscaped]
  split
  · rfl
  · next d r hs =>
    rw [h] at hs
    cases hs

theorem decodeOne?_eq_none_iff {bs : List UInt8} :
    decodeOne? bs = none ↔
      ∀ (c : CodePoint) (rest : List UInt8), c.isSurrogate = false → bs ≠ c.octets ++ rest := by
  constructor
  · intro h c rest hc he
    rw [decodeOne?_eq_some_iff.2 ⟨hc, he⟩] at h
    cases h
  · intro h
    cases hd : decodeOne? bs with
    | none => rfl
    | some x =>
      obtain ⟨c, rest⟩ := x
      obtain ⟨hs, he⟩ := decodeOne?_eq_some_iff.1 hd
      exact absurd he (h c rest hs)

theorem escaped_decodeEscaped (bs : List UInt8) : Escaped bs (decodeEscaped bs) := by
  induction bs using decodeEscaped.induct with
  | case1 =>
    rw [decodeEscaped]
    exact .nil
  | case2 b bs h ih =>
    rw [decodeEscaped_of_none h]
    exact .single (decodeOne?_eq_none_iff.1 h) ih
  | case3 b bs c rest h ih =>
    rw [decodeEscaped_of_some h]
    obtain ⟨hs, he⟩ := decodeOne?_eq_some_iff.1 h
    rw [he]
    exact .sequence hs ih

/-- Any octets are read as one text and no other. -/
theorem escaped_iff {bs : List UInt8} {t : Text} : Escaped bs t ↔ t = decodeEscaped bs := by
  constructor
  · intro h
    induction h with
    | nil => rw [decodeEscaped]
    | @sequence c bs t hc _ ih => rw [decodeEscaped_of_some (decodeOne?_eq_some_iff.2 ⟨hc, rfl⟩), ih]
    | @single b bs t hb _ ih => rw [decodeEscaped_of_none (decodeOne?_eq_none_iff.2 hb), ih]
  · rintro rfl
    exact escaped_decodeEscaped bs

/-! ### What is misread first -/

theorem misreadFrom?_of_some {bs rest : List UInt8} {c : CodePoint} (h : decodeOne? bs = some (c, rest)) (start : Nat) :
    misreadFrom? start bs = misreadFrom? (start + (bs.length - rest.length)) rest := by
  cases bs with
  | nil => cases h
  | cons b bs =>
    rw [misreadFrom?]
    split
    · next hn =>
      rw [h] at hn
      cases hn
    · next d r hs =>
      rw [h] at hs
      simp only [Option.some.injEq, Prod.mk.injEq] at hs
      rw [hs.2, List.length_cons]

theorem misreadFrom?_of_none {b : UInt8} {bs : List UInt8} (h : decodeOne? (b :: bs) = none) (start : Nat) :
    (misreadFrom? start (b :: bs)).isNone = false := by
  rw [misreadFrom?]
  split
  · rfl
  · next d r hs =>
    rw [h] at hs
    cases hs

/-- If nothing is misread, then octets are read strictly as they are read otherwise, and else not at all. -/
theorem decode?_eq_of_misreadFrom? (bs : List UInt8) (start : Nat) :
    decode? bs = if (misreadFrom? start bs).isNone then some (decodeEscaped bs) else none := by
  induction bs using decode?.induct generalizing start with
  | case1 =>
    rw [decode?, misreadFrom?, decodeEscaped]
    rfl
  | case2 b bs h => rw [decode?_of_none h, misreadFrom?_of_none h, if_neg Bool.false_ne_true]
  | case3 b bs c rest h ih =>
    rw [decode?_of_some h, misreadFrom?_of_some h, decodeEscaped_of_some h,
      ih (start + ((b :: bs).length - rest.length))]
    split <;> rfl

theorem decodeStrict_eq_ok_iff {bs : List UInt8} {t : Text} : decodeStrict bs = .ok t ↔ decode? bs = some t := by
  rw [decodeStrict, misread?, decode?_eq_of_misreadFrom? bs 0]
  cases misreadFrom? 0 bs <;> simp

/-! ### Back to octets -/

theorem isSurrogate_of_isEscapedOctet {c : CodePoint} (h : c.isEscapedOctet) : c.isSurrogate := by
  simp only [CodePoint.isEscapedOctet, CodePoint.isSurrogate, Bool.and_eq_true, decide_eq_true_eq] at h ⊢
  omega

theorem restored_of_not_isSurrogate {c : CodePoint} (h : c.isSurrogate = false) : c.restored = c.octets := by
  have alone : ¬ c.isEscapedOctet := by
    intro he
    rw [isSurrogate_of_isEscapedOctet he] at h
    cases h
  rw [CodePoint.restored, if_neg alone]

/-- An octet that begins no sequence has its eighth bit, so there is a surrogate that carries it. -/
theorem le_of_decodeOne?_eq_none {b : UInt8} {bs : List UInt8} (h : decodeOne? (b :: bs) = none) : 0x80 ≤ b.toNat := by
  refine Nat.le_of_not_lt fun hb => ?_
  have read := decodeOne?_of_lt hb bs
  rw [h] at read
  cases read

theorem isEscapedOctet_ofOctet {b : UInt8} (h : 0x80 ≤ b.toNat) : (CodePoint.ofOctet b).isEscapedOctet := by
  have bound := b.toNat_lt
  simp only [CodePoint.isEscapedOctet, CodePoint.ofOctet, Bool.and_eq_true]
  exact ⟨decide_eq_true (by omega), decide_eq_true (by omega)⟩

theorem restored_ofOctet {b : UInt8} (h : 0x80 ≤ b.toNat) : (CodePoint.ofOctet b).restored = [b] := by
  rw [CodePoint.restored, if_pos (isEscapedOctet_ofOctet h)]
  simp [CodePoint.ofOctet]

/-- In a text that octets are read as, each surrogate carries an octet. -/
theorem Escaped.hasForeignSurrogate {bs : List UInt8} {t : Text} (h : Escaped bs t) : t.hasForeignSurrogate = false := by
  unfold Text.hasForeignSurrogate
  induction h with
  | nil => rfl
  | sequence hc _ ih => simp [hc, ih]
  | single hb _ ih =>
    have carried := isEscapedOctet_ofOctet (le_of_decodeOne?_eq_none (decodeOne?_eq_none_iff.2 hb))
    simp [carried, ih]

/-- **Octets carry over.**  A text that octets are read as stands for these octets: sequences that are well-formed,
and octets that belong to none, of which no text is said that it never was octets. -/
theorem restore_of_escaped {bs : List UInt8} {t : Text} (h : Escaped bs t) : t.restore = bs := by
  rw [restore, h.hasForeignSurrogate, if_neg Bool.false_ne_true]
  induction h with
  | nil => rfl
  | @sequence c bs t hc _ ih => rw [List.flatMap_cons, ih, restored_of_not_isSurrogate hc]
  | @single b bs t hb _ ih =>
    rw [List.flatMap_cons, ih, restored_ofOctet (le_of_decodeOne?_eq_none (decodeOne?_eq_none_iff.2 hb))]
    rfl

end Text

end SaslBind
