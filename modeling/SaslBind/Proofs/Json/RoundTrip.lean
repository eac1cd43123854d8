import SaslBind.Json
import SaslBind.Json.Reader
import SaslBind.Text.Utf8

/-!
# JSON that was written is read back

The machine that reads JSON takes one character at a time.  On what was written of a value without numbers and without
surrogates it makes that value again: escapes are undone, and no text in it can be taken for the end of a container.

* `Reader.run` : the machine on a text, one character after the other by `run_cons`;
* `Json.IsPlain` : values without numbers and without surrogates;
* `Reader.run_printText` : a text between quotes, whatever characters are in it;
* `Reader.run_print`, `run_items`, `run_members` : a value in a container, and the content of one up to its end.

Main statement: `read?_print`.
-/

namespace SaslBind

namespace Json

namespace Reader

/-- The machine after the characters of a text. -/
def run (s : State) (t : Text) : Option State := t.foldlM step? s

theorem run_cons (s : State) (c : CodePoint) (t : Text) : run s (c :: t) = (step? s c).bind (run · t) := rfl

/-! ### Texts -/

variable {frames : List Frame} {role : Role} {codes : Text} {c : CodePoint}

theorem joinPairs_of_plain {t : Text} (h : t.hasSurrogate = false) : joinPairs t = t := by
  have plain : ∀ d ∈ t, d.isSurrogate = false := fun d hd => by simpa using List.any_eq_false.1 h d hd
  clear h
  fun_induction joinPairs t with
  | case1 => rfl
  | case2 => rfl
  | case3 d e t pair ih =>
    have first := plain d List.mem_cons_self
    simp only [CodePoint.isSurrogate, Bool.and_eq_false_iff, decide_eq_false_iff_not] at first
    omega
  | case4 d e t pair ih => rw [ih fun f hf => plain f (List.mem_cons_of_mem _ hf)]

theorem escaped?_of_letter {letter : Char} (h : escapeLetter? c = some letter) :
    CodePoint.ofChar letter ≠ CodePoint.ofChar 'u' ∧ escaped? (CodePoint.ofChar letter) = some c := by
  unfold escapeLetter? at h
  split at h
  case h_8 => cases h
  all_goals
    next value =>
      cases h
      exact ⟨by decide, congrArg some (CodePoint.ext_value value.symm)⟩

theorem run_letter {letter : Char} (h : escapeLetter? c = some letter) (t : Text) :
    run ⟨frames, .text role codes⟩ ([CodePoint.ofChar '\\', CodePoint.ofChar letter] ++ t) =
      run ⟨frames, .text role (c :: codes)⟩ t := by
  obtain ⟨other, undone⟩ := escaped?_of_letter h
  have backslash : step? ⟨frames, .text role codes⟩ (CodePoint.ofChar '\\') = some ⟨frames, .escape role codes⟩ := rfl
  have letter : step? ⟨frames, .escape role codes⟩ (CodePoint.ofChar letter) =
      some ⟨frames, .text role (c :: codes)⟩ := by
    simp only [step?, if_neg other, undone, Option.map_some]
  rw [List.cons_append, run_cons, backslash, Option.bind_some, List.cons_append, run_cons, letter, Option.bind_some,
    List.nil_append]

theorem run_digits {w x y z : CodePoint} {i j k l : Nat} (hw : hexDigit? w = some i) (hx : hexDigit? x = some j)
    (hy : hexDigit? y = some k) (hz : hexDigit? z = some l) (t : Text) :
    run ⟨frames, .number role codes 4 0⟩ ([w, x, y, z] ++ t) =
      run ⟨frames, .text role (z.ofNatOr (((i * 16 + j) * 16 + k) * 16 + l) :: codes)⟩ t := by
  simp [run_cons, step?, hw, hx, hy, hz]

theorem exists_hex {n : Nat} (h : n < 0x20) : ∃ w x y z, Text.hex 4 n = [w, x, y, z] ∧ hexDigit? w = some 0 ∧
    hexDigit? x = some 0 ∧ hexDigit? y = some (n / 16) ∧ hexDigit? z = some (n % 16) := by
  have digits : ∀ n < 0x20, (Text.hex 4 n).map hexDigit? = [some 0, some 0, some (n / 16), some (n % 16)] := by decide
  obtain ⟨w, ws, he, hw, hws⟩ := List.map_eq_cons_iff.1 (digits n h)
  obtain ⟨x, xs, rfl, hx, hxs⟩ := List.map_eq_cons_iff.1 hws
  obtain ⟨y, ys, rfl, hy, hys⟩ := List.map_eq_cons_iff.1 hxs
  obtain ⟨z, zs, rfl, hz, hzs⟩ := List.map_eq_cons_iff.1 hys
  obtain rfl := List.map_eq_nil_iff.1 hzs
  exact ⟨w, x, y, z, he, hw, hx, hy, hz⟩

theorem run_control {c : CodePoint} (h : c.value < 0x20) (t : Text) :
    run ⟨frames, .text role codes⟩ ("\\u".toText ++ Text.hex 4 c.value ++ t) =
      run ⟨frames, .text role (c :: codes)⟩ t := by
  obtain ⟨w, x, y, z, digits, hw, hx, hy, hz⟩ := exists_hex h
  have sum : ((0 * 16 + 0) * 16 + c.value / 16) * 16 + c.value % 16 = c.value := by omega
  have same : z.ofNatOr c.value = c := by simp [CodePoint.ofNatOr, c.inRange]
  have marked : run ⟨frames, .text role codes⟩ ("\\u".toText ++ ([w, x, y, z] ++ t)) =
      run ⟨frames, .number role codes 4 0⟩ ([w, x, y, z] ++ t) := rfl
  rw [digits, List.append_assoc, marked, run_digits hw hx hy hz, sum, same]

/-- What is written for a character inside a text is read as this character. -/
theorem run_printCode (c : CodePoint) (t : Text) :
    run ⟨frames, .text role codes⟩ (printCode c ++ t) = run ⟨frames, .text role (c :: codes)⟩ t := by
  unfold printCode
  cases h : escapeLetter? c with
  | some letter => exact run_letter h t
  | none =>
    by_cases control : c.value < 0x20
    · simp only [if_pos control, run_control control]
    · have notQuote : c ≠ CodePoint.ofChar '"' := by
        rintro rfl
        cases h
      have notBackslash : c ≠ CodePoint.ofChar '\\' := by
        rintro rfl
        cases h
      simp only [if_neg control, List.cons_append, List.nil_append, run_cons, step?, if_neg notQuote,
        if_neg notBackslash, Option.bind_some]

theorem run_codes (t u : Text) :
    run ⟨frames, .text role codes⟩ (t.flatMap printCode ++ u) = run ⟨frames, .text role (t.reverse ++ codes)⟩ u := by
  induction t generalizing codes with
  | nil => rfl
  | cons c t ih => rw [List.flatMap_cons, List.append_assoc, run_printCode, ih, List.reverse_cons, List.append_assoc,
      List.singleton_append]

/-- A text without surrogates that was written between quotes is complete after the second one. -/
theorem run_printText {t : Text} (h : t.hasSurrogate = false) (u : Text) {s : State}
    (start : step? s (CodePoint.ofChar '"') = some ⟨frames, .text role []⟩) :
    run s (printText t ++ u) = (endText? frames role t).bind (run · u) := by
  have close : step? ⟨frames, .text role (t.reverse ++ [])⟩ (CodePoint.ofChar '"') = endText? frames role t := by
    simp only [step?, if_true, List.append_nil, List.reverse_reverse, joinPairs_of_plain h]
  rw [printText, List.cons_append, List.cons_append, run_cons, start, Option.bind_some, List.append_assoc, run_codes,
    List.singleton_append, run_cons, close]

/-! ### Values in a container -/

/-- A word or a number is complete when a character follows that is none of its own. -/
theorem run_scalar {frames' : List Frame} {v : Json} (hv : scalar? codes.reverse = some v)
    (hput : put? frames v = some ⟨frames', .next⟩) (hc : isScalar c = false) (t : Text) :
    run ⟨frames, .scalar codes⟩ (c :: t) = (next? frames' c).bind (run · t) := by
  have step : step? ⟨frames, .scalar codes⟩ c = next? frames' c := by
    simp only [step?, hc, Bool.false_eq_true, if_false, hv, hput]
  rw [run_cons, step]

end Reader

mutual

/-- A value without numbers, none of whose texts has a surrogate. -/
def IsPlain : Json → Prop
  | .null | .bool _ => True
  | .int _ | .real _ => False
  | .text t => t.hasSurrogate = false
  | .array items => ItemsPlain items
  | .object members => MembersPlain members

def ItemsPlain : List Json → Prop
  | [] => True
  | v :: vs => IsPlain v ∧ ItemsPlain vs

def MembersPlain : List (Text × Json) → Prop
  | [] => True
  | (k, v) :: ms => k.hasSurrogate = false ∧ IsPlain v ∧ MembersPlain ms

end

namespace Reader

variable {frames : List Frame}

/-- What is written of a value begins with no blank and with no bracket that closes an array. -/
theorem run_firstItem {v : Json} (h : v.IsPlain) (t : Text) :
    run ⟨frames, .firstItem⟩ (print v ++ t) = run ⟨frames, .value⟩ (print v ++ t) := by
  cases v with
  | null => rfl
  | bool b => cases b <;> rfl
  | int n => exact h.elim
  | real x => exact h.elim
  | text t => rfl
  | array items => rfl
  | object members => rfl

theorem exists_printItems (v : Json) (vs : List Json) : ∃ t, printItems (v :: vs) = print v ++ t := by
  cases vs with
  | nil => exact ⟨[], by rw [printItems, List.append_nil]⟩
  | cons w ws => exact ⟨_, by rw [printItems]⟩

theorem run_name {k : Text} (hk : k.hasSurrogate = false) {read : List (Text × Json)} {s : State}
    (start : step? s (CodePoint.ofChar '"') = some ⟨.object read :: frames, .text .name []⟩) (t : Text) :
    run s (printText k ++ CodePoint.ofChar ':' :: t) = run ⟨.member read k :: frames, .value⟩ t := by
  have name : endText? (.object read :: frames) .name k = some ⟨.member read k :: frames, .colon⟩ := rfl
  rw [run_printText hk _ start, name]
  rfl

mutual

/-- What is written of a value inside a container is read as this value, before a character that can not belong to it. -/
theorem run_print : ∀ {v : Json}, v.IsPlain → ∀ {frames frames' : List Frame},
    put? frames v = some ⟨frames', .next⟩ → ∀ {c : CodePoint}, isScalar c = false → ∀ t : Text,
    run ⟨frames, .value⟩ (print v ++ c :: t) = (next? frames' c).bind (run · t)
  | .null, _, frames, _, hput, c, hc, t =>
    have word : run ⟨frames, .value⟩ ("null".toText ++ c :: t) = run ⟨frames, .scalar "llun".toText⟩ (c :: t) := rfl
    word.trans (run_scalar rfl hput hc t)
  | .bool true, _, frames, _, hput, c, hc, t =>
    have word : run ⟨frames, .value⟩ ("true".toText ++ c :: t) = run ⟨frames, .scalar "eurt".toText⟩ (c :: t) := rfl
    word.trans (run_scalar rfl hput hc t)
  | .bool false, _, frames, _, hput, c, hc, t =>
    have word : run ⟨frames, .value⟩ ("false".toText ++ c :: t) = run ⟨frames, .scalar "eslaf".toText⟩ (c :: t) := rfl
    word.trans (run_scalar rfl hput hc t)
  | .text u, h, frames, frames', hput, c, _, t => by
    have value : endText? frames .value u = some ⟨frames', .next⟩ := hput
    rw [print, run_printText h _ rfl, value, Option.bind_some, run_cons]
    rfl
  | .array items, h, frames, frames', hput, c, _, t => by
    rw [run_array h, hput, Option.bind_some, run_cons]
    rfl
  | .object members, h, frames, frames', hput, c, _, t => by
    rw [run_object h, hput, Option.bind_some, run_cons]
    rfl

theorem run_array : ∀ {items : List Json}, ItemsPlain items → ∀ {frames : List Frame} (t : Text),
    run ⟨frames, .value⟩ (print (.array items) ++ t) = (put? frames (.array items)).bind (run · t)
  | [], _, frames, t => rfl
  | v :: vs, ⟨hv, hvs⟩, frames, t => by
    obtain ⟨u, hu⟩ := exists_printItems v vs
    have opened : run ⟨frames, .value⟩ (print (.array (v :: vs)) ++ t) =
        run ⟨.array [] :: frames, .firstItem⟩ (printItems (v :: vs) ++ CodePoint.ofChar ']' :: t) := by
      rw [print, List.append_assoc, List.append_assoc]
      rfl
    rw [opened, hu, List.append_assoc, run_firstItem hv, ← List.append_assoc, ← hu,
      run_items (v :: vs) (List.cons_ne_nil _ _) ⟨hv, hvs⟩]
    rfl

theorem run_items : ∀ items : List Json, items ≠ [] → ItemsPlain items → ∀ (read : List Json)
    (frames : List Frame) (t : Text),
    run ⟨.array read :: frames, .value⟩ (printItems items ++ CodePoint.ofChar ']' :: t) =
      (put? frames (.array (read.reverse ++ items))).bind (run · t)
  | [], hne, _, _, _, _ => absurd rfl hne
  | [v], _, ⟨hv, _⟩, read, frames, t => by
    have close : next? (.array (v :: read) :: frames) (CodePoint.ofChar ']') =
        put? frames (.array (v :: read).reverse) := rfl
    have taken : put? (.array read :: frames) v = some ⟨.array (v :: read) :: frames, .next⟩ := rfl
    rw [printItems, run_print hv taken rfl, close, List.reverse_cons]
  | v :: w :: ws, _, ⟨hv, hws⟩, read, frames, t => by
    have comma : next? (.array (v :: read) :: frames) (CodePoint.ofChar ',') =
        some ⟨.array (v :: read) :: frames, .value⟩ := rfl
    have taken : put? (.array read :: frames) v = some ⟨.array (v :: read) :: frames, .next⟩ := rfl
    rw [printItems, List.append_assoc, List.cons_append, run_print hv taken rfl, comma, Option.bind_some,
      run_items (w :: ws) (List.cons_ne_nil _ _) hws,
      List.reverse_cons, List.append_assoc, List.singleton_append]

theorem run_object : ∀ {members : List (Text × Json)}, MembersPlain members → ∀ {frames : List Frame} (t : Text),
    run ⟨frames, .value⟩ (print (.object members) ++ t) = (put? frames (.object members)).bind (run · t)
  | [], _, frames, t => rfl
  | (k, v) :: ms, h, frames, t => by
    have opened : run ⟨frames, .value⟩ (print (.object ((k, v) :: ms)) ++ t) =
        run ⟨.object [] :: frames, .firstName⟩ (printMembers ((k, v) :: ms) ++ CodePoint.ofChar '\x7d' :: t) := by
      rw [print, List.append_assoc, List.append_assoc]
      rfl
    rw [opened, run_members ((k, v) :: ms) (List.cons_ne_nil _ _) h [] rfl]
    rfl

theorem run_members : ∀ members : List (Text × Json), members ≠ [] → MembersPlain members →
    ∀ (read : List (Text × Json)) {frames : List Frame} {s : State},
    step? s (CodePoint.ofChar '"') = some ⟨.object read :: frames, .text .name []⟩ → ∀ t : Text,
    run s (printMembers members ++ CodePoint.ofChar '\x7d' :: t) =
      (put? frames (.object (read.reverse ++ members))).bind (run · t)
  | [], hne, _, _, _, _, _, _ => absurd rfl hne
  | [(k, v)], _, ⟨hk, hv, _⟩, read, frames, s, start, t => by
    have close : next? (.object ((k, v) :: read) :: frames) (CodePoint.ofChar '\x7d') =
        put? frames (.object ((k, v) :: read).reverse) := rfl
    have taken : put? (.member read k :: frames) v = some ⟨.object ((k, v) :: read) :: frames, .next⟩ := rfl
    rw [printMembers, List.append_assoc, List.cons_append, run_name hk start,
      run_print hv taken rfl, close, List.reverse_cons]
  | (k, v) :: m :: ms, _, ⟨hk, hv, hms⟩, read, frames, s, start, t => by
    have comma : next? (.object ((k, v) :: read) :: frames) (CodePoint.ofChar ',') =
        some ⟨.object ((k, v) :: read) :: frames, .name⟩ := rfl
    have taken : put? (.member read k :: frames) v = some ⟨.object ((k, v) :: read) :: frames, .next⟩ := rfl
    rw [printMembers, List.append_assoc, List.append_assoc, List.cons_append, List.cons_append, run_name hk start,
      run_print hv taken rfl, comma, Option.bind_some,
      run_members (m :: ms) (List.cons_ne_nil _ _) hms _ rfl, List.reverse_cons, List.append_assoc, List.singleton_append]

end

end Reader

/-- **What was written is read back**, if there are no numbers and no surrogates in it. -/
theorem read?_print {v : Json} (h : v.IsPlain) : read? (print v) = some v := by
  -- outside of all containers a value that is complete is the value of the whole
  have whole (complete : ∀ t, Reader.run .initial (print v ++ t) = (Reader.put? [] v).bind (Reader.run · t)) :
      read? (print v) = some v := by
    have all := complete []
    rw [List.append_nil] at all
    unfold read?
    rw [show (print v).foldlM Reader.step? Reader.State.initial = _ from all]
    rfl
  cases v with
  | null => rfl
  | bool b => cases b <;> rfl
  | int n => exact h.elim
  | real x => exact h.elim
  | text t => exact whole fun u => by rw [print, Reader.run_printText h u rfl]; rfl
  | array items => exact whole fun t => Reader.run_array h t
  | object members => exact whole fun t => Reader.run_object h t

end Json

end SaslBind
