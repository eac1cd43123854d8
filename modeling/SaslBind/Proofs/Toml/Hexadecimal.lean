import Mathlib.Algebra.Group.Nat.Defs
import SaslBind.Toml.Reader

/-!
# Versions in hexadecimal digits

A document may give the version of a project as an integer.  In decimal digits there is a bound to their number, in
hexadecimal ones there is none, so this is how a document comes to hold an integer of any size.

* `digitRun_eq` : where all characters are digits, all of them are taken;
* `powerDigits` : the digits of a power of sixteen;
* `hexadecimalVersion` : a document with nothing but a version in hexadecimal digits.

Main statement: `read_hexadecimalVersion`, the table of such a document.
-/

namespace SaslBind

namespace Toml

/-! ### Documents without a carriage return -/

theorem joinLineEnds_eq {t : Text} (h : ∀ c ∈ t, c.value ≠ 0xD) : joinLineEnds t = t := by
  induction t with
  | nil => rfl
  | cons c t ih =>
    have rest := ih fun e he => h e (List.mem_cons_of_mem _ he)
    cases t with
    | nil => rfl
    | cons d t =>
      have plain : ¬ (c.value = 0xD ∧ d.value = 0xA) := fun hcd => h c List.mem_cons_self hcd.1
      rw [joinLineEnds, if_neg plain, rest]

/-! ### Digits -/

theorem digitRun_eq {isDigit : CodePoint → Bool} {t : Text} (digits : ∀ c ∈ t, isDigit c)
    (plain : ∀ c ∈ t, c ≠ CodePoint.ofChar '_') : digitRun isDigit t = (t, []) := by
  fun_induction digitRun isDigit t with
  | case1 => rfl
  | case2 c hc d e rest hde => exact absurd hde.1 (plain d (by simp))
  | case3 c hc d e rest hde run rest' hrun ih =>
    have all := ih (fun a ha => digits a (List.mem_cons_of_mem _ ha)) fun a ha => plain a (List.mem_cons_of_mem _ ha)
    simp_all
  | case4 c rest hc hshort run rest' hrun ih =>
    have all := ih (fun a ha => digits a (List.mem_cons_of_mem _ ha)) fun a ha => plain a (List.mem_cons_of_mem _ ha)
    simp_all
  | case5 c rest hc => exact absurd (digits c List.mem_cons_self) hc

/-- Whether a character is a hexadecimal digit, of either case. -/
def isHexDigit (c : CodePoint) : Bool := (hexDigit? c).isSome

theorem hexDigit?_lt {c : CodePoint} {n : Nat} (h : hexDigit? c = some n) : n < 16 := by
  unfold hexDigit? CodePoint.isDigit CodePoint.digit? at h
  grind

theorem isHexDigit_spec {c : CodePoint} (h : isHexDigit c) :
    (hexDigit? c).any (· < 16) ∧ c ≠ CodePoint.ofChar '_' ∧ c.value ≠ 0xD := by
  obtain ⟨n, hn⟩ := Option.isSome_iff_exists.1 h
  refine ⟨by simpa [hn] using hexDigit?_lt hn, ?_, fun hc => ?_⟩
  · rintro rfl
    revert h
    decide
  · unfold hexDigit? CodePoint.isDigit CodePoint.digit? at hn
    grind

/-- The number of hexadecimal digits. -/
def hexValue (digits : Text) : Nat := Text.positionalValue 16 (digits.filterMap hexDigit?)

/-- One digit one, and zeros after it. -/
def powerDigits (n : Nat) : Text := CodePoint.ofChar '1' :: List.replicate n (CodePoint.ofChar '0')

theorem isHexDigit_powerDigits (n : Nat) : ∀ c ∈ powerDigits n, isHexDigit c := by
  intro c hc
  rcases List.mem_cons.1 hc with rfl | hc
  · rfl
  · rw [List.eq_of_mem_replicate hc]
    rfl

theorem positionalValue_zeros (base first n : Nat) :
    (List.replicate n 0).foldl (fun m d => m * base + d) first = first * base ^ n := by
  induction n generalizing first with
  | zero => simp
  | succ n ih =>
    rw [List.replicate_succ, List.foldl_cons, ih, Nat.add_zero, Nat.mul_assoc, Nat.pow_succ, Nat.mul_comm base]

theorem hexValue_powerDigits (n : Nat) : hexValue (powerDigits n) = 16 ^ n := by
  have one : hexDigit? (CodePoint.ofChar '1') = some 1 := rfl
  have zero : hexDigit? (CodePoint.ofChar '0') = some 0 := rfl
  rw [hexValue, powerDigits, List.filterMap_cons_some one, List.filterMap_replicate_of_some zero,
    Text.positionalValue, List.foldl_cons, positionalValue_zeros]
  simp

theorem inBase?_hexadecimal {digits : Text} (hne : digits ≠ []) (h : ∀ c ∈ digits, isHexDigit c) :
    inBase? "0x" 16 ("0x".toText ++ digits) = some (.int (hexValue digits), []) := by
  have run : digitRun (fun c => (hexDigit? c).any (· < 16)) digits = (digits, []) :=
    digitRun_eq (fun c hc => (isHexDigit_spec (h c hc)).1) fun c hc => (isHexDigit_spec (h c hc)).2.1
  have marked : ("0x".toText ++ digits).startsWith "0x".toText = true := rfl
  have after : ("0x".toText ++ digits).drop 2 = digits := rfl
  simp only [inBase?, marked, if_true, after, run]
  simp [hne, hexValue]

/-- A number in hexadecimal digits is no date and no time. -/
theorem stamp?_hexadecimal (digits : Text) : stamp? ("0x".toText ++ digits) = none := by
  have noYear : date? ("0x".toText ++ digits) = none := by
    simp [date?, digits?, String.toText, CodePoint.isDigit, CodePoint.ofChar]
  have noHour : clockTime? ("0x".toText ++ digits) = none := by
    simp [clockTime?, two?, digits?, String.toText, CodePoint.isDigit, CodePoint.ofChar]
  simp only [stamp?, noYear, noHour]

theorem value_hexadecimal (fuel room : Nat) {digits : Text} (hne : digits ≠ []) (h : ∀ c ∈ digits, isHexDigit c) :
    value (fuel + 1) room ("0x".toText ++ digits) = .ok (.int (hexValue digits), []) := by
  have number : number? ("0x".toText ++ digits) = some (.ok (.int (hexValue digits), [])) := by
    simp only [number?, inBase?_hexadecimal hne h]
    rfl
  have noText : text? ("0x".toText ++ digits) = none := rfl
  have notTrue : ("0x".toText ++ digits).startsWith "true".toText = false := rfl
  have notFalse : ("0x".toText ++ digits).startsWith "false".toText = false := rfl
  have first : "0x".toText ++ digits = CodePoint.ofChar '0' :: ("x".toText ++ digits) := rfl
  unfold value
  simp only [noText, notTrue, notFalse, Bool.false_eq_true, if_false]
  simp only [stamp?_hexadecimal, number]
  rfl

/-! ### Documents -/

/-- A document with nothing but a version in hexadecimal digits. -/
def hexadecimalVersion (digits : Text) : Text := "[project]\nversion = 0x".toText ++ digits

theorem hasSurrogate_hexadecimalVersion {digits : Text} (h : ∀ c ∈ digits, isHexDigit c) :
    (hexadecimalVersion digits).hasSurrogate = false := by
  have before : ∀ c ∈ "[project]\nversion = 0x".toText, ¬ c.isSurrogate := by decide
  refine List.any_eq_false.2 fun c hc => ?_
  rcases List.mem_append.1 hc with hc | hc
  · exact before c hc
  · obtain ⟨n, hn⟩ := Option.isSome_iff_exists.1 (h c hc)
    unfold hexDigit? CodePoint.isDigit CodePoint.digit? at hn
    unfold CodePoint.isSurrogate
    grind

/-- What is known after the first line. -/
def headed : Document := ⟨[("project".toText, .dict [])], ⟨[["project".toText]], []⟩, [], ["project".toText]⟩

theorem statements_header (fuel : Nat) (rest : Text) :
    Document.empty.statements (fuel + 1) ("[project]\n".toText ++ rest) = headed.statements fuel rest := rfl

theorem entry_hexadecimal {digits : Text} (hne : digits ≠ []) (h : ∀ c ∈ digits, isHexDigit c) :
    headed.entry ("version = 0x".toText ++ digits) =
      .ok ({ headed with table := [("project".toText, .dict [("version".toText, .int (hexValue digits))])] }, []) := by
  have split : key ("version = 0x".toText ++ digits) = .ok (["version".toText], "= 0x".toText ++ digits) := rfl
  have equals : expect "=" .equalsExpected ("= 0x".toText ++ digits) = .ok (" 0x".toText ++ digits) := rfl
  have blank : skipSpace (" 0x".toText ++ digits) = "0x".toText ++ digits := rfl
  unfold Document.entry
  simp only [split, equals, blank, Bind.bind, Except.bind, value_hexadecimal _ _ hne h]
  rfl

/-- **A version in hexadecimal digits** is read as the number of these digits, however many there are. -/
theorem read_hexadecimalVersion {digits : Text} (hne : digits ≠ []) (h : ∀ c ∈ digits, isHexDigit c) :
    read (hexadecimalVersion digits) =
      .ok [("project".toText, .dict [("version".toText, .int (hexValue digits))])] := by
  have before : ∀ c ∈ "[project]\nversion = 0x".toText, c.value ≠ 0xD := by decide
  have plain : ∀ c ∈ hexadecimalVersion digits, c.value ≠ 0xD := fun c hc =>
    (List.mem_append.1 hc).elim (before c) fun hc => (isHexDigit_spec (h c hc)).2.2
  have all : Document.empty.statements ((hexadecimalVersion digits).length + 1) (hexadecimalVersion digits) =
      .ok { headed with table := [("project".toText, .dict [("version".toText, .int (hexValue digits))])] } := by
    refine (statements_header _ ("version = 0x".toText ++ digits)).trans ?_
    obtain ⟨fuel, hf⟩ : ∃ fuel, (hexadecimalVersion digits).length = fuel + 1 := ⟨_, rfl⟩
    have statement : headed.statement (CodePoint.ofChar 'v') ("ersion = 0x".toText ++ digits) = _ :=
      entry_hexadecimal hne h
    have blank : skipSpace ("version = 0x".toText ++ digits) =
        CodePoint.ofChar 'v' :: ("ersion = 0x".toText ++ digits) := rfl
    rw [hf]
    unfold Document.statements
    simp only [blank, statement, Bind.bind, Except.bind]
    rfl
  unfold read
  simp only [joinLineEnds_eq plain, all]

end Toml

end SaslBind
