import Narrowd.Lib.Codec
import Narrowd.Config.Parse

set_option autoImplicit false

/-! # Durations and sizes

`parse_duration` and `parse_byte_size` read the same kind of text: surrounding space, decimal digits
and a suffix in any letter case. They differ at the end of the number range. A size that does not
fit is refused; minutes and hours that do not fit are cut to `u64::MAX` seconds.

`quantities_exact_iff` says that nothing else is changed on the way: both functions accept exactly
the quantities that fit and return them as they are, if the text is not one of those minutes or
hours.
-/

namespace Narrowd.Config

open Narrowd Lib

/-! ## Quantities -/

/-- The number and the unit that a text gives, for a table of suffixes in lower case. -/
def Gives (units : String → Option Nat) (input : Text) (number unit : Nat) : Prop :=
  ∃ digits suffix : Text, input.trim = digits ++ suffix ∧ digits ≠ [] ∧
    (∀ c ∈ digits, c.isDigit = true) ∧ number = Text.digitsValue digits ∧
    units suffix.toAsciiLowercase = some unit

/-- The suffixes of a duration, in nanoseconds. -/
def durationUnit : String → Option Nat
  | "" => some 1000000000
  | "s" => some 1000000000
  | "ms" => some 1000000
  | "m" => some (60 * 1000000000)
  | "h" => some (60 * 60 * 1000000000)
  | _ => none

/-- The suffixes of a size, in bytes. -/
def byteUnit : String → Option Nat
  | "" => some 1
  | "b" => some 1
  | "k" => some 1000
  | "kb" => some 1000
  | "ki" => some 1024
  | "kib" => some 1024
  | "m" => some 1000000
  | "mb" => some 1000000
  | "mi" => some 1048576
  | "mib" => some 1048576
  | _ => none

/-- **A parser reads quantities exactly**: it accepts the texts whose number is a `u64` and whose
quantity fits, and returns that quantity. -/
def ReadsExactly (parse : Text → Except AnyError Nat) (units : String → Option Nat)
    (Fits : Nat → Prop) (input : Text) : Prop :=
  ∀ q, parse input = .ok q ↔
    ∃ number unit, Gives units input number unit ∧ number ≤ u64Max ∧ Fits (number * unit) ∧
      q = number * unit

/-- The whole seconds of a `Duration` are a `u64`. -/
def FitsDuration (ns : Nat) : Prop := ns / 1000000000 ≤ u64Max

/-- A size is a `usize`. -/
def FitsSize (bytes : Nat) : Prop := bytes ≤ u64Max

/-- The text is a number of minutes or hours whose seconds are more than a `u64` can hold. -/
def Saturates (input : Text) : Prop :=
  ∃ digits suffix : Text, input.trim = digits ++ suffix ∧ digits ≠ [] ∧
    (∀ c ∈ digits, c.isDigit = true) ∧ Text.digitsValue digits ≤ u64Max ∧
    ((suffix.toAsciiLowercase = "m" ∧ u64Max < Text.digitsValue digits * 60) ∨
      (suffix.toAsciiLowercase = "h" ∧ u64Max < Text.digitsValue digits * (60 * 60)))

/-! ## Where the digits end -/

/-- No suffix of the table has a digit in it. -/
def NoDigits (units : String → Option Nat) : Prop :=
  ∀ s unit, units s = some unit → ∀ c ∈ s.toList, c.isDigit = false

theorem isDigit_eq_false_of_all {t : Text} (h : t.all (!Char.isDigit ·) = true) :
    ∀ c ∈ t, c.isDigit = false := by
  intro c hc
  simpa using List.all_eq_true.mp h c hc

theorem noDigits_durationUnit : NoDigits durationUnit := by
  intro s unit h
  unfold durationUnit at h
  split at h <;> first | (cases h; exact isDigit_eq_false_of_all (by decide)) | cases h

theorem noDigits_byteUnit : NoDigits byteUnit := by
  intro s unit h
  unfold byteUnit at h
  split at h <;> first | (cases h; exact isDigit_eq_false_of_all (by decide)) | cases h

theorem toLower_of_isDigit {c : Char} (h : c.isDigit = true) : c.toLower = c := by
  have hlt := (Char.isDigit_iff_toNat.mp h).2
  have hnot : ¬ ('A'.val ≤ c.val ∧ c.val ≤ 'Z'.val) := by
    rintro ⟨hA, -⟩
    have hA' : 65 ≤ c.toNat := hA
    have hlt' : c.toNat ≤ 57 := hlt
    omega
  exact dif_neg hnot

variable {units : String → Option Nat}

/-- So the digits of a quantity are all that the text begins with. -/
theorem gives_iff (hunits : NoDigits units) {input : Text} {number unit : Nat} :
    Gives units input number unit ↔
      input.trim.takeWhile Char.isDigit ≠ [] ∧
      number = Text.digitsValue (input.trim.takeWhile Char.isDigit) ∧
      units (Text.toAsciiLowercase (input.trim.dropWhile Char.isDigit)) = some unit := by
  constructor
  · rintro ⟨digits, suffix, htrim, hne, hdigits, hnumber, hunit⟩
    have hend : NoDigit suffix := by
      intro c hc
      obtain ⟨rest, rfl⟩ : ∃ rest, suffix = c :: rest := by
        cases suffix with
        | nil => cases hc
        | cons d rest => exact ⟨rest, by cases hc; rfl⟩
      by_contra hdigit
      have hc' : c.isDigit = true := by simpa using hdigit
      have hlow := hunits _ _ hunit c (by
        simp [Text.toAsciiLowercase, toLower_of_isDigit hc'])
      exact hdigit hlow
    obtain ⟨htake, hdrop⟩ := Codec.takeWhile_digits_append hdigits hend
    rw [htrim, htake, hdrop]
    exact ⟨hne, hnumber, hunit⟩
  · rintro ⟨hne, hnumber, hunit⟩
    refine ⟨_, _, (List.takeWhile_append_dropWhile).symm, hne, ?_, hnumber, hunit⟩
    exact List.all_eq_true.mp List.all_takeWhile

/-! ## What the parsers return -/

/-- A text of digits is read as its value, unless that is too large. -/
theorem parseInt_digits {digits : Text} (hne : digits ≠ [])
    (hdigits : ∀ c ∈ digits, c.isDigit = true) {n : Nat} :
    parseInt 64 digits = .ok n ↔ Text.digitsValue digits ≤ u64Max ∧
      n = Text.digitsValue digits := by
  have hplus : ∀ rest, digits ≠ '+' :: rest := by
    rintro rest rfl
    have hplus := hdigits '+' List.mem_cons_self
    exact absurd hplus (by decide)
  have hparse : digits.parseUnsigned 64 =
      if 2 ^ 64 ≤ Text.digitsValue digits then .error .posOverflow
      else .ok (Text.digitsValue digits) := by
    unfold Text.parseUnsigned
    split
    · exact absurd rfl hne
    · next d rest => exact absurd rfl (hplus _)
    · exact Text.parseDigits_of_isDigit hdigits (Nat.two_pow_pos 64)
  unfold parseInt
  rw [hparse]
  by_cases hbig : 2 ^ 64 ≤ Text.digitsValue digits
  · simp only [if_pos hbig, u64Max]
    constructor
    · intro h
      cases h
    · rintro ⟨hle, -⟩
      omega
  · simp only [if_neg hbig, u64Max, Except.ok.injEq]
    constructor
    · rintro rfl
      exact ⟨by omega, rfl⟩
    · rintro ⟨-, rfl⟩
      rfl

variable {q : Nat}

/-- Both parsers go on from the value of the digits. -/
theorem bind_parseInt_eq_ok {digits : Text} (hne : digits ≠ [])
    (hdigits : ∀ c ∈ digits, c.isDigit = true) {f : Nat → Except AnyError Nat} :
    (parseInt 64 digits >>= f) = .ok q ↔
      Text.digitsValue digits ≤ u64Max ∧ f (Text.digitsValue digits) = .ok q := by
  constructor
  · intro h
    obtain ⟨n, hn, hf⟩ := bind_eq_ok h
    obtain ⟨hle, rfl⟩ := (parseInt_digits hne hdigits).mp hn
    exact ⟨hle, hf⟩
  · rintro ⟨hle, hf⟩
    rw [(parseInt_digits hne hdigits).mpr ⟨hle, rfl⟩]
    exact hf

/-- What `parse_duration` makes of a number, by its suffix: at most `u64::MAX` seconds. -/
theorem duration_of_suffix (suffix : String) {value : Nat} (hvalue : value ≤ u64Max) :
    (match suffix with
      | "" => pure (Duration.fromSecs value)
      | "s" => pure (Duration.fromSecs value)
      | "ms" => pure (Duration.fromMillis value)
      | "m" => pure (Duration.fromSecs (saturatingMul value 60))
      | "h" => pure (Duration.fromSecs (saturatingMul value (60 * 60)))
      | other => throw ⟨"unsupported duration suffix: " ++ other, []⟩ :
        Except AnyError Duration) = .ok q ↔
      ∃ unit, durationUnit suffix = some unit ∧ q = min (value * unit) (u64Max * 1000000000) := by
  have hok : ∀ d : Nat, ((pure d : Except AnyError Duration) = .ok q) ↔ q = d := by
    intro d
    exact ⟨fun h => (Except.ok.inj h).symm, fun h => h ▸ rfl⟩
  split
  all_goals simp only [hok, durationUnit, Option.some.injEq, exists_eq_left', Duration.fromSecs,
    Duration.fromMillis, saturatingMul]
  · omega
  · omega
  · omega
  · omega
  · omega
  · next h1 h2 h3 h4 h5 =>
      constructor
      · intro h
        cases h
      · rintro ⟨unit, hunit, -⟩
        simp_all

/-- `parse_byte_size` goes on from the factor of the suffix. -/
theorem multiplier_of_suffix (suffix : String) (k : Nat → Except AnyError Nat) :
    (match suffix with
      | "" => pure 1 >>= k
      | "b" => pure 1 >>= k
      | "k" => pure 1000 >>= k
      | "kb" => pure 1000 >>= k
      | "ki" => pure 1024 >>= k
      | "kib" => pure 1024 >>= k
      | "m" => pure 1000000 >>= k
      | "mb" => pure 1000000 >>= k
      | "mi" => pure 1048576 >>= k
      | "mib" => pure 1048576 >>= k
      | other => throw (AnyError.mk ("unsupported byte size suffix: " ++ other) []) >>= k) = .ok q ↔
      ∃ unit, byteUnit suffix = some unit ∧ k unit = .ok q := by
  split
  all_goals simp only [pure_bind, byteUnit, Option.some.injEq, exists_eq_left']
  · constructor
    · intro h
      cases h
    · rintro ⟨unit, hunit, -⟩
      simp_all

section

variable {input : Text}

/-- Where there are no digits at the beginning nothing is accepted. -/
theorem takeWhile_ne_nil_of_parseDuration (h : parseDuration input = .ok q) :
    input.trim.takeWhile Char.isDigit ≠ [] := by
  intro hnil
  unfold parseDuration at h
  simp only [hnil, List.isEmpty_nil, if_true] at h
  split at h <;> cases h

theorem takeWhile_ne_nil_of_parseByteSize (h : parseByteSize input = .ok q) :
    input.trim.takeWhile Char.isDigit ≠ [] := by
  intro hnil
  unfold parseByteSize at h
  simp only [hnil, List.isEmpty_nil, if_true] at h
  split at h <;> cases h

theorem trim_ne_nil_of_takeWhile (hne : input.trim.takeWhile Char.isDigit ≠ []) :
    input.trim.isEmpty = false := by
  rw [List.isEmpty_eq_false_iff]
  intro hnil
  rw [hnil] at hne
  exact hne rfl

/-- **What `parse_duration` accepts and returns**: a quantity is cut to `u64::MAX` seconds. -/
theorem parseDuration_eq_ok_iff :
    parseDuration input = .ok q ↔
      ∃ number unit, Gives durationUnit input number unit ∧ number ≤ u64Max ∧
        q = min (number * unit) (u64Max * 1000000000) := by
  simp only [gives_iff noDigits_durationUnit]
  by_cases hne : input.trim.takeWhile Char.isDigit = []
  · refine iff_of_false (fun h => takeWhile_ne_nil_of_parseDuration h hne) ?_
    rintro ⟨number, unit, ⟨hne', -⟩, -⟩
    exact hne' hne
  · have hdigits : ∀ c ∈ input.trim.takeWhile Char.isDigit, c.isDigit = true :=
      List.all_eq_true.mp List.all_takeWhile
    unfold parseDuration
    simp only [trim_ne_nil_of_takeWhile hne, List.isEmpty_eq_false_iff.mpr hne, Bool.false_eq_true,
      if_false]
    rw [bind_parseInt_eq_ok hne hdigits]
    constructor
    · rintro ⟨hle, hq⟩
      obtain ⟨unit, hunit, rfl⟩ := (duration_of_suffix _ hle).mp hq
      exact ⟨_, unit, ⟨hne, rfl, hunit⟩, hle, rfl⟩
    · rintro ⟨number, unit, ⟨-, rfl, hunit⟩, hle, rfl⟩
      exact ⟨hle, (duration_of_suffix _ hle).mpr ⟨unit, hunit, rfl⟩⟩

/-- **`parse_byte_size` reads sizes exactly.** -/
theorem readsExactly_parseByteSize : ReadsExactly parseByteSize byteUnit FitsSize input := by
  intro q
  simp only [gives_iff noDigits_byteUnit]
  by_cases hne : input.trim.takeWhile Char.isDigit = []
  · refine iff_of_false (fun h => takeWhile_ne_nil_of_parseByteSize h hne) ?_
    rintro ⟨number, unit, ⟨hne', -⟩, -⟩
    exact hne' hne
  · have hdigits : ∀ c ∈ input.trim.takeWhile Char.isDigit, c.isDigit = true :=
      List.all_eq_true.mp List.all_takeWhile
    unfold parseByteSize
    simp only [trim_ne_nil_of_takeWhile hne, List.isEmpty_eq_false_iff.mpr hne, Bool.false_eq_true,
      if_false]
    rw [bind_parseInt_eq_ok hne hdigits]
    constructor
    · rintro ⟨hle, hq⟩
      obtain ⟨unit, hunit, hprod⟩ := (multiplier_of_suffix _ _).mp hq
      by_cases hbig : u64Max < Text.digitsValue (input.trim.takeWhile Char.isDigit) * unit
      · rw [if_pos hbig] at hprod
        cases hprod
      · rw [if_neg hbig] at hprod
        cases hprod
        exact ⟨_, unit, ⟨hne, rfl, hunit⟩, hle, Nat.le_of_not_lt hbig, rfl⟩
    · rintro ⟨number, unit, ⟨-, rfl, hunit⟩, hle, hfits, rfl⟩
      refine ⟨hle, (multiplier_of_suffix _ _).mpr ⟨unit, hunit, ?_⟩⟩
      rw [if_neg (Nat.not_lt.mpr hfits)]
      rfl

/-! ## Where they are exact -/

/-- The units of durations: a `u64` of them fits unless it is of minutes or hours. -/
theorem fitsDuration_iff {suffix : String} {number unit : Nat}
    (hunit : durationUnit suffix = some unit) (hnumber : number ≤ u64Max) :
    FitsDuration (number * unit) ↔ number * unit ≤ u64Max * 1000000000 := by
  unfold FitsDuration
  unfold durationUnit at hunit
  split at hunit <;> cases hunit <;> omega

/-- Only minutes and hours can be too many. -/
theorem saturates_iff :
    Saturates input ↔ ∃ number unit, Gives durationUnit input number unit ∧ number ≤ u64Max ∧
      u64Max * 1000000000 < number * unit := by
  constructor
  · rintro ⟨digits, suffix, htrim, hne, hdigits, hle, ⟨hm, hbig⟩ | ⟨hh, hbig⟩⟩
    · have hunit : durationUnit suffix.toAsciiLowercase = some (60 * 1000000000) := by rw [hm]; rfl
      refine ⟨_, _, ⟨digits, suffix, htrim, hne, hdigits, rfl, hunit⟩, hle, ?_⟩
      rw [← Nat.mul_assoc]
      exact Nat.mul_lt_mul_of_pos_right hbig (by decide)
    · have hunit : durationUnit suffix.toAsciiLowercase = some (60 * 60 * 1000000000) := by
        rw [hh]
        rfl
      refine ⟨_, _, ⟨digits, suffix, htrim, hne, hdigits, rfl, hunit⟩, hle, ?_⟩
      rw [← Nat.mul_assoc]
      exact Nat.mul_lt_mul_of_pos_right hbig (by decide)
  · rintro ⟨number, unit, ⟨digits, suffix, htrim, hne, hdigits, rfl, hunit⟩, hle, hbig⟩
    refine ⟨digits, suffix, htrim, hne, hdigits, hle, ?_⟩
    unfold durationUnit at hunit
    split at hunit
    · cases hunit
      omega
    · cases hunit
      omega
    · cases hunit
      omega
    · next hm =>
        cases hunit
        rw [← Nat.mul_assoc] at hbig
        exact Or.inl ⟨hm, Nat.lt_of_mul_lt_mul_right hbig⟩
    · next hh =>
        cases hunit
        rw [← Nat.mul_assoc] at hbig
        exact Or.inr ⟨hh, Nat.lt_of_mul_lt_mul_right hbig⟩
    · cases hunit

/-- The quantity of a text is determined. -/
theorem Gives.unique (hunits : NoDigits units) {number number' unit unit' : Nat}
    (h : Gives units input number unit) (h' : Gives units input number' unit') :
    number = number' ∧ unit = unit' := by
  obtain ⟨-, hn, hu⟩ := (gives_iff hunits).mp h
  obtain ⟨-, hn', hu'⟩ := (gives_iff hunits).mp h'
  exact ⟨hn.trans hn'.symm, Option.some.inj (hu.symm.trans hu')⟩

/-- **When quantities are read exactly.** For every text: `parse_duration` and `parse_byte_size`
accept it exactly if it is a number, a `u64`, with a suffix of theirs and the quantity fits, and
return that quantity, if and only if the text is not a number of minutes or hours that does not
fit. -/
theorem quantities_exact_iff (input : Text) :
    (ReadsExactly parseDuration durationUnit FitsDuration input ∧
      ReadsExactly parseByteSize byteUnit FitsSize input) ↔ ¬ Saturates input := by
  rw [saturates_iff]
  constructor
  · rintro ⟨hexact, -⟩ ⟨number, unit, hgives, hle, hbig⟩
    -- such a duration is accepted, and should not be
    have haccepts := parseDuration_eq_ok_iff.mpr ⟨number, unit, hgives, hle, rfl⟩
    obtain ⟨number', unit', hgives', hle', hfits, -⟩ := (hexact _).mp haccepts
    obtain ⟨rfl, rfl⟩ := hgives.unique noDigits_durationUnit hgives'
    obtain ⟨digits, suffix, -, -, -, -, hunit⟩ := hgives
    rw [fitsDuration_iff hunit hle] at hfits
    omega
  · intro hnone
    refine ⟨fun q => ?_, readsExactly_parseByteSize⟩
    rw [parseDuration_eq_ok_iff]
    refine exists_congr fun number => exists_congr fun unit => and_congr_right fun hgives =>
      and_congr_right fun hle => ?_
    have hsmall : number * unit ≤ u64Max * 1000000000 := by
      by_contra hbig
      exact hnone ⟨number, unit, hgives, hle, by omega⟩
    obtain ⟨digits, suffix, -, -, -, -, hunit⟩ := hgives
    rw [fitsDuration_iff hunit hle, Nat.min_eq_left hsmall]
    exact ⟨fun hq => ⟨hsmall, hq⟩, fun hq => hq.2⟩

end

/-- **Too many minutes.** `307445734561825861m` is 45 seconds more than a `u64` of seconds can hold,
and is read as `u64::MAX` seconds. -/
theorem minutes_saturate :
    Gives durationUnit "307445734561825861m".toList 307445734561825861 (60 * 1000000000) ∧
      ¬ FitsDuration (307445734561825861 * (60 * 1000000000)) ∧
      parseDuration "307445734561825861m".toList = .ok (Duration.fromSecs u64Max) ∧
      ¬ ReadsExactly parseDuration durationUnit FitsDuration "307445734561825861m".toList := by
  have hgives : Gives durationUnit "307445734561825861m".toList 307445734561825861
      (60 * 1000000000) :=
    ⟨"307445734561825861".toList, "m".toList, by decide, by decide,
      List.all_eq_true.mp (by decide), by decide, rfl⟩
  have hbig : ¬ FitsDuration (307445734561825861 * (60 * 1000000000)) := by
    unfold FitsDuration u64Max
    omega
  have hparse : parseDuration "307445734561825861m".toList = .ok (Duration.fromSecs u64Max) := rfl
  refine ⟨hgives, hbig, hparse, fun hexact => ?_⟩
  obtain ⟨number, unit, hgives', -, hfits, -⟩ := (hexact _).mp hparse
  obtain ⟨rfl, rfl⟩ := hgives.unique noDigits_durationUnit hgives'
  exact hbig hfits

end Narrowd.Config
