import Mathlib.Data.List.DropRight
import Mathlib.Data.List.TakeWhile
import Narrowd.Config.Settings

set_option autoImplicit false

/-! # The last setting of a field counts

`last_setting_counts` says that the readings of its lines (`Config/Settings.lean`) are all there is
to a file. It is accepted if and only if every line is valid, each field then has the value of the
last line that sets it, and so the file may be rearranged and written differently as long as the
settings of each field stay in order.
-/

namespace Narrowd.Config

open Lib

theorem words_trim (t : Text) : words Text.isWhitespace t.trim = words Text.isWhitespace t := by
  have hdrop : words Text.isWhitespace (t.dropWhile Text.isWhitespace) =
      words Text.isWhitespace t := by
    conv_rhs => rw [← List.takeWhile_append_dropWhile (p := Text.isWhitespace) (l := t)]
    exact (words_seps_append (List.all_eq_true.mp List.all_takeWhile) _).symm
  have hrdrop : ∀ l : Text, words Text.isWhitespace (l.rdropWhile Text.isWhitespace) =
      words Text.isWhitespace l := by
    intro l
    conv_rhs => rw [← List.rdropWhile_append_rtakeWhile (p := Text.isWhitespace) (l := l)]
    exact (words_append_seps _ fun c hc => List.mem_rtakeWhile_imp hc).symm
  exact (hrdrop _).trans hdrop

theorem applyLine_eq (config : AppConfig) (place : Place) (line : Text) :
    (config.applyLine place line).toOption =
      (settingOf place.platform place.dirs place.baseDir line).map config.apply := by
  have hwords : Text.splitWhitespace (Text.trim (line.takeWhile (· != '#'))) = lineWords line :=
    words_trim _
  unfold AppConfig.applyLine settingOf
  dsimp only
  rw [hwords]
  match lineWords line with
  | [] => rfl
  | [_] => rfl
  | key :: first :: rest => exact applyDirective_eq config place key first (first :: rest)

variable {line : Text} {settings : List (Option Setting)}

section

variable (p : Platform) (dirs : Dirs) (baseDir : PathBuf)

/-- What a line sets. -/
def lineSetting (line : Text) : Option Setting := (settingOf p dirs baseDir line).join

/-- The configuration that valid lines leave. -/
def AppConfig.applyAll (config : AppConfig) (lines : List Text) : AppConfig :=
  lines.foldl (fun c line => c.apply (lineSetting p dirs baseDir line)) config

theorem applyAll_cons (config : AppConfig) (line : Text) (lines : List Text) :
    config.applyAll p dirs baseDir (line :: lines) =
      (config.apply (lineSetting p dirs baseDir line)).applyAll p dirs baseDir lines := rfl

theorem toOption_bind {ε α β : Type} (x : Except ε α) (k : α → Except ε β) :
    (x >>= k).toOption = x.toOption >>= fun a => (k a).toOption := by
  cases x <;> rfl

/-- **The loop of `apply_text`.** -/
theorem applyLines_eq (lines : List Text) (idx : Nat) (config : AppConfig) :
    (AppConfig.applyLines p dirs baseDir idx config lines).toOption =
      if ∀ line ∈ lines, (settingOf p dirs baseDir line).isSome then
        some (config.applyAll p dirs baseDir lines)
      else none := by
  induction lines generalizing idx config with
  | nil => rfl
  | cons line rest ih =>
      rw [AppConfig.applyLines, toOption_bind, applyLine_eq]
      cases hread : settingOf p dirs baseDir line with
      | none => simp [hread]
      | some read =>
          have hset : lineSetting p dirs baseDir line = read := by simp [lineSetting, hread]
          simp [hread, ih, applyAll_cons, hset]

/-! ## The value of a field -/

/-- The value that a setting gives to a field. -/
def Setting.value (f : Field) (s : Setting) : Option f.Value :=
  if h : s.1 = f then some (h ▸ s.2) else none

theorem Setting.value_self (f : Field) (v : f.Value) : Setting.value f ⟨f, v⟩ = some v := by
  simp [Setting.value]

theorem Setting.value_of_ne {f : Field} {s : Setting} (h : s.1 ≠ f) : Setting.value f s = none := by
  simp [Setting.value, h]

/-- The value that a line gives to a field. -/
def lineValue (f : Field) (line : Text) : Option f.Value :=
  (lineSetting p dirs baseDir line).bind (Setting.value f)

/-- The value that the last line that governs a field gives to it. -/
def lastValue (f : Field) (lines : List Text) : Option f.Value :=
  (lines.filterMap (lineValue p dirs baseDir f)).getLast?

theorem get_apply (config : AppConfig) (f : Field) (s : Option Setting) :
    (config.apply s).get f = (s.bind (Setting.value f)).getD (config.get f) := by
  match s with
  | none => rfl
  | some ⟨g, v⟩ =>
      by_cases hg : g = f
      · subst hg
        simp [AppConfig.apply, AppConfig.get_set_self, Setting.value_self]
      · rw [AppConfig.apply, AppConfig.get_set_of_ne _ _ (Ne.symm hg), Option.bind_some,
          Setting.value_of_ne hg, Option.getD_none]

/-- **The last setting counts.** -/
theorem get_foldl_apply (config : AppConfig) (f : Field) (settings : List (Option Setting)) :
    (settings.foldl AppConfig.apply config).get f =
      (settings.filterMap (·.bind (Setting.value f))).getLast?.getD (config.get f) := by
  induction settings using List.reverseRecOn with
  | nil => rfl
  | append_singleton settings s ih =>
      rw [List.foldl_append, List.foldl_cons, List.foldl_nil, get_apply, ih, List.filterMap_append]
      cases hv : s.bind (Setting.value f) with
      | none => simp [hv]
      | some v => simp [hv]

theorem get_applyAll (config : AppConfig) (f : Field) (lines : List Text) :
    (config.applyAll p dirs baseDir lines).get f =
      (lastValue p dirs baseDir f lines).getD (config.get f) := by
  have hfold : config.applyAll p dirs baseDir lines =
      (lines.map (lineSetting p dirs baseDir)).foldl AppConfig.apply config := by
    rw [List.foldl_map]
    rfl
  rw [hfold, get_foldl_apply, List.filterMap_map]
  rfl

/-- Settings with the values of one configuration, of all its fields, give that configuration. -/
theorem foldl_apply_eq (config : AppConfig) {config' : AppConfig}
    (hvalues : settings.map (Option.map fun s => ⟨s.1, config'.get s.1⟩) = settings)
    (hall : ∀ f, some f ∈ settings.map (Option.map Sigma.fst)) :
    settings.foldl AppConfig.apply config = config' := by
  refine AppConfig.ext_get fun f => ?_
  rw [get_foldl_apply, ← hvalues, List.filterMap_map]
  set values := settings.filterMap _ with hset
  have hsame : ∀ v ∈ values, v = config'.get f := by
    intro v hv
    obtain ⟨s, -, hs⟩ := List.mem_filterMap.mp hv
    cases s with
    | none => cases hs
    | some s =>
        by_cases hsf : s.1 = f
        · subst hsf
          exact Option.some.inj (hs.symm.trans (Setting.value_self s.1 _))
        · exact absurd (hs.symm.trans (Setting.value_of_ne hsf)) (Option.some_ne_none v)
  have hne : values ≠ [] := by
    obtain ⟨s, hs, hsf⟩ := List.mem_map.mp (hall f)
    obtain ⟨s, rfl, rfl⟩ := Option.map_eq_some_iff.mp hsf
    exact List.ne_nil_of_mem (List.mem_filterMap.mpr ⟨some s, hs, Setting.value_self s.1 _⟩)
  rw [List.getLast?_eq_some_getLast hne, Option.getD_some, hsame _ (List.getLast_mem hne)]

/-! ## Lines taken alone -/

/-- A line that holds nothing before its comment. -/
def Blank (line : Text) : Prop := ∀ c ∈ line.takeWhile (· != '#'), Text.isWhitespace c = true

/-- A line that is a known directive with a value that can be read. -/
def ValidDirective (line : Text) : Prop :=
  ∃ key first rest, lineWords line = key :: first :: rest ∧
    (directive p dirs baseDir key.toAsciiLowercase first (first :: rest)).isSome

theorem lineWords_eq_nil_iff : lineWords line = [] ↔ Blank line :=
  words_eq_nil_iff

theorem isSome_settingOf_iff (line : Text) :
    (settingOf p dirs baseDir line).isSome ↔ Blank line ∨ ValidDirective p dirs baseDir line := by
  unfold settingOf ValidDirective
  rw [← lineWords_eq_nil_iff]
  match lineWords line with
  | [] => simp
  | [_] => simp
  | key :: first :: rest => simp

theorem applyText_toOption (config : AppConfig) (text : Text) :
    (config.applyText p dirs text baseDir).toOption =
      if ∀ line ∈ Text.lines text, (settingOf p dirs baseDir line).isSome then
        some (config.applyAll p dirs baseDir (Text.lines text))
      else none :=
  applyLines_eq p dirs baseDir _ _ _

theorem exists_ok_iff {ε α : Type} {x : Except ε α} : (∃ a, x = .ok a) ↔ x.toOption.isSome := by
  cases x <;> simp [Except.toOption]

theorem applyText_ok_iff (config : AppConfig) (text : Text) :
    (∃ config', config.applyText p dirs text baseDir = .ok config') ↔
      ∀ line ∈ Text.lines text, Blank line ∨ ValidDirective p dirs baseDir line := by
  simp only [← isSome_settingOf_iff]
  rw [exists_ok_iff, applyText_toOption]
  split <;> simp_all

/-- A text whose lines are known to be valid. -/
theorem applyText_of_settings (config : AppConfig) {text : Text}
    (h : (Text.lines text).map (settingOf p dirs baseDir) = settings.map some) :
    config.applyText p dirs text baseDir = .ok (settings.foldl AppConfig.apply config) := by
  have hsome : ∀ line ∈ Text.lines text, (settingOf p dirs baseDir line).isSome := by
    intro line hline
    have hmem : settingOf p dirs baseDir line ∈ settings.map some :=
      h ▸ List.mem_map_of_mem hline
    obtain ⟨s, -, hs⟩ := List.mem_map.mp hmem
    rw [← hs]
    rfl
  have hall : config.applyAll p dirs baseDir (Text.lines text) =
      settings.foldl AppConfig.apply config := by
    have hset : (Text.lines text).map (lineSetting p dirs baseDir) = settings := by
      have hjoin := congrArg (List.map Option.join) h
      rw [List.map_map, List.map_map] at hjoin
      exact hjoin.trans (by simp [Function.comp_def])
    rw [← hset, List.foldl_map]
    rfl
  have hok := applyText_toOption p dirs baseDir config text
  rw [if_pos hsome, hall] at hok
  cases hx : config.applyText p dirs text baseDir with
  | error err =>
      rw [hx] at hok
      cases hok
  | ok config' =>
      rw [hx] at hok
      rw [Option.some.inj hok]

/-- A line that ends nowhere is the only line of its text, if it is not empty. -/
theorem lines_eq_singleton (hbreak : '\n' ∉ line) (hne : line ≠ []) : Text.lines line = [line] := by
  have hsplit : line.splitOnP (· == '\n') = [line] := by
    refine List.splitOnP_eq_singleton fun c hc => beq_eq_false_iff_ne.mpr ?_
    exact fun hnl => hbreak (hnl ▸ hc)
  simp [Text.lines, hsplit, hne]

theorem applyText_line_ok_iff (config : AppConfig) (hbreak : '\n' ∉ line) :
    (∃ config', config.applyText p dirs line baseDir = .ok config') ↔
      Blank line ∨ ValidDirective p dirs baseDir line := by
  rw [applyText_ok_iff]
  by_cases hne : line = []
  · subst hne
    simp [Text.lines, Blank]
  · rw [lines_eq_singleton hbreak hne]
    simp

end

/-- The lines of a text hold no line break. -/
theorem not_mem_of_mem_lines {text : Text} (h : line ∈ Text.lines text) : '\n' ∉ line := by
  have hpiece : ∀ piece ∈ text.splitOnP (· == '\n'), '\n' ∉ piece := by
    intro piece hpiece hmem
    simpa using not_sep_of_mem_splitOnP hpiece _ hmem
  have hstrip : ∀ piece : Text, '\n' ∉ piece → '\n' ∉ Text.stripCarriageReturn piece := by
    intro piece hpiece hmem
    unfold Text.stripCarriageReturn at hmem
    split at hmem
    · exact hpiece (List.mem_of_mem_dropLast hmem)
    · exact hpiece hmem
  unfold Text.lines at h
  split at h
  · simp at h
  · rename_i last before heq
    have hlast : ∀ piece ∈ last :: before, '\n' ∉ piece := fun piece hmem =>
      hpiece piece (List.mem_reverse.mp (heq ▸ hmem))
    rcases List.mem_append.mp h with h | h
    · obtain ⟨piece, hmem, rfl⟩ := List.mem_map.mp h
      exact hstrip piece (hlast piece (List.mem_cons_of_mem _ (List.mem_reverse.mp hmem)))
    · split at h
      · simp at h
      · exact List.mem_singleton.mp h ▸ hlast last List.mem_cons_self

/-! ## Texts that say the same -/

/-- The same line in another style: with a comment at its end, with space around it, or with the
name of its directive in another case. -/
inductive Restyled : Text → Text → Prop
  | comment (line text : Text) : Restyled line (line ++ '#' :: text)
  | space (line : Text) {s s' : Text} (hs : ∀ c ∈ s, Text.isWhitespace c = true)
      (hs' : ∀ c ∈ s', Text.isWhitespace c = true) : Restyled line (s ++ line ++ s')
  | nameCase {s name name' rest : Text} (hs : ∀ c ∈ s, Text.isWhitespace c = true)
      (hname : ∀ c ∈ name, c ≠ '#' ∧ Text.isWhitespace c = false)
      (hrest : ∀ c ∈ rest.head?, c = '#' ∨ Text.isWhitespace c = true)
      (hcase : name.toAsciiLowercase = name'.toAsciiLowercase) :
      Restyled (s ++ name ++ rest) (s ++ name' ++ rest)

variable {c : Char}

theorem isUpper_iff_toNat : c.isUpper = true ↔ 65 ≤ c.toNat ∧ c.toNat ≤ 90 :=
  decide_eq_true_iff

theorem isLower_iff_toNat : c.isLower = true ↔ 97 ≤ c.toNat ∧ c.toNat ≤ 122 :=
  Bool.and_eq_true_iff.trans (and_congr decide_eq_true_iff decide_eq_true_iff)

theorem isAlpha_eq_false_iff : c.isAlpha = false ↔ c.isUpper = false ∧ c.isLower = false :=
  Bool.or_eq_false_iff

theorem isAlpha_eq_false_of_isWhitespace (h : Text.isWhitespace c = true) : c.isAlpha = false := by
  simp [Text.isWhitespace] at h
  rw [isAlpha_eq_false_iff, ← Bool.not_eq_true, ← Bool.not_eq_true, isUpper_iff_toNat,
    isLower_iff_toNat]
  omega

theorem toLower_cases (c : Char) : c.toLower = c ∨ c.isUpper = true ∧ c.toLower.isLower = true := by
  by_cases h : c.val ≥ 'A'.val ∧ c.val ≤ 'Z'.val
  · have hupper : 65 ≤ c.toNat ∧ c.toNat ≤ 90 := h
    have hval : c.toLower.val = c.val + 32 := congrArg Char.val (dif_pos h)
    have hlower : c.toLower.toNat = (c.toNat + 32) % 2 ^ 32 := congrArg UInt32.toNat hval
    refine .inr ⟨isUpper_iff_toNat.mpr hupper, isLower_iff_toNat.mpr ?_⟩
    omega
  · exact .inl (dif_neg h)

/-- Only letters have a case. -/
theorem eq_of_toLower_eq {d : Char} (h : c.toLower = d.toLower) (hd : d.isAlpha = false) :
    c = d := by
  have hup : d.isUpper = false ∧ d.isLower = false := isAlpha_eq_false_iff.mp hd
  have hdd : d.toLower = d := by
    rcases toLower_cases d with hd' | ⟨hd', -⟩
    · exact hd'
    · simp [hup.1] at hd'
  rcases toLower_cases c with hc | ⟨-, hc⟩
  · rw [← hc, h, hdd]
  · rw [h, hdd] at hc
    simp [hup.2] at hc

theorem takeWhile_append_cons_of_neg {α : Type} {p : α → Bool} {a : α} (ha : p a = false)
    (l l' : List α) : (l ++ a :: l').takeWhile p = l.takeWhile p := by
  induction l with
  | nil => simp [ha]
  | cons b l ih => simp [List.takeWhile_cons, ih]

/-- The letters of a name stay letters of a name in another case. -/
theorem name_of_toAsciiLowercase_eq {name name' : Text}
    (hname : ∀ c ∈ name, c ≠ '#' ∧ Text.isWhitespace c = false)
    (hcase : name.toAsciiLowercase = name'.toAsciiLowercase) :
    ∀ c ∈ name', c ≠ '#' ∧ Text.isWhitespace c = false := by
  intro c hc
  have hmap : name.map Char.toLower = name'.map Char.toLower := String.ofList_injective hcase
  obtain ⟨d, hd, hdc⟩ : ∃ d ∈ name, d.toLower = c.toLower :=
    List.mem_map.mp (hmap ▸ List.mem_map_of_mem hc)
  have hsame : c.isAlpha = false → d = c := eq_of_toLower_eq hdc
  refine ⟨?_, ?_⟩
  · rintro rfl
    exact (hname d hd).1 (hsame rfl)
  · by_contra hws
    rw [Bool.not_eq_false] at hws
    have hws' := (hname d hd).2
    rw [hsame (isAlpha_eq_false_of_isWhitespace hws), hws] at hws'
    cases hws'

theorem ne_hash_of_isWhitespace (h : Text.isWhitespace c = true) : (c != '#') = true := by
  rw [bne_iff_ne]
  rintro rfl
  cases h

theorem lineWords_space_append {s : Text} (hs : ∀ c ∈ s, Text.isWhitespace c = true) (line : Text) :
    lineWords (s ++ line) = lineWords line := by
  unfold lineWords
  rw [List.takeWhile_append_of_pos fun c hc => ne_hash_of_isWhitespace (hs c hc),
    words_seps_append hs]

theorem lineWords_append_space (line : Text) {s : Text}
    (hs : ∀ c ∈ s, Text.isWhitespace c = true) : lineWords (line ++ s) = lineWords line := by
  have hkeep : s.takeWhile (· != '#') = s :=
    List.takeWhile_eq_self_iff.mpr fun c hc => ne_hash_of_isWhitespace (hs c hc)
  unfold lineWords
  rw [List.takeWhile_append]
  split
  · rename_i hall
    have heq : line.takeWhile (· != '#') = line :=
      (List.takeWhile_prefix _).eq_of_length hall
    rw [hkeep, words_append_seps _ hs, heq]
  · rfl

/-- The words of a line that starts with a name. -/
theorem lineWords_name {s name rest : Text} (hs : ∀ c ∈ s, Text.isWhitespace c = true)
    (hname : ∀ c ∈ name, c ≠ '#' ∧ Text.isWhitespace c = false) (hne : name ≠ [])
    (hrest : ∀ c ∈ rest.head?, c = '#' ∨ Text.isWhitespace c = true) :
    lineWords (s ++ name ++ rest) = name :: lineWords rest := by
  have hword : IsWord Text.isWhitespace name := ⟨hne, fun c hc => (hname c hc).2⟩
  have htake : name.takeWhile (· != '#') = name :=
    List.takeWhile_eq_self_iff.mpr fun c hc => by simpa using (hname c hc).1
  rw [List.append_assoc, lineWords_space_append hs]
  unfold lineWords
  cases rest with
  | nil => rw [List.append_nil, htake, hword.words_eq, List.takeWhile_nil, words_nil]
  | cons c rest =>
      by_cases hc : c = '#'
      · -- the comment starts right after the name
        subst hc
        rw [takeWhile_append_cons_of_neg rfl, htake, hword.words_eq]
        rfl
      · have hsep := (hrest c rfl).resolve_left hc
        rw [List.takeWhile_append_of_pos fun d hd => by simpa using (hname d hd).1,
          List.takeWhile_cons_of_pos (by simpa using hc), hword.words_append_cons hsep,
          words_cons_of_sep hsep]

section

variable (p : Platform) (dirs : Dirs) (baseDir : PathBuf)

/-- The field that a line governs. -/
def governs (line : Text) : Option Field := (lineSetting p dirs baseDir line).map Sigma.fst

/-- Lines that say the same: lines that govern different fields in another order, blank lines added
or left out, and lines in another style. -/
inductive Rearranged : List Text → List Text → Prop
  | permute {lines lines' : List Text} (hperm : lines.Perm lines')
      (horder : ∀ f, lines.filter (governs p dirs baseDir · = some f) =
        lines'.filter (governs p dirs baseDir · = some f)) : Rearranged lines lines'
  | blank (before after : List Text) {line : Text} (hblank : Blank line) :
      Rearranged (before ++ after) (before ++ line :: after)
  | restyle (before after : List Text) {line line' : Text} (hstyle : Restyled line line') :
      Rearranged (before ++ line :: after) (before ++ line' :: after)
  | symm {lines lines' : List Text} (h : Rearranged lines lines') : Rearranged lines' lines
  | trans {lines lines' lines'' : List Text} (h : Rearranged lines lines')
      (h' : Rearranged lines' lines'') : Rearranged lines lines''

/-- **A style says nothing.** -/
theorem Restyled.settingOf_eq {line' : Text} (h : Restyled line line') :
    settingOf p dirs baseDir line = settingOf p dirs baseDir line' := by
  cases h with
  | comment text =>
      unfold settingOf lineWords
      rw [takeWhile_append_cons_of_neg rfl]
  | space _ hs hs' =>
      unfold settingOf
      rw [lineWords_append_space _ hs', lineWords_space_append hs]
  | @nameCase s name name' rest hs hname hrest hcase =>
      have hlen : name.length = name'.length := by
        simpa using congrArg List.length (String.ofList_injective hcase)
      have hname' := name_of_toAsciiLowercase_eq hname hcase
      by_cases hne : name = []
      · have hne' : name' = [] :=
          List.length_eq_zero_iff.mp (hlen ▸ List.length_eq_zero_iff.mpr hne)
        rw [hne, hne']
      · have hne' : name' ≠ [] := by
          rintro rfl
          exact hne (List.length_eq_zero_iff.mp hlen)
        unfold settingOf
        rw [lineWords_name hs hname hne hrest, lineWords_name hs hname' hne' hrest]
        match lineWords rest with
        | [] => rfl
        | first :: values => simp only [hcase]

theorem settingOf_of_blank (h : Blank line) : settingOf p dirs baseDir line = some none := by
  unfold settingOf
  rw [lineWords_eq_nil_iff.mpr h]

/-- Only the lines that govern a field give it a value. -/
theorem filterMap_filter_governs (f : Field) (lines : List Text) :
    (lines.filter (governs p dirs baseDir · = some f)).filterMap (lineValue p dirs baseDir f) =
      lines.filterMap (lineValue p dirs baseDir f) := by
  rw [List.filterMap_filter]
  refine List.filterMap_congr fun line _ => ?_
  split
  · rfl
  · rename_i hgov
    symm
    unfold lineValue
    cases hset : lineSetting p dirs baseDir line with
    | none => rfl
    | some s =>
        refine Setting.value_of_ne fun hs => hgov ?_
        simp [governs, hset, hs]

/-- Lines that say the same are accepted together and leave the same last values. -/
theorem Rearranged.same {lines lines' : List Text} (h : Rearranged p dirs baseDir lines lines') :
    ((∀ line ∈ lines, (settingOf p dirs baseDir line).isSome) ↔
        ∀ line ∈ lines', (settingOf p dirs baseDir line).isSome) ∧
      ∀ f, lastValue p dirs baseDir f lines = lastValue p dirs baseDir f lines' := by
  induction h with
  | permute hperm horder =>
      refine ⟨?_, fun f => ?_⟩
      · exact forall_congr' fun line => by rw [hperm.mem_iff]
      · unfold lastValue
        rw [← filterMap_filter_governs, horder f, filterMap_filter_governs]
  | blank before after hblank =>
      have hread := settingOf_of_blank p dirs baseDir hblank
      refine ⟨?_, fun f => ?_⟩
      · simp [hread, or_imp, forall_and]
      · simp [lastValue, lineValue, lineSetting, hread]
  | restyle before after hstyle =>
      have hread := hstyle.settingOf_eq p dirs baseDir
      refine ⟨?_, fun f => ?_⟩
      · simp [hread, or_imp, forall_and]
      · simp [lastValue, lineValue, lineSetting, List.filterMap_cons, hread]
  | symm h ih => exact ⟨ih.1.symm, fun f => (ih.2 f).symm⟩
  | trans h h' ih ih' => exact ⟨ih.1.trans ih'.1, fun f => (ih.2 f).trans (ih'.2 f)⟩

/-- **A configuration file means the last setting of each field.** -/
theorem last_setting_counts (config : AppConfig) (text : Text) :
    ((∃ config', config.applyText p dirs text baseDir = .ok config') ↔
        ∀ line ∈ Text.lines text,
          ∃ config', config.applyText p dirs line baseDir = .ok config') ∧
      (∀ line ∈ Text.lines text, (∃ config', config.applyText p dirs line baseDir = .ok config') ↔
        Blank line ∨ ValidDirective p dirs baseDir line) ∧
      (∀ config', config.applyText p dirs text baseDir = .ok config' →
        ∀ f, config'.get f =
          (lastValue p dirs baseDir f (Text.lines text)).getD (config.get f)) ∧
      ∀ text', Rearranged p dirs baseDir (Text.lines text) (Text.lines text') →
        (config.applyText p dirs text' baseDir).toOption =
          (config.applyText p dirs text baseDir).toOption := by
  have halone : ∀ line ∈ Text.lines text,
      (∃ config', config.applyText p dirs line baseDir = .ok config') ↔
        Blank line ∨ ValidDirective p dirs baseDir line := fun line hline =>
    applyText_line_ok_iff p dirs baseDir config (not_mem_of_mem_lines hline)
  refine ⟨?_, halone, fun config' hok f => ?_, fun text' h => ?_⟩
  · rw [applyText_ok_iff]
    exact forall₂_congr fun line hline => (halone line hline).symm
  · have h := applyText_toOption p dirs baseDir config text
    rw [hok] at h
    split at h
    · rw [← get_applyAll, Option.some.inj h]
    · cases h
  · obtain ⟨hvalid, hvalue⟩ := h.same
    have hconfig : config.applyAll p dirs baseDir (Text.lines text') =
        config.applyAll p dirs baseDir (Text.lines text) := by
      refine AppConfig.ext_get fun f => ?_
      rw [get_applyAll, get_applyAll, hvalue f]
    simp only [applyText_toOption, hvalid, hconfig]

end

end Narrowd.Config
