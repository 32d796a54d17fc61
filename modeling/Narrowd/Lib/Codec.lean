import Mathlib.Data.List.Infix
import Mathlib.Tactic

set_option autoImplicit false

/-! # Text codecs

A codec prints the values of a type as texts and parses them back. The two laws it carries say
that the parser undoes the printer and that it accepts nothing else: what it consumes is what
the printer writes for the value it returns. A codec built from codecs by the combinators of
this file has the laws by construction.

Only one thing stops a text from being its own delimiter: a number may be followed by another
digit. A codec whose texts may end in one is `bare`, and its parser is asked to stop only in
front of something else.

The combinators are those that compact JSON needs: literal texts, strings with their escapes,
decimal numbers, a text followed by a closing character, two texts one after the other where the
first may choose how the second is read, alternatives and separated lists.
-/

namespace Narrowd.Lib

/-- The text does not go on with a digit. -/
def NoDigit (rest : List Char) : Prop := ∀ x ∈ rest.head?, x.isDigit = false

theorem noDigit_nil : NoDigit [] := by simp [NoDigit]

variable {rest : List Char}

theorem noDigit_cons {x : Char} (h : x.isDigit = false) : NoDigit (x :: rest) := by
  simpa [NoDigit] using h

/-- **A codec**: a printer, a parser, and the two laws that tie them. -/
structure Codec (α : Type) where
  print : α → List Char
  parse : List Char → Option (α × List Char)
  /-- May a printed text end in a digit? -/
  bare : Bool
  parse_print : ∀ (a : α) (rest : List Char), (bare = true → NoDigit rest) →
    parse (print a ++ rest) = some (a, rest)
  print_parse : ∀ (s : List Char) (a : α) (rest : List Char), parse s = some (a, rest) →
    s = print a ++ rest

variable {close : Char} {t : List Char}

namespace Codec

section

variable {α β : Type}

/-- A text that delimits itself is read back whatever follows. -/
theorem parse_print_of_closed {c : Codec α} (hc : c.bare = false) (a : α) (rest : List Char) :
    c.parse (c.print a ++ rest) = some (a, rest) :=
  c.parse_print a rest (fun h => by rw [hc] at h; cases h)

/-- **Printed texts are prefix-free** when they delimit themselves. -/
theorem eq_of_print_append_eq {c : Codec α} (hc : c.bare = false) {a b : α} {r : List Char}
    (h : c.print a ++ r = c.print b ++ t) : a = b ∧ r = t := by
  have hparse : some (a, r) = some (b, t) := by
    rw [← parse_print_of_closed hc a r, ← parse_print_of_closed hc b t, h]
  cases hparse
  exact ⟨rfl, rfl⟩

/-! ## Literal texts -/

/-- Consume the text `l`. -/
def strip (l s : List Char) : Option (List Char) := s.dropPrefix? l

theorem strip_append (l rest : List Char) : strip l (l ++ rest) = some rest :=
  List.dropPrefix?_eq_some_iff.mpr ⟨l, rfl, by simp⟩

theorem eq_append_of_strip {l s : List Char} (h : strip l s = some rest) : s = l ++ rest := by
  obtain ⟨l', hs, hl⟩ := List.dropPrefix?_eq_some_iff.mp h
  rw [hs, eq_of_beq hl]

/-- The codec of one value, written `t`. -/
def lit (t : List Char) : Codec Unit where
  print _ := t
  parse s := (strip t s).map fun rest => ((), rest)
  bare := false
  parse_print _ rest _ := by rw [strip_append]; rfl
  print_parse s _ rest h := by
    obtain ⟨r, hr, heq⟩ := Option.map_eq_some_iff.mp h
    cases heq
    exact eq_append_of_strip hr

/-- The text `l`, then a value. -/
def after (l : List Char) (c : Codec α) : Codec α where
  print a := l ++ c.print a
  parse s := (strip l s).bind c.parse
  bare := c.bare
  parse_print a rest h := by
    rw [List.append_assoc, strip_append]
    exact c.parse_print a rest h
  print_parse s a rest h := by
    obtain ⟨r, hr, hp⟩ := Option.bind_eq_some_iff.mp h
    rw [eq_append_of_strip hr, c.print_parse r a rest hp, List.append_assoc]

/-- A value, then the character `x`, which is no digit and so ends whatever stands before. -/
def closed (c : Codec α) (x : Char) (hx : x.isDigit = false) : Codec α where
  print a := c.print a ++ [x]
  parse s := (c.parse s).bind fun p => (strip [x] p.2).map fun rest => (p.1, rest)
  bare := false
  parse_print a rest _ := by
    have hc := c.parse_print a ([x] ++ rest) (fun _ => noDigit_cons hx)
    rw [List.append_assoc, hc, Option.bind_some, strip_append]
    rfl
  print_parse s a rest h := by
    obtain ⟨p, hp, hr⟩ := Option.bind_eq_some_iff.mp h
    obtain ⟨r, hr', heq⟩ := Option.map_eq_some_iff.mp hr
    cases heq
    rw [c.print_parse s p.1 p.2 hp, eq_append_of_strip hr', List.append_assoc]

/-! ## Other types for the same texts -/

/-- The values `f b`, as values `b`. The partial inverse `g` of `f` may reject a value that the
parser accepts, as a bounded integer type does with a large number. -/
def refine (c : Codec α) (f : β → α) (g : α → Option β) (hgf : ∀ b, g (f b) = some b)
    (hfg : ∀ a b, g a = some b → f b = a) : Codec β where
  print b := c.print (f b)
  parse s := (c.parse s).bind fun p => (g p.1).map fun b => (b, p.2)
  bare := c.bare
  parse_print b rest h := by
    rw [c.parse_print (f b) rest h]
    simp [hgf b]
  print_parse s b rest h := by
    obtain ⟨p, hp, hr⟩ := Option.bind_eq_some_iff.mp h
    obtain ⟨_, hb, heq⟩ := Option.map_eq_some_iff.mp hr
    cases heq
    rw [hfg p.1 b hb]
    exact c.print_parse s p.1 p.2 hp

/-- An enumeration, by the names of its constructors. -/
def names {ι : Type} (c : Codec (List Char)) (all : List ι) (name : ι → List Char)
    (hall : ∀ i, all.find? (fun j => name j = name i) = some i) : Codec ι :=
  c.refine name (fun t => all.find? (fun j => name j = t)) hall
    (fun _ _ h => by simpa using List.find?_some h)

end

/-! ## One text after the other -/

section

variable {ι : Type} {β : ι → Type}

/-- **Dependent sequence**: the first value chooses the codec of the second, whose text must not
go on with a digit when the first may end in one. -/
def sigma (a : Codec ι) (k : (i : ι) → Codec (β i)) (bare : Bool)
    (ha : a.bare = true → ∀ i b rest, NoDigit ((k i).print b ++ rest))
    (hbare : ∀ i, (k i).bare = true → bare = true) : Codec (Σ i, β i) where
  print p := a.print p.1 ++ (k p.1).print p.2
  parse s := (a.parse s).bind fun p =>
    ((k p.1).parse p.2).map fun q => (⟨p.1, q.1⟩, q.2)
  bare := bare
  parse_print p rest h := by
    have hfirst := a.parse_print p.1 ((k p.1).print p.2 ++ rest) (fun hb => ha hb p.1 p.2 rest)
    have hsecond := (k p.1).parse_print p.2 rest (fun hb => h (hbare p.1 hb))
    rw [List.append_assoc, hfirst, Option.bind_some, hsecond]
    rfl
  print_parse s p rest h := by
    obtain ⟨q, hq, hr⟩ := Option.bind_eq_some_iff.mp h
    obtain ⟨t, ht, heq⟩ := Option.map_eq_some_iff.mp hr
    cases heq
    rw [a.print_parse s q.1 q.2 hq, (k q.1).print_parse q.2 t.1 t.2 ht, List.append_assoc]

variable {α γ : Type}

/-- Two values, one after the other. -/
def seq (a : Codec α) (b : Codec γ) (ha : a.bare = true → ∀ y rest, NoDigit (b.print y ++ rest)) :
    Codec (α × γ) :=
  (sigma a (fun _ => b) b.bare (fun hb _ => ha hb) (fun _ h => h)).refine
    (fun p => ⟨p.1, p.2⟩) (fun p => some (p.1, p.2)) (fun _ => rfl)
    (fun _ _ h => by cases h; rfl)

/-- Two kinds of values whose texts are told apart by how they begin. -/
def either (a : Codec α) (b : Codec γ)
    (hne : ∀ x y r t, a.print x ++ r ≠ b.print y ++ t) : Codec (α ⊕ γ) where
  print v := v.elim a.print b.print
  parse s :=
    match a.parse s with
    | some p => some (.inl p.1, p.2)
    | none => (b.parse s).map fun p => (.inr p.1, p.2)
  bare := a.bare || b.bare
  parse_print v rest h := by
    cases v with
    | inl x =>
        have hx := a.parse_print x rest (fun hb => h (by simp [hb]))
        simp only [Sum.elim_inl, hx]
    | inr y =>
        have hy := b.parse_print y rest (fun hb => h (by simp [hb]))
        -- the first parser accepts only its own texts, and this is none of them
        have hnone : a.parse (b.print y ++ rest) = none := by
          rw [Option.eq_none_iff_forall_ne_some]
          rintro ⟨x, r⟩ hx
          exact hne x y r rest (a.print_parse _ x r hx).symm
        simp only [Sum.elim_inr, hnone, hy, Option.map_some]
  print_parse s v rest h := by
    split at h
    · next p hp =>
        cases h
        exact a.print_parse s p.1 p.2 hp
    · next hp =>
        obtain ⟨p, hp', heq⟩ := Option.map_eq_some_iff.mp h
        cases heq
        exact b.print_parse s p.1 p.2 hp'

end

/-! ## Lists -/

section

variable {α : Type}

/-- Values up to the closing character; `fuel` bounds their number. -/
def parseMany (parse : List Char → Option (α × List Char)) (close : Char) :
    Nat → List Char → Option (List α × List Char)
  | 0, _ => none
  | _ + 1, [] => none
  | fuel + 1, x :: s =>
      if x = close then some ([], s)
      else (parse (x :: s)).bind fun p =>
        (parseMany parse close fuel p.2).map fun q => (p.1 :: q.1, q.2)

/-- The texts of `c` begin with something else than `close`, and where `c` is bare with something
else than a digit. -/
def StartsOff (c : Codec α) (close : Char) : Prop :=
  ∀ a, ∃ x t, c.print a = x :: t ∧ x ≠ close ∧ (c.bare = true → x.isDigit = false)

variable {c : Codec α}

/-- A list of values ends in front of the closing character or of another value. -/
theorem noDigit_many (hc : StartsOff c close) (hclose : close.isDigit = false) (hb : c.bare = true)
    (as : List α) (rest : List Char) : NoDigit (as.flatMap c.print ++ close :: rest) := by
  cases as with
  | nil => exact noDigit_cons hclose
  | cons a as =>
      obtain ⟨x, t, hx, -, hdigit⟩ := hc a
      rw [List.flatMap_cons, hx]
      exact noDigit_cons (hdigit hb)

theorem parseMany_print (hc : StartsOff c close) (hclose : close.isDigit = false) (as : List α)
    (rest : List Char) {fuel : Nat} (hfuel : as.length < fuel) :
    parseMany c.parse close fuel (as.flatMap c.print ++ close :: rest) = some (as, rest) := by
  induction as generalizing fuel with
  | nil =>
      obtain ⟨fuel, rfl⟩ := Nat.exists_eq_add_one_of_ne_zero (Nat.ne_of_gt hfuel)
      simp [parseMany]
  | cons a as ih =>
      obtain ⟨fuel, rfl⟩ := Nat.exists_eq_add_one_of_ne_zero
        (Nat.ne_of_gt (Nat.zero_lt_of_lt hfuel))
      have hrest : parseMany c.parse close fuel (as.flatMap c.print ++ close :: rest) =
          some (as, rest) := ih (Nat.lt_of_succ_lt_succ hfuel)
      have hfirst := c.parse_print a (as.flatMap c.print ++ close :: rest)
        (fun hb => noDigit_many hc hclose hb as rest)
      obtain ⟨x, t, hx, hne, -⟩ := hc a
      rw [List.flatMap_cons, List.append_assoc]
      rw [hx] at hfirst ⊢
      rw [List.cons_append] at hfirst ⊢
      rw [parseMany, if_neg hne, hfirst, Option.bind_some, hrest]
      rfl

theorem eq_of_parseMany {fuel : Nat} {s : List Char} {as : List α}
    (h : parseMany c.parse close fuel s = some (as, rest)) :
    s = as.flatMap c.print ++ close :: rest := by
  induction fuel generalizing s as with
  | zero => cases h
  | succ fuel ih =>
      cases s with
      | nil => cases h
      | cons x s =>
          rw [parseMany] at h
          split at h
          · next hx =>
              cases h
              rw [hx]
              rfl
          · obtain ⟨p, hp, hr⟩ := Option.bind_eq_some_iff.mp h
            obtain ⟨q, hq, heq⟩ := Option.map_eq_some_iff.mp hr
            cases heq
            rw [c.print_parse _ p.1 p.2 hp, ih hq, List.flatMap_cons, List.append_assoc]

/-- Values one after the other, up to the closing character. -/
def many (c : Codec α) (close : Char) (hc : StartsOff c close) (hclose : close.isDigit = false) :
    Codec (List α) where
  print as := as.flatMap c.print ++ [close]
  parse s := parseMany c.parse close s.length s
  bare := false
  parse_print as rest _ := by
    rw [List.append_assoc, List.singleton_append]
    apply parseMany_print hc hclose
    -- every value takes at least one character, and the closing one is left over
    have hlen : ∀ l : List α, l.length ≤ (l.flatMap c.print).length := by
      intro l
      induction l with
      | nil => exact Nat.le_refl _
      | cons a l ih =>
          obtain ⟨x, t, hx, -⟩ := hc a
          rw [List.flatMap_cons, hx]
          simp only [List.length_cons, List.length_append]
          omega
    have := hlen as
    simp only [List.length_append, List.length_cons]
    omega
  print_parse s as rest h := by
    rw [eq_of_parseMany h, List.append_assoc, List.singleton_append]

theorem startsOff_after (c : Codec α) {x : Char} (hne : x ≠ close) (hx : x.isDigit = false) :
    StartsOff (c.after [x]) close :=
  fun a => ⟨x, c.print a, rfl, hne, fun _ => hx⟩

/-- Values separated by commas, up to the closing character. -/
def separated (c : Codec α) (close : Char) (hc : ∀ a, ∃ x t, c.print a = x :: t ∧ x ≠ close)
    (hclose : close.isDigit = false) (hcomma : ',' ≠ close) : Codec (List α) :=
  let others := many (c.after [',']) close (startsOff_after c hcomma rfl) hclose
  let items := seq c others (fun hb as rest => by
    have h := noDigit_many (startsOff_after c hcomma rfl) hclose hb as rest
    simpa [others, many] using h)
  (either (lit [close]) items (by
      intro _ y r t h
      obtain ⟨x, u, hx, hne⟩ := hc y.1
      have hprint : items.print y = c.print y.1 ++ others.print y.2 := rfl
      rw [hprint, hx] at h
      exact hne (List.cons.inj h).1.symm)).refine
    (fun as => match as with
      | [] => .inl ()
      | a :: as => .inr (a, as))
    (fun v => match v with
      | .inl _ => some []
      | .inr p => some (p.1 :: p.2))
    (fun as => by cases as <;> rfl)
    (fun v as h => by
      cases v with
      | inl u => cases h; rfl
      | inr p => cases h; rfl)

end

/-! ## Numbers -/

theorem takeWhile_digits_append {ds : List Char} (hds : ∀ x ∈ ds, x.isDigit = true)
    (hrest : NoDigit rest) : (ds ++ rest).takeWhile Char.isDigit = ds ∧
      (ds ++ rest).dropWhile Char.isDigit = rest := by
  have hstop : rest.takeWhile Char.isDigit = [] ∧ rest.dropWhile Char.isDigit = rest := by
    cases rest with
    | nil => exact ⟨rfl, rfl⟩
    | cons x rest =>
        have hx : x.isDigit = false := hrest x rfl
        simp [hx]
  constructor
  · rw [List.takeWhile_append_of_pos hds, hstop.1, List.append_nil]
  · rw [List.dropWhile_append_of_pos hds, hstop.2]

/-- Decimal numbers, without leading zeros. -/
def nat : Codec Nat where
  print n := Nat.toDigits 10 n
  parse s :=
    let ds := s.takeWhile Char.isDigit
    let n := Nat.ofDigitChars 10 ds 0
    if Nat.toDigits 10 n = ds then some (n, s.dropWhile Char.isDigit) else none
  bare := true
  parse_print n rest h := by
    have hds : ∀ x ∈ Nat.toDigits 10 n, x.isDigit = true :=
      fun x hx => Nat.isDigit_of_mem_toDigits (by decide) (by decide) hx
    obtain ⟨htake, hdrop⟩ := takeWhile_digits_append hds (h rfl)
    simp only [htake, hdrop, Nat.ofDigitChars_ten_toDigits, if_true]
  print_parse s n rest h := by
    simp only at h
    split at h
    · next heq =>
        cases h
        rw [heq, List.takeWhile_append_dropWhile]
    · cases h

/-- A number begins with a digit. -/
theorem exists_digit_cons (n : Nat) :
    ∃ x t, Nat.toDigits 10 n = x :: t ∧ x.isDigit = true := by
  obtain ⟨x, t, hx⟩ := List.exists_cons_of_ne_nil (Nat.toDigits_ne_nil (b := 10) (n := n))
  refine ⟨x, t, hx, Nat.isDigit_of_mem_toDigits (b := 10) (n := n) (by decide) (by decide) ?_⟩
  rw [hx]
  exact List.mem_cons_self

/-- A bounded integer type, printed as its value. -/
def bounded {β : Type} (size : Nat) (toNat : β → Nat) (ofNat : Nat → β)
    (hlt : ∀ b, toNat b < size) (hof : ∀ b, ofNat (toNat b) = b)
    (hto : ∀ n, n < size → toNat (ofNat n) = n) : Codec β :=
  nat.refine toNat (fun n => if n < size then some (ofNat n) else none)
    (fun b => by rw [if_pos (hlt b), hof b])
    (fun n b h => by
      split at h
      · next hn => cases h; exact hto n hn
      · cases h)

def uint8 : Codec UInt8 :=
  bounded UInt8.size UInt8.toNat UInt8.ofNat UInt8.toNat_lt_size
    (fun _ => UInt8.ofNat_toNat) (fun _ h => UInt8.toNat_ofNat_of_lt h)

def uint16 : Codec UInt16 :=
  bounded UInt16.size UInt16.toNat UInt16.ofNat UInt16.toNat_lt_size
    (fun _ => UInt16.ofNat_toNat) (fun _ h => UInt16.toNat_ofNat_of_lt h)

def uint32 : Codec UInt32 :=
  bounded UInt32.size UInt32.toNat UInt32.ofNat UInt32.toNat_lt_size
    (fun _ => UInt32.ofNat_toNat) (fun _ h => UInt32.toNat_ofNat_of_lt h)

def uint64 : Codec UInt64 :=
  bounded UInt64.size UInt64.toNat UInt64.ofNat UInt64.toNat_lt_size
    (fun _ => UInt64.ofNat_toNat) (fun _ h => UInt64.toNat_ofNat_of_lt h)

/-! ## Strings -/

/-- The quotation mark. -/
def quote : Char := Char.ofNat 0x22

def backslash : Char := Char.ofNat 0x5c

/-- The characters that are written as a backslash and one letter. -/
def shortEscapes : List (Char × Char) :=
  [(quote, quote), (backslash, backslash), (Char.ofNat 0x08, 'b'), (Char.ofNat 0x0c, 'f'),
    ('\n', 'n'), ('\r', 'r'), ('\t', 't')]

/-- One character of a string. -/
def escape (c : Char) : List Char :=
  match shortEscapes.lookup c with
  | some e => [backslash, e]
  | none =>
      if c.toNat < 0x20 then
        [backslash, 'u', '0', '0', Nat.digitChar (c.toNat / 16), Nat.digitChar (c.toNat % 16)]
      else [c]

/-- The value of a lowercase hexadecimal digit. -/
def hexValue (x : Char) : Nat := if x.isDigit then x.toNat - 48 else x.toNat - 87

/-- Read one character of a string, in any spelling with a backslash. -/
def readEscaped : List Char → Option (Char × List Char)
  | 'u' :: '0' :: '0' :: x :: y :: rest => some (Char.ofNat (hexValue x * 16 + hexValue y), rest)
  | e :: rest => (shortEscapes.find? fun p => p.2 == e).map fun p => (p.1, rest)
  | [] => none

def readChar : List Char → Option (Char × List Char)
  | [] => none
  | x :: rest => if x = backslash then readEscaped rest else some (x, rest)

theorem readChar_short {p : Char × Char} (hp : p ∈ shortEscapes) (rest : List Char) :
    readChar ([backslash, p.2] ++ rest) = some (p.1, rest) := by
  simp only [shortEscapes, List.mem_cons, List.not_mem_nil, or_false] at hp
  rcases hp with rfl | rfl | rfl | rfl | rfl | rfl | rfl <;> rfl

theorem hexValue_digitChar : ∀ k < 16, hexValue (Nat.digitChar k) = k := by decide

theorem readChar_escape (c : Char) (rest : List Char) :
    readChar (escape c ++ rest) = some (c, rest) := by
  unfold escape
  split
  · next e he =>
      obtain ⟨l₁, l₂, h, -⟩ := List.lookup_eq_some_iff.mp he
      have hmem : (c, e) ∈ shortEscapes := by rw [h]; simp
      exact readChar_short hmem rest
  · next hnone =>
      split
      · next hlt =>
          have hhigh := hexValue_digitChar (c.toNat / 16) (by omega)
          have hlow := hexValue_digitChar (c.toNat % 16) (by omega)
          have hread : readChar ([backslash, 'u', '0', '0', Nat.digitChar (c.toNat / 16),
              Nat.digitChar (c.toNat % 16)] ++ rest) =
              some (Char.ofNat (hexValue (Nat.digitChar (c.toNat / 16)) * 16 +
                hexValue (Nat.digitChar (c.toNat % 16))), rest) := rfl
          rw [hread, hhigh, hlow, Nat.div_add_mod', Char.ofNat_toNat]
      · next hge =>
          -- the backslash has a short escape, so this is another character
          have hne : c ≠ backslash := by
            rintro rfl
            exact absurd hnone (by decide)
          simp [readChar, hne]

/-- The characters of a string, in the printer's own spelling. -/
def char : Codec Char where
  print := escape
  parse s := (readChar s).filter fun p => s = escape p.1 ++ p.2
  bare := false
  parse_print c rest _ := by simp [readChar_escape]
  print_parse s c rest h := by
    simpa using (Option.filter_eq_some_iff.mp h).2

/-- A character's text never begins with a quotation mark. -/
theorem startsOff_char : StartsOff char quote := by
  intro c
  show ∃ x t, escape c = x :: t ∧ x ≠ quote ∧ (false = true → x.isDigit = false)
  unfold escape
  split
  · next e _ => exact ⟨backslash, [e], rfl, by decide, by simp⟩
  · next hnone =>
      split
      · exact ⟨backslash, _, rfl, by decide, by simp⟩
      · refine ⟨c, [], rfl, ?_, by simp⟩
        rintro rfl
        exact absurd hnone (by decide)

/-- Strings. -/
def str : Codec (List Char) := (many char quote startsOff_char rfl).after [quote]

/-- A string takes at least its characters and the two quotation marks. -/
theorem length_le_print_str (t : List Char) : t.length + 2 ≤ (str.print t).length := by
  have hbody : t.length ≤ (t.flatMap escape).length := by
    induction t with
    | nil => exact Nat.le_refl _
    | cons c t ih =>
        obtain ⟨x, u, hx, -⟩ := startsOff_char c
        have hx' : escape c = x :: u := hx
        simp only [List.flatMap_cons, hx', List.length_cons, List.length_append]
        omega
  show t.length + 2 ≤ ([quote] ++ (t.flatMap escape ++ [quote])).length
  simp only [List.length_append, List.length_singleton]
  omega

/-- A text without characters to escape stands between its quotation marks as it is. -/
theorem print_str_of_plain (ht : ∀ c ∈ t, escape c = [c]) :
    str.print t = quote :: (t ++ [quote]) := by
  have hbody : t.flatMap escape = t := by
    induction t with
    | nil => rfl
    | cons c t ih =>
        rw [List.flatMap_cons, ht c (by simp), ih (fun x hx => ht x (by simp [hx]))]
        rfl
  show [quote] ++ (t.flatMap escape ++ [quote]) = quote :: (t ++ [quote])
  rw [hbody]
  rfl

/-! ## Bytes -/

section

variable {α : Type}

/-- The printed text in UTF-8. -/
def toBytes (c : Codec α) (a : α) : List UInt8 := (c.print a).flatMap String.utf8EncodeChar

/-- Read a value that takes up all the bytes. -/
def ofBytes (c : Codec α) (b : List UInt8) : Option α :=
  b.toByteArray.utf8Decode?.bind fun chars =>
    match c.parse chars.toList with
    | some (a, []) => some a
    | _ => none

theorem toByteArray_toBytes (c : Codec α) (a : α) :
    (c.toBytes a).toByteArray = (c.print a).utf8Encode := rfl

/-- **The reader undoes the writer.** -/
theorem ofBytes_toBytes (c : Codec α) (a : α) : c.ofBytes (c.toBytes a) = some a := by
  have hparse : c.parse (c.print a) = some (a, []) := by
    have h := c.parse_print a [] (fun _ => noDigit_nil)
    rwa [List.append_nil] at h
  simp [ofBytes, toByteArray_toBytes, List.utf8Decode?_utf8Encode, hparse]

/-- **The reader accepts nothing else**: bytes that are read as a value are its bytes. -/
theorem eq_toBytes_of_ofBytes {c : Codec α} {b : List UInt8} {a : α}
    (h : c.ofBytes b = some a) : b = c.toBytes a := by
  obtain ⟨chars, hchars, hread⟩ := Option.bind_eq_some_iff.mp h
  have hsome : b.toByteArray.utf8Decode?.isSome := by rw [hchars]; rfl
  have hbytes : b.toByteArray = chars.toList.utf8Encode := by
    rw [← ByteArray.utf8Encode_get_utf8Decode? (h := hsome)]
    simp [hchars]
  split at hread
  · next a' hparse =>
      cases hread
      apply List.toByteArray_inj.mp
      rw [hbytes, c.print_parse _ a [] hparse, List.append_nil]
      rfl
  · cases hread

/-- **A text that delimits itself is not read from a proper part of it.** -/
theorem ofBytes_eq_none_of_proper {c : Codec α} (hc : c.bare = false) {a : α}
    {b t : List UInt8} (h : b ++ t = c.toBytes a) (ht : t ≠ []) : c.ofBytes b = none := by
  rw [Option.eq_none_iff_forall_ne_some]
  intro a' ha'
  have hb := eq_toBytes_of_ofBytes ha'
  have hcat : (c.print a').utf8Encode ++ t.toByteArray = (c.print a).utf8Encode := by
    rw [← toByteArray_toBytes, ← toByteArray_toBytes, ← h, hb, List.toByteArray_append]
  -- the text read is a prefix of the whole one, and printed texts are prefix-free
  obtain ⟨r, hr⟩ := List.isPrefix_of_utf8Encode_append_eq_utf8Encode _ hcat
  have heq : c.print a' ++ r = c.print a ++ [] := by rw [hr, List.append_nil]
  obtain ⟨rfl, -⟩ := eq_of_print_append_eq hc heq
  rw [hb] at h
  exact ht (List.append_right_eq_self.mp h)

/-! ### How many bytes a text takes -/

/-- The length of a text in UTF-8. -/
def byteLength (t : List Char) : Nat := (t.flatMap String.utf8EncodeChar).length

theorem length_toBytes (c : Codec α) (a : α) : (c.toBytes a).length = byteLength (c.print a) := rfl

theorem byteLength_append (s t : List Char) :
    byteLength (s ++ t) = byteLength s + byteLength t := by
  simp [byteLength]

theorem byteLength_cons (x : Char) (t : List Char) :
    byteLength (x :: t) = x.utf8Size + byteLength t := by
  simp [byteLength]

/-- A text takes at least one byte for each character, and at most four. -/
theorem length_le_byteLength (t : List Char) : t.length ≤ byteLength t := by
  induction t with
  | nil => exact Nat.le_refl _
  | cons x t ih =>
      have hx := Char.utf8Size_pos x
      rw [byteLength_cons, List.length_cons]
      omega

theorem length_print_le_toBytes (c : Codec α) (a : α) :
    (c.print a).length ≤ (c.toBytes a).length :=
  length_le_byteLength _

/-- An ASCII text takes exactly one byte for each character. -/
theorem byteLength_of_ascii (h : ∀ x ∈ t, x.utf8Size = 1) : byteLength t = t.length := by
  induction t with
  | nil => rfl
  | cons x t ih =>
      have hx := h x List.mem_cons_self
      have hrest := ih fun y hy => h y (List.mem_cons_of_mem x hy)
      rw [byteLength_cons, List.length_cons]
      omega

theorem utf8Size_of_isDigit {x : Char} (h : x.isDigit = true) : x.utf8Size = 1 := by
  have hle : x.val ≤ 57 := by
    simp only [Char.isDigit, Bool.and_eq_true, decide_eq_true_eq] at h
    exact h.2
  have hascii : x.val ≤ 127 := UInt32.le_trans hle (by decide)
  unfold Char.utf8Size
  exact if_pos hascii

/-- A number below `10 ^ k` takes at most `k` bytes. -/
theorem byteLength_toDigits_le {n k : Nat} (hk : 0 < k) (h : n < 10 ^ k) :
    byteLength (Nat.toDigits 10 n) ≤ k := by
  have hdigit : ∀ x ∈ Nat.toDigits 10 n, x.isDigit = true :=
    fun x hx => Nat.isDigit_of_mem_toDigits (by decide) (by decide) hx
  calc byteLength (Nat.toDigits 10 n) = (Nat.toDigits 10 n).length :=
        byteLength_of_ascii fun x hx => utf8Size_of_isDigit (hdigit x hx)
    _ ≤ k := (Nat.length_toDigits_le_iff (by decide) hk).mpr h

section

variable {c : Codec α} {close : Char} {hc : ∀ a, ∃ x t, c.print a = x :: t ∧ x ≠ close}
  {hclose : close.isDigit = false} {hcomma : ',' ≠ close}

/-- A list takes one character for each value, a comma or the closing character. -/
theorem byteLength_separated_cons (hascii : close.utf8Size = 1) (a : α) (as : List α) :
    byteLength ((separated c close hc hclose hcomma).print (a :: as)) =
      ((a :: as).map fun a => byteLength (c.print a) + 1).sum := by
  have hothers : ∀ l : List α, byteLength (l.flatMap fun a => ',' :: c.print a) =
      (l.map fun a => byteLength (c.print a) + 1).sum := by
    intro l
    induction l with
    | nil => rfl
    | cons b l ih =>
        have hcomma : ','.utf8Size = 1 := rfl
        rw [List.flatMap_cons, byteLength_append, byteLength_cons, List.map_cons, List.sum_cons,
          ih, hcomma]
        omega
  have hend : byteLength [close] = 1 := by
    simpa [byteLength] using hascii
  have hprint : (separated c close hc hclose hcomma).print (a :: as) =
      c.print a ++ ((as.flatMap fun a => ',' :: c.print a) ++ [close]) := rfl
  rw [hprint, byteLength_append, byteLength_append, hothers, hend, List.map_cons, List.sum_cons]
  omega

theorem byteLength_separated_le {k : Nat} (hascii : close.utf8Size = 1)
    (hk : ∀ a, byteLength (c.print a) ≤ k) (as : List α) :
    byteLength ((separated c close hc hclose hcomma).print as) ≤ max 1 (as.length * (k + 1)) := by
  cases as with
  | nil =>
      have hend : byteLength [close] = 1 := by
        simpa [byteLength] using hascii
      exact hend.le.trans (Nat.le_max_left _ _)
  | cons a as =>
      apply Nat.le_trans _ (Nat.le_max_right _ _)
      rw [byteLength_separated_cons hascii]
      have hsum := List.sum_le_card_nsmul ((a :: as).map fun a => byteLength (c.print a) + 1)
        (k + 1) (by
          intro n hn
          obtain ⟨b, -, rfl⟩ := List.mem_map.mp hn
          exact Nat.succ_le_succ (hk b))
      rwa [List.length_map] at hsum

end

end

end Codec

end Narrowd.Lib
