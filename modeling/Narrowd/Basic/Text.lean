import Mathlib.Tactic

set_option autoImplicit false

/-! # Texts

The functions of `str` that the configuration parser uses, on lists of characters.
-/

namespace Narrowd

/-- A `str`, as its characters. -/
abbrev Text := List Char

namespace Text

/-- `char::is_whitespace`: the Unicode property `White_Space`. -/
def isWhitespace (c : Char) : Bool :=
  let n := c.toNat
  (9 ≤ n && n ≤ 13) || n == 32 || n == 0x85 || n == 0xA0 || n == 0x1680 ||
    (0x2000 ≤ n && n ≤ 0x200A) || n == 0x2028 || n == 0x2029 || n == 0x202F || n == 0x205F ||
    n == 0x3000

def trim (t : Text) : Text :=
  ((t.dropWhile isWhitespace).reverse.dropWhile isWhitespace).reverse

def splitWhitespace (t : Text) : List Text :=
  (t.splitOnP isWhitespace).filter fun part => !part.isEmpty

/-- A carriage return at the end belongs to the line break. -/
def stripCarriageReturn (line : Text) : Text :=
  if line.getLast? = some '\r' then line.dropLast else line

/-- `str::lines`: a last line that is empty is none. -/
def lines (t : Text) : List Text :=
  match (t.splitOnP (· == '\n')).reverse with
  | [] => []
  | last :: before =>
      before.reverse.map stripCarriageReturn ++ if last.isEmpty then [] else [last]

/-- `to_ascii_lowercase`, as a string to match on. -/
def toAsciiLowercase (t : Text) : String := String.ofList (t.map Char.toLower)

/-- `values.join(" ")`. -/
def joinSpaces (parts : List Text) : Text := List.intercalate [' '] parts

/-! ## Numbers -/

inductive ParseIntError
  | empty
  | invalidDigit
  | posOverflow
  deriving DecidableEq, Repr

def ParseIntError.text : ParseIntError → String
  | empty => "cannot parse integer from empty string"
  | invalidDigit => "invalid digit found in string"
  | posOverflow => "number too large to fit in target type"

/-- The value of decimal digits, most significant first. -/
def digitsValue (digits : Text) : Nat :=
  digits.foldl (fun acc c => acc * 10 + (c.toNat - 48)) 0

/-- The digits from a value on. What comes after the digit that makes it too large is not read. -/
def parseDigits (bits : Nat) (value : Nat) : Text → Except ParseIntError Nat
  | [] => .ok value
  | c :: rest =>
      if !c.isDigit then .error .invalidDigit
      else if 2 ^ bits ≤ value * 10 + (c.toNat - 48) then .error .posOverflow
      else parseDigits bits (value * 10 + (c.toNat - 48)) rest

/-- `parse::<uN>()`: decimal digits, a plus sign allowed before them. -/
def parseUnsigned (bits : Nat) : Text → Except ParseIntError Nat
  | [] => .error .empty
  | '+' :: d :: rest => parseDigits bits 0 (d :: rest)
  | t => parseDigits bits 0 t

theorem le_foldl_digits (digits : Text) (value : Nat) :
    value ≤ digits.foldl (fun acc c => acc * 10 + (c.toNat - 48)) value := by
  induction digits generalizing value with
  | nil => exact Nat.le_refl _
  | cons c digits ih =>
      have hle : value ≤ value * 10 + (c.toNat - 48) := by omega
      exact hle.trans (ih _)

theorem parseDigits_of_isDigit {bits : Nat} {digits : Text}
    (hdigits : ∀ c ∈ digits, c.isDigit = true) {value : Nat} (hvalue : value < 2 ^ bits) :
    parseDigits bits value digits =
      let result := digits.foldl (fun acc c => acc * 10 + (c.toNat - 48)) value
      if 2 ^ bits ≤ result then .error .posOverflow else .ok result := by
  induction digits generalizing value with
  | nil => exact (if_neg (Nat.not_le.mpr hvalue)).symm
  | cons c digits ih =>
      have hc : (!c.isDigit) ≠ true := by simp [hdigits c List.mem_cons_self]
      rw [parseDigits, if_neg hc]
      by_cases hbig : 2 ^ bits ≤ value * 10 + (c.toNat - 48)
      · rw [if_pos hbig]
        exact (if_pos (hbig.trans (le_foldl_digits digits _))).symm
      · rw [if_neg hbig, ih (fun d hd => hdigits d (List.mem_cons_of_mem c hd)) (by omega)]
        rfl

end Text

end Narrowd
