import Narrowd.Basic.Net
import Narrowd.Basic.Text
import Narrowd.Lib.Numerals

set_option autoImplicit false

/-! # Addresses as text

`to_string` of `std::net::IpAddr`. An IPv4 address is written as four decimal numbers, an IPv6
address as eight hexadecimal numbers in which the longest run of zeros is left out, except that an
IPv4 address that is mapped into IPv6 is written as such. No two addresses have the same text
(`IpAddr.display_injective`).
-/

namespace Narrowd

open Lib

def Ipv4Addr.octets (ip : Ipv4Addr) : List Nat := [ip.a.toNat, ip.b.toNat, ip.c.toNat, ip.d.toNat]

def Ipv4Addr.display (ip : Ipv4Addr) : Text := numerals 10 '.' ip.octets

def Ipv6Addr.segments (ip : Ipv6Addr) : List Nat :=
  [ip.s0.toNat, ip.s1.toNat, ip.s2.toNat, ip.s3.toNat, ip.s4.toNat, ip.s5.toNat, ip.s6.toNat,
    ip.s7.toNat]

/-- The upper and the lower octet of a segment. -/
def upperOctet (s : UInt16) : UInt8 := (s >>> 8).toUInt8

def lowerOctet (s : UInt16) : UInt8 := s.toUInt8

/-- The IPv4 address `a.b.c.d` of `::ffff:a.b.c.d`. -/
def Ipv6Addr.toIpv4Mapped (ip : Ipv6Addr) : Option Ipv4Addr :=
  if ip.s0 = 0 ∧ ip.s1 = 0 ∧ ip.s2 = 0 ∧ ip.s3 = 0 ∧ ip.s4 = 0 ∧ ip.s5 = 0xffff then
    some { a := upperOctet ip.s6, b := lowerOctet ip.s6, c := upperOctet ip.s7,
           d := lowerOctet ip.s7 }
  else none

structure Span where
  start : Nat
  len : Nat
  deriving DecidableEq, Repr

/-- The loop over the segments, from the `i`-th on: the longest run of zeros so far, and the run
that the segment before belongs to. -/
def longestZeroes (i : Nat) (longest current : Span) : List Nat → Span
  | [] => longest
  | segment :: segments =>
      if segment = 0 then
        let current : Span :=
          { start := if current.len = 0 then i else current.start, len := current.len + 1 }
        let longest := if current.len > longest.len then current else longest
        longestZeroes (i + 1) longest current segments
      else longestZeroes (i + 1) longest { start := 0, len := 0 } segments

/-- `fmt_subslice`. -/
def fmtSubslice (segments : List Nat) : Text := numerals 16 ':' segments

def Ipv6Addr.display (ip : Ipv6Addr) : Text :=
  match ip.toIpv4Mapped with
  | some ipv4 => [':', ':', 'f', 'f', 'f', 'f', ':'] ++ ipv4.display
  | none =>
      let segments := ip.segments
      let zeroes := longestZeroes 0 { start := 0, len := 0 } { start := 0, len := 0 } segments
      if zeroes.len > 1 then
        fmtSubslice (segments.take zeroes.start) ++ ':' :: ':' ::
          fmtSubslice (segments.drop (zeroes.start + zeroes.len))
      else fmtSubslice segments

def IpAddr.display : IpAddr → Text
  | .v4 ip => ip.display
  | .v6 ip => ip.display

/-! ## What an address consists of -/

theorem separatorChar_dot : SeparatorChar '.' := fun _ => Nat.digitChar_ne '.' (by decide)

theorem separatorChar_colon : SeparatorChar ':' := fun _ => Nat.digitChar_ne ':' (by decide)

theorem Ipv4Addr.octets_injective : Function.Injective Ipv4Addr.octets := by
  rintro ⟨a, b, c, d⟩ ⟨a', b', c', d'⟩ h
  simp only [octets, List.cons.injEq, UInt8.toNat_inj, and_true] at h
  obtain ⟨rfl, rfl, rfl, rfl⟩ := h
  rfl

theorem Ipv4Addr.display_injective : Function.Injective Ipv4Addr.display := by
  intro ip ip' h
  refine octets_injective (numerals_inj (by decide) (by decide) separatorChar_dot ?_ ?_ h)
  · exact List.cons_ne_nil _ _
  · exact List.cons_ne_nil _ _

theorem Ipv6Addr.segments_injective : Function.Injective Ipv6Addr.segments := by
  rintro ⟨s0, s1, s2, s3, s4, s5, s6, s7⟩ ⟨t0, t1, t2, t3, t4, t5, t6, t7⟩ h
  simp only [segments, List.cons.injEq, UInt16.toNat_inj, and_true] at h
  obtain ⟨rfl, rfl, rfl, rfl, rfl, rfl, rfl, rfl⟩ := h
  rfl

theorem eq_of_octets_eq {s t : UInt16} (hupper : upperOctet s = upperOctet t)
    (hlower : lowerOctet s = lowerOctet t) : s = t := by
  have hu : s.toNat / 256 % 256 = t.toNat / 256 % 256 := by
    simpa [upperOctet, Nat.shiftRight_eq_div_pow] using congrArg UInt8.toNat hupper
  have hl : s.toNat % 256 = t.toNat % 256 := by
    simpa [lowerOctet] using congrArg UInt8.toNat hlower
  have hs : s.toNat < 65536 := s.toNat_lt
  have ht : t.toNat < 65536 := t.toNat_lt
  apply UInt16.toNat_inj.mp
  omega

variable {ip : Ipv6Addr}

theorem Ipv6Addr.toIpv4Mapped_inj {ip' : Ipv6Addr} {ipv4 : Ipv4Addr}
    (h : ip.toIpv4Mapped = some ipv4) (h' : ip'.toIpv4Mapped = some ipv4) : ip = ip' := by
  obtain ⟨s0, s1, s2, s3, s4, s5, s6, s7⟩ := ip
  obtain ⟨t0, t1, t2, t3, t4, t5, t6, t7⟩ := ip'
  simp only [toIpv4Mapped, Option.ite_none_right_eq_some, Option.some.injEq] at h h'
  obtain ⟨⟨rfl, rfl, rfl, rfl, rfl, rfl⟩, rfl⟩ := h
  obtain ⟨⟨rfl, rfl, rfl, rfl, rfl, rfl⟩, heq⟩ := h'
  obtain ⟨ha, hb, hc, hd⟩ := Ipv4Addr.mk.inj heq
  rw [eq_of_octets_eq ha hb, eq_of_octets_eq hc hd]

/-! ## The zeros that are left out -/

/-- The span is a run of zeros in the list. -/
def ZeroRun (segments : List Nat) (z : Span) : Prop :=
  ∃ before after, segments = before ++ List.replicate z.len 0 ++ after ∧ before.length = z.start

/-- The span is the run of zeros that the list ends in. -/
def EndsIn (segments : List Nat) (z : Span) : Prop :=
  ∃ before, segments = before ++ List.replicate z.len 0 ∧ (z.len ≠ 0 → before.length = z.start)

variable {z : Span}

theorem ZeroRun.concat {segments : List Nat} (h : ZeroRun segments z) (segment : Nat) :
    ZeroRun (segments ++ [segment]) z := by
  obtain ⟨before, after, rfl, hstart⟩ := h
  exact ⟨before, after ++ [segment], by simp, hstart⟩

theorem ZeroRun.eq_append {segments : List Nat} (h : ZeroRun segments z) :
    segments = segments.take z.start ++ List.replicate z.len 0 ++
      segments.drop (z.start + z.len) := by
  obtain ⟨before, after, rfl, hstart⟩ := h
  have htake : (before ++ List.replicate z.len 0 ++ after).take z.start = before := by
    rw [List.append_assoc, ← hstart, List.take_left]
  have hdrop : (before ++ List.replicate z.len 0 ++ after).drop (z.start + z.len) = after := by
    refine List.drop_left' ?_
    rw [List.length_append, List.length_replicate, hstart]
  rw [htake, hdrop]

theorem EndsIn.concat {segments : List Nat} (h : EndsIn segments z) :
    EndsIn (segments ++ [0])
      { start := if z.len = 0 then segments.length else z.start, len := z.len + 1 } := by
  obtain ⟨before, rfl, hstart⟩ := h
  refine ⟨before, ?_, fun _ => ?_⟩
  · rw [List.append_assoc, List.replicate_succ']
  · split
    · next hzero => simp [hzero]
    · next hne => exact hstart hne

theorem EndsIn.zeroRun {segments : List Nat} (h : EndsIn segments z) (hlen : z.len ≠ 0) :
    ZeroRun segments z := by
  obtain ⟨before, heq, hstart⟩ := h
  exact ⟨before, [], by simpa using heq, hstart hlen⟩

/-- The loop, after the segments `seen`. -/
theorem zeroRun_longestZeroes {longest current : Span} {seen : List Nat} (segments : List Nat)
    (hlongest : ZeroRun seen longest) (hcurrent : EndsIn seen current) :
    ZeroRun (seen ++ segments) (longestZeroes seen.length longest current segments) := by
  induction segments generalizing longest current seen with
  | nil => simpa [longestZeroes] using hlongest
  | cons segment segments ih =>
      have happend : seen ++ segment :: segments = (seen ++ [segment]) ++ segments := by simp
      have hlength : seen.length + 1 = (seen ++ [segment]).length := by simp
      unfold longestZeroes
      rw [happend]
      split
      · next hzero =>
          subst hzero
          have hends := hcurrent.concat
          dsimp only
          rw [hlength]
          refine ih ?_ hends
          split
          · exact hends.zeroRun (Nat.succ_ne_zero _)
          · exact hlongest.concat 0
      · rw [hlength]
        refine ih (hlongest.concat segment) ⟨seen ++ [segment], by simp, fun hne => absurd rfl hne⟩

/-! ## Reading the groups -/

/-- The groups between the colons. -/
def groups (text : Text) : List Text := text.splitOn ':'

theorem groups_fmtSubslice {segments : List Nat} (hne : segments ≠ []) :
    groups (fmtSubslice segments) = segments.map (Nat.toDigits 16) :=
  splitOn_numerals (by decide) separatorChar_colon hne

theorem ne_nil_of_mem_map_toDigits {segments : List Nat} {group : Text}
    (h : group ∈ segments.map (Nat.toDigits 16)) : group ≠ [] := by
  obtain ⟨n, -, rfl⟩ := List.mem_map.mp h
  exact Nat.toDigits_ne_nil

/-- The double colon is an empty group; there is one more if nothing stands before it. -/
theorem groups_compressed (front back : List Nat) :
    groups (fmtSubslice front ++ ':' :: ':' :: fmtSubslice back) =
      front.map (Nat.toDigits 16) ++ [] ::
        (if front = [] then [] :: groups (fmtSubslice back) else groups (fmtSubslice back)) := by
  have hback : groups (':' :: fmtSubslice back) = [] :: groups (fmtSubslice back) :=
    List.splitOn_append_cons_self [] (fmtSubslice back)
  have hsplit : groups (fmtSubslice front ++ ':' :: ':' :: fmtSubslice back) =
      groups (fmtSubslice front) ++ [] :: groups (fmtSubslice back) := by
    rw [← hback]
    exact List.splitOn_append_cons_self _ _
  rw [hsplit]
  cases front with
  | nil => rfl
  | cons s front =>
      rw [groups_fmtSubslice (List.cons_ne_nil s front), if_neg (List.cons_ne_nil s front)]

/-- The first empty element. -/
theorem append_nil_cons_inj {α : Type*} {us vs xs ys : List (List α)} (hu : ∀ u ∈ us, u ≠ [])
    (hv : ∀ v ∈ vs, v ≠ []) (h : us ++ [] :: xs = vs ++ [] :: ys) : us = vs ∧ xs = ys := by
  induction us generalizing vs with
  | nil =>
      cases vs with
      | nil => exact ⟨rfl, (List.cons.inj h).2⟩
      | cons v vs => exact absurd (List.cons.inj h).1.symm (hv v List.mem_cons_self)
  | cons u us ih =>
      cases vs with
      | nil => exact absurd (List.cons.inj h).1 (hu u List.mem_cons_self)
      | cons v vs =>
          obtain ⟨rfl, htail⟩ := List.cons.inj h
          obtain ⟨rfl, hrest⟩ := ih (fun w hw => hu w (List.mem_cons_of_mem _ hw))
            (fun w hw => hv w (List.mem_cons_of_mem _ hw)) htail
          exact ⟨rfl, hrest⟩

theorem fmtSubslice_injective : Function.Injective fmtSubslice := by
  have hnil : ∀ s segments, fmtSubslice (s :: segments) ≠ [] := by
    intro s segments h
    have hgroups := groups_fmtSubslice (List.cons_ne_nil s segments)
    rw [h] at hgroups
    exact Nat.toDigits_ne_nil (List.cons.inj hgroups).1.symm
  intro segments segments' h
  cases segments with
  | nil =>
      cases segments' with
      | nil => rfl
      | cons s segments' => exact absurd h.symm (hnil s segments')
  | cons s segments =>
      cases segments' with
      | nil => exact absurd h (hnil s segments)
      | cons s' segments' =>
          exact numerals_inj (by decide) (by decide) separatorChar_colon
            (List.cons_ne_nil s segments)
            (List.cons_ne_nil s' segments') h

theorem compressed_inj {front front' back back' : List Nat}
    (h : fmtSubslice front ++ ':' :: ':' :: fmtSubslice back =
      fmtSubslice front' ++ ':' :: ':' :: fmtSubslice back') : front = front' ∧ back = back' := by
  have hgroups := congrArg groups h
  rw [groups_compressed, groups_compressed] at hgroups
  obtain ⟨hfront, hrest⟩ := append_nil_cons_inj (fun _ => ne_nil_of_mem_map_toDigits)
    (fun _ => ne_nil_of_mem_map_toDigits) hgroups
  have hsame : front = front' := map_toDigits_inj (by decide) (by decide) hfront
  subst hsame
  refine ⟨rfl, fmtSubslice_injective ?_⟩
  exact (List.cons.inj (List.cons.inj (List.append_cancel_left h)).2).2

/-! ## No two addresses have the same text -/

/-- How an address is written that is not mapped from IPv4. -/
theorem Ipv6Addr.display_of_none (h : ip.toIpv4Mapped = none) :
    ip.display = fmtSubslice ip.segments ∨ ∃ front n back,
      ip.segments = front ++ List.replicate n 0 ++ back ∧
      ip.display = fmtSubslice front ++ ':' :: ':' :: fmtSubslice back := by
  have hrun : ZeroRun ip.segments
      (longestZeroes 0 { start := 0, len := 0 } { start := 0, len := 0 } ip.segments) :=
    @zeroRun_longestZeroes _ _ [] ip.segments ⟨[], [], rfl, rfl⟩ ⟨[], rfl, fun _ => rfl⟩
  unfold display
  rw [h]
  dsimp only
  split
  · exact Or.inr ⟨_, _, _, hrun.eq_append, rfl⟩
  · exact Or.inl rfl

theorem Ipv6Addr.dot_not_mem (h : ip.toIpv4Mapped = none) : '.' ∉ ip.display := by
  have hslice : ∀ segments, '.' ∉ fmtSubslice segments :=
    not_mem_numerals (by decide) separatorChar_dot (by decide)
  rcases display_of_none h with heq | ⟨front, n, back, -, heq⟩
  · rw [heq]
    exact hslice _
  · rw [heq]
    simp [hslice]

theorem Ipv4Addr.dot_mem (ip : Ipv4Addr) : '.' ∈ ip.display := by
  simp [display, numerals, octets, List.intercalate_cons_cons]

theorem Ipv6Addr.colon_mem (ip : Ipv6Addr) : ':' ∈ ip.display := by
  cases h : ip.toIpv4Mapped with
  | some ipv4 => simp [display, h]
  | none =>
      rcases display_of_none h with heq | ⟨front, n, back, -, heq⟩
      · rw [heq]
        simp [fmtSubslice, numerals, segments, List.intercalate_cons_cons]
      · simp [heq]

theorem Ipv4Addr.colon_not_mem (ip : Ipv4Addr) : ':' ∉ ip.display :=
  not_mem_numerals (by decide) separatorChar_colon (by decide) _

/-- A compressed text has an empty group. -/
theorem compressed_ne {front back segments : List Nat} (hne : segments ≠ []) :
    fmtSubslice front ++ ':' :: ':' :: fmtSubslice back ≠ fmtSubslice segments := by
  intro h
  have hgroups := congrArg groups h
  rw [groups_compressed, groups_fmtSubslice hne] at hgroups
  have hmem : [] ∈ segments.map (Nat.toDigits 16) := by
    rw [← hgroups]
    exact List.mem_append_right _ List.mem_cons_self
  exact ne_nil_of_mem_map_toDigits hmem rfl

theorem Ipv6Addr.display_injective : Function.Injective Ipv6Addr.display := by
  intro ip ip' h
  have hne : ∀ ip : Ipv6Addr, ip.segments ≠ [] := fun _ => List.cons_ne_nil _ _
  cases hmapped : ip.toIpv4Mapped with
  | some ipv4 =>
      cases hmapped' : ip'.toIpv4Mapped with
      | some ipv4' =>
          simp only [display, hmapped, hmapped', List.append_cancel_left_eq] at h
          rw [Ipv4Addr.display_injective h] at hmapped
          exact toIpv4Mapped_inj hmapped hmapped'
      | none =>
          have hdot : '.' ∈ ip.display := by
            simp [display, hmapped, Ipv4Addr.dot_mem]
          exact absurd (h ▸ hdot) (dot_not_mem hmapped')
  | none =>
      cases hmapped' : ip'.toIpv4Mapped with
      | some ipv4' =>
          have hdot : '.' ∈ ip'.display := by
            simp [display, hmapped', Ipv4Addr.dot_mem]
          exact absurd (h ▸ hdot) (dot_not_mem hmapped)
      | none =>
          apply segments_injective
          rcases display_of_none hmapped with heq | ⟨front, n, back, hsegments, heq⟩ <;>
            rcases display_of_none hmapped' with heq' | ⟨front', n', back', hsegments', heq'⟩ <;>
            rw [heq, heq'] at h
          · exact fmtSubslice_injective h
          · exact absurd h.symm (compressed_ne (hne ip))
          · exact absurd h (compressed_ne (hne ip'))
          · obtain ⟨rfl, rfl⟩ := compressed_inj h
            have hlength := congrArg List.length hsegments
            have hlength' := congrArg List.length hsegments'
            simp only [segments, List.length_cons, List.length_nil, List.length_append,
              List.length_replicate] at hlength hlength'
            have hn : n = n' := by omega
            rw [hsegments, hsegments', hn]

/-- **The text of an address names it.** -/
theorem IpAddr.display_injective : Function.Injective IpAddr.display := by
  intro ip ip' h
  cases ip with
  | v4 ip =>
      cases ip' with
      | v4 ip' => exact congrArg IpAddr.v4 (Ipv4Addr.display_injective h)
      | v6 ip' =>
          have hsame : ip.display = ip'.display := h
          exact absurd (hsame ▸ ip'.colon_mem) ip.colon_not_mem
  | v6 ip =>
      cases ip' with
      | v4 ip' =>
          have hsame : ip.display = ip'.display := h
          exact absurd (hsame ▸ ip.colon_mem) ip'.colon_not_mem
      | v6 ip' => exact congrArg IpAddr.v6 (Ipv6Addr.display_injective h)

example : (IpAddr.v6 ⟨0x2001, 0xdb8, 0, 0, 1, 0, 0, 0⟩).display =
    "2001:db8:0:0:1::".toList := by decide

example : (IpAddr.v6 ⟨0, 0, 0, 0, 0, 0xffff, 0xc0a8, 0x0102⟩).display =
    "::ffff:192.168.1.2".toList := by
  decide

end Narrowd
