import Mathlib.Data.List.Basic
import Mathlib.Tactic

set_option autoImplicit false

/-! # Frames on a byte stream

A stream delivers its bytes in chunks of the transport's choosing, and what a reader makes of them
must not depend on how they were cut. `Source.readExact` takes as many chunks as it needs; its two
specifications speak of the bytes alone.

A frame is a payload after its length, four bytes with the highest first.
-/

namespace Narrowd.Lib

variable {n : Nat}

section

variable {α ε : Type}

/-! ## Reading a number of bytes -/

/-- What a stream still delivers: its chunks, and then its end, or the error that it fails with. An
empty chunk stands for a wait. -/
structure Source (α ε : Type) where
  chunks : List (List α)
  failure : Option ε

/-- What is read, however it is cut. -/
def Source.bytes (s : Source α ε) : List α := s.chunks.flatten

/-- The next `n` elements and the chunks left, if there are so many. -/
def takeChunks : Nat → List (List α) → Option (List α × List (List α))
  | n, [] => if n = 0 then some ([], []) else none
  | n, c :: cs =>
      if n ≤ c.length then some (c.take n, c.drop n :: cs)
      else (takeChunks (n - c.length) cs).map fun p => (c ++ p.1, p.2)

/-- `read_exact`: it fails where the stream ends early, or as the stream does. -/
def Source.readExact (n : Nat) (s : Source α ε) : Except (Option ε) (List α × Source α ε) :=
  match takeChunks n s.chunks with
  | some (bytes, chunks) => .ok (bytes, { s with chunks := chunks })
  | none => .error s.failure

theorem takeChunks_of_le {cs : List (List α)} (h : n ≤ cs.flatten.length) :
    ∃ rest, takeChunks n cs = some (cs.flatten.take n, rest) ∧
      rest.flatten = cs.flatten.drop n := by
  induction cs generalizing n with
  | nil =>
      obtain rfl : n = 0 := Nat.le_zero.mp h
      exact ⟨[], rfl, rfl⟩
  | cons c cs ih =>
      rw [List.flatten_cons, List.length_append] at h
      unfold takeChunks
      rw [List.flatten_cons]
      by_cases hn : n ≤ c.length
      · refine ⟨c.drop n :: cs, ?_, ?_⟩
        · rw [if_pos hn, List.take_append_of_le_length hn]
        · rw [List.flatten_cons, List.drop_append_of_le_length hn]
      · obtain ⟨rest, htake, hrest⟩ := ih (n := n - c.length) (by omega)
        refine ⟨rest, ?_, ?_⟩
        · rw [if_neg hn, htake, Option.map_some, List.take_append,
            List.take_of_length_le (by omega : c.length ≤ n)]
        · rw [hrest, List.drop_append, List.drop_eq_nil_of_le (by omega : c.length ≤ n),
            List.nil_append]

theorem takeChunks_of_lt {cs : List (List α)} (h : cs.flatten.length < n) :
    takeChunks n cs = none := by
  induction cs generalizing n with
  | nil =>
      have hn : n ≠ 0 := Nat.ne_of_gt h
      rw [takeChunks, if_neg hn]
  | cons c cs ih =>
      rw [List.flatten_cons, List.length_append] at h
      rw [takeChunks, if_neg (by omega), ih (by omega)]
      rfl

/-- **Enough bytes are read**, and the rest is left, whatever the chunks. -/
theorem Source.readExact_of_le {s : Source α ε} (h : n ≤ s.bytes.length) :
    ∃ s', s.readExact n = .ok (s.bytes.take n, s') ∧ s'.bytes = s.bytes.drop n ∧
      s'.failure = s.failure := by
  obtain ⟨rest, htake, hrest⟩ := takeChunks_of_le h
  refine ⟨{ s with chunks := rest }, ?_, hrest, rfl⟩
  rw [Source.readExact, htake]
  rfl

theorem Source.readExact_of_lt {s : Source α ε} (h : s.bytes.length < n) :
    s.readExact n = .error s.failure := by
  rw [Source.readExact, takeChunks_of_lt h]

end

/-! ## Writing -/

section

variable {α ε : Type}

/-- What has been written to a stream, and how much more it takes before it fails, if it does. -/
structure Sink (α ε : Type) where
  written : List α
  failure : Option (Nat × ε)

/-- `write_all`: what the stream still takes is written even if the rest fails. -/
def Sink.writeAll (bytes : List α) (w : Sink α ε) : Except ε Unit × Sink α ε :=
  match w.failure with
  | none => (.ok (), { w with written := w.written ++ bytes })
  | some (room, err) =>
      if bytes.length ≤ room then
        (.ok (), ⟨w.written ++ bytes, some (room - bytes.length, err)⟩)
      else (.error err, ⟨w.written ++ bytes.take room, some (0, err)⟩)

end

/-! ## Lengths -/

/-- Four bytes, the highest first. -/
def bigEndian (n : Nat) : List UInt8 :=
  [UInt8.ofNat (n / 2 ^ 24), UInt8.ofNat (n / 2 ^ 16), UInt8.ofNat (n / 2 ^ 8), UInt8.ofNat n]

def ofBigEndian (bytes : List UInt8) : Nat :=
  bytes.foldl (fun n byte => n * 256 + byte.toNat) 0

theorem length_bigEndian (n : Nat) : (bigEndian n).length = 4 := rfl

theorem ofBigEndian_bigEndian (h : n < 2 ^ 32) : ofBigEndian (bigEndian n) = n := by
  simp only [ofBigEndian, bigEndian, List.foldl_cons, List.foldl_nil, UInt8.toNat_ofNat']
  omega

/-! ## Frames -/

variable {limit : Nat}

section

variable {ε : Type}

/-- A payload after its length. -/
def frame (payload : List UInt8) : List UInt8 := bigEndian payload.length ++ payload

/-- What reading a frame comes to. -/
inductive FrameRead (ε : Type)
  /-- The stream ends, or fails, within the length. -/
  | noLength (failure : Option ε)
  | tooLong (length : Nat)
  /-- The stream ends, or fails, within the payload. -/
  | noPayload (failure : Option ε)
  | payload (bytes : List UInt8)

def readFrame (limit : Nat) (s : Source UInt8 ε) : FrameRead ε × Source UInt8 ε :=
  match s.readExact 4 with
  | .error failure => (.noLength failure, s)
  | .ok (header, s) =>
      let length := ofBigEndian header
      if limit < length then (.tooLong length, s)
      else
        match s.readExact length with
        | .error failure => (.noPayload failure, s)
        | .ok (payload, s) => (.payload payload, s)

variable {s : Source UInt8 ε}

/-- **A frame within the limit is read back**, and what follows it is left. -/
theorem readFrame_frame {payload rest : List UInt8} (hbytes : s.bytes = frame payload ++ rest)
    (hlimit : payload.length ≤ limit) (hlength : payload.length < 2 ^ 32) :
    ∃ s', readFrame limit s = (.payload payload, s') ∧ s'.bytes = rest ∧
      s'.failure = s.failure := by
  have hfour : s.bytes.take 4 = bigEndian payload.length := by rw [hbytes]; rfl
  have hleft : s.bytes.drop 4 = payload ++ rest := by rw [hbytes]; rfl
  obtain ⟨s₁, hheader, hs₁, hf₁⟩ := Source.readExact_of_le (n := 4) (s := s) (by
    rw [hbytes, frame, List.length_append, List.length_append, length_bigEndian]
    omega)
  rw [hfour] at hheader
  rw [hleft] at hs₁
  obtain ⟨s₂, hbody, hs₂, hf₂⟩ := Source.readExact_of_le (n := payload.length) (s := s₁) (by
    rw [hs₁, List.length_append]
    omega)
  rw [hs₁, List.take_left] at hbody
  rw [hs₁, List.drop_left] at hs₂
  refine ⟨s₂, ?_, hs₂, hf₂.trans hf₁⟩
  simp only [readFrame, hheader, ofBigEndian_bigEndian hlength, if_neg (Nat.not_lt.mpr hlimit),
    hbody]

/-- **A frame that is cut off is not read**: the stream ends within its length or its payload. -/
theorem readFrame_cut {payload rest : List UInt8} (hcut : s.bytes ++ rest = frame payload)
    (hrest : rest ≠ []) (hlimit : payload.length ≤ limit) (hlength : payload.length < 2 ^ 32) :
    (readFrame limit s).1 = .noLength s.failure ∨ (readFrame limit s).1 = .noPayload s.failure := by
  have hcount : s.bytes.length + rest.length = 4 + payload.length := by
    rw [← List.length_append, hcut, frame, List.length_append, length_bigEndian]
  have hpos : 0 < rest.length := List.length_pos_iff.mpr hrest
  by_cases hshort : s.bytes.length < 4
  · left
    simp only [readFrame, Source.readExact_of_lt hshort]
  · right
    have hfour : 4 ≤ s.bytes.length := Nat.not_lt.mp hshort
    obtain ⟨s₁, hheader, hs₁, hf₁⟩ := Source.readExact_of_le (n := 4) hfour
    have hbytes : s.bytes.take 4 = bigEndian payload.length := by
      calc s.bytes.take 4 = (s.bytes ++ rest).take 4 :=
            (List.take_append_of_le_length hfour).symm
        _ = bigEndian payload.length := by rw [hcut]; rfl
    have hbody : s₁.bytes.length < payload.length := by
      rw [hs₁, List.length_drop]
      omega
    rw [hbytes] at hheader
    simp only [readFrame, hheader, ofBigEndian_bigEndian hlength,
      if_neg (Nat.not_lt.mpr hlimit), Source.readExact_of_lt hbody, hf₁]

/-- At the end of the stream there is no length to read. -/
theorem readFrame_end (hbytes : s.bytes = []) : readFrame limit s = (.noLength s.failure, s) := by
  have hshort : s.bytes.length < 4 := by rw [hbytes]; decide
  simp only [readFrame, Source.readExact_of_lt hshort]

end

end Narrowd.Lib
