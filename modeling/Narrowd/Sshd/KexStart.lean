import Narrowd.Sshd.Deadlines

set_option autoImplicit false

/-! # The start of the key exchange

The bytes of a client are its banner line and, from the byte after the first newline on, its key
exchange. The stream sees them in the chunks that its reads return, and `note_client_bytes` looks
at a chunk in one of two ways: up to the end of the banner it looks for the newline and leaves the
rest of the chunk alone, and after that any chunk is the start of the key exchange.

So the key exchange is noticed by the first chunk after the one with the newline. A client whose
banner and first packet arrive together is not noticed until it sends more, and if it waits for the
server it is cut off (`banner_and_packet_together`). `kex_start_noticed_iff` says exactly for which
ways of cutting the bytes the flags are those of the bytes.
-/

namespace Narrowd.Sshd

open Lib

variable {p : Platform}

/-! ## What comes after the first -/

section

variable {α : Type*} (f : α → Bool)

/-- What follows the first element of the list that passes the test. -/
def afterFirst (l : List α) : List α := (l.dropWhile fun a => !f a).drop 1

theorem afterFirst_cons_of_pos {a : α} (l : List α) (ha : f a = true) :
    afterFirst f (a :: l) = l := by
  simp [afterFirst, ha]

theorem afterFirst_cons_of_neg {a : α} (l : List α) (ha : f a = false) :
    afterFirst f (a :: l) = afterFirst f l := by
  simp [afterFirst, ha]

theorem afterFirst_append (l l' : List α) :
    afterFirst f (l ++ l') = if l.any f then afterFirst f l ++ l' else afterFirst f l' := by
  induction l with
  | nil => simp
  | cons a l ih =>
      by_cases ha : f a = true
      · simp [afterFirst_cons_of_pos, ha]
      · have ha' : f a = false := by simpa using ha
        simp [afterFirst_cons_of_neg, ha', ih]

/-- The list in which the first element that passes the test stands, `[]` if there is none. -/
def firstWith : List (List α) → List α
  | [] => []
  | c :: cs => if c.any f then c else firstWith cs

/-- In the concatenation of lists, what follows the first is the rest of its own list and then the
lists after that. -/
theorem afterFirst_flatten (cs : List (List α)) :
    afterFirst f cs.flatten =
      afterFirst f (firstWith f cs) ++ (afterFirst (fun c => c.any f) cs).flatten := by
  induction cs with
  | nil => simp [afterFirst, firstWith]
  | cons c cs ih =>
      rw [List.flatten_cons, afterFirst_append]
      by_cases hc : c.any f = true
      · rw [if_pos hc, firstWith, if_pos hc, afterFirst_cons_of_pos (fun c => c.any f) cs hc]
      · have hc' : c.any f = false := by simpa using hc
        rw [if_neg hc, firstWith, if_neg hc, afterFirst_cons_of_neg (fun c => c.any f) cs hc', ih]

end

/-! ## The chunks of a run -/

def isNewline (byte : UInt8) : Bool := byte == 10

theorem any_isNewline (bytes : List UInt8) : bytes.any isNewline = true ↔ 10 ∈ bytes := by
  simp [isNewline]

/-- The bytes that a poll has read, if there are any. -/
def chunkOf : StreamEvent p → Option (List UInt8)
  | .read _ (.ready (.ok bytes)) => if bytes.isEmpty then none else some bytes
  | _ => none

/-- The chunks that were delivered, oldest first. -/
def chunks (h : List (StreamEvent p)) : List (List UInt8) := (h.filterMap chunkOf).reverse

/-- The bytes that were delivered. -/
def clientBytes (h : List (StreamEvent p)) : List UInt8 := (chunks h).flatten

variable {e : StreamEvent p}

theorem chunks_cons_of_none (he : chunkOf e = none) (h : List (StreamEvent p)) :
    chunks (e :: h) = chunks h := by
  simp [chunks, he]

variable {bytes : List UInt8}

theorem chunks_cons_of_some (he : chunkOf e = some bytes) (h : List (StreamEvent p)) :
    chunks (e :: h) = chunks h ++ [bytes] := by
  simp [chunks, he]

variable {h : List (StreamEvent p)}

theorem ne_nil_of_mem_chunks (hmem : bytes ∈ chunks h) : bytes ≠ [] := by
  obtain ⟨e, -, he⟩ := List.mem_filterMap.mp (List.mem_reverse.mp hmem)
  unfold chunkOf at he
  split at he
  · split at he
    · cases he
    · next hne =>
        cases he
        simpa using hne
  · cases he

/-- The chunks after the one with the first newline. -/
def later (cs : List (List UInt8)) : List (List UInt8) := afterFirst (fun c => c.any isNewline) cs

/-- Some chunk had a newline. -/
def bannerRead (cs : List (List UInt8)) : Bool := cs.any fun c => c.any isNewline

theorem bannerRead_append (cs : List (List UInt8)) (bytes : List UInt8) :
    bannerRead (cs ++ [bytes]) = (bannerRead cs || bytes.any isNewline) := by
  simp [bannerRead]

theorem later_append (cs : List (List UInt8)) (bytes : List UInt8) :
    later (cs ++ [bytes]) = if bannerRead cs then later cs ++ [bytes] else [] := by
  -- a single chunk has none after it
  have hsingle : afterFirst (fun c => c.any isNewline) [bytes] = [] := by
    by_cases hnl : bytes.any isNewline = true
    · exact afterFirst_cons_of_pos _ _ hnl
    · exact afterFirst_cons_of_neg _ _ (by simpa using hnl)
  rw [later, afterFirst_append, hsingle]
  rfl

/-! ## What the flags say -/

/-- **What a chunk does to the flags**: a newline completes the banner, and any chunk that comes
when the banner is complete starts the key exchange. -/
theorem noteClientBytes_flags {s s' : PreauthTimedStream p} {now : Instant p} (hbytes : bytes ≠ [])
    (hnote : s.noteClientBytes false bytes now = some s') :
    s'.clientBannerComplete = (s.clientBannerComplete || bytes.any isNewline) ∧
      s'.kexStarted = (s.kexStarted || s.clientBannerComplete) := by
  unfold PreauthTimedStream.noteClientBytes at hnote
  rw [if_neg (by simpa using hbytes)] at hnote
  by_cases hcomplete : s.clientBannerComplete = true
  · rw [if_neg (by simp [hcomplete])] at hnote
    by_cases hstarted : s.kexStarted = true
    · rw [if_neg (by simp [hstarted])] at hnote
      cases hnote
      simp [hcomplete, hstarted]
    · rw [if_pos (by simpa using hstarted)] at hnote
      cases hnote
      simp [hcomplete, PreauthTimedStream.resetTimer]
  · have hinc : s.clientBannerComplete = false := by simpa using hcomplete
    rw [if_pos (by simp [hinc])] at hnote
    rcases PreauthTimedStream.noteBanner_cases hnote with ⟨hno, n, rfl⟩ | ⟨hnl, n, d, -, rfl⟩
    · have hany : bytes.any isNewline = false := by
        rw [← Bool.not_eq_true, any_isNewline]
        exact hno
      simp [hinc, hany]
    · simp [hinc, (any_isNewline bytes).mpr hnl, PreauthTimedStream.resetTimer]

/-- **The flags of a stream before authentication**: the banner is complete once a chunk had a
newline, and the key exchange has started once there was a chunk after that one. -/
structure FlagsInv (h : List (StreamEvent p)) (c : PreauthConnection p) : Prop where
  banner : c.stream.clientBannerComplete = bannerRead (chunks h)
  kex : c.stream.kexStarted = !(later (chunks h)).isEmpty

/-- Before the newline nothing comes after it. -/
theorem later_of_not_bannerRead {cs : List (List UInt8)} (h : bannerRead cs = false) :
    later cs = [] := by
  induction cs with
  | nil => rfl
  | cons c cs ih =>
      simp only [bannerRead, List.any_cons, Bool.or_eq_false_iff] at h
      rw [later, afterFirst_cons_of_neg (fun c => c.any isNewline) cs h.1]
      exact ih h.2

variable {c c' : PreauthConnection p}

theorem FlagsInv.note {now : Instant p} (hi : FlagsInv h c) (he : chunkOf e = some bytes)
    (hbytes : bytes ≠ []) (hnote : c.stream.noteClientBytes false bytes now = some c'.stream) :
    FlagsInv (e :: h) c' := by
  obtain ⟨hbanner, hkex⟩ := noteClientBytes_flags hbytes hnote
  constructor
  · rw [hbanner, hi.banner, chunks_cons_of_some he, bannerRead_append]
  · rw [hkex, hi.kex, hi.banner, chunks_cons_of_some he, later_append]
    by_cases hread : bannerRead (chunks h) = true
    · simp [hread]
    · have hread' : bannerRead (chunks h) = false := by simpa using hread
      simp [hread', later_of_not_bannerRead hread']

/-- **What a step does before authentication**: it notes the chunk that it has read, and without one
it leaves the stream alone. -/
theorem StreamStep.chunk_cases (hs : StreamStep c e c') (hopen : c.authenticated = false) :
    (chunkOf e = none ∧ c'.stream = c.stream) ∨
      ∃ bytes now, chunkOf e = some bytes ∧ bytes ≠ [] ∧
        c.stream.noteClientBytes false bytes now = some c'.stream := by
  cases hs with
  | @read c' r fired answer result _ _ hpoll =>
      obtain ⟨-, -, ⟨hsame, hquiet⟩ | ⟨bytes, -, rfl, hnote⟩⟩ := pollWith_cases hpoll
      · refine Or.inl ⟨?_, hsame⟩
        rcases result with (_ | bytes) | _
        · rfl
        · rcases hquiet with hauth | hnone
          · rw [hopen] at hauth
            cases hauth
          · exact absurd rfl (hnone bytes)
        · rfl
      · rw [hopen] at hnote
        by_cases hnil : bytes = []
        · -- the end of the stream is no chunk, and is not noted
          subst hnil
          exact Or.inl ⟨rfl, (Option.some.inj hnote).symm⟩
        · exact Or.inr ⟨bytes, r.later, by simp [chunkOf, hnil], hnil, hnote⟩
  | write _ _ hpoll =>
      obtain ⟨-, -, ⟨hsame, -⟩ | ⟨n, -, -, hnote⟩⟩ := pollWith_cases hpoll
      · exact Or.inl ⟨rfl, hsame⟩
      · exact Or.inl ⟨rfl, (Option.some.inj hnote).symm⟩
  | flush _ _ hpoll =>
      obtain ⟨-, -, ⟨hsame, -⟩ | ⟨n, -, -, hnote⟩⟩ := pollWith_cases hpoll
      · exact Or.inl ⟨rfl, hsame⟩
      · exact Or.inl ⟨rfl, (Option.some.inj hnote).symm⟩
  | authenticate => exact Or.inl ⟨rfl, rfl⟩

theorem FlagsInv.step (hi : FlagsInv h c) (hopen : c.authenticated = false)
    (hs : StreamStep c e c') :
    FlagsInv (e :: h) c' := by
  rcases hs.chunk_cases hopen with ⟨hnone, hsame⟩ | ⟨bytes, now, he, hbytes, hnote⟩
  · constructor
    · rw [hsame, hi.banner, chunks_cons_of_none hnone]
    · rw [hsame, hi.kex, chunks_cons_of_none hnone]
  · exact hi.note he hbytes hnote

variable {grace : Instant p} {timeout : Duration}

/-- Until the flag is set, the chunks alone decide. -/
theorem flagsInv_of_run (hr : StreamRun grace timeout h c) (hopen : .authenticate ∉ h) :
    FlagsInv h c := by
  induction hr with
  | nil hnew =>
      obtain ⟨now, rfl⟩ := hnew
      exact ⟨rfl, rfl⟩
  | @cons h c c' e hr hs ih =>
      have hbefore : .authenticate ∉ h := fun hmem => hopen (List.mem_cons_of_mem _ hmem)
      refine (ih hbefore).step ?_ hs
      rw [← Bool.not_eq_true, (deadlineInv_of_run hr).flag]
      exact hbefore

/-! ## When the flags are those of the bytes -/

/-- What the flags should say about the bytes: the banner is complete once a newline was delivered,
and the key exchange has started once a byte after it was. -/
structure Detected (bytes : List UInt8) (s : PreauthTimedStream p) : Prop where
  banner : s.clientBannerComplete = true ↔ 10 ∈ bytes
  kex : s.kexStarted = true ↔ afterFirst isNewline bytes ≠ []

/-- The chunk with the first newline ends there, or is not the last one. -/
def NewlineEndsChunk (cs : List (List UInt8)) : Prop :=
  afterFirst isNewline (firstWith isNewline cs) = [] ∨ later cs ≠ []

/-- Two streams are at the same point: the same flags, and the same deadline is pending. -/
structure SameView (s s' : PreauthTimedStream p) : Prop where
  banner : s.clientBannerComplete = s'.clientBannerComplete
  kex : s.kexStarted = s'.kexStarted
  kexDeadline : s.kexStartDeadline = s'.kexStartDeadline
  deadline : s.currentDeadline = s'.currentDeadline

theorem bannerRead_iff (cs : List (List UInt8)) : bannerRead cs = true ↔ 10 ∈ cs.flatten := by
  simp [bannerRead, isNewline]

theorem later_flatten_eq_nil : (later (chunks h)).flatten = [] ↔ later (chunks h) = [] := by
  constructor
  · intro hflat
    by_contra hne
    obtain ⟨bytes, hmem⟩ := List.exists_mem_of_ne_nil _ hne
    have hsub : later (chunks h) <:+ chunks h :=
      (List.drop_suffix _ _).trans (List.dropWhile_suffix _)
    exact ne_nil_of_mem_chunks (hsub.subset hmem) (List.flatten_eq_nil_iff.mp hflat bytes hmem)
  · intro hnil
    rw [hnil]
    rfl

/-- **For one way of cutting the bytes.** -/
theorem detected_iff (hr : StreamRun grace timeout h c) (hopen : .authenticate ∉ h) :
    Detected (clientBytes h) c.stream ↔ NewlineEndsChunk (chunks h) := by
  have hi := flagsInv_of_run hr hopen
  have hbanner : c.stream.clientBannerComplete = true ↔ 10 ∈ clientBytes h := by
    rw [hi.banner, bannerRead_iff]
    rfl
  have hkex : c.stream.kexStarted = true ↔ later (chunks h) ≠ [] := by
    rw [hi.kex]
    simp
  have hafter : afterFirst isNewline (clientBytes h) ≠ [] ↔
      afterFirst isNewline (firstWith isNewline (chunks h)) ≠ [] ∨ later (chunks h) ≠ [] := by
    rw [clientBytes, afterFirst_flatten, ← later, Ne, List.append_eq_nil_iff, not_and_or,
      later_flatten_eq_nil]
  constructor
  · rintro ⟨-, hkex'⟩
    by_cases hend : afterFirst isNewline (firstWith isNewline (chunks h)) = []
    · exact Or.inl hend
    · exact Or.inr (hkex.mp (hkex'.mpr (hafter.mpr (Or.inl hend))))
  · intro hcut
    refine ⟨hbanner, ?_⟩
    rw [hkex, hafter]
    constructor
    · exact Or.inr
    · rintro (hrest | hlater)
      · exact hcut.resolve_left hrest
      · exact hlater

/-- The flags and the time of the first newline decide which deadline is pending. -/
theorem sameView_of_flags {h₁ h₂ : List (StreamEvent p)} {c₁ c₂ : PreauthConnection p}
    (hr₁ : StreamRun grace timeout h₁ c₁) (hr₂ : StreamRun grace timeout h₂ c₂)
    (htime : bannerEnd h₁ = bannerEnd h₂)
    (hbanner : c₁.stream.clientBannerComplete = c₂.stream.clientBannerComplete)
    (hkex : c₁.stream.kexStarted = c₂.stream.kexStarted) : SameView c₁.stream c₂.stream := by
  have hi₁ := deadlineInv_of_run hr₁
  have hi₂ := deadlineInv_of_run hr₂
  have hdeadline : c₁.stream.kexStartDeadline = c₂.stream.kexStartDeadline := by
    by_cases hcomplete : c₁.stream.clientBannerComplete = true
    · by_cases hstarted : c₁.stream.kexStarted = true
      · rw [hi₁.started hstarted, hi₂.started (hkex ▸ hstarted)]
      · have hstarted' : c₁.stream.kexStarted = false := by simpa using hstarted
        obtain ⟨t, d, ht, hd, hk⟩ := hi₁.running hcomplete hstarted'
        obtain ⟨t', d', ht', hd', hk'⟩ := hi₂.running (hbanner ▸ hcomplete) (hkex ▸ hstarted')
        rw [htime, ht'] at ht
        cases ht
        rw [hk, hk', ← hd, ← hd']
    · have hinc : c₁.stream.clientBannerComplete = false := by simpa using hcomplete
      rw [(hi₁.incomplete hinc).1, (hi₂.incomplete (hbanner ▸ hinc)).1]
  refine ⟨hbanner, hkex, hdeadline, ?_⟩
  simp only [PreauthTimedStream.currentDeadline, hdeadline, hkex, hi₁.login, hi₂.login]

/-- **When the start of the key exchange is noticed however the bytes are cut.** For two runs that
deliver the same bytes, the first newline at the same time: the flags are those of the bytes in
both, and so both are at the same point, if and only if in each of them the chunk with the first
newline ends with it, or is followed by another chunk. -/
theorem kex_start_noticed_iff {grace : Instant p} {timeout : Duration}
    {h₁ h₂ : List (StreamEvent p)} {c₁ c₂ : PreauthConnection p}
    (hr₁ : StreamRun grace timeout h₁ c₁) (hr₂ : StreamRun grace timeout h₂ c₂)
    (hopen₁ : .authenticate ∉ h₁) (hopen₂ : .authenticate ∉ h₂)
    (hbytes : clientBytes h₁ = clientBytes h₂) (htime : bannerEnd h₁ = bannerEnd h₂) :
    (Detected (clientBytes h₁) c₁.stream ∧ Detected (clientBytes h₂) c₂.stream ∧
      SameView c₁.stream c₂.stream) ↔
      NewlineEndsChunk (chunks h₁) ∧ NewlineEndsChunk (chunks h₂) := by
  rw [← detected_iff hr₁ hopen₁, ← detected_iff hr₂ hopen₂]
  constructor
  · rintro ⟨hd₁, hd₂, -⟩
    exact ⟨hd₁, hd₂⟩
  · rintro ⟨hd₁, hd₂⟩
    refine ⟨hd₁, hd₂, sameView_of_flags hr₁ hr₂ htime ?_ ?_⟩
    · rw [Bool.eq_iff_iff, hd₁.banner, hd₂.banner, hbytes]
    · rw [Bool.eq_iff_iff, hd₁.kex, hd₂.kex, hbytes]

/-! ## A banner and a packet -/

/-- A read that returns bytes at once. -/
theorem StreamRun.read (hr : StreamRun grace timeout h c) (t : Instant p) (bytes : List UInt8)
    (htime : c.now ≤ t)
    (hpoll : c.pollRead (.at t) false (.ready (.ok bytes)) = some (.ready (.ok bytes), c')) :
    StreamRun grace timeout (.read (.at t) (.ready (.ok bytes)) :: h) { c' with now := t } := by
  have htimer : TimerFires c (.at t) false := fun hfired => nomatch hfired
  exact hr.cons (.read htime htimer hpoll)

/-- The stream of a client that has five seconds to start its key exchange. -/
def waitingClient : PreauthConnection .linux :=
  .new (second 15) (Duration.fromSecs 5) (second 0)

theorem run_waitingClient : StreamRun (second 15) (Duration.fromSecs 5) [] waitingClient :=
  .nil ⟨second 0, rfl⟩

/-- The banner in one chunk, and the first byte of a packet in the next. -/
theorem run_banner_then_packet :
    ∃ c, StreamRun (second 15) (Duration.fromSecs 5)
      [.read (.at (second 2)) (.ready (.ok [20])),
        .read (.at (second 2)) (.ready (.ok [83, 83, 72, 10]))] c ∧
      c.stream.kexStarted = true ∧ c.stream.currentDeadline = second 15 :=
  ⟨_, (run_waitingClient.read (second 2) [83, 83, 72, 10] (by decide) rfl).read (second 2) [20]
    (by decide) rfl, rfl, rfl⟩

/-- The banner in two chunks and the packet in a third: the same bytes leave the same flags and
deadline. -/
theorem kex_start_noticed_sample :
    ∃ h₁ h₂ c₁ c₂, StreamRun (second 15) (Duration.fromSecs 5) h₁ c₁ ∧
      StreamRun (second 15) (Duration.fromSecs 5) h₂ c₂ ∧
      chunks h₁ = [[83, 83, 72, 10], [20]] ∧ chunks h₂ = [[83], [83, 72, 10], [20]] ∧
      Detected (clientBytes h₁) c₁.stream ∧ Detected (clientBytes h₂) c₂.stream ∧
      SameView c₁.stream c₂.stream := by
  obtain ⟨c₁, hr₁, -⟩ := run_banner_then_packet
  have hr₂ := ((run_waitingClient.read (second 2) [83] (by decide) rfl).read
    (second 2) [83, 72, 10] (by decide) rfl).read (second 2) [20] (by decide) rfl
  refine ⟨_, _, c₁, _, hr₁, hr₂, rfl, rfl, ?_⟩
  refine (kex_start_noticed_iff hr₁ hr₂ ?_ ?_ rfl rfl).mpr ⟨Or.inr ?_, Or.inr ?_⟩
  · simp
  · simp
  · exact List.cons_ne_nil _ _
  · exact List.cons_ne_nil _ _

/-- **A banner and a packet in one chunk.** The client has sent a byte after its newline, and the
key exchange counts as not started; the same bytes in two chunks, at the same time, leave another
flag and another deadline. If the client now waits for the server it is cut off in the seventh
second, because the key exchange did not start. -/
theorem banner_and_packet_together :
    ∃ h₁ h₂ c₁ c₂, StreamRun (second 15) (Duration.fromSecs 5) h₁ c₁ ∧
      StreamRun (second 15) (Duration.fromSecs 5) h₂ c₂ ∧
      .authenticate ∉ h₁ ∧ .authenticate ∉ h₂ ∧
      chunks h₁ = [[83, 83, 72, 10, 20]] ∧ chunks h₂ = [[83, 83, 72, 10], [20]] ∧
      clientBytes h₁ = clientBytes h₂ ∧ bannerEnd h₁ = bannerEnd h₂ ∧
      afterFirst isNewline (clientBytes h₁) = [20] ∧ c₁.stream.kexStarted = false ∧
      ¬ Detected (clientBytes h₁) c₁.stream ∧ ¬ SameView c₁.stream c₂.stream ∧
      ∀ fired answer, c₁.pollRead (.at (second 7)) fired answer =
        some (.ready (.error PreauthTimedStream.kexStartTimeoutError), c₁) := by
  obtain ⟨c₂, hr₂, hstarted, -⟩ := run_banner_then_packet
  have hr₁ := run_waitingClient.read (second 2) [83, 83, 72, 10, 20] (by decide) rfl
  refine ⟨_, _, _, c₂, hr₁, hr₂, by simp, by simp, rfl, rfl, rfl, rfl, rfl, rfl, ?_, ?_, ?_⟩
  · intro hdetected
    have hkex := hdetected.kex.mpr (List.cons_ne_nil 20 [])
    cases hkex
  · intro hsame
    have hkex := hsame.kex
    rw [hstarted] at hkex
    cases hkex
  · intro fired answer
    exact pollWith_timeout rfl rfl

end Narrowd.Sshd
