import Narrowd.Config.AppConfig

set_option autoImplicit false

/-! # The timed stream of a connection before authentication

`PreauthTimedStream` watches the bytes of a client that has not authenticated yet. The login
deadline is fixed when the connection is accepted; the end of the client's banner line, its first
newline, starts a second deadline for the key exchange, which the next byte ends.
-/

namespace Narrowd.Sshd

open Narrowd Narrowd.Config

variable {p : Platform}

/-- The deadlines of the stream, and the instant its timer is set to. -/
structure PreauthTimedStream (p : Platform) where
  loginGraceDeadline : Instant p
  kexStartTimeout : Duration
  kexStartDeadline : Option (Instant p)
  kexStarted : Bool
  clientBannerComplete : Bool
  clientBannerLen : Nat
  timer : Instant p

namespace PreauthTimedStream

def new (loginGraceDeadline : Instant p) (kexStartTimeout : Duration) : PreauthTimedStream p :=
  { loginGraceDeadline := loginGraceDeadline
    kexStartTimeout := kexStartTimeout
    kexStartDeadline := none
    kexStarted := false
    clientBannerComplete := false
    clientBannerLen := 0
    timer := loginGraceDeadline }

def currentDeadline (s : PreauthTimedStream p) : Instant p :=
  match s.kexStartDeadline with
  | some deadline =>
      if !s.kexStarted then min deadline s.loginGraceDeadline else s.loginGraceDeadline
  | none => s.loginGraceDeadline

def resetTimer (s : PreauthTimedStream p) : PreauthTimedStream p :=
  { s with timer := s.currentDeadline }

/-- The bytes of the banner, up to its newline. `none` is the panic of `now + timeout`. -/
def noteBanner (s : PreauthTimedStream p) (now : Instant p) :
    List UInt8 → Option (PreauthTimedStream p)
  | [] => some s
  | byte :: rest =>
      let s := { s with clientBannerLen := min (s.clientBannerLen + 1) u64Max }
      if byte = 10 then
        match now.checkedAdd s.kexStartTimeout with
        | none => none
        | some deadline =>
            some ({ s with
              clientBannerComplete := true
              kexStartDeadline := some deadline } : PreauthTimedStream p).resetTimer
      else noteBanner s now rest

def noteClientBytes (s : PreauthTimedStream p) (authenticated : Bool) (bytes : List UInt8)
    (now : Instant p) : Option (PreauthTimedStream p) :=
  if authenticated || bytes.isEmpty then some s
  else if !s.clientBannerComplete then s.noteBanner now bytes
  else if !s.kexStarted then
    some ({ s with kexStarted := true, kexStartDeadline := none } : PreauthTimedStream p).resetTimer
  else some s

end PreauthTimedStream

/-- `serve_connection` up to the stream: the login deadline of a connection accepted at
`acceptedAt`. `none` is the panic of `accepted_at + login_grace_time`. -/
def acceptConnection (config : AppConfig) (acceptedAt : Instant p) :
    Option (PreauthTimedStream p) := do
  let loginDeadline ← acceptedAt.checkedAdd config.loginGraceTime
  return PreauthTimedStream.new loginDeadline config.kexStartTimeout

/-! ## What the bytes of a client do -/

variable {s s' : PreauthTimedStream p} {now : Instant p} {bytes : List UInt8}

namespace PreauthTimedStream

/-- **The banner ends at its first newline**, which starts the deadline of the key exchange. Up to
it only the length counts. -/
theorem noteBanner_cases (h : s.noteBanner now bytes = some s') :
    (10 ∉ bytes ∧ ∃ n, s' = { s with clientBannerLen := n }) ∨
      (10 ∈ bytes ∧ ∃ n deadline, now.checkedAdd s.kexStartTimeout = some deadline ∧
        s' = ({ s with
          clientBannerLen := n
          clientBannerComplete := true
          kexStartDeadline := some deadline } : PreauthTimedStream p).resetTimer) := by
  induction bytes generalizing s with
  | nil =>
      cases h
      exact Or.inl ⟨by simp, _, rfl⟩
  | cons byte rest ih =>
      unfold noteBanner at h
      simp only at h
      by_cases hnl : byte = 10
      · rw [if_pos hnl] at h
        split at h
        · cases h
        · next deadline hdeadline =>
            cases h
            exact Or.inr ⟨by simp [hnl], _, deadline, hdeadline, rfl⟩
      · rw [if_neg hnl] at h
        have hmem : 10 ∈ byte :: rest ↔ 10 ∈ rest := by
          simp [Ne.symm hnl]
        rw [hmem]
        have hrest := ih h
        exact hrest

/-- **What noting bytes does**: nothing, or it counts the banner, ends it, or notes the start of
the key exchange, which ends its deadline. -/
theorem noteClientBytes_cases {authenticated : Bool}
    (h : s.noteClientBytes authenticated bytes now = some s') :
    (s' = s ∧ (authenticated = true ∨ s.clientBannerComplete = true ∨ bytes = [])) ∨
    (s.clientBannerComplete = false ∧ 10 ∉ bytes ∧ ∃ n, s' = { s with clientBannerLen := n }) ∨
    (authenticated = false ∧ s.clientBannerComplete = false ∧ 10 ∈ bytes ∧
      ∃ n deadline, now.checkedAdd s.kexStartTimeout = some deadline ∧
        s' = ({ s with
          clientBannerLen := n
          clientBannerComplete := true
          kexStartDeadline := some deadline } : PreauthTimedStream p).resetTimer) ∨
    (s.clientBannerComplete = true ∧ s.kexStarted = false ∧
      s' = ({ s with kexStarted := true, kexStartDeadline := none } :
        PreauthTimedStream p).resetTimer) := by
  unfold noteClientBytes at h
  split at h
  · next hskip =>
      cases h
      rcases Bool.or_eq_true_iff.mp hskip with hauth | hempty
      · exact Or.inl ⟨rfl, Or.inl hauth⟩
      · exact Or.inl ⟨rfl, Or.inr (Or.inr (List.isEmpty_iff.mp hempty))⟩
  · next hgo =>
      have hauth : authenticated = false := by
        cases authenticated with
        | false => rfl
        | true => exact absurd rfl hgo
      split at h
      · next hopen =>
          have hincomplete : s.clientBannerComplete = false := by simpa using hopen
          rcases noteBanner_cases h with ⟨hno, hlen⟩ | ⟨hnl, hend⟩
          · exact Or.inr (Or.inl ⟨hincomplete, hno, hlen⟩)
          · exact Or.inr (Or.inr (Or.inl ⟨hauth, hincomplete, hnl, hend⟩))
      · next hcomplete =>
          have hcomplete' : s.clientBannerComplete = true := by simpa using hcomplete
          split at h
          · next hstart =>
              cases h
              exact Or.inr (Or.inr (Or.inr ⟨hcomplete', by simpa using hstart, rfl⟩))
          · cases h
            exact Or.inl ⟨rfl, Or.inr (Or.inl hcomplete')⟩

theorem noteClientBytes_kexStartTimeout {authenticated : Bool}
    (h : s.noteClientBytes authenticated bytes now = some s') :
    s'.kexStartTimeout = s.kexStartTimeout := by
  rcases noteClientBytes_cases h with ⟨rfl, -⟩ | ⟨-, -, n, rfl⟩ | ⟨-, -, -, n, d, -, rfl⟩ |
    ⟨-, -, rfl⟩ <;> rfl

/-- Noting bytes panics only where the key-exchange deadline is after the end of the clock. -/
theorem noteBanner_isSome (h : now.ns + s.kexStartTimeout ≤ p.instantMax) (bytes : List UInt8) :
    (s.noteBanner now bytes).isSome := by
  induction bytes generalizing s with
  | nil => rfl
  | cons byte rest ih =>
      unfold noteBanner
      simp only
      by_cases hnl : byte = 10
      · rw [if_pos hnl]
        obtain ⟨deadline, hdeadline⟩ := Option.isSome_iff_exists.mp
          (Instant.checkedAdd_isSome.mpr h)
        rw [hdeadline]
        rfl
      · rw [if_neg hnl]
        exact ih h

theorem noteClientBytes_isSome (h : now.ns + s.kexStartTimeout ≤ p.instantMax)
    (authenticated : Bool) (bytes : List UInt8) :
    (s.noteClientBytes authenticated bytes now).isSome := by
  unfold noteClientBytes
  split
  · rfl
  · split
    · exact noteBanner_isSome h bytes
    · split <;> rfl

end PreauthTimedStream

end Narrowd.Sshd
