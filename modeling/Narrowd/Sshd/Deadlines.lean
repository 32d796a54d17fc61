import Narrowd.Lib.Run
import Narrowd.Basic.AnyError
import Narrowd.Sshd.Preauth

set_option autoImplicit false

/-! # The deadlines of a connection before authentication

Every poll of a `PreauthTimedStream` first looks at the deadlines, then asks the socket, and where
that has nothing looks at the timer. The deadlines are absolute (`deadlines_absolute`): whatever
the client sends and however its bytes are cut into reads, the login deadline stays where it was
set and the key-exchange deadline stays where the first newline has put it.
-/

namespace Narrowd.Sshd

open Lib

variable {p : Platform}

/-! ## The polls -/

/-- `Poll<io::Result<α>>`. -/
inductive Poll (α : Type)
  | ready (result : Except IoError α)
  | pending

/-- The readings of the clock in the course of one poll. -/
structure Readings (p : Platform) where
  start : Instant p
  later : Instant p
  last : Instant p
  start_le : start ≤ later
  later_le : later ≤ last

namespace PreauthTimedStream

def loginGraceTimeoutError : IoError :=
  ⟨.timedOut, "login grace time exceeded before authentication completed"⟩

def kexStartTimeoutError : IoError :=
  ⟨.timedOut, "key exchange did not start before the configured timeout elapsed"⟩

def checkTimeout (s : PreauthTimedStream p) (authenticated : Bool) (now : Instant p) :
    Option IoError :=
  if authenticated then none
  else if s.loginGraceDeadline ≤ now then some loginGraceTimeoutError
  else
    match s.kexStartDeadline with
    | some deadline =>
        if !s.kexStarted && decide (deadline ≤ now) then some kexStartTimeoutError else none
    | none => none

/-- `fired` is the answer of the timer. -/
def pollDeadline (s : PreauthTimedStream p) (authenticated : Bool) (r : Readings p)
    (fired : Bool) : Poll Unit :=
  match s.checkTimeout authenticated r.later with
  | some err => .ready (.error err)
  | none =>
      if fired then
        .ready (.error ((s.checkTimeout authenticated r.last).getD loginGraceTimeoutError))
      else .pending

end PreauthTimedStream

/-- A stream with the flag it shares with the session, and how often its socket was polled. -/
structure PreauthConnection (p : Platform) where
  stream : PreauthTimedStream p
  authenticated : Bool
  innerPolls : Nat
  now : Instant p

namespace PreauthConnection

variable {α : Type}

def new (loginGraceDeadline : Instant p) (kexStartTimeout : Duration) (now : Instant p) :
    PreauthConnection p :=
  ⟨.new loginGraceDeadline kexStartTimeout, false, 0, now⟩

/-- The shape of the three polls. The socket would answer `answer`; `note` is what the stream does
with a value it has got, and `woken` what the poll returns if the timer had no error. `none` is
the panic of `note`. -/
def pollWith (c : PreauthConnection p) (r : Readings p) (fired : Bool) (answer : Poll α)
    (note : PreauthTimedStream p → α → Option (PreauthTimedStream p)) (woken : α) :
    Option (Poll α × PreauthConnection p) :=
  let polled : PreauthConnection p := { c with innerPolls := c.innerPolls + 1 }
  if c.authenticated then some (answer, polled)
  else
    match c.stream.checkTimeout c.authenticated r.start with
    | some err => some (.ready (.error err), c)
    | none =>
        match answer with
        | .ready (.ok a) => (note c.stream a).map fun stream =>
            (.ready (.ok a), { polled with stream := stream })
        | .ready (.error err) => some (.ready (.error err), polled)
        | .pending =>
            match c.stream.pollDeadline c.authenticated r fired with
            | .ready (.error err) => some (.ready (.error err), polled)
            | .ready (.ok ()) => some (.ready (.ok woken), polled)
            | .pending => some (.pending, polled)

/-- A read returns the bytes that the socket has put into the buffer. -/
def pollRead (c : PreauthConnection p) (r : Readings p) (fired : Bool)
    (answer : Poll (List UInt8)) : Option (Poll (List UInt8) × PreauthConnection p) :=
  c.pollWith r fired answer (fun s bytes => s.noteClientBytes c.authenticated bytes r.later) []

def pollWrite (c : PreauthConnection p) (r : Readings p) (fired : Bool) (answer : Poll Nat) :
    Option (Poll Nat × PreauthConnection p) :=
  c.pollWith r fired answer (fun s _ => some s) 0

def pollFlush (c : PreauthConnection p) (r : Readings p) (fired : Bool) (answer : Poll Unit) :
    Option (Poll Unit × PreauthConnection p) :=
  c.pollWith r fired answer (fun s _ => some s) ()

end PreauthConnection

/-! ## Runs -/

inductive StreamEvent (p : Platform)
  | read (r : Readings p) (result : Poll (List UInt8))
  | write (r : Readings p) (result : Poll Nat)
  | flush (r : Readings p) (result : Poll Unit)
  | authenticate

/-- The timer is ready only when the instant it is set to has come; how long after it, is up to
the runtime. -/
def TimerFires (c : PreauthConnection p) (r : Readings p) (fired : Bool) : Prop :=
  fired = true → c.stream.timer ≤ r.later

/-- **The steps of a stream**: polls, one after the other, with any answer of the socket, and the
flag being set between them. -/
inductive StreamStep : PreauthConnection p → StreamEvent p → PreauthConnection p → Prop
  | read {c c' : PreauthConnection p} {r : Readings p} {fired : Bool}
      {answer result : Poll (List UInt8)} (htime : c.now ≤ r.start) (htimer : TimerFires c r fired)
      (hpoll : c.pollRead r fired answer = some (result, c')) :
      StreamStep c (.read r result) { c' with now := r.last }
  | write {c c' : PreauthConnection p} {r : Readings p} {fired : Bool} {answer result : Poll Nat}
      (htime : c.now ≤ r.start) (htimer : TimerFires c r fired)
      (hpoll : c.pollWrite r fired answer = some (result, c')) :
      StreamStep c (.write r result) { c' with now := r.last }
  | flush {c c' : PreauthConnection p} {r : Readings p} {fired : Bool} {answer result : Poll Unit}
      (htime : c.now ≤ r.start) (htimer : TimerFires c r fired)
      (hpoll : c.pollFlush r fired answer = some (result, c')) :
      StreamStep c (.flush r result) { c' with now := r.last }
  | authenticate {c : PreauthConnection p} :
      StreamStep c .authenticate { c with authenticated := true }

/-- The runs of a stream with the given deadline and timeout. -/
abbrev StreamRun (grace : Instant p) (timeout : Duration) :
    List (StreamEvent p) → PreauthConnection p → Prop :=
  Run (fun c => ∃ now, c = .new grace timeout now) StreamStep

/-- When a poll has read a newline. -/
def newlineAt : StreamEvent p → Option (Instant p)
  | .read r (.ready (.ok bytes)) => if 10 ∈ bytes then some r.later else none
  | _ => none

/-- When the first newline was read. -/
def bannerEnd : List (StreamEvent p) → Option (Instant p)
  | [] => none
  | e :: h => (bannerEnd h).or (newlineAt e)

/-! ## What a poll does -/

theorem checkTimeout_kind {s : PreauthTimedStream p} {authenticated : Bool} {now : Instant p}
    {err : IoError} (h : s.checkTimeout authenticated now = some err) : err.kind = .timedOut := by
  unfold PreauthTimedStream.checkTimeout at h
  split at h
  · cases h
  · split at h
    · cases h
      rfl
    · split at h
      · split at h
        · cases h
          rfl
        · cases h
      · cases h

/-- The timer never says that all is well. -/
theorem pollDeadline_ne_ok (s : PreauthTimedStream p) (authenticated : Bool) (r : Readings p)
    (fired : Bool) : s.pollDeadline authenticated r fired ≠ .ready (.ok ()) := by
  unfold PreauthTimedStream.pollDeadline
  split
  · exact fun h => nomatch h
  · split
    · exact fun h => nomatch h
    · exact fun h => nomatch h

section

variable {α : Type} {c c' : PreauthConnection p} {r : Readings p} {fired : Bool}
  {answer result : Poll α} {note : PreauthTimedStream p → α → Option (PreauthTimedStream p)}
  {woken : α}

/-- After authentication a poll is a poll of the socket. -/
theorem pollWith_authenticated (hauth : c.authenticated = true) :
    c.pollWith r fired answer note woken =
      some (answer, { c with innerPolls := c.innerPolls + 1 }) := by
  unfold PreauthConnection.pollWith
  rw [if_pos hauth]

/-- Past a deadline a poll fails before it asks the socket. -/
theorem pollWith_timeout {err : IoError} (hauth : c.authenticated = false)
    (herr : c.stream.checkTimeout false r.start = some err) :
    c.pollWith r fired answer note woken = some (.ready (.error err), c) := by
  unfold PreauthConnection.pollWith
  simp only [hauth, Bool.false_eq_true, if_false, herr]

/-- **What a poll leaves**: the stream as it was, unless a value was read that it has noted. -/
theorem pollWith_cases (h : c.pollWith r fired answer note woken = some (result, c')) :
    c'.authenticated = c.authenticated ∧ c'.now = c.now ∧
      ((c'.stream = c.stream ∧ (c.authenticated = true ∨ ∀ a, result ≠ .ready (.ok a))) ∨
        ∃ a, c.authenticated = false ∧ result = .ready (.ok a) ∧
          note c.stream a = some c'.stream) := by
  unfold PreauthConnection.pollWith at h
  split at h
  · next hauth =>
      cases h
      exact ⟨rfl, rfl, Or.inl ⟨rfl, Or.inl hauth⟩⟩
  · next hauth =>
      have hopen : c.authenticated = false := Bool.eq_false_iff.mpr hauth
      split at h
      · cases h
        exact ⟨rfl, rfl, Or.inl ⟨rfl, Or.inr fun a h => nomatch h⟩⟩
      · cases answer with
        | ready answered =>
            cases answered with
            | ok a =>
                obtain ⟨stream, hnote, heq⟩ := Option.map_eq_some_iff.mp h
                cases heq
                exact ⟨rfl, rfl, Or.inr ⟨a, hopen, rfl, hnote⟩⟩
            | error err =>
                cases h
                exact ⟨rfl, rfl, Or.inl ⟨rfl, Or.inr fun a h => nomatch h⟩⟩
        | pending =>
            simp only at h
            split at h
            · cases h
              exact ⟨rfl, rfl, Or.inl ⟨rfl, Or.inr fun a h => nomatch h⟩⟩
            · next hok => exact absurd hok (pollDeadline_ne_ok _ _ _ _)
            · cases h
              exact ⟨rfl, rfl, Or.inl ⟨rfl, Or.inr fun a h => nomatch h⟩⟩

end

variable {c c' : PreauthConnection p} {e : StreamEvent p}

/-- **What a step does to the stream**: nothing, or it notes the bytes of a read. -/
theorem StreamStep.stream_cases (hs : StreamStep c e c') :
    (c'.stream = c.stream ∧ (c.authenticated = true ∨ newlineAt e = none)) ∨
      ∃ r bytes, c.authenticated = false ∧ e = .read r (.ready (.ok bytes)) ∧
        c.stream.noteClientBytes false bytes r.later = some c'.stream := by
  cases hs with
  | @read c' r fired answer result _ _ hpoll =>
      obtain ⟨-, -, ⟨hsame, hquiet⟩ | ⟨bytes, hopen, rfl, hnote⟩⟩ := pollWith_cases hpoll
      · refine Or.inl ⟨hsame, hquiet.imp_right fun hnone => ?_⟩
        rcases result with (_ | bytes) | _
        · rfl
        · exact absurd rfl (hnone bytes)
        · rfl
      · rw [hopen] at hnote
        exact Or.inr ⟨r, bytes, hopen, rfl, hnote⟩
  | write _ _ hpoll =>
      obtain ⟨-, -, ⟨hsame, -⟩ | ⟨n, -, -, hnote⟩⟩ := pollWith_cases hpoll
      · exact Or.inl ⟨hsame, Or.inr rfl⟩
      · exact Or.inl ⟨(Option.some.inj hnote).symm, Or.inr rfl⟩
  | flush _ _ hpoll =>
      obtain ⟨-, -, ⟨hsame, -⟩ | ⟨n, -, -, hnote⟩⟩ := pollWith_cases hpoll
      · exact Or.inl ⟨hsame, Or.inr rfl⟩
      · exact Or.inl ⟨(Option.some.inj hnote).symm, Or.inr rfl⟩
  | authenticate => exact Or.inl ⟨rfl, Or.inr rfl⟩

theorem StreamStep.authenticated (hs : StreamStep c e c') :
    c'.authenticated = true ↔ e = .authenticate ∨ c.authenticated = true := by
  cases hs with
  | read _ _ hpoll =>
      rw [show c.authenticated = _ from (pollWith_cases hpoll).1.symm]
      simp
  | write _ _ hpoll =>
      rw [show c.authenticated = _ from (pollWith_cases hpoll).1.symm]
      simp
  | flush _ _ hpoll =>
      rw [show c.authenticated = _ from (pollWith_cases hpoll).1.symm]
      simp
  | authenticate => simp

/-! ## The invariant -/

/-- **Where the deadlines are.** The key-exchange deadline is there from the end of the banner to
the start of the key exchange, and always at the same distance from the first newline. -/
structure DeadlineInv (grace : Instant p) (timeout : Duration) (h : List (StreamEvent p))
    (c : PreauthConnection p) : Prop where
  flag : c.authenticated = true ↔ .authenticate ∈ h
  login : c.stream.loginGraceDeadline = grace
  kexTimeout : c.stream.kexStartTimeout = timeout
  timer : c.stream.timer = c.stream.currentDeadline
  incomplete : c.stream.clientBannerComplete = false →
    c.stream.kexStartDeadline = none ∧ c.stream.kexStarted = false
  unread : c.authenticated = false → c.stream.clientBannerComplete = false → bannerEnd h = none
  started : c.stream.kexStarted = true → c.stream.kexStartDeadline = none
  running : c.stream.clientBannerComplete = true → c.stream.kexStarted = false →
    ∃ t deadline, bannerEnd h = some t ∧ t.checkedAdd timeout = some deadline ∧
      c.stream.kexStartDeadline = some deadline
  ended : c.stream.clientBannerComplete = true → (bannerEnd h).isSome

theorem deadlineInv_new (grace : Instant p) (timeout : Duration) (now : Instant p) :
    DeadlineInv grace timeout [] (.new grace timeout now) where
  flag := by simp [PreauthConnection.new]
  login := rfl
  kexTimeout := rfl
  timer := rfl
  incomplete _ := ⟨rfl, rfl⟩
  unread _ _ := rfl
  started h := nomatch h
  running h := nomatch h
  ended h := nomatch h

variable {h : List (StreamEvent p)}

/-- A newline that comes later does not count. -/
theorem bannerEnd_cons_of_some {t : Instant p} (ht : bannerEnd h = some t) (e : StreamEvent p) :
    bannerEnd (e :: h) = some t := by
  rw [bannerEnd, ht]
  rfl

variable {grace : Instant p} {timeout : Duration}

/-- A step that leaves the stream alone. -/
theorem DeadlineInv.keep (hi : DeadlineInv grace timeout h c) (hs : StreamStep c e c')
    (hsame : c'.stream = c.stream)
    (hquiet : c.authenticated = true ∨ c.stream.clientBannerComplete = true ∨ newlineAt e = none) :
    DeadlineInv grace timeout (e :: h) c' where
  flag := by
    rw [hs.authenticated, List.mem_cons, hi.flag, eq_comm]
  login := hsame ▸ hi.login
  kexTimeout := hsame ▸ hi.kexTimeout
  timer := hsame ▸ hi.timer
  incomplete := hsame ▸ hi.incomplete
  unread hopen hinc := by
    have hopen' : c.authenticated = false := by
      by_contra hauth
      rw [hs.authenticated.mpr (Or.inr (by simpa using hauth))] at hopen
      cases hopen
    rw [hsame] at hinc
    have hnone : newlineAt e = none := by
      rcases hquiet with hauth | hcomplete | hnone
      · rw [hopen'] at hauth
        cases hauth
      · rw [hinc] at hcomplete
        cases hcomplete
      · exact hnone
    rw [bannerEnd, hi.unread hopen' hinc, hnone]
    rfl
  started := hsame ▸ hi.started
  running hcomplete hstart := by
    rw [hsame] at hcomplete hstart ⊢
    obtain ⟨t, deadline, ht, hd, hk⟩ := hi.running hcomplete hstart
    exact ⟨t, deadline, bannerEnd_cons_of_some ht e, hd, hk⟩
  ended hcomplete := by
    rw [hsame] at hcomplete
    obtain ⟨t, ht⟩ := Option.isSome_iff_exists.mp (hi.ended hcomplete)
    rw [bannerEnd_cons_of_some ht]
    rfl

theorem DeadlineInv.step (hi : DeadlineInv grace timeout h c) (hs : StreamStep c e c') :
    DeadlineInv grace timeout (e :: h) c' := by
  rcases hs.stream_cases with ⟨hsame, hquiet⟩ | ⟨r, bytes, hopen, rfl, hnote⟩
  · exact hi.keep hs hsame (hquiet.imp_right Or.inr)
  have hflag : c'.authenticated = true ↔
      .authenticate ∈ StreamEvent.read r (.ready (.ok bytes)) :: h := by
    rw [hs.authenticated, List.mem_cons, hi.flag, eq_comm]
  rcases PreauthTimedStream.noteClientBytes_cases hnote with
    ⟨hsame, hskip⟩ | ⟨hinc, hno, n, heq⟩ | ⟨-, hinc, hnl, n, deadline, hd, heq⟩ |
    ⟨hcomplete, hstart, heq⟩
  · refine hi.keep hs hsame (Or.inr ?_)
    rcases hskip with hauth | hcomplete | rfl
    · cases hauth
    · exact Or.inl hcomplete
    · exact Or.inr rfl
  · -- the banner goes on
    obtain ⟨hnone, hfalse⟩ := hi.incomplete hinc
    have hbefore := hi.unread hopen hinc
    refine ⟨hflag, ?_, ?_, ?_, ?_, ?_, ?_, ?_, ?_⟩ <;> rw [heq]
    · exact hi.login
    · exact hi.kexTimeout
    · exact hi.timer
    · exact fun _ => ⟨hnone, hfalse⟩
    · intro _ _
      simp [bannerEnd, hbefore, newlineAt, hno]
    · intro hstarted
      cases hfalse.symm.trans hstarted
    · intro hcomplete
      cases hinc.symm.trans hcomplete
    · intro hcomplete
      cases hinc.symm.trans hcomplete
  · -- the banner ends here
    obtain ⟨-, hfalse⟩ := hi.incomplete hinc
    have hend : bannerEnd (StreamEvent.read r (.ready (.ok bytes)) :: h) = some r.later := by
      simp [bannerEnd, hi.unread hopen hinc, newlineAt, hnl]
    rw [hi.kexTimeout] at hd
    refine ⟨hflag, ?_, ?_, ?_, ?_, ?_, ?_, ?_, ?_⟩ <;> rw [heq]
    · exact hi.login
    · exact hi.kexTimeout
    · rfl
    · exact fun hc => nomatch hc
    · exact fun _ hc => nomatch hc
    · intro hstarted
      cases hfalse.symm.trans hstarted
    · exact fun _ _ => ⟨r.later, deadline, hend, hd, rfl⟩
    · exact fun _ => by rw [hend]; rfl
  · -- the key exchange starts
    obtain ⟨t, ht⟩ := Option.isSome_iff_exists.mp (hi.ended hcomplete)
    refine ⟨hflag, ?_, ?_, ?_, ?_, ?_, ?_, ?_, ?_⟩ <;> rw [heq]
    · exact hi.login
    · exact hi.kexTimeout
    · rfl
    · intro hinc
      cases hcomplete.symm.trans hinc
    · intro _ hinc
      cases hcomplete.symm.trans hinc
    · exact fun _ => rfl
    · exact fun _ hs => nomatch hs
    · exact fun _ => by rw [bannerEnd_cons_of_some ht]; rfl

theorem deadlineInv_of_run (hr : StreamRun grace timeout h c) : DeadlineInv grace timeout h c := by
  refine Run.invariant (P := DeadlineInv grace timeout) ?_ ?_ hr
  · rintro c ⟨now, rfl⟩
    exact deadlineInv_new grace timeout now
  · intro h c e c' _ hi hs
    exact hi.step hs

/-! ## The deadlines are absolute -/

/-- The deadlines that have passed at `now`: that of the login, or that of a key exchange that has
not started since the first newline. -/
def PastDeadline (grace : Instant p) (timeout : Duration) (h : List (StreamEvent p))
    (c : PreauthConnection p) (now : Instant p) : Prop :=
  grace ≤ now ∨
    (c.stream.kexStarted = false ∧ ∃ t, bannerEnd h = some t ∧ t.ns + timeout ≤ now.ns)

theorem DeadlineInv.checkTimeout (hi : DeadlineInv grace timeout h c)
    (hopen : c.authenticated = false) {now : Instant p}
    (hpast : PastDeadline grace timeout h c now) :
    ∃ err, c.stream.checkTimeout false now = some err := by
  unfold PreauthTimedStream.checkTimeout
  rw [if_neg Bool.false_ne_true, hi.login]
  by_cases hgrace : grace ≤ now
  · rw [if_pos hgrace]
    exact ⟨_, rfl⟩
  rw [if_neg hgrace]
  obtain ⟨hstart, t, ht, hle⟩ := hpast.resolve_left hgrace
  have hcomplete : c.stream.clientBannerComplete = true := by
    by_contra hinc
    rw [hi.unread hopen (Bool.eq_false_iff.mpr hinc)] at ht
    cases ht
  obtain ⟨t', deadline, ht', hd, hk⟩ := hi.running hcomplete hstart
  obtain rfl : t = t' := Option.some.inj (ht.symm.trans ht')
  have hdue : deadline ≤ now := by
    rw [Instant.le_iff, Instant.checkedAdd_eq_some.mp hd]
    exact hle
  refine ⟨PreauthTimedStream.kexStartTimeoutError, ?_⟩
  simp [hk, hstart, hdue]

theorem currentDeadline_le (s : PreauthTimedStream p) :
    s.currentDeadline ≤ s.loginGraceDeadline := by
  unfold PreauthTimedStream.currentDeadline
  split
  · split
    · exact min_le_right _ _
    · exact le_refl _
  · exact le_refl _

/-- Once it is set the key-exchange deadline stays, or the key exchange has started and there is
none any more. -/
theorem StreamStep.kexStartDeadline (hs : StreamStep c e c')
    (hset : c.stream.clientBannerComplete = true) :
    c'.stream.kexStartDeadline = c.stream.kexStartDeadline ∨
      (c'.stream.kexStarted = true ∧ c'.stream.kexStartDeadline = none) := by
  rcases hs.stream_cases with ⟨hsame, -⟩ | ⟨r, bytes, -, -, hnote⟩
  · exact Or.inl (by rw [hsame])
  rcases PreauthTimedStream.noteClientBytes_cases hnote with
    ⟨hsame, -⟩ | ⟨hinc, -⟩ | ⟨-, hinc, -⟩ | ⟨-, -, heq⟩
  · exact Or.inl (by rw [hsame])
  · cases hinc.symm.trans hset
  · cases hinc.symm.trans hset
  · rw [heq]
    exact Or.inr ⟨rfl, rfl⟩

/-- **The deadlines before authentication are absolute.** In every state a stream gets into by
polls and by the flag being set:
a poll past a deadline fails with a timeout, without asking the socket;
the login deadline is the one it was made with, and the key-exchange deadline is `timeout` after the
first newline, from there on until the key exchange starts;
the timer is set to the current deadline, which is not after the login deadline;
and once the flag is set, a poll returns what the socket answers. -/
theorem deadlines_absolute {grace : Instant p} {timeout : Duration} {h : List (StreamEvent p)}
    {c : PreauthConnection p} (hr : StreamRun grace timeout h c) :
    (c.authenticated = true ↔ .authenticate ∈ h) ∧
    (c.authenticated = false → ∀ r fired, PastDeadline grace timeout h c r.start →
      ∃ err, err.kind = .timedOut ∧
        (∀ answer, c.pollRead r fired answer = some (.ready (.error err), c)) ∧
        (∀ answer, c.pollWrite r fired answer = some (.ready (.error err), c)) ∧
        (∀ answer, c.pollFlush r fired answer = some (.ready (.error err), c))) ∧
    c.stream.loginGraceDeadline = grace ∧
    (∀ deadline, c.stream.kexStartDeadline = some deadline →
      ∃ t, bannerEnd h = some t ∧ deadline.ns = t.ns + timeout) ∧
    (∀ e c', StreamStep c e c' → c.stream.clientBannerComplete = true →
      c'.stream.kexStartDeadline = c.stream.kexStartDeadline ∨
        (c'.stream.kexStarted = true ∧ c'.stream.kexStartDeadline = none)) ∧
    (c.authenticated = false → c.stream.timer = c.stream.currentDeadline ∧
      c.stream.currentDeadline ≤ grace) ∧
    (c.authenticated = true → ∀ r fired,
      (∀ answer, c.pollRead r fired answer =
        some (answer, { c with innerPolls := c.innerPolls + 1 })) ∧
      (∀ answer, c.pollWrite r fired answer =
        some (answer, { c with innerPolls := c.innerPolls + 1 })) ∧
      (∀ answer, c.pollFlush r fired answer =
        some (answer, { c with innerPolls := c.innerPolls + 1 }))) := by
  have hi := deadlineInv_of_run hr
  refine ⟨hi.flag, ?_, hi.login, ?_, ?_, ?_, ?_⟩
  · intro hopen r fired hpast
    obtain ⟨err, herr⟩ := hi.checkTimeout hopen hpast
    exact ⟨err, checkTimeout_kind herr, fun _ => pollWith_timeout hopen herr,
      fun _ => pollWith_timeout hopen herr, fun _ => pollWith_timeout hopen herr⟩
  · intro deadline hset
    have hcomplete : c.stream.clientBannerComplete = true := by
      by_contra hinc
      rw [(hi.incomplete (Bool.eq_false_iff.mpr hinc)).1] at hset
      cases hset
    have hstart : c.stream.kexStarted = false := by
      by_contra hstarted
      rw [hi.started (by simpa using hstarted)] at hset
      cases hset
    obtain ⟨t, deadline', ht, hd, hk⟩ := hi.running hcomplete hstart
    obtain rfl : deadline = deadline' := Option.some.inj (hset.symm.trans hk)
    exact ⟨t, ht, Instant.checkedAdd_eq_some.mp hd⟩
  · intro e c' hs hset
    exact hs.kexStartDeadline hset
  · intro _
    refine ⟨hi.timer, ?_⟩
    calc c.stream.currentDeadline ≤ c.stream.loginGraceDeadline := currentDeadline_le _
      _ = grace := hi.login
  · intro hauth r fired
    exact ⟨fun _ => pollWith_authenticated hauth, fun _ => pollWith_authenticated hauth,
      fun _ => pollWith_authenticated hauth⟩

/-! ## A client that stops after its banner -/

/-- Seconds after the epoch of the clock. -/
def second (n : Fin 60) : Instant .linux where
  ns := n * 1000000000
  min_le := by
    show -(2 ^ 63 * 1000000000 : Int) ≤ _
    omega
  le_max := by
    show _ ≤ ((2 ^ 63 - 1) * 1000000000 + 999999999 : Int)
    omega

/-- A poll within one instant. -/
def Readings.at (t : Instant p) : Readings p := ⟨t, t, t, le_refl t, le_refl t⟩

/-- Fifteen seconds to log in and five to start the key exchange: a client that sends its banner
in the second second and nothing more is past the second deadline in the seventh, and no answer
of the socket helps it. -/
theorem banner_only_times_out :
    ∃ h c, StreamRun (second 15) (Duration.fromSecs 5) h c ∧ c.authenticated = false ∧
      c.stream.timer = second 7 ∧
      ∀ fired, ∃ err, err.kind = .timedOut ∧ ∀ answer,
        c.pollRead (.at (second 7)) fired answer = some (.ready (.error err), c) := by
  have hnew : StreamRun (second 15) (Duration.fromSecs 5) [] (.new (second 15) _ (second 0)) :=
    .nil ⟨second 0, rfl⟩
  have hpoll : (PreauthConnection.new (second 15) (Duration.fromSecs 5) (second 0)).pollRead
      (.at (second 2)) false (.ready (.ok [83, 83, 72, 10])) =
        some (.ready (.ok [83, 83, 72, 10]), ⟨⟨second 15, Duration.fromSecs 5, some (second 7),
          false, true, 4, second 7⟩, false, 1, second 0⟩) := rfl
  have htime : (PreauthConnection.new (second 15) (Duration.fromSecs 5) (second 0)).now ≤
      (Readings.at (second 2)).start := by decide
  have htimer : TimerFires (PreauthConnection.new (second 15) (Duration.fromSecs 5) (second 0))
      (.at (second 2)) false := fun h => nomatch h
  have hbanner := hnew.cons (.read htime htimer hpoll)
  obtain ⟨-, htimeout, -⟩ := deadlines_absolute hbanner
  refine ⟨_, _, hbanner, rfl, rfl, fun fired => ?_⟩
  have hdue : (second 2).ns + Duration.fromSecs 5 ≤ (second 7).ns := by decide
  obtain ⟨err, hkind, hread, -⟩ :=
    htimeout rfl (.at (second 7)) fired (Or.inr ⟨rfl, second 2, rfl, hdue⟩)
  exact ⟨err, hkind, hread⟩

end Narrowd.Sshd
