import Narrowd.Lib.Run
import Narrowd.Admission.Spec

set_option autoImplicit false

/-! # Runs of the admission state

The runs of the operations of `AdmissionState` themselves, for any peers and in any order. An
event is a call with its answer; a step is a call that did not panic. A run keeps its events
newest first, so the calls before a call are the rest of the list.
-/

namespace Narrowd.Admission

open Narrowd.Lib

variable {p : Platform}

/-- A call of an operation, with what it returned. -/
inductive Event (p : Platform)
  | tryAcquire (peerIp : IpAddr) (subnet : SubnetKey) (now : Instant p)
      (result : Except RejectReason Unit)
  | recordAuthFailure (peerIp : IpAddr) (now : Instant p) (banned : Bool)
  | release (peerIp : IpAddr) (subnet : SubnetKey) (now : Instant p)

namespace Event

def time : Event p → Instant p
  | tryAcquire _ _ now _ => now
  | recordAuthFailure _ now _ => now
  | release _ _ now => now

/-- The address a call is for. -/
def peerIp : Event p → IpAddr
  | tryAcquire ip _ _ _ => ip
  | recordAuthFailure ip _ _ => ip
  | release ip _ _ => ip

end Event

/-- The calls of the admission state. -/
def OpStep (s : AdmissionState p) (e : Event p) (s' : AdmissionState p) : Prop :=
  match e with
  | .tryAcquire ip subnet now r => s.tryAcquire ip subnet now = some (r, s')
  | .recordAuthFailure ip now banned => s.recordAuthFailure ip now = some (banned, s')
  | .release ip subnet now => s.release ip subnet now = some s'

/-- A fresh admission state, made at any time. -/
def IsNew (config : AdmissionConfig) (s : AdmissionState p) : Prop :=
  ∃ now, s = .new config now

/-- `OpRun config h s`: the calls `h` take a fresh admission state to `s`. -/
def OpRun (config : AdmissionConfig) : List (Event p) → AdmissionState p → Prop :=
  Run (IsNew config) OpStep

/-- `now` is not before any call of the history. -/
def NotBefore (h : List (Event p)) (now : Instant p) : Prop := ∀ e ∈ h, e.time ≤ now

variable {e : Event p} {h : List (Event p)}

theorem NotBefore.tail {now : Instant p} (hn : NotBefore (e :: h) now) : NotBefore h now :=
  fun e' he' => hn e' (List.mem_cons_of_mem _ he')

theorem Ordered.notBefore (ho : Ordered Event.time (e :: h)) :
    NotBefore h e.time := fun _ he' => ho.le_head he'

/-! ## What a step leaves in the entry of one address -/

/-- The entry of `ip` after the cleanups of a call at `now`. -/
def AdmissionState.cleanedOwn (s : AdmissionState p) (now : Instant p) (ip : IpAddr) :
    Option (PeerState p) :=
  (s.perPeer.lookup ip).bind fun peer => peer.cleaned now s.config.authFailureBanWindow

theorem AdmissionState.cleanedPeer_own (s : AdmissionState p) (now : Instant p) (ip : IpAddr) :
    s.cleanedPeer ip now ip = s.cleanedOwn now ip := if_pos rfl

/-- `x` is the entry of `ip` as a call at `now` finds it: as it was, or cleaned up. -/
def AdmissionState.FoundPeer (s : AdmissionState p) (now : Instant p) (ip : IpAddr)
    (x : Option (PeerState p)) : Prop :=
  x = s.perPeer.lookup ip ∨ x = s.cleanedOwn now ip

theorem AdmissionState.foundPeer_swept (s : AdmissionState p) (now : Instant p) (ip : IpAddr) :
    s.FoundPeer now ip (s.sweptPeer now ip) := by
  rw [AdmissionState.sweptPeer]
  split
  · exact Or.inr rfl
  · exact Or.inl rfl

theorem AdmissionState.foundPeer_cleaned (s : AdmissionState p) (own : IpAddr) (now : Instant p)
    (ip : IpAddr) : s.FoundPeer now ip (s.cleanedPeer own now ip) := by
  by_cases h : ip = own
  · subst h
    exact Or.inr (s.cleanedPeer_own now ip)
  · rw [AdmissionState.cleanedPeer, if_neg h]
    exact s.foundPeer_swept now ip

theorem OpStep.config {s s' : AdmissionState p} (hs : OpStep s e s') : s'.config = s.config := by
  cases e with
  | tryAcquire ip subnet now r => exact AdmissionState.tryAcquire_config hs
  | recordAuthFailure ip now banned => exact AdmissionState.recordAuthFailure_config hs
  | release ip subnet now => exact (AdmissionState.release_spec hs).1

theorem OpRun.config {config : AdmissionConfig} {s : AdmissionState p} (hr : OpRun config h s) :
    s.config = config := by
  refine hr.invariant (P := fun _ s => s.config = config) ?_ ?_
  · rintro s ⟨now, rfl⟩
    rfl
  · intro h s e s' _ hi hs
    exact hs.config.trans hi

end Narrowd.Admission
