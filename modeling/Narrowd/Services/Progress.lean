import Narrowd.Services.Conservation

set_option autoImplicit false

/-! # Everything arrives

`Relay.weight` bounds the work that is left: every step lowers it, and as long as the channel has
not been closed and the child's exit is known there is a step to take. A byte that has not been
read weighs as much as the frame that it may become.
-/

namespace Narrowd.Services

open Lib Executor Executor.Json

/-! ## The work that is left -/

def Reader.weight (r : Reader) : Nat := 61 * r.unread.length + r.running.toNat

def readersWeight (reader : ProcessStream → Reader) : Nat :=
  (reader .stdout).weight + (reader .stderr).weight

/-- A message in the queue is to be taken, sent and read. -/
def messageWeight (m : ProcessOutput) : Nat := 2 * (frame (processOutput.toBytes m)).length + 2

def queueWeight (queue : List ProcessOutput) : Nat := (queue.map messageWeight).sum

def Phase.weight : Phase → Nat
  | .selecting => 100
  | .sending _ => 101
  | .exiting _ => 3
  | .shutting => 2
  | .ended => 1

def BridgePhase.weight : BridgePhase → Nat
  | .reading => 4
  | .closing todo => todo.length
  | .failed _ => 0

def Relay.weight (s : Relay) : Nat :=
  readersWeight s.reader + queueWeight s.queue + 2 * s.left.length + s.wire.length +
    (!s.outputClosed).toNat + s.childExit.isNone.toNat + s.exit.isNone.toNat + s.phase.weight +
    s.bridge.phase.weight

theorem weight_start (reader : ProcessStream → Reader) :
    (Relay.start reader).weight = readersWeight reader + 107 := by
  simp [Relay.weight, Relay.start, queueWeight, Phase.weight, BridgePhase.weight]

theorem readersWeight_update (reader : ProcessStream → Reader) (which : ProcessStream)
    (r : Reader) :
    readersWeight (Function.update reader which r) + (reader which).weight =
      readersWeight reader + r.weight := by
  unfold readersWeight
  cases which with
  | stdout =>
      rw [Function.update_self, Function.update_of_ne (by decide)]
      omega
  | stderr =>
      rw [Function.update_self, Function.update_of_ne (by decide)]
      omega

theorem queueWeight_append_singleton (queue : List ProcessOutput) (m : ProcessOutput) :
    queueWeight (queue ++ [m]) = queueWeight queue + messageWeight m := by
  simp [queueWeight]

/-- A chunk weighs less in the queue than unread. -/
theorem messageWeight_le (which : ProcessStream) {chunk : List UInt8} (hchunk : 0 < chunk.length) :
    messageWeight (which.message chunk) ≤ 60 * chunk.length := by
  have hlength := length_processOutput_le (which.message chunk)
  rw [payload_message] at hlength
  rw [messageWeight, length_frame]
  omega

section

variable {json : SerdeJson ProcessOutput} {total : ProcessStream → List UInt8}
  {transit : List ProcessOutput} {s s' : Relay} {e : RelayEvent}

/-- **Every step lowers the weight** while writes succeed. -/
theorem RelayInv.weight_lt (hjson : json.Writes processOutput) (hi : RelayInv total transit s)
    (hs : RelayStep json s e s') (he : e.Succeeds) : s'.weight < s.weight := by
  cases hs with
  | @read which n hrun hpos hbuffer hn hphase =>
      have hreaders := readersWeight_update s.reader which
        ⟨(s.reader which).unread.drop n, true⟩
      have htake : ((s.reader which).unread.take n).length = n := by
        rw [List.length_take]
        omega
      have hmessage : messageWeight (which.message ((s.reader which).unread.take n)) ≤ 60 * n := by
        have h := messageWeight_le which (Nat.lt_of_lt_of_eq hpos htake.symm)
        rwa [htake] at h
      simp only [Reader.weight, hrun, List.length_drop] at hreaders
      simp only [Relay.weight, queueWeight_append_singleton]
      omega
  | readLast hrun _ _ _ hphase =>
      have hloop := hi.looping_of_running hrun
      rw [hphase] at hloop
      cases hloop
  | @readEnd which hrun hend =>
      have hreaders := readersWeight_update s.reader which ⟨[], false⟩
      simp only [Reader.weight, hrun, hend, Bool.toNat_true, Bool.toNat_false] at hreaders
      simp only [Relay.weight]
      omega
  | @recv output rest hphase hopen hqueue =>
      have hmem : output ∈ s.queue := by rw [hqueue]; exact List.mem_cons_self
      have hsmall := hi.small output (List.mem_append_right _ hmem)
      have hleft := hi.written (by rw [hphase]; rfl)
      simp only [Relay.weight, beginSend_output hjson hsmall, hqueue, hphase, hleft, queueWeight,
        List.map_cons, List.sum_cons, messageWeight, Phase.weight, List.length_nil]
      omega
  | recvNone hphase hopen hqueue hreaders =>
      simp only [Relay.weight, hopen, Bool.not_true, Bool.not_false, Bool.toNat_true,
        Bool.toNat_false]
      omega
  | exited hphase hnone hexit =>
      simp only [Relay.weight, hnone, Option.isNone_none, Option.isNone_some, Bool.toNat_true,
        Bool.toNat_false]
      omega
  | leave hphase hclosed hsome =>
      obtain ⟨code, hcode⟩ := Option.isSome_iff_exists.mp hsome
      have hleft := hi.written (by rw [hphase]; rfl)
      have hlength := length_processOutput_le (.exitStatus code)
      have hpayload : (ProcessOutput.exitStatus code).payload.length = 0 := rfl
      have hsmall : (ProcessOutput.exitStatus code).payload.length ≤ 8192 := Nat.zero_le _
      simp only [Relay.weight, Relay.leaveLoop, hcode, beginSend_output hjson hsmall, hphase, hleft,
        Phase.weight, length_frame, List.length_nil]
      omega
  | write hpos hn =>
      simp only [Relay.weight, List.length_drop, List.length_append, List.length_take]
      omega
  | sent hphase hleft =>
      simp only [Relay.weight, hphase, Phase.weight]
      omega
  | sentExit hphase hleft =>
      simp only [Relay.weight, hphase, Phase.weight]
      omega
  | sendFails _ => exact he.elim
  | sendExitFails _ => exact he.elim
  | shutdown hphase =>
      simp only [Relay.weight, hphase, Phase.weight]
      omega
  | waited hexit =>
      simp only [Relay.weight, hexit, Option.isNone_none, Option.isNone_some, Bool.toNat_true,
        Bool.toNat_false]
      omega
  | @bridgeRead message r hnext =>
      obtain ⟨hbridge, ⟨m, rest, rfl, hm, hwire⟩ | ⟨-, -, hm, -⟩⟩ := hi.nextMessage hjson hnext
      · have hbytes := congrArg List.length hwire
        have hall := congrArg List.length hi.framed
        rw [frames_cons] at hall
        simp only [List.length_append, length_frame] at hbytes hall
        have hphase : (s.bridge.relay message).phase = s.bridge.phase := by
          cases message <;> rfl
        simp only [Relay.weight, hphase]
        omega
      · cases hm
  | bridgeEnd hnext =>
      obtain ⟨hbridge, ⟨m, rest, -, hm, -⟩ | ⟨rfl, hended, -, hwire⟩⟩ := hi.nextMessage hjson hnext
      · cases hm
      · have htodo : s.bridge.finish.phase.weight ≤ 3 := by
          cases h : s.bridge.exitStatus with
          | none => simp [Bridge.finish, BridgePhase.weight, h]
          | some code => simp [Bridge.finish, BridgePhase.weight, h]
        simp only [Relay.weight, hwire, hbridge, BridgePhase.weight, List.length_nil] at htodo ⊢
        omega
  | bridgeError hnext =>
      obtain ⟨-, ⟨m, rest, -, hm, -⟩ | ⟨-, -, hm, -⟩⟩ := hi.nextMessage hjson hnext
      · cases hm
      · cases hm
  | bridgeFails _ => exact he.elim
  | bridgeSend hphase =>
      simp only [Relay.weight, hphase, BridgePhase.weight, List.length_cons]
      omega
  | bridgeSendFails _ => exact he.elim

/-! ## The next step -/

/-- A reader that is running reads, or finds the end of its stream. -/
theorem exists_read (hi : RelayInv total transit s) {which : ProcessStream}
    (hrun : (s.reader which).running = true) :
    ∃ e s', RelayStep json s e s' ∧ e.Succeeds ∧ ∀ code, e ≠ .waited code := by
  cases hunread : (s.reader which).unread with
  | nil => exact ⟨.readEnd which, _, .readEnd hrun hunread, trivial, fun _ h => nomatch h⟩
  | cons b bytes =>
      have hn : 1 ≤ (s.reader which).unread.length := by
        rw [hunread, List.length_cons]
        omega
      have hphase : s.phase ≠ .ended := by
        intro hended
        have hloop := hi.looping_of_running hrun
        rw [hended] at hloop
        cases hloop
      exact ⟨.read which 1, _, .read hrun (by decide) (by decide) hn hphase, trivial,
        fun _ h => nomatch h⟩

/-- A message that is being sent can be written on, and when it is written the loop goes on. -/
theorem exists_send (hi : RelayInv total transit s) (hbusy : s.phase.busy = true) :
    ∃ e s', RelayStep json s e s' ∧ e.Succeeds ∧ ∀ code, e ≠ .waited code := by
  cases hleft : s.left with
  | cons b bytes =>
      have hn : 1 ≤ s.left.length := by
        rw [hleft, List.length_cons]
        omega
      exact ⟨.write 1, _, .write (by decide) hn, trivial, fun _ h => nomatch h⟩
  | nil =>
      cases hphase : s.phase with
      | sending encoded =>
          cases encoded with
          | true => exact ⟨.sent, _, .sent hphase hleft, trivial, fun _ h => nomatch h⟩
          | false => exact absurd hphase hi.encoded.1
      | exiting encoded =>
          cases encoded with
          | true => exact ⟨.sent, _, .sentExit hphase hleft, trivial, fun _ h => nomatch h⟩
          | false => exact absurd hphase hi.encoded.2
      | selecting => rw [hphase] at hbusy; cases hbusy
      | shutting => rw [hphase] at hbusy; cases hbusy
      | ended => rw [hphase] at hbusy; cases hbusy

/-- Once the output loop's task has ended the bridge reads on, or writes the end of the channel. -/
theorem exists_bridge (hjson : json.Writes processOutput) (hi : RelayInv total transit s)
    (hended : s.phase = .ended) (hnot : ¬ s.Finished) :
    ∃ e s', RelayStep json s e s' ∧ e.Succeeds ∧ ∀ code, e ≠ .waited code := by
  cases hbridge : s.bridge.phase with
  | reading =>
      have hread : s.nextMessage json = some (readProcessMessage json ⟨[s.wire], none⟩) := by
        simp only [Relay.nextMessage, hbridge, hended, true_or, if_true]
      obtain ⟨⟨result, r⟩, hnext⟩ : ∃ p, s.nextMessage json = some p := ⟨_, hread⟩
      obtain ⟨-, ⟨m, rest, -, rfl, -⟩ | ⟨-, -, rfl, -⟩⟩ := hi.nextMessage hjson hnext
      · exact ⟨.bridgeRead, _, .bridgeRead hnext, trivial, by simp⟩
      · exact ⟨.bridgeRead, _, .bridgeEnd hnext, trivial, by simp⟩
  | closing todo =>
      cases todo with
      | nil => exact absurd hbridge hnot
      | cons message todo =>
          exact ⟨.bridgeSend, _, .bridgeSend hbridge, trivial, by simp⟩
  | failed err =>
      have hb := hi.bridge
      unfold BridgeInv at hb
      rw [hbridge] at hb
      exact hb.elim

/-- **There is always a next step**: until the channel is closed the two processes can go on by
themselves, except that they may have to wait for the child to exit. -/
theorem RelayInv.exists_step (hjson : json.Writes processOutput) (hi : RelayInv total transit s)
    (hnot : ¬ s.Finished) :
    s.exit = none ∨ ∃ e s', RelayStep json s e s' ∧ e.Succeeds ∧ ∀ code, e ≠ .waited code := by
  by_cases hrun : ∃ which, (s.reader which).running = true
  · obtain ⟨which, hrun⟩ := hrun
    exact .inr (exists_read hi hrun)
  · have hstopped : ∀ which, (s.reader which).running = false := fun which =>
      Bool.eq_false_iff.mpr fun h => hrun ⟨which, h⟩
    cases hphase : s.phase with
    | selecting =>
        cases hclosed : s.outputClosed with
        | false =>
            right
            cases hqueue : s.queue with
            | nil =>
                exact ⟨.recv, _, .recvNone hphase hclosed hqueue hstopped, trivial,
                  fun _ h => nomatch h⟩
            | cons output rest =>
                exact ⟨.recv, _, .recv hphase hclosed hqueue, trivial, fun _ h => nomatch h⟩
        | true =>
            cases hnone : s.childExit with
            | some code =>
                exact .inr ⟨.leave, _, .leave hphase hclosed (by rw [hnone]; rfl), trivial,
                  fun _ h => nomatch h⟩
            | none =>
                cases hexit : s.exit with
                | none => exact .inl rfl
                | some code =>
                    exact .inr ⟨.exited, _, .exited hphase hnone hexit, trivial,
                      fun _ h => nomatch h⟩
    | sending encoded => exact .inr (exists_send hi (by rw [hphase]; rfl))
    | exiting encoded => exact .inr (exists_send hi (by rw [hphase]; rfl))
    | shutting =>
        exact .inr ⟨.shutdown, _, .shutdown hphase, trivial, fun _ h => nomatch h⟩
    | ended => exact .inr (exists_bridge hjson hi hphase hnot)

end

/-! ## Services

What a process service must have for its output to arrive: its output side is a relay, every step
of the relay is a step of the service, and the child can always exit and be waited for. -/

/-- What an event of a service is on its output side. -/
inductive OutputPart
  | relay (e : RelayEvent)
  /-- The waiter has the status. -/
  | waited
  | silent

namespace OutputPart

/-- No write to the service stream or to the channel fails. -/
def Succeeds : OutputPart → Prop
  | relay e => e.Succeeds
  | waited | silent => True

/-- A step of the readers, the waiter, the output loop or the bridge. -/
def isOutput : OutputPart → Bool
  | relay _ | waited => true
  | silent => false

def toRelay : OutputPart → Option RelayEvent
  | relay e => some e
  | waited | silent => none

/-- What such an event does to the relay. -/
def Moves (json : SerdeJson ProcessOutput) (r : Relay) : OutputPart → Relay → Prop
  | relay e, r' => RelayStep json r e r'
  | waited, r' => ∃ code, RelayStep json r (.waited code) r'
  | silent, r' => r' = r

theorem Moves.cases {json : SerdeJson ProcessOutput} {r r' : Relay} {part : OutputPart}
    (h : part.Moves json r r') (hsucceeds : part.Succeeds) :
    (part.isOutput = true ∧ ∃ e, RelayStep json r e r' ∧ e.Succeeds) ∨
      (part.isOutput = false ∧ r' = r) := by
  cases part with
  | relay e => exact .inl ⟨rfl, e, h, hsucceeds⟩
  | waited =>
      obtain ⟨code, hstep⟩ := h
      exact .inl ⟨rfl, _, hstep, trivial⟩
  | silent => exact .inr ⟨rfl, h⟩

end OutputPart

/-- A service over a relay. Its steps are those in which writes succeed. -/
structure Service (json : SerdeJson ProcessOutput) (σ ε : Type) where
  start : σ
  step : σ → ε → σ → Prop
  relay : σ → Relay
  /-- The steps of the output side. -/
  output : ε → Bool
  /-- The steps that the child has to take until it has been waited for. -/
  rank : σ → Nat
  rank_le : ∀ s, rank s ≤ 2
  reader : ProcessStream → Reader
  relay_start : relay start = .start reader
  reader_start : ∀ which, (reader which).running = false → (reader which).unread = []
  relay_step : ∀ s e s', step s e s' →
    (output e = true ∧ ∃ r, RelayStep json (relay s) r (relay s') ∧ r.Succeeds) ∨
      (output e = false ∧ relay s' = relay s)
  step_relay : ∀ s r relay', RelayStep json (relay s) r relay' → r.Succeeds →
    (∀ code, r ≠ .waited code) → ∃ e s', step s e s' ∧ relay s' = relay'
  step_exit : ∀ h s, Run (· = start) step h s → (relay s).exit = none →
    ∃ e s', step s e s' ∧ ((relay s' = relay s ∧ rank s' < rank s) ∨ (relay s').exit ≠ none)

namespace Service

variable {json : SerdeJson ProcessOutput} {σ ε : Type} (v : Service json σ ε)

def run : List ε → σ → Prop := Run (· = v.start) v.step

def total (which : ProcessStream) : List UInt8 := (v.reader which).unread

/-- **The invariant of the relay holds in every run**, and the weight pays for every step of the
output side. -/
theorem exists_relayInv (hjson : json.Writes processOutput) {h : List ε} {s : σ}
    (hr : v.run h s) :
    (∃ transit, RelayInv v.total transit (v.relay s)) ∧
      h.countP v.output + (v.relay s).weight ≤ readersWeight v.reader + 107 := by
  refine Run.invariant (P := fun h s => (∃ transit, RelayInv v.total transit (v.relay s)) ∧
    h.countP v.output + (v.relay s).weight ≤ readersWeight v.reader + 107) ?_ ?_ hr
  · rintro s rfl
    rw [v.relay_start, weight_start, List.countP_nil, Nat.zero_add]
    exact ⟨⟨[], relayInv_start v.reader v.reader_start⟩, Nat.le_refl _⟩
  · rintro h s e s' - ⟨⟨transit, hi⟩, hweight⟩ hs
    rcases v.relay_step s e s' hs with ⟨hout, r, hrelay, hsucceeds⟩ | ⟨hout, hsame⟩
    · have hlt := hi.weight_lt hjson hrelay hsucceeds
      refine ⟨hi.step hjson hrelay hsucceeds, ?_⟩
      rw [List.countP_cons_of_pos hout]
      omega
    · rw [hsame, List.countP_cons_of_neg (by rw [hout]; exact Bool.false_ne_true)]
      exact ⟨⟨transit, hi⟩, hweight⟩

/-- **Every run can be continued until everything has arrived.** -/
theorem exists_finished (hjson : json.Writes processOutput) {h : List ε} {s : σ}
    (hr : v.run h s) : ∃ h' s', v.run (h' ++ h) s' ∧ (v.relay s').Finished := by
  -- a step of the relay lowers its weight, which counts for more than the child's rank
  have hnext : ∀ s, (∃ h, v.run h s) → ¬ (v.relay s).Finished → ∃ e s', v.step s e s' ∧
      (∃ h, v.run h s') ∧
      3 * (v.relay s').weight + v.rank s' < 3 * (v.relay s).weight + v.rank s := by
    rintro s ⟨h, hr⟩ hnot
    obtain ⟨⟨transit, hi⟩, -⟩ := v.exists_relayInv hjson hr
    rcases hi.exists_step hjson hnot with hexit | ⟨r, relay', hrelay, hsucceeds, hwaited⟩
    · obtain ⟨e, s', hs, hend⟩ := v.step_exit h s hr hexit
      have hrank := v.rank_le s'
      refine ⟨e, s', hs, ⟨_, .cons hr hs⟩, ?_⟩
      rcases v.relay_step s e s' hs with ⟨-, r, hrelay, hsucceeds⟩ | ⟨-, hsame⟩
      · have hlt := hi.weight_lt hjson hrelay hsucceeds
        omega
      · rw [hsame] at hend ⊢
        rcases hend with ⟨-, hlt⟩ | hsome
        · omega
        · exact absurd hexit hsome
    · obtain ⟨e, s', hs, hsame⟩ := v.step_relay s r relay' hrelay hsucceeds hwaited
      have hlt := hi.weight_lt hjson hrelay hsucceeds
      have hrank := v.rank_le s'
      refine ⟨e, s', hs, ⟨_, .cons hr hs⟩, ?_⟩
      rw [hsame]
      omega
  obtain ⟨h', s', hr', -, hfinished⟩ := Run.exists_done _ hnext hr ⟨h, hr⟩
  exact ⟨h', s', hr', hfinished⟩

end Service

end Narrowd.Services
