import Narrowd.Services.Processes

set_option autoImplicit false

/-! # What the client is told when writes fail

While all writes succeed the client receives everything (`Services/Conservation.lean`). Here any
write may fail: one of the executor to the service stream, after any part of a message, and one of
the bridge to the client's channel. A stream on which a write has failed takes nothing more.

What the client has received of a stream is then a part from its beginning, and an exit status still
means that it has received everything. The reason is the order of the messages: the status is the
last one in transit (`Last`), the bridge keeps it until the stream ends, and a bridge that gives up
before has none.
-/

namespace Narrowd.Services

open Lib Executor Executor.Json

/-! ## Runs with failures -/

def RelayEvent.isWrite : RelayEvent → Bool
  | .write _ => true
  | _ => false

/-- Nothing is written to the service stream once a write to it has failed. -/
def BrokenStays (h : List RelayEvent) : Prop :=
  h.Pairwise fun later earlier => earlier = .sendFails → later.isWrite = false

/-- The messages that end the channel. -/
def Bridge.ending (b : Bridge) : List ChannelMsg :=
  (b.exitStatus.map ChannelMsg.exitStatus).toList ++ [.eof, .close]

/-- What the bridge has yet to write. -/
def Bridge.todo (b : Bridge) : List ChannelMsg :=
  match b.phase with
  | .closing todo => todo
  | .reading | .failed _ => []

/-- **What the client has been told is true.** It has received the beginning of each stream. If it
has received an exit status, this is the child's, and it has received all output. The status comes
after the output, and then at most the end and the close. -/
structure Truthful (total : ProcessStream → List UInt8) (s : Relay) : Prop where
  received : ∀ which : ProcessStream, s.bridge.channel.flatMap which.received <+: total which
  status : ∀ code, .exitStatus code ∈ s.bridge.channel → s.exit = some code ∧
    ∀ which : ProcessStream, s.bridge.channel.flatMap which.received = total which
  shape : ∃ output last, s.bridge.channel = output ++ last ∧ (∀ m ∈ output, m.IsOutput) ∧
    last.Sublist s.bridge.ending

/-! ## The order of the messages -/

/-- A status is the last message, whether it is in transit or with the bridge. -/
def Last (transit : List ProcessOutput) (b : Bridge) : Prop :=
  ∀ m ∈ ((b.exitStatus.map ProcessOutput.exitStatus).toList ++ transit).dropLast, status m = none

section

variable {transit rest : List ProcessOutput} {b : Bridge} {m : ProcessOutput}

/-- A message follows others that are no status. -/
theorem last_concat (hnone : transit.filterMap status ++ b.exitStatus.toList = [])
    (m : ProcessOutput) : Last (transit ++ [m]) b := by
  obtain ⟨htransit, hstatus⟩ := List.append_eq_nil_iff.mp hnone
  have hb : b.exitStatus = none := Option.toList_eq_nil_iff.mp hstatus
  unfold Last
  rw [hb, Option.map_none, Option.toList_none, List.nil_append, List.dropLast_concat]
  exact List.filterMap_eq_nil_iff.mp htransit

/-- With a status the bridge has everything. -/
theorem Last.status_eq_none (h : Last (m :: rest) b) : b.exitStatus = none := by
  cases hb : b.exitStatus with
  | none => rfl
  | some code =>
      have hstatus := h (.exitStatus code) (by simp [hb])
      cases hstatus

theorem Last.transit_eq_nil (h : Last transit b) {code : UInt32} (hb : b.exitStatus = some code) :
    transit = [] := by
  cases transit with
  | nil => rfl
  | cons m rest => cases hb.symm.trans h.status_eq_none

theorem Last.relay (h : Last (m :: rest) b) : Last rest (b.relay m) := by
  have hb := h.status_eq_none
  unfold Last at h ⊢
  rw [hb] at h
  cases hm : status m with
  | none =>
      obtain ⟨c, -, -, hrelay⟩ := relay_of_output hm b
      rw [hrelay]
      dsimp only
      rw [hb]
      intro m' hm'
      refine h m' ?_
      cases rest with
      | nil => cases hm'
      | cons m'' rest => exact List.mem_cons_of_mem m hm'
  | some code =>
      cases m with
      | stdout bytes => cases hm
      | stderr bytes => cases hm
      | exitStatus code' => exact h

end

variable {wire : List UInt8} {m : ProcessOutput} {rest : List ProcessOutput} {message : ChannelMsg}

section

variable {json : SerdeJson ProcessOutput}

/-- Frames determine their messages. -/
theorem frames_injective (hjson : json.Writes processOutput) {l l' : List ProcessOutput}
    (hl : ∀ m ∈ l, m.payload.length ≤ 8192) (hl' : ∀ m ∈ l', m.payload.length ≤ 8192)
    (h : frames processOutput l = frames processOutput l') : l = l' := by
  induction l generalizing l' with
  | nil =>
      cases l' with
      | nil => rfl
      | cons m l' => cases h
  | cons m l ih =>
      have hbytes : (⟨[frames processOutput (m :: l)], none⟩ : Source UInt8 IoError).bytes =
        frames processOutput (m :: l) :=
        List.append_nil _
      have hm := length_toBytes_le (hl m List.mem_cons_self)
      obtain ⟨r, hread, hrest, -⟩ : ∃ r, readProcessMessage json
        ⟨[frames processOutput (m :: l)], none⟩ =
          (.ok (some m), r) ∧ r.bytes = frames processOutput l ∧ _ :=
        readMessage_eq hjson _ hbytes hm (by omega)
      have hcut : (⟨[frames processOutput (m :: l)], none⟩ : Source UInt8 IoError).bytes ++ [] =
        frames processOutput l' := by
        rw [hbytes, List.append_nil]
        exact h
      obtain ⟨rest, rfl, hsame⟩ := readMessage_of_cut hjson (by decide)
        (fun m' hm' => length_toBytes_le (hl' m' hm')) hcut hread
      rw [hrest, List.append_nil] at hsame
      rw [ih (fun m' hm' => hl m' (List.mem_cons_of_mem m hm'))
        (fun m' hm' => hl' m' (List.mem_cons_of_mem m hm')) hsame]

/-! ## While the bridge reads -/

variable {total : ProcessStream → List UInt8} {transit : List ProcessOutput} {missing : List UInt8}
  {s s' : Relay} {e : RelayEvent}

/-- What holds of a bridge that reads a stream of which `missing` may never come. -/
structure Sound (total : ProcessStream → List UInt8) (transit : List ProcessOutput)
    (missing : List UInt8) (s : Relay) : Prop where
  reading : s.bridge.phase = .reading
  framed : s.wire ++ missing = frames processOutput transit
  small : ∀ m ∈ transit, m.payload.length ≤ 8192
  outputs : ∀ m ∈ s.bridge.channel, m.IsOutput
  beginning : ∀ which : ProcessStream,
    s.bridge.channel.flatMap which.received ++ transit.flatMap which.carried <+: total which
  last : Last transit s.bridge
  told : ∀ code, code ∈ transit.filterMap status ++ s.bridge.exitStatus.toList →
    s.exit = some code ∧ ∀ which : ProcessStream,
      s.bridge.channel.flatMap which.received ++ transit.flatMap which.carried = total which

/-- A stream on which everything has been written so far. -/
theorem RelayInv.sound (hi : RelayInv total transit s) (hreading : s.bridge.phase = .reading)
    (hlast : Last transit s.bridge) : Sound total transit s.left s where
  reading := hreading
  framed := hi.framed
  small := fun m hm => hi.small m (List.mem_append_left _ hm)
  outputs := by
    have hb := hi.bridge
    unfold BridgeInv at hb
    rwa [hreading] at hb
  beginning := fun which => by
    rw [← hi.conserved which, ← List.append_assoc]
    exact List.prefix_append _ _
  last := hlast
  told := by
    intro code hcode
    by_cases hloop : s.phase.looping = true
    · rw [hi.looping hloop] at hcode
      cases hcode
    · obtain ⟨hclosed, code', hexit, hone⟩ := hi.leaving (Bool.eq_false_iff.mpr hloop)
      rw [hone] at hcode
      obtain rfl := List.mem_singleton.mp hcode
      obtain ⟨hqueue, hstopped⟩ := hi.closed hclosed
      refine ⟨hexit, fun which => ?_⟩
      have hall := hi.conserved which
      rwa [hqueue, hi.drained which (hstopped which), List.flatMap_nil, List.append_nil,
        List.append_nil] at hall

/-- Of the state, only the wire, the bridge and a status that is not known yet count. -/
theorem Sound.congr (hs : Sound total transit missing s) (hwire : s'.wire = s.wire)
    (hbridge : s'.bridge = s.bridge) (hexit : s.exit = none ∨ s'.exit = s.exit) :
    Sound total transit missing s' := by
  obtain ⟨hreading, hframed, hsmall, houtputs, hbeginning, hlast, htold⟩ := hs
  rw [← hbridge] at hreading houtputs hbeginning hlast htold
  rw [← hwire] at hframed
  refine ⟨hreading, hframed, hsmall, houtputs, hbeginning, hlast, fun code hcode => ?_⟩
  obtain ⟨hsome, hall⟩ := htold code hcode
  rcases hexit with hnone | hsame
  · cases hsome.symm.trans hnone
  · exact ⟨hsame.trans hsome, hall⟩

/-- The bridge's next read, if it is a message. -/
theorem Sound.nextMessage (hjson : json.Writes processOutput) (hs : Sound total transit missing s)
    {r : Source UInt8 IoError} (hnext : s.nextMessage json = some (.ok (some m), r)) :
    ∃ rest, transit = m :: rest ∧ r.bytes ++ missing = frames processOutput rest := by
  have hread : readProcessMessage json ⟨[s.wire], none⟩ = (.ok (some m), r) := by
    unfold Relay.nextMessage at hnext
    rw [hs.reading] at hnext
    dsimp only at hnext
    split at hnext
    · exact Option.some.inj hnext
    · cases hnext
  have hbytes : (⟨[s.wire], none⟩ : Source UInt8 IoError).bytes ++ missing =
      frames processOutput transit := by
    rw [← hs.framed]
    exact congrArg (· ++ missing) (List.append_nil s.wire)
  exact readMessage_of_cut hjson (by decide) (fun m' hm' => length_toBytes_le (hs.small m' hm'))
    hbytes hread

/-- Output that is read goes to the channel. -/
theorem Sound.bridgeReadOutput (hs : Sound total (m :: rest) missing s)
    (hwire : wire ++ missing = frames processOutput rest) (hm : status m = none) :
    Sound total rest missing { s with wire := wire, bridge := s.bridge.relay m } := by
  obtain ⟨c, hc, hreceived, hrelay⟩ := relay_of_output hm s.bridge
  have hlast := hs.last.relay
  have hmoved : ∀ which : ProcessStream,
      (s.bridge.channel ++ [c]).flatMap which.received ++ rest.flatMap which.carried =
        s.bridge.channel.flatMap which.received ++ (m :: rest).flatMap which.carried := by
    intro which
    rw [List.flatMap_append, List.flatMap_singleton, hreceived which, List.flatMap_cons,
      List.append_assoc]
  rw [hrelay] at hlast ⊢
  refine ⟨hs.reading, hwire, fun m' hm' => hs.small m' (List.mem_cons_of_mem m hm'),
    ?_, ?_, hlast, ?_⟩
  · intro c' hc'
    rcases List.mem_append.mp hc' with hc' | hc'
    · exact hs.outputs c' hc'
    · rw [List.mem_singleton.mp hc']
      exact hc
  · intro which
    dsimp only
    rw [hmoved which]
    exact hs.beginning which
  · intro code hcode
    obtain ⟨hexit, hall⟩ := hs.told code (by rwa [List.filterMap_cons, hm])
    exact ⟨hexit, fun which => (hmoved which).trans (hall which)⟩

/-- The status is kept. -/
theorem Sound.bridgeReadStatus {code : UInt32}
    (hs : Sound total (.exitStatus code :: rest) missing s)
    (hwire : wire ++ missing = frames processOutput rest) :
    Sound total rest missing
      { s with wire := wire, bridge := s.bridge.relay (.exitStatus code) } := by
  have hmoved : ∀ which : ProcessStream,
      (ProcessOutput.exitStatus code :: rest).flatMap which.carried =
        rest.flatMap which.carried := by
    intro which
    cases which <;> rfl
  refine ⟨hs.reading, hwire, fun m' hm' => hs.small m' (List.mem_cons_of_mem _ hm'), hs.outputs, ?_,
    hs.last.relay, ?_⟩
  · intro which
    rw [← hmoved which]
    exact hs.beginning which
  · intro code' hcode'
    obtain ⟨hexit, hall⟩ := hs.told code' (by
      rw [hs.last.status_eq_none, List.filterMap_cons]
      rcases List.mem_append.mp hcode' with h | h
      · exact List.mem_append_left _ (List.mem_cons_of_mem _ h)
      · exact List.mem_append_left _ (List.mem_singleton.mp h ▸ List.mem_cons_self))
    exact ⟨hexit, fun which => (hmoved which) ▸ hall which⟩

/-- **A message that is read** goes to the channel, or is kept if it is the status. -/
theorem Sound.bridgeRead (hs : Sound total (m :: rest) missing s)
    (hwire : wire ++ missing = frames processOutput rest) :
    Sound total rest missing { s with wire := wire, bridge := s.bridge.relay m } := by
  cases m with
  | stdout bytes => exact hs.bridgeReadOutput hwire rfl
  | stderr bytes => exact hs.bridgeReadOutput hwire rfl
  | exitStatus code => exact hs.bridgeReadStatus hwire

/-! ## Once the bridge has stopped -/

/-- What holds of a bridge that does not read any more. -/
structure Stopped (total : ProcessStream → List UInt8) (s : Relay) : Prop where
  stopped : s.bridge.phase ≠ .reading
  received : ∀ which : ProcessStream, s.bridge.channel.flatMap which.received <+: total which
  status : ∀ code, s.bridge.exitStatus = some code → s.exit = some code ∧
    ∀ which : ProcessStream, s.bridge.channel.flatMap which.received = total which
  shape : ∃ output last, s.bridge.channel = output ++ last ∧ (∀ m ∈ output, m.IsOutput) ∧
    (last ++ s.bridge.todo).Sublist s.bridge.ending

/-- **The bridge stops**: at the end of the stream, at an error, or when the channel takes no
more. -/
theorem Sound.stop (hs : Sound total transit missing s) {b : Bridge}
    (hchannel : b.channel = s.bridge.channel) (hstatus : b.exitStatus = s.bridge.exitStatus)
    (hphase : b.phase ≠ .reading) (htodo : b.todo.Sublist b.ending) :
    Stopped total { s with wire := wire, bridge := b } := by
  refine ⟨hphase, ?_, ?_, b.channel, [], (List.append_nil _).symm, ?_, htodo⟩
  · intro which
    dsimp only
    rw [hchannel]
    exact (List.prefix_append _ _).trans (hs.beginning which)
  · intro code hcode
    -- the status was the last message, so no output is behind it
    have hcode' : s.bridge.exitStatus = some code := hstatus.symm.trans hcode
    obtain ⟨hexit, hall⟩ := hs.told code (by simp [hcode'])
    refine ⟨hexit, fun which => ?_⟩
    dsimp only
    rw [hchannel, ← hall which, hs.last.transit_eq_nil hcode', List.flatMap_nil, List.append_nil]
  · rw [hchannel]
    exact hs.outputs

theorem Stopped.congr (hs : Stopped total s) (hbridge : s'.bridge = s.bridge)
    (hexit : s.exit = none ∨ s'.exit = s.exit) : Stopped total s' := by
  obtain ⟨hstopped, hreceived, hstatus, hshape⟩ := hs
  rw [← hbridge] at hstopped hreceived hstatus hshape
  refine ⟨hstopped, hreceived, fun code hcode => ?_, hshape⟩
  obtain ⟨hsome, hall⟩ := hstatus code hcode
  rcases hexit with hnone | hsame
  · cases hsome.symm.trans hnone
  · exact ⟨hsame.trans hsome, hall⟩

/-- The messages that end the channel are no output. -/
theorem received_of_mem_ending {b : Bridge} (h : message ∈ b.ending) (which : ProcessStream) :
    which.received message = [] := by
  unfold Bridge.ending at h
  rcases List.mem_append.mp h with h | h
  · obtain ⟨code, -, rfl⟩ := Option.map_eq_some_iff.mp (Option.mem_toList.mp h)
    cases which <;> rfl
  · rcases List.mem_cons.mp h with rfl | h
    · cases which <;> rfl
    · obtain rfl := List.mem_singleton.mp h
      cases which <;> rfl

/-- One of the last messages is written. -/
theorem Stopped.bridgeSend (hs : Stopped total s) {todo : List ChannelMsg}
    (hphase : s.bridge.phase = .closing (message :: todo)) :
    Stopped total
      { s with
        bridge := { s.bridge with
          phase := .closing todo
          channel := s.bridge.channel ++ [message] } } := by
  obtain ⟨output, last, hchannel, houtput, hlast⟩ := hs.shape
  have htodo : s.bridge.todo = message :: todo := by
    unfold Bridge.todo
    rw [hphase]
  rw [htodo] at hlast
  have hnothing := received_of_mem_ending
    (hlast.subset (List.mem_append_right _ List.mem_cons_self))
  have hreceived : ∀ which : ProcessStream,
      (s.bridge.channel ++ [message]).flatMap which.received =
        s.bridge.channel.flatMap which.received := by
    intro which
    rw [List.flatMap_append, List.flatMap_singleton, hnothing which, List.append_nil]
  refine ⟨(fun h => nomatch h), ?_, ?_, output, last ++ [message], ?_, houtput, ?_⟩
  · intro which
    dsimp only
    rw [hreceived which]
    exact hs.received which
  · intro code hcode
    obtain ⟨hexit, hall⟩ := hs.status code hcode
    exact ⟨hexit, fun which => (hreceived which).trans (hall which)⟩
  · dsimp only
    rw [hchannel, List.append_assoc]
  · rw [List.append_assoc]
    exact hlast

theorem Stopped.bridgeSendFails (hs : Stopped total s) {todo : List ChannelMsg}
    (hphase : s.bridge.phase = .closing (message :: todo)) :
    Stopped total { s with bridge := { s.bridge with phase := .closing todo } } := by
  obtain ⟨output, last, hchannel, houtput, hlast⟩ := hs.shape
  have htodo : s.bridge.todo = message :: todo := by
    unfold Bridge.todo
    rw [hphase]
  rw [htodo] at hlast
  refine ⟨(fun h => nomatch h), hs.received, hs.status, output, last, hchannel, houtput, ?_⟩
  exact (List.Sublist.append (List.Sublist.refl last) (List.sublist_cons_self message todo)).trans
    hlast

/-! ## All steps -/

/-- The bridge reads only in its loop. -/
theorem nextMessage_of_stopped (json : SerdeJson ProcessOutput) (h : s.bridge.phase ≠ .reading) :
    s.nextMessage json = none := by
  unfold Relay.nextMessage
  split
  · next hreading => exact absurd hreading h
  · rfl

theorem leaveLoop_frame (json : SerdeJson ProcessOutput) (s : Relay) :
    (s.leaveLoop json).bridge = s.bridge ∧ (s.leaveLoop json).exit = s.exit ∧
      (s.leaveLoop json).wire = s.wire := by
  unfold Relay.leaveLoop
  split <;> exact ⟨rfl, rfl, rfl⟩

/-- What the other tasks do to what the bridge sees. -/
theorem RelayStep.bridge_eq (hs : RelayStep json s e s') (hread : e ≠ .bridgeRead)
    (hsend : e ≠ .bridgeSend) (hfails : e ≠ .bridgeFails) :
    s'.bridge = s.bridge ∧ (s.exit = none ∨ s'.exit = s.exit) ∧
      (e.isWrite = false → s'.wire = s.wire) := by
  obtain ⟨hbridge, hexit, hwire⟩ := leaveLoop_frame json s
  cases hs with
  | leave _ _ _ => exact ⟨hbridge, .inr hexit, fun _ => hwire⟩
  | sendFails _ => exact ⟨hbridge, .inr hexit, fun _ => hwire⟩
  | write _ _ => exact ⟨rfl, .inr rfl, fun h => nomatch h⟩
  | waited hnone => exact ⟨rfl, .inl hnone, fun _ => rfl⟩
  | bridgeRead _ => exact absurd rfl hread
  | bridgeEnd _ => exact absurd rfl hread
  | bridgeError _ => exact absurd rfl hread
  | bridgeFails _ => exact absurd rfl hfails
  | bridgeSend _ => exact absurd rfl hsend
  | bridgeSendFails _ => exact absurd rfl hfails
  | _ => exact ⟨rfl, .inr rfl, fun _ => rfl⟩

theorem Stopped.step (hi : Stopped total s) (hs : RelayStep json s e s') : Stopped total s' := by
  have hnone := nextMessage_of_stopped json hi.stopped
  by_cases hbridge : e = .bridgeRead ∨ e = .bridgeSend ∨ e = .bridgeFails
  · cases hs with
    | bridgeRead hnext => cases hnone.symm.trans hnext
    | bridgeEnd hnext => cases hnone.symm.trans hnext
    | bridgeError hnext => cases hnone.symm.trans hnext
    | bridgeFails hnext => cases hnone.symm.trans hnext
    | bridgeSend hphase => exact hi.bridgeSend hphase
    | bridgeSendFails hphase => exact hi.bridgeSendFails hphase
    | _ => simp at hbridge
  · simp only [not_or] at hbridge
    obtain ⟨hsame, hexit, -⟩ := hs.bridge_eq hbridge.1 hbridge.2.1 hbridge.2.2
    exact hi.congr hsame hexit

/-- A bridge that reads goes on or stops, whatever has become of the stream. -/
theorem Sound.step (hjson : json.Writes processOutput) (hi : Sound total transit missing s)
    (hs : RelayStep json s e s') (he : e.isWrite = false) :
    (∃ transit', Sound total transit' missing s') ∨ Stopped total s' := by
  by_cases hbridge : e = .bridgeRead ∨ e = .bridgeSend ∨ e = .bridgeFails
  · cases hs with
    | bridgeRead hnext =>
        obtain ⟨rest, rfl, hwire⟩ := hi.nextMessage hjson hnext
        exact .inl ⟨rest, hi.bridgeRead hwire⟩
    | bridgeEnd _ => exact .inr (hi.stop rfl rfl (fun h => nomatch h) (List.Sublist.refl _))
    | bridgeError _ => exact .inr (hi.stop rfl rfl (fun h => nomatch h) (List.nil_sublist _))
    | bridgeFails _ => exact .inr (hi.stop rfl rfl (fun h => nomatch h) (List.Sublist.refl _))
    | bridgeSend hphase => cases hi.reading.symm.trans hphase
    | bridgeSendFails hphase => cases hi.reading.symm.trans hphase
    | _ => simp at hbridge
  · simp only [not_or] at hbridge
    obtain ⟨hsame, hexit, hwire⟩ := hs.bridge_eq hbridge.1 hbridge.2.1 hbridge.2.2
    exact .inl ⟨transit, hi.congr (hwire he) hsame hexit⟩

/-- Everything has been written so far, and the bridge reads. -/
def Whole (total : ProcessStream → List UInt8) (s : Relay) : Prop :=
  ∃ transit, RelayInv total transit s ∧ s.bridge.phase = .reading ∧ Last transit s.bridge

/-- The loop is left with all output in transit, and the status follows it. -/
theorem Whole.leave (hjson : json.Writes processOutput) (hi : RelayInv total transit s)
    (hreading : s.bridge.phase = .reading) (hphase : s.phase = .selecting)
    (hclosed : s.outputClosed = true) (hsome : s.childExit.isSome = true) :
    Whole total (s.leaveLoop json) := by
  obtain ⟨code, hcode⟩ := Option.isSome_iff_exists.mp hsome
  obtain ⟨transit', hi'⟩ := hi.leave hjson hphase hclosed hsome
  have hsmall : (ProcessOutput.exitStatus code).payload.length ≤ 8192 := Nat.zero_le _
  have hleft : (s.leaveLoop json).left = frame (processOutput.toBytes (.exitStatus code)) := by
    rw [Relay.leaveLoop, hcode]
    dsimp only
    rw [beginSend_output hjson hsmall]
  obtain ⟨hbridge, -, hwire⟩ := leaveLoop_frame json s
  have hbefore := hi.framed
  rw [hi.written (by rw [hphase]; rfl), List.append_nil] at hbefore
  have hframed := hi'.framed
  rw [hwire, hleft, hbefore, ← frames_concat] at hframed
  -- the bytes determine the messages: what was in transit, and the status after it
  have htransit : transit' = transit ++ [.exitStatus code] := by
    refine (frames_injective hjson ?_ ?_ hframed).symm
    · intro m hm
      rcases List.mem_append.mp hm with hm | hm
      · exact hi.small m (List.mem_append_left _ hm)
      · exact List.mem_singleton.mp hm ▸ hsmall
    · exact fun m hm => hi'.small m (List.mem_append_left _ hm)
  refine ⟨transit', hi', hbridge ▸ hreading, ?_⟩
  rw [htransit, hbridge]
  exact last_concat (hi.looping (by rw [hphase]; rfl)) _

theorem Whole.step (hjson : json.Writes processOutput) (hw : Whole total s)
    (hs : RelayStep json s e s') (he : e ≠ .sendFails) : Whole total s' ∨ Stopped total s' := by
  obtain ⟨transit, hi, hreading, hlast⟩ := hw
  have hsound := hi.sound hreading hlast
  cases hs with
  | read hrun _ hbuffer _ _ => exact .inl ⟨transit, hi.read hrun hbuffer, hreading, hlast⟩
  | readLast hrun _ _ _ hphase =>
      have hloop := hi.looping_of_running hrun
      rw [hphase] at hloop
      cases hloop
  | readEnd _ hend => exact .inl ⟨transit, hi.readEnd hend, hreading, hlast⟩
  | recv hphase _ hqueue =>
      refine .inl ⟨_, hi.recv hjson hphase hqueue, hreading, ?_⟩
      exact last_concat (hi.looping (by rw [hphase]; rfl)) _
  | recvNone hphase _ hqueue hreaders =>
      exact .inl ⟨transit, hi.recvNone hphase hqueue hreaders, hreading, hlast⟩
  | exited _ _ hexit => exact .inl ⟨transit, hi.exited hexit, hreading, hlast⟩
  | leave hphase hclosed hsome => exact .inl (.leave hjson hi hreading hphase hclosed hsome)
  | write hpos hn => exact .inl ⟨transit, hi.write hpos hn, hreading, hlast⟩
  | sent hphase hleft => exact .inl ⟨transit, hi.sent hphase hleft, hreading, hlast⟩
  | sentExit hphase hleft => exact .inl ⟨transit, hi.sentExit hphase hleft, hreading, hlast⟩
  | sendFails _ => exact absurd rfl he
  | sendExitFails _ => exact absurd rfl he
  | shutdown hphase => exact .inl ⟨transit, hi.shutdown hphase, hreading, hlast⟩
  | waited hexit => exact .inl ⟨transit, hi.waited hexit, hreading, hlast⟩
  | bridgeRead hnext =>
      obtain ⟨rest, rfl, hwire⟩ := hsound.nextMessage hjson hnext
      have hsame := (hsound.bridgeRead hwire).reading
      exact .inl ⟨rest, hi.bridgeRead hwire hreading, hsame, hlast.relay⟩
  | bridgeEnd _ => exact .inr (hsound.stop rfl rfl (fun h => nomatch h) (List.Sublist.refl _))
  | bridgeError _ => exact .inr (hsound.stop rfl rfl (fun h => nomatch h) (List.nil_sublist _))
  | bridgeFails _ => exact .inr (hsound.stop rfl rfl (fun h => nomatch h) (List.Sublist.refl _))
  | bridgeSend hphase => cases hreading.symm.trans hphase
  | bridgeSendFails hphase => cases hreading.symm.trans hphase

/-- The stream is whole until a write fails; from then on something of it is missing. -/
def Safe (total : ProcessStream → List UInt8) (broken : Prop) (s : Relay) : Prop :=
  (¬ broken ∧ Whole total s) ∨ (∃ transit missing, broken ∧ Sound total transit missing s) ∨
    Stopped total s

theorem Safe.step (hjson : json.Writes processOutput) {broken : Prop} (hi : Safe total broken s)
    (hs : RelayStep json s e s') (he : broken → e.isWrite = false) :
    Safe total (.sendFails = e ∨ broken) s' := by
  rcases hi with ⟨hnot, hw⟩ | ⟨transit, missing, hbroken, hsound⟩ | hstopped
  · by_cases hfails : e = .sendFails
    -- what the first failed write leaves unwritten is missing for good
    · obtain ⟨transit, hinv, hreading, hlast⟩ := hw
      subst hfails
      rcases (hinv.sound hreading hlast).step hjson hs rfl with ⟨transit', h⟩ | h
      · exact .inr (.inl ⟨transit', s.left, .inl rfl, h⟩)
      · exact .inr (.inr h)
    · rcases hw.step hjson hs hfails with h | h
      · exact .inl ⟨not_or.mpr ⟨Ne.symm hfails, hnot⟩, h⟩
      · exact .inr (.inr h)
  · rcases hsound.step hjson hs (he hbroken) with ⟨transit', h⟩ | h
    · exact .inr (.inl ⟨transit', missing, .inr hbroken, h⟩)
    · exact .inr (.inr h)
  · exact .inr (.inr (hstopped.step hs))

theorem Sound.truthful (hs : Sound total transit missing s) : Truthful total s where
  received := fun which => (List.prefix_append _ _).trans (hs.beginning which)
  status := fun _ hcode => (hs.outputs _ hcode).elim
  shape := ⟨s.bridge.channel, [], (List.append_nil _).symm, hs.outputs, List.nil_sublist _⟩

theorem Stopped.truthful (hs : Stopped total s) : Truthful total s := by
  obtain ⟨output, last, hchannel, houtput, hlast⟩ := hs.shape
  have hsublist : last.Sublist s.bridge.ending := (List.sublist_append_left _ _).trans hlast
  refine ⟨hs.received, fun code hcode => hs.status code ?_, output, last, hchannel, houtput,
    hsublist⟩
  rw [hchannel] at hcode
  rcases List.mem_append.mp hcode with hcode | hcode
  · exact (houtput _ hcode).elim
  · have hending := hsublist.subset hcode
    unfold Bridge.ending at hending
    simpa using hending

theorem Safe.truthful {broken : Prop} (hi : Safe total broken s) : Truthful total s := by
  rcases hi with ⟨-, transit, hinv, hreading, hlast⟩ | ⟨transit, missing, -, hsound⟩ | hstopped
  · exact (hinv.sound hreading hlast).truthful
  · exact hsound.truthful
  · exact hstopped.truthful

/-! ## Both services -/

/-- **What holds of the relay holds of it in a service.** -/
theorem safe_of_run (hjson : json.Writes processOutput) {σ ε : Type} {init : σ → Prop}
    {step : σ → ε → σ → Prop} {relay : σ → Relay} {part : ε → OutputPart}
    (hinit : ∀ s, init s → Whole total (relay s))
    (hstep : ∀ s e s', step s e s' → (part e).Moves json (relay s) (relay s')) {h : List ε} {s : σ}
    (hr : Run init step h s) (hbroken : BrokenStays (h.filterMap fun e => (part e).toRelay)) :
    Safe total (.sendFails ∈ h.filterMap fun e => (part e).toRelay) (relay s) := by
  induction hr with
  | nil hs => exact .inl ⟨List.not_mem_nil, hinit _ hs⟩
  | @cons h s s' e _ hs ih =>
      have hmoves := hstep s e s' hs
      rw [List.filterMap_cons] at hbroken ⊢
      generalize part e = p at hmoves hbroken ⊢
      cases p with
      | silent => exact hmoves ▸ ih hbroken
      | waited =>
          obtain ⟨code, hwaited⟩ := hmoves
          have hsafe := (ih hbroken).step hjson hwaited fun _ => rfl
          show Safe total (RelayEvent.sendFails ∈ h.filterMap _) _
          simpa using hsafe
      | relay r =>
          -- a write is a step only while none has failed
          obtain ⟨hfirst, hrest⟩ := List.pairwise_cons.mp hbroken
          have hsafe := (ih hrest).step hjson hmoves fun hmem => hfirst _ hmem rfl
          rwa [← List.mem_cons] at hsafe

theorem whole_start {reader : ProcessStream → Reader}
    (hstopped : ∀ which, (reader which).running = false → (reader which).unread = []) :
    Whole (fun which => (reader which).unread) (.start reader) :=
  ⟨[], relayInv_start reader hstopped, rfl, fun _ hm => nomatch hm⟩

end

/-- **A client that gets an exit status has got everything.** Let any writes fail in a run of either
service with the bridge, as long as a stream on which a write failed takes nothing more. At every
moment the client has received the beginning of each stream of the child, in order. Once it has
received an exit status, it has received all of both, and the status is the one that the wait
found. -/
theorem status_means_complete (json : SerdeJson ProcessOutput) (hjson : json.Writes processOutput) :
    (∀ stdout stderr h s, PipedRun json stdout stderr h s →
      BrokenStays (h.filterMap fun e => e.part.toRelay) →
        Truthful (pipedTotal stdout stderr) s.relay ∧
        ∀ code, .exitStatus code ∈ s.relay.bridge.channel → ∃ status err,
          s.child = .waited status err ∧ waitCode (exitStatusCode status) err = code) ∧
    ∀ processGroup output h s, PtyRun json processGroup output h s →
      BrokenStays (h.filterMap fun e => e.part.toRelay) →
        Truthful (ptyTotal output) s.relay ∧
        ∀ code, .exitStatus code ∈ s.relay.bridge.channel → ∃ status err,
          s.child = .waited status err ∧ waitCode status err = code := by
  constructor
  · intro stdout stderr h s hr hbroken
    have htruthful : Truthful (pipedTotal stdout stderr) s.relay := by
      refine (safe_of_run hjson ?_ (fun _ _ _ hs => hs.moves) hr hbroken).truthful
      rintro s rfl
      rw [← total_pipedService json]
      exact whole_start (pipedService json stdout stderr).reader_start
    refine ⟨htruthful, fun code hcode => ?_⟩
    exact (statusInv_of_run hr).exists_waited (htruthful.status code hcode).1
  · intro processGroup output h s hr hbroken
    have htruthful : Truthful (ptyTotal output) s.relay := by
      refine (safe_of_run hjson ?_ (fun _ _ _ hs => hs.moves) hr hbroken).truthful
      rintro s rfl
      rw [← total_ptyService json processGroup]
      exact whole_start (ptyService json processGroup output).reader_start
    refine ⟨htruthful, fun code hcode => ?_⟩
    exact (ptyStatusInv_of_run hr).exists_waited (htruthful.status code hcode).1

/-- Three bytes of a message are written, and then the stream breaks. The client gets an end without
a status. -/
theorem cut_off_without_status :
    ∃ h s, PipedRun (serdeJson processOutput) [104, 105] [] h s ∧
      s.relay.bridge.channel = [.eof] ∧ Truthful (pipedTotal [104, 105] []) s.relay := by
  have hr : PipedRun (serdeJson processOutput) [104, 105] []
      [.relay .bridgeSend, .relay .bridgeRead, .relay .shutdown, .relay .sendFails,
        .relay (.write 3), .relay .recv, .relay (.read .stdout 2)] _ :=
    .cons (.cons (.cons (.cons (.cons (.cons (.cons (.nil rfl)
      (.relay (.read rfl (by decide) (by decide) (by decide) (by decide)) (fun _ h => nomatch h)))
      (.relay (.recv rfl rfl rfl) (fun _ h => nomatch h)))
      (.relay (.write (by decide) (by decide)) (fun _ h => nomatch h)))
      (.relay (.sendFails rfl) (fun _ h => nomatch h)))
      (.relay (.shutdown rfl) (fun _ h => nomatch h)))
      (.relay (.bridgeEnd rfl) (fun _ h => nomatch h)))
      (.relay (.bridgeSend rfl) (fun _ h => nomatch h))
  have htrue := (status_means_complete _ (serdeJson_writes processOutput)).1 _ _ _ _ hr (by
    unfold BrokenStays
    decide)
  exact ⟨_, _, hr, rfl, htrue.1⟩

end Narrowd.Services
