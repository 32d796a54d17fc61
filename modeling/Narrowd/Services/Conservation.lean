import Narrowd.Services.Relay

set_option autoImplicit false

/-! # Nothing is lost between the child and the channel

While no write fails, what the client has received of a stream, what is in transit between the
processes, what is queued and what has not been read make up the stream, in that order. `RelayInv`
says so, together with where the exit status is: nowhere before the output loop is left, and from
then on in transit or with the bridge, exactly once.
-/

namespace Narrowd.Services

open Lib Executor Executor.Json

/-! ## What messages carry -/

/-- The bytes of a stream that a message carries. -/
def ProcessStream.carried : ProcessStream → ProcessOutput → List UInt8
  | .stdout, .stdout bytes => bytes
  | .stderr, .stderr bytes => bytes
  | _, _ => []

def ProcessStream.received : ProcessStream → ChannelMsg → List UInt8
  | .stdout, .data bytes => bytes
  | .stderr, .extendedData _ bytes => bytes
  | _, _ => []

/-- Output on the channel: data, or extended data of the type for `stderr`. -/
def ChannelMsg.IsOutput : ChannelMsg → Prop
  | .data _ => True
  | .extendedData ext _ => ext = 1
  | .exitStatus _ | .eof | .close => False

def status : ProcessOutput → Option UInt32
  | .exitStatus code => some code
  | .stdout _ | .stderr _ => none

theorem length_frame (payload : List UInt8) : (frame payload).length = 4 + payload.length := by
  rw [frame, List.length_append, length_bigEndian]

/-- A reader's chunk is carried for its own stream only. -/
theorem carried_message (which other : ProcessStream) (chunk : List UInt8) :
    other.carried (which.message chunk) = if other = which then chunk else [] := by
  cases which <;> cases other <;> rfl

theorem status_message (which : ProcessStream) (chunk : List UInt8) :
    status (which.message chunk) = none := by
  cases which <;> rfl

theorem payload_message (which : ProcessStream) (chunk : List UInt8) :
    (which.message chunk).payload = chunk := by
  cases which <;> rfl

variable {m : ProcessOutput}

/-- The bridge writes output to the channel as it was read. -/
theorem relay_of_output (hm : status m = none) (b : Bridge) :
    ∃ c : ChannelMsg, c.IsOutput ∧ (∀ which : ProcessStream, which.received c = which.carried m) ∧
      b.relay m = { b with channel := b.channel ++ [c] } := by
  cases m with
  | stdout bytes => exact ⟨.data bytes, trivial, fun which => by cases which <;> rfl, rfl⟩
  | stderr bytes => exact ⟨.extendedData 1 bytes, rfl, fun which => by cases which <;> rfl, rfl⟩
  | exitStatus code => cases hm

/-- Small enough for both readers. -/
theorem length_toBytes_le (hm : m.payload.length ≤ 8192) :
    (processOutput.toBytes m).length ≤ 1024 * 1024 := by
  have h := length_processOutput_le m
  omega

variable {e : RelayEvent} {s' : Relay} {which : ProcessStream} {rest : List ProcessOutput}

section

variable {json : SerdeJson ProcessOutput}

theorem beginSend_output (hjson : json.Writes processOutput) (hm : m.payload.length ≤ 8192) :
    beginSend (sendSessionMessage json) m = (true, frame (processOutput.toBytes m)) := by
  have hlength := length_toBytes_le hm
  exact beginSend_eq hjson (by omega) _ _

/-! ## The invariant -/

/-- The output loop is still running. -/
def Phase.looping : Phase → Bool
  | .selecting | .sending _ => true
  | .exiting _ | .shutting | .ended => false

/-- A message is being sent. -/
def Phase.busy : Phase → Bool
  | .sending _ | .exiting _ => true
  | .selecting | .shutting | .ended => false

/-- What the bridge has done in each of its phases. -/
def BridgeInv (s : Relay) : Prop :=
  match s.bridge.phase with
  | .reading => ∀ m ∈ s.bridge.channel, m.IsOutput
  | .closing todo =>
      s.phase = .ended ∧ s.wire = [] ∧ ∃ output last code, s.exit = some code ∧
        s.bridge.channel = output ++ last ∧ last ++ todo = [.exitStatus code, .eof, .close] ∧
        ∀ m ∈ output, m.IsOutput
  | .failed _ => False

/-- What holds between two steps while `transit` is between the output loop and the bridge. -/
structure RelayInv (total : ProcessStream → List UInt8) (transit : List ProcessOutput)
    (s : Relay) : Prop where
  framed : s.wire ++ s.left = frames processOutput transit
  small : ∀ m ∈ transit ++ s.queue, m.payload.length ≤ 8192
  queued : ∀ m ∈ s.queue, status m = none
  conserved : ∀ which : ProcessStream,
    s.bridge.channel.flatMap which.received ++ (transit.flatMap which.carried ++
      (s.queue.flatMap which.carried ++ (s.reader which).unread)) = total which
  drained : ∀ which, (s.reader which).running = false → (s.reader which).unread = []
  closed : s.outputClosed = true → s.queue = [] ∧ ∀ which, (s.reader which).running = false
  exit : s.childExit = none ∨ s.childExit = s.exit
  encoded : s.phase ≠ .sending false ∧ s.phase ≠ .exiting false
  written : s.phase.busy = false → s.left = []
  looping : s.phase.looping = true →
    transit.filterMap status ++ s.bridge.exitStatus.toList = []
  leaving : s.phase.looping = false → s.outputClosed = true ∧
    ∃ code, s.exit = some code ∧ transit.filterMap status ++ s.bridge.exitStatus.toList = [code]
  bridge : BridgeInv s

theorem relayInv_start (reader : ProcessStream → Reader)
    (hstopped : ∀ which, (reader which).running = false → (reader which).unread = []) :
    RelayInv (fun which => (reader which).unread) [] (.start reader) where
  framed := rfl
  small := fun _ hm => nomatch hm
  queued := fun _ hm => nomatch hm
  conserved := fun _ => rfl
  drained := hstopped
  closed := fun h => nomatch h
  exit := .inl rfl
  encoded := ⟨(fun h => nomatch h), (fun h => nomatch h)⟩
  written := fun _ => rfl
  looping := fun _ => rfl
  leaving := fun h => nomatch h
  bridge := fun _ hm => nomatch hm

variable {total : ProcessStream → List UInt8} {transit : List ProcessOutput} {s : Relay}

/-- Until the output loop's task has ended the bridge is reading. -/
theorem RelayInv.reading (hi : RelayInv total transit s) (hphase : s.phase ≠ .ended) :
    s.bridge.phase = .reading ∧ ∀ m ∈ s.bridge.channel, m.IsOutput := by
  have hb := hi.bridge
  unfold BridgeInv at hb
  cases hbridge : s.bridge.phase with
  | reading =>
      rw [hbridge] at hb
      exact ⟨rfl, hb⟩
  | closing todo =>
      rw [hbridge] at hb
      exact absurd hb.1 hphase
  | failed err =>
      rw [hbridge] at hb
      exact hb.elim

theorem bridgeInv_of_reading (hbridge : s.bridge.phase = .reading)
    (houtput : ∀ m ∈ s.bridge.channel, m.IsOutput) : BridgeInv s := by
  unfold BridgeInv
  rw [hbridge]
  exact houtput

/-! ## The readers -/

/-- A loop that has been left leaves no reader running. -/
theorem RelayInv.looping_of_running (hi : RelayInv total transit s)
    (hrun : (s.reader which).running = true) : s.phase.looping = true := by
  by_contra hleft
  obtain ⟨hclosed, -⟩ := hi.leaving (Bool.eq_false_iff.mpr hleft)
  have hstopped := (hi.closed hclosed).2 which
  cases hrun.symm.trans hstopped

/-- **A chunk moves from the stream to the queue.** -/
theorem RelayInv.read (hi : RelayInv total transit s) {n : Nat}
    (hrun : (s.reader which).running = true) (hbuffer : n ≤ 8192) :
    RelayInv total transit
      { s with
        reader := Function.update s.reader which ⟨(s.reader which).unread.drop n, true⟩
        queue := s.queue ++ [which.message ((s.reader which).unread.take n)] } := by
  refine { hi with small := ?_, queued := ?_, conserved := ?_, drained := ?_, closed := ?_ }
  · intro m hm
    rw [← List.append_assoc] at hm
    rcases List.mem_append.mp hm with hm | hm
    · exact hi.small m hm
    · rw [List.mem_singleton.mp hm, payload_message, List.length_take]
      omega
  · intro m hm
    rcases List.mem_append.mp hm with hm | hm
    · exact hi.queued m hm
    · rw [List.mem_singleton.mp hm]
      exact status_message which _
  · intro other
    dsimp only
    rw [← hi.conserved other, List.flatMap_append, List.flatMap_singleton, carried_message]
    by_cases hother : other = which
    · subst hother
      rw [Function.update_self, if_pos rfl, List.append_assoc, List.take_append_drop]
    · rw [Function.update_of_ne hother, if_neg hother, List.append_nil]
  · intro other hstopped
    dsimp only at hstopped ⊢
    by_cases hother : other = which
    · subst hother
      simp at hstopped
    · rw [Function.update_of_ne hother] at hstopped ⊢
      exact hi.drained other hstopped
  · intro hclosed
    have hstopped := (hi.closed hclosed).2 which
    cases hrun.symm.trans hstopped

theorem RelayInv.readEnd (hi : RelayInv total transit s) (hend : (s.reader which).unread = []) :
    RelayInv total transit { s with reader := Function.update s.reader which ⟨[], false⟩ } := by
  have hunread : ∀ other, (Function.update s.reader which ⟨[], false⟩ other).unread =
      (s.reader other).unread := by
    intro other
    by_cases hother : other = which
    · subst hother
      rw [Function.update_self, hend]
    · rw [Function.update_of_ne hother]
  refine { hi with conserved := ?_, drained := ?_, closed := ?_ }
  · intro other
    dsimp only
    rw [hunread]
    exact hi.conserved other
  · intro other hstopped
    dsimp only at hstopped ⊢
    rw [hunread]
    by_cases hother : other = which
    · subst hother
      exact hend
    · rw [Function.update_of_ne hother] at hstopped
      exact hi.drained other hstopped
  · intro hclosed
    obtain ⟨hqueue, hstopped⟩ := hi.closed hclosed
    refine ⟨hqueue, fun other => ?_⟩
    dsimp only
    by_cases hother : other = which
    · subst hother
      rw [Function.update_self]
    · rw [Function.update_of_ne hother]
      exact hstopped other

/-! ## The output loop -/

/-- **A message moves from the queue into transit**, and its frame is to be written. -/
theorem RelayInv.recv (hjson : json.Writes processOutput) (hi : RelayInv total transit s)
    {output : ProcessOutput} (hphase : s.phase = .selecting) (hqueue : s.queue = output :: rest) :
    RelayInv total (transit ++ [output])
      { s with
        queue := rest
        phase := .sending (beginSend (sendSessionMessage json) output).1
        left := (beginSend (sendSessionMessage json) output).2 } := by
  have hmem : output ∈ s.queue := by rw [hqueue]; exact List.mem_cons_self
  have hstatus := hi.queued output hmem
  have hloop := hi.looping (by rw [hphase]; rfl)
  have hframed := hi.framed
  rw [hi.written (by rw [hphase]; rfl), List.append_nil] at hframed
  obtain ⟨hreading, houtput⟩ := hi.reading (by rw [hphase]; exact fun h => nomatch h)
  rw [beginSend_output hjson (hi.small output (List.mem_append_right _ hmem))]
  refine { hi with
    framed := ?_, small := ?_, queued := ?_, conserved := ?_, closed := ?_, encoded := ?_,
    written := ?_, looping := ?_, leaving := ?_, bridge := ?_ }
  · show s.wire ++ frame (processOutput.toBytes output) = frames processOutput (transit ++ [output])
    rw [frames_concat, hframed]
  · intro m hm
    apply hi.small m
    rw [hqueue, ← List.singleton_append, ← List.append_assoc]
    exact hm
  · intro m hm
    apply hi.queued m
    rw [hqueue]
    exact List.mem_cons_of_mem output hm
  · intro which
    dsimp only
    rw [← hi.conserved which, hqueue, List.flatMap_append, List.flatMap_singleton,
      List.flatMap_cons, List.append_assoc, List.append_assoc]
  · intro hclosed
    have hnil := (hi.closed hclosed).1
    cases hqueue.symm.trans hnil
  · exact ⟨(fun h => nomatch h), (fun h => nomatch h)⟩
  · exact fun h => nomatch h
  · intro _
    simpa [hstatus] using hloop
  · exact fun h => nomatch h
  · exact bridgeInv_of_reading hreading houtput

theorem RelayInv.recvNone (hi : RelayInv total transit s) (hphase : s.phase = .selecting)
    (hqueue : s.queue = []) (hreaders : ∀ which, (s.reader which).running = false) :
    RelayInv total transit { s with outputClosed := true } :=
  { hi with
    closed := fun _ => ⟨hqueue, hreaders⟩
    leaving := fun h => by rw [show s.phase = .selecting from hphase] at h; cases h }

theorem RelayInv.exited (hi : RelayInv total transit s) {code : UInt32}
    (hexit : s.exit = some code) : RelayInv total transit { s with childExit := some code } :=
  { hi with exit := .inr hexit.symm }

/-- **The status comes after all output**: the loop is left with the queue closed, so its frame is
the last. -/
theorem RelayInv.leave (hjson : json.Writes processOutput) (hi : RelayInv total transit s)
    (hphase : s.phase = .selecting) (hclosed : s.outputClosed = true)
    (hsome : s.childExit.isSome = true) :
    ∃ transit', RelayInv total transit' (s.leaveLoop json) := by
  obtain ⟨code, hcode⟩ := Option.isSome_iff_exists.mp hsome
  have hexit : s.exit = some code := by
    rcases hi.exit with hnone | heq
    · cases hcode.symm.trans hnone
    · exact heq.symm.trans hcode
  have hloop := hi.looping (by rw [hphase]; rfl)
  have hframed := hi.framed
  rw [hi.written (by rw [hphase]; rfl), List.append_nil] at hframed
  obtain ⟨hreading, houtput⟩ := hi.reading (by rw [hphase]; exact fun h => nomatch h)
  have hsmall : (ProcessOutput.exitStatus code).payload.length ≤ 8192 := Nat.zero_le _
  refine ⟨transit ++ [.exitStatus code], ?_⟩
  rw [Relay.leaveLoop, hcode]
  dsimp only
  rw [beginSend_output hjson hsmall]
  refine { hi with
    framed := ?_, small := ?_, conserved := ?_, exit := ?_, encoded := ?_, written := ?_,
    looping := ?_, leaving := ?_, bridge := ?_ }
  · show s.wire ++ frame (processOutput.toBytes (.exitStatus code)) =
      frames processOutput (transit ++ [_])
    rw [frames_concat, hframed]
  · intro m hm
    rw [List.append_assoc] at hm
    rcases List.mem_append.mp hm with hm | hm
    · exact hi.small m (List.mem_append_left _ hm)
    · rcases List.mem_cons.mp hm with rfl | hm
      · exact hsmall
      · exact hi.small m (List.mem_append_right _ hm)
  · intro which
    dsimp only
    have hnothing : which.carried (.exitStatus code) = [] := by cases which <;> rfl
    rw [← hi.conserved which, List.flatMap_append, List.flatMap_singleton, hnothing,
      List.append_nil]
  · exact .inr hexit.symm
  · exact ⟨(fun h => nomatch h), (fun h => nomatch h)⟩
  · exact fun h => nomatch h
  · exact fun h => nomatch h
  · refine fun _ => ⟨hclosed, code, hexit, ?_⟩
    obtain ⟨htransit, hstatus⟩ := List.append_eq_nil_iff.mp hloop
    rw [List.filterMap_append, htransit, hstatus]
    rfl
  · exact bridgeInv_of_reading hreading houtput

/-- Writing moves bytes along; the frames are the same. -/
theorem RelayInv.write (hi : RelayInv total transit s) {n : Nat} (hpos : 0 < n)
    (hn : n ≤ s.left.length) :
    RelayInv total transit
      { s with left := s.left.drop n, wire := s.wire ++ s.left.take n } := by
  have hbusy : s.phase.busy = true := by
    by_contra hidle
    rw [hi.written (Bool.eq_false_iff.mpr hidle), List.length_nil] at hn
    omega
  obtain ⟨hreading, houtput⟩ := hi.reading (by
    intro hended
    rw [hended] at hbusy
    cases hbusy)
  refine { hi with framed := ?_, written := ?_, bridge := ?_ }
  · show s.wire ++ s.left.take n ++ s.left.drop n = frames processOutput transit
    rw [List.append_assoc, List.take_append_drop]
    exact hi.framed
  · intro hidle
    cases hbusy.symm.trans hidle
  · exact bridgeInv_of_reading hreading houtput

theorem RelayInv.sent (hi : RelayInv total transit s) (hphase : s.phase = .sending true)
    (hleft : s.left = []) : RelayInv total transit { s with phase := .selecting } := by
  obtain ⟨hreading, houtput⟩ := hi.reading (by rw [hphase]; exact fun h => nomatch h)
  exact { hi with
    encoded := ⟨(fun h => nomatch h), (fun h => nomatch h)⟩
    written := fun _ => hleft
    looping := fun _ => hi.looping (by rw [hphase]; rfl)
    leaving := fun h => nomatch h
    bridge := bridgeInv_of_reading hreading houtput }

theorem RelayInv.sentExit (hi : RelayInv total transit s) (hphase : s.phase = .exiting true)
    (hleft : s.left = []) : RelayInv total transit { s with phase := .shutting } := by
  obtain ⟨hreading, houtput⟩ := hi.reading (by rw [hphase]; exact fun h => nomatch h)
  exact { hi with
    encoded := ⟨(fun h => nomatch h), (fun h => nomatch h)⟩
    written := fun _ => hleft
    looping := fun h => nomatch h
    leaving := fun _ => hi.leaving (by rw [hphase]; rfl)
    bridge := bridgeInv_of_reading hreading houtput }

theorem RelayInv.shutdown (hi : RelayInv total transit s) (hphase : s.phase = .shutting) :
    RelayInv total transit { s with phase := .ended } := by
  obtain ⟨hreading, houtput⟩ := hi.reading (by rw [hphase]; exact fun h => nomatch h)
  exact { hi with
    encoded := ⟨(fun h => nomatch h), (fun h => nomatch h)⟩
    written := fun _ => hi.written (by rw [hphase]; rfl)
    looping := fun h => nomatch h
    leaving := fun _ => hi.leaving (by rw [hphase]; rfl)
    bridge := bridgeInv_of_reading hreading houtput }

theorem RelayInv.waited (hi : RelayInv total transit s) {code : UInt32} (hexit : s.exit = none) :
    RelayInv total transit { s with exit := some code } := by
  have hloop : s.phase.looping = true := by
    by_contra hleft
    obtain ⟨-, code, hcode, -⟩ := hi.leaving (Bool.eq_false_iff.mpr hleft)
    cases hexit.symm.trans hcode
  obtain ⟨hreading, houtput⟩ := hi.reading (by
    intro hended
    rw [hended] at hloop
    cases hloop)
  refine { hi with
    exit := .inl ?_
    leaving := fun hleft => by cases hloop.symm.trans hleft
    bridge := bridgeInv_of_reading hreading houtput }
  rcases hi.exit with hnone | heq
  · exact hnone
  · exact heq.trans hexit

/-! ## The bridge -/

/-- A frame of which something is missing makes the bridge wait. -/
theorem frameComplete_of_cut {wire rest payload : List UInt8} (hcut : wire ++ rest = frame payload)
    (hrest : rest ≠ []) (hlength : payload.length ≤ 1024 * 1024) : frameComplete wire = false := by
  have hwire : (⟨[wire], none⟩ : Source UInt8 IoError).bytes = wire := List.append_nil wire
  unfold frameComplete
  rcases readFrame_cut (s := (⟨[wire], none⟩ : Source UInt8 IoError)) (by rw [hwire]; exact hcut)
    hrest hlength (by omega) with h | h
  · rw [h]
  · rw [h]

/-- **What the bridge reads next** is the first message in transit, or the end of the stream when
there is none. -/
theorem RelayInv.nextMessage (hjson : json.Writes processOutput) (hi : RelayInv total transit s)
    {result : Except AnyError (Option ProcessOutput)} {r : Source UInt8 IoError}
    (hnext : s.nextMessage json = some (result, r)) :
    s.bridge.phase = .reading ∧
    ((∃ m rest, transit = m :: rest ∧ result = .ok (some m) ∧
      r.bytes ++ s.left = frames processOutput rest) ∨
      (transit = [] ∧ s.phase = .ended ∧ result = .ok none ∧ r.bytes = [])) := by
  have hbridge : s.bridge.phase = .reading := by
    unfold Relay.nextMessage at hnext
    split at hnext
    · assumption
    · cases hnext
  have hready : s.phase = .ended ∨ frameComplete s.wire = true := by
    by_contra hwait
    simp [Relay.nextMessage, hbridge, if_neg hwait] at hnext
  have hread : readProcessMessage json ⟨[s.wire], none⟩ = (result, r) := by
    simpa [Relay.nextMessage, hbridge, if_pos hready] using hnext
  have hwire : (⟨[s.wire], none⟩ : Source UInt8 IoError).bytes = s.wire := List.append_nil s.wire
  have hframed := hi.framed
  refine ⟨hbridge, ?_⟩
  cases transit with
  | nil =>
      right
      obtain ⟨hnil, -⟩ := List.append_eq_nil_iff.mp hframed
      have hend : readProcessMessage json ⟨[s.wire], none⟩ = (.ok none, ⟨[s.wire], none⟩) :=
        readMessage_end json _ _ (hwire.trans hnil) rfl
      cases hread.symm.trans hend
      refine ⟨rfl, ?_, rfl, hwire.trans hnil⟩
      rcases hready with hended | hcomplete
      · exact hended
      · rw [hnil] at hcomplete
        cases hcomplete
  | cons m rest =>
      left
      have hlength := length_toBytes_le (hi.small m List.mem_cons_self)
      -- the whole frame is on the wire, or the loop is still writing it
      have hfull : ∃ w, s.wire = frame (processOutput.toBytes m) ++ w ∧
          w ++ s.left = frames processOutput rest := by
        rw [frames_cons] at hframed
        rcases List.append_eq_append_iff.mp hframed with ⟨t, hcut, hleft⟩ | ⟨w, hfull, hrest⟩
        · by_cases ht : t = []
          · subst ht
            exact ⟨[], by rw [hcut, List.append_nil, List.append_nil], hleft⟩
          · rcases hready with hended | hcomplete
            · have hnone := hi.written (by rw [hended]; rfl)
              rw [hleft] at hnone
              exact absurd (List.append_eq_nil_iff.mp hnone).1 ht
            · rw [frameComplete_of_cut hcut.symm ht hlength] at hcomplete
              cases hcomplete
        · exact ⟨w, hfull, hrest.symm⟩
      obtain ⟨w, hfull, hrest⟩ := hfull
      obtain ⟨r', hmessage, hbytes, -⟩ :
          ∃ r', readProcessMessage json ⟨[s.wire], none⟩ = (.ok (some m), r') ∧ r'.bytes = w ∧ _ :=
        readMessage_eq hjson _ (hwire.trans hfull) hlength (by omega)
      cases hread.symm.trans hmessage
      exact ⟨m, rest, rfl, rfl, by rw [hbytes]; exact hrest⟩

/-- **A message moves from transit to the channel**, or to where the bridge keeps the status. -/
theorem RelayInv.bridgeRead (hi : RelayInv total (m :: rest) s) {wire : List UInt8}
    (hwire : wire ++ s.left = frames processOutput rest) (hbridge : s.bridge.phase = .reading) :
    RelayInv total rest { s with wire := wire, bridge := s.bridge.relay m } := by
  have houtput : ∀ c ∈ s.bridge.channel, c.IsOutput := by
    have hb := hi.bridge
    unfold BridgeInv at hb
    rwa [hbridge] at hb
  have hsmall : ∀ m' ∈ rest ++ s.queue, m'.payload.length ≤ 8192 := fun m' hm' =>
    hi.small m' (List.mem_cons_of_mem m hm')
  cases hstatus : status m with
  | none =>
      obtain ⟨c, hc, hreceived, hrelay⟩ := relay_of_output hstatus s.bridge
      have hfilter : (m :: rest).filterMap status = rest.filterMap status := by
        rw [List.filterMap_cons, hstatus]
      rw [hrelay]
      refine { hi with
        framed := hwire, small := hsmall, conserved := ?_, looping := ?_, leaving := ?_,
        bridge := bridgeInv_of_reading hbridge ?_ }
      · intro which
        dsimp only
        rw [← hi.conserved which, List.flatMap_append, List.flatMap_singleton, hreceived which,
          List.flatMap_cons, List.append_assoc, List.append_assoc]
      · intro hloop
        rw [← hfilter]
        exact hi.looping hloop
      · intro hloop
        rw [← hfilter]
        exact hi.leaving hloop
      · intro c' hc'
        rcases List.mem_append.mp hc' with hc' | hc'
        · exact houtput c' hc'
        · rw [List.mem_singleton.mp hc']
          exact hc
  | some code =>
      obtain rfl : m = .exitStatus code := by
        cases m with
        | stdout bytes => cases hstatus
        | stderr bytes => cases hstatus
        | exitStatus code' => cases hstatus; rfl
      refine { hi with
        framed := hwire, small := hsmall, conserved := ?_, looping := ?_, leaving := ?_,
        bridge := bridgeInv_of_reading hbridge houtput }
      · intro which
        dsimp only
        rw [← hi.conserved which]
        have hnothing : which.carried (.exitStatus code) = [] := by cases which <;> rfl
        rw [List.flatMap_cons, hnothing]
        rfl
      · intro hloop
        have hnil := hi.looping hloop
        cases hnil
      · intro hloop
        obtain ⟨hclosed, code', hexit, hone⟩ := hi.leaving hloop
        refine ⟨hclosed, code', hexit, ?_⟩
        obtain ⟨rfl, hnil⟩ := List.cons_eq_cons.mp hone
        rw [(List.append_eq_nil_iff.mp hnil).1]
        rfl

/-- At the end of the stream the bridge has the status, and only the end of the channel is left to
write. -/
theorem RelayInv.bridgeEnd (hi : RelayInv total [] s) (hended : s.phase = .ended)
    (hbridge : s.bridge.phase = .reading) :
    RelayInv total [] { s with wire := [], bridge := s.bridge.finish } := by
  have hb := hi.bridge
  unfold BridgeInv at hb
  rw [hbridge] at hb
  obtain ⟨-, code, hexit, hone⟩ := hi.leaving (by rw [hended]; rfl)
  have hstatus : s.bridge.exitStatus = some code := by
    rw [List.filterMap_nil, List.nil_append] at hone
    cases h : s.bridge.exitStatus with
    | none => rw [h] at hone; cases hone
    | some code' => rw [h] at hone; cases hone; rfl
  refine { hi with framed := ?_, bridge := ?_ }
  · exact hi.written (by rw [hended]; rfl)
  · refine ⟨hended, rfl, s.bridge.channel, [], code, hexit, (List.append_nil _).symm, ?_, hb⟩
    rw [hstatus]
    rfl

theorem RelayInv.bridgeSend (hi : RelayInv total transit s) {message : ChannelMsg}
    {todo : List ChannelMsg} (hbridge : s.bridge.phase = .closing (message :: todo)) :
    RelayInv total transit
      { s with
        bridge := { s.bridge with
          phase := .closing todo
          channel := s.bridge.channel ++ [message] } } := by
  have hb := hi.bridge
  unfold BridgeInv at hb
  rw [hbridge] at hb
  obtain ⟨hended, hwire, output, last, code, hexit, hchannel, hlast, houtput⟩ := hb
  have hmessage : message ∈ [.exitStatus code, .eof, .close] := by
    rw [← hlast]
    exact List.mem_append_right _ List.mem_cons_self
  have hnone : ∀ which : ProcessStream, which.received message = [] := by
    intro which
    simp only [List.mem_cons, List.not_mem_nil, or_false] at hmessage
    rcases hmessage with rfl | rfl | rfl <;> cases which <;> rfl
  refine { hi with conserved := ?_, bridge := ?_ }
  · intro which
    dsimp only
    rw [← hi.conserved which, List.flatMap_append, List.flatMap_singleton, hnone, List.append_nil]
  · refine ⟨hended, hwire, output, last ++ [message], code, hexit, ?_, ?_, houtput⟩
    · rw [hchannel, List.append_assoc]
    · rw [List.append_assoc]
      exact hlast

/-! ## Before the child's exit -/

/-- The waiter has not sent a status, and the output loop is running. -/
structure Relay.Waiting (s : Relay) : Prop where
  exit : s.exit = none
  childExit : s.childExit = none
  looping : s.phase.looping = true

/-- **The loop goes on until there is a status**, unless a message cannot be sent. -/
theorem Relay.Waiting.step (hw : s.Waiting) (hs : RelayStep json s e s') (hsend : e ≠ .sendFails)
    (hwaited : ∀ code, e ≠ .waited code) : s'.Waiting := by
  obtain ⟨hexit, hchild, hloop⟩ := hw
  cases hs with
  | exited _ _ hsome => cases hexit.symm.trans hsome
  | leave _ _ hsome => rw [hchild] at hsome; cases hsome
  | sentExit hphase _ => rw [hphase] at hloop; cases hloop
  | shutdown hphase => rw [hphase] at hloop; cases hloop
  | sendFails _ => exact absurd rfl hsend
  | sendExitFails _ => exact absurd rfl hsend
  | waited _ => exact absurd rfl (hwaited _)
  | recv _ _ _ => exact ⟨hexit, hchild, rfl⟩
  | sent _ _ => exact ⟨hexit, hchild, rfl⟩
  | _ => exact ⟨hexit, hchild, hloop⟩

/-- A loop that has been left stays so, and takes no status. -/
theorem RelayStep.left (hs : RelayStep json s e s') (hleft : s.phase.looping = false) :
    s'.phase.looping = false ∧ e ≠ .exited := by
  cases hs with
  | recv hphase => rw [hphase] at hleft; cases hleft
  | recvNone hphase => rw [hphase] at hleft; cases hleft
  | exited hphase => rw [hphase] at hleft; cases hleft
  | leave hphase => rw [hphase] at hleft; cases hleft
  | sent hphase => rw [hphase] at hleft; cases hleft
  | sendFails hphase => rw [hphase] at hleft; cases hleft
  | sentExit => exact ⟨rfl, fun h => nomatch h⟩
  | sendExitFails => exact ⟨rfl, fun h => nomatch h⟩
  | shutdown => exact ⟨rfl, fun h => nomatch h⟩
  | _ => exact ⟨hleft, fun h => nomatch h⟩

/-- Only the waiter sends a status. -/
theorem RelayStep.exit_eq (hs : RelayStep json s e s') (hwaited : ∀ code, e ≠ .waited code) :
    s'.exit = s.exit := by
  have hleave : (s.leaveLoop json).exit = s.exit := by
    unfold Relay.leaveLoop
    split <;> rfl
  cases hs with
  | leave _ _ _ => exact hleave
  | sendFails _ => exact hleave
  | waited _ => exact absurd rfl (hwaited _)
  | _ => rfl

/-! ## All steps -/

/-- **Every step keeps the invariant** while writes succeed. -/
theorem RelayInv.step (hjson : json.Writes processOutput) (hi : RelayInv total transit s)
    (hs : RelayStep json s e s') (he : e.Succeeds) : ∃ transit', RelayInv total transit' s' := by
  cases hs with
  | read hrun _ hbuffer _ _ => exact ⟨transit, hi.read hrun hbuffer⟩
  | readLast hrun _ _ _ hphase =>
      have hloop := hi.looping_of_running hrun
      rw [hphase] at hloop
      cases hloop
  | readEnd _ hend => exact ⟨transit, hi.readEnd hend⟩
  | recv hphase _ hqueue => exact ⟨_, hi.recv hjson hphase hqueue⟩
  | recvNone hphase _ hqueue hreaders => exact ⟨transit, hi.recvNone hphase hqueue hreaders⟩
  | exited _ _ hexit => exact ⟨transit, hi.exited hexit⟩
  | leave hphase hclosed hexit => exact hi.leave hjson hphase hclosed hexit
  | write hpos hn => exact ⟨transit, hi.write hpos hn⟩
  | sent hphase hleft => exact ⟨transit, hi.sent hphase hleft⟩
  | sentExit hphase hleft => exact ⟨transit, hi.sentExit hphase hleft⟩
  | sendFails _ => exact he.elim
  | sendExitFails _ => exact he.elim
  | shutdown hphase => exact ⟨transit, hi.shutdown hphase⟩
  | waited hexit => exact ⟨transit, hi.waited hexit⟩
  | bridgeRead hnext =>
      obtain ⟨hbridge, ⟨m, rest, rfl, hm, hwire⟩ | ⟨-, -, hm, -⟩⟩ := hi.nextMessage hjson hnext
      · cases hm
        exact ⟨rest, hi.bridgeRead hwire hbridge⟩
      · cases hm
  | bridgeEnd hnext =>
      obtain ⟨hbridge, ⟨m, rest, -, hm, -⟩ | ⟨rfl, hended, -, hwire⟩⟩ := hi.nextMessage hjson hnext
      · cases hm
      · rw [hwire]
        exact ⟨[], hi.bridgeEnd hended hbridge⟩
  | bridgeError hnext =>
      obtain ⟨-, ⟨m, rest, -, hm, -⟩ | ⟨-, -, hm, -⟩⟩ := hi.nextMessage hjson hnext
      · cases hm
      · cases hm
  | bridgeFails _ => exact he.elim
  | bridgeSend hphase => exact ⟨transit, hi.bridgeSend hphase⟩
  | bridgeSendFails _ => exact he.elim

/-- What the client has when its channel is closed: all output in order, and after it one exit
status, the end and the close. -/
def Delivered (total : ProcessStream → List UInt8) (code : UInt32) (channel : List ChannelMsg) :
    Prop :=
  ∃ output, channel = output ++ [.exitStatus code, .eof, .close] ∧
    (∀ m ∈ output, m.IsOutput) ∧
      ∀ which : ProcessStream, output.flatMap which.received = total which

/-- The bridge has written everything. -/
def Relay.Finished (s : Relay) : Prop := s.bridge.phase = .closing []

/-- **At the end everything has been delivered.** -/
theorem RelayInv.delivered (hi : RelayInv total transit s) (hfinished : s.Finished) :
    ∃ code, s.exit = some code ∧ Delivered total code s.bridge.channel := by
  have hb := hi.bridge
  unfold BridgeInv at hb
  rw [hfinished] at hb
  obtain ⟨hended, hwire, output, last, code, hexit, hchannel, hlast, houtput⟩ := hb
  rw [List.append_nil] at hlast
  subst hlast
  obtain ⟨hclosed, -⟩ := hi.leaving (by rw [hended]; rfl)
  obtain ⟨hqueue, hstopped⟩ := hi.closed hclosed
  have htransit : transit = [] := by
    have hframed := hi.framed
    rw [hwire, hi.written (by rw [hended]; rfl)] at hframed
    cases transit with
    | nil => rfl
    | cons m rest => cases hframed
  refine ⟨code, hexit, output, hchannel, houtput, fun which => ?_⟩
  have hall := hi.conserved which
  rw [htransit, hqueue, hi.drained which (hstopped which), hchannel] at hall
  have hlast : [ChannelMsg.exitStatus code, .eof, .close].flatMap which.received = [] := by
    cases which <;> rfl
  rw [List.flatMap_append, hlast] at hall
  simpa using hall

end

end Narrowd.Services
