import Narrowd.Services.Piped
import Narrowd.Services.Pty
import Mathlib.Data.List.TakeWhile

set_option autoImplicit false

/-! # The end of the child's input

The client's messages are a language with two readers: the input loop of the service over pipes, and
the control thread of the service for a terminal. An `Eof` says that no more input comes. The
control thread drops its writer then; but the writer of a terminal has a last word, a line end and
the EOF character, and the child reads the line end. The input loop only calls `shutdown` on the
handle, which does not close a pipe, and keeps the handle until it ends; so the child waits for
input that will never come, and data that comes after the `Eof` is still written
(`eof_keeps_pipe_open`).

`Fed` adds to the state of a service the messages that were processed and the bytes that were
written to the child's input, in runs without write errors.
-/

namespace Narrowd.Services

open Lib Executor Executor.Json

/-! ## What the messages say about the input -/

/-- What a message has for the child's input. -/
def payload : ProcessInput → List UInt8
  | .data data => data
  | _ => []

/-- No input comes after this message. -/
def isStop : ProcessInput → Bool
  | .eof | .close => true
  | _ => false

/-- The data before the first `Eof` or `Close`. -/
def inputOf (ms : List ProcessInput) : List UInt8 :=
  (ms.takeWhile fun m => !isStop m).flatMap payload

/-- The messages before the first `Close`. -/
def untilClose (ms : List ProcessInput) : List ProcessInput :=
  ms.takeWhile fun m => decide (m ≠ .close)

/-- **The end of input reaches the child.** It has received the data before the first `Eof` or
`Close`, and no more; and if that was an `Eof`, its input is closed. -/
structure EndOfInput (ms : List ProcessInput) (received : List UInt8) (closed : Prop) : Prop where
  received_eq : received = inputOf ms
  closed : ms.find? isStop = some .eof → closed

/-- A service with the messages that it has processed and the input that the child has received. -/
structure Fed (σ : Type) where
  service : σ
  processed : List ProcessInput
  received : List UInt8

theorem inputOf_cons (m : ProcessInput) (ms : List ProcessInput) :
    inputOf (m :: ms) = if isStop m then [] else payload m ++ inputOf ms := by
  unfold inputOf
  rw [List.takeWhile_cons]
  cases isStop m <;> rfl

variable {ms : List ProcessInput}

theorem inputOf_append_of_going (h : ∀ m ∈ ms, isStop m = false) (ms' : List ProcessInput) :
    inputOf (ms ++ ms') = ms.flatMap payload ++ inputOf ms' := by
  induction ms with
  | nil => rfl
  | cons m ms ih =>
      have hgoing := h m List.mem_cons_self
      rw [List.cons_append, inputOf_cons, hgoing, List.flatMap_cons, List.append_assoc,
        ← ih fun m' hm' => h m' (List.mem_cons_of_mem _ hm')]
      rfl

/-- After an `Eof` or a `Close` nothing more counts as input. -/
theorem inputOf_append_of_stopped (h : ∃ m ∈ ms, isStop m = true) (ms' : List ProcessInput) :
    inputOf (ms ++ ms') = inputOf ms := by
  induction ms with
  | nil => obtain ⟨m, hm, -⟩ := h; cases hm
  | cons m ms ih =>
      rw [List.cons_append, inputOf_cons, inputOf_cons]
      cases hm : isStop m with
      | true => rfl
      | false =>
          obtain ⟨m', hmem, hstop⟩ := h
          rcases List.mem_cons.mp hmem with rfl | hmem
          · rw [hm] at hstop
            cases hstop
          · rw [ih ⟨m', hmem, hstop⟩]

theorem inputOf_of_going (h : ∀ m ∈ ms, isStop m = false) : inputOf ms = ms.flatMap payload := by
  have happend := inputOf_append_of_going h []
  rwa [List.append_nil, show inputOf [] = [] from rfl, List.append_nil] at happend

theorem isStop_eq_true_iff {m : ProcessInput} : isStop m = true ↔ m = .eof ∨ m = .close := by
  cases m <;> simp [isStop]

/-! ## Over pipes -/

/-- The message that the input loop comes to. -/
def Piped.processes (s : Piped) : PipedEvent → List ProcessInput
  | .handle => s.inbox.head?.toList
  | _ => []

section

variable (json : SerdeJson ProcessOutput)

/-- A step of the service. All data that the loop comes to is written: it has the handle, and a
`shutdown` leaves the pipe open. No write fails. -/
def FedPipedStep (f : Fed Piped) (e : PipedEvent) (f' : Fed Piped) : Prop :=
  PipedStep json f.service e f'.service ∧ e ≠ .stdinFails ∧
    f'.processed = f.processed ++ f.service.processes e ∧
    f'.received = f.received ++ (f.service.processes e).flatMap payload

/-- The service at its start. -/
def FedPiped.IsStart (stdout stderr : List UInt8) (f : Fed Piped) : Prop :=
  f = { service := .start stdout stderr, processed := [], received := [] }

abbrev FedPipedRun (stdout stderr : List UInt8) : List PipedEvent → Fed Piped → Prop :=
  Run (FedPiped.IsStart stdout stderr) (FedPipedStep json)

/-- The handle belongs to the input loop and is dropped with it. -/
def FedPiped.Ends (f : Fed Piped) : Prop :=
  EndOfInput f.processed f.received (f.service.input = false)

end

/-- Everything that was processed was also written, and the loop ends with the first `Close`. -/
structure FedPipedInv (f : Fed Piped) : Prop where
  received : f.received = f.processed.flatMap payload
  delivered : f.processed ++ f.service.inbox = f.service.delivered
  going : f.service.input = true → .close ∉ f.processed
  closing : .close ∉ f.processed ∨ ∃ ms, .close ∉ ms ∧ f.processed = ms ++ [.close]

section

variable {json : SerdeJson ProcessOutput} {f f' : Fed Piped} {e : PipedEvent}

theorem PipedStep.fed {s' : Piped} (hs : PipedStep json f.service e s') (he : e ≠ .stdinFails) :
    FedPipedStep json f e ⟨s', f.processed ++ f.service.processes e,
      f.received ++ (f.service.processes e).flatMap payload⟩ := ⟨hs, he, rfl, rfl⟩

/-- A step that processes no message and does not start the loop again. -/
theorem FedPipedInv.idle (hi : FedPipedInv f) (hprocessed : f'.processed = f.processed)
    (hreceived : f'.received = f.received)
    (hdelivered : f.processed ++ f'.service.inbox = f'.service.delivered)
    (hinput : f'.service.input = true → f.service.input = true) : FedPipedInv f' := by
  refine ⟨?_, ?_, ?_, ?_⟩
  · rw [hprocessed, hreceived]
    exact hi.received
  · rw [hprocessed]
    exact hdelivered
  · rw [hprocessed]
    exact fun h => hi.going (hinput h)
  · rw [hprocessed]
    exact hi.closing

/-- Handling a message leaves the inbox alone, and ends the loop exactly on `Close`. -/
theorem Piped.handle_input (s : Piped) (m : ProcessInput) :
    (s.handle m).inbox = s.inbox ∧ (s.handle m).delivered = s.delivered ∧
      (s.handle m).input = if m = .close then false else s.input := by
  cases m <;> exact ⟨rfl, rfl, rfl⟩

theorem Piped.onRelay_input (s : Piped) (e : RelayEvent) :
    (s.onRelay e).inbox = s.inbox ∧ (s.onRelay e).delivered = s.delivered ∧
      ((s.onRelay e).input = true → s.input = true) := by
  rcases s.onRelay_cases e with ⟨_, -, -, h⟩ | ⟨-, h⟩ | ⟨-, -, h⟩
  · rw [h]
    exact ⟨rfl, rfl, fun hinput => hinput⟩
  · rw [h]
    exact ⟨rfl, rfl, fun hinput => nomatch hinput⟩
  · rw [h]
    exact ⟨rfl, rfl, fun hinput => hinput⟩

/-- The loop processes a message. -/
theorem FedPipedInv.handle {s : Piped} {processed : List ProcessInput} {received : List UInt8}
    (hi : FedPipedInv ⟨s, processed, received⟩) {m : ProcessInput} {rest : List ProcessInput}
    (hinput : s.input = true) (hinbox : s.inbox = m :: rest) :
    FedPipedInv ⟨Piped.handle { s with inbox := rest } m, processed ++ [m],
      received ++ payload m⟩ := by
  obtain ⟨hrest, hsame, hended⟩ := Piped.handle_input { s with inbox := rest } m
  have hnone : ProcessInput.close ∉ processed := hi.going hinput
  refine ⟨?_, ?_, ?_, ?_⟩
  · show received ++ payload m = (processed ++ [m]).flatMap payload
    rw [List.flatMap_append, show received = processed.flatMap payload from hi.received]
    simp
  · show processed ++ [m] ++ (Piped.handle _ m).inbox = (Piped.handle _ m).delivered
    rw [hrest, hsame, List.append_assoc, ← hi.delivered]
    show processed ++ (m :: rest) = processed ++ s.inbox
    rw [hinbox]
  · show (Piped.handle _ m).input = true → ProcessInput.close ∉ processed ++ [m]
    rw [hended]
    split
    · exact fun h => nomatch h
    · next hm =>
        intro _
        simp [hnone, Ne.symm hm]
  · show ProcessInput.close ∉ processed ++ [m] ∨ _
    by_cases hm : m = .close
    · subst hm
      exact Or.inr ⟨processed, hnone, rfl⟩
    · exact Or.inl (by simp [hnone, Ne.symm hm])

theorem FedPipedInv.step (hi : FedPipedInv f) (hs : FedPipedStep json f e f') :
    FedPipedInv f' := by
  obtain ⟨s, processed, received⟩ := f
  obtain ⟨s', processed', received'⟩ := f'
  obtain ⟨hstep, hwrites, hprocessed, hreceived⟩ := hs
  dsimp only at hstep hprocessed hreceived
  have hdelivered : processed ++ s.inbox = s.delivered := hi.delivered
  -- the steps that do not process a message
  have hidle : s.processes e = [] → processed ++ s'.inbox = s'.delivered →
      (s'.input = true → s.input = true) → FedPipedInv ⟨s', processed', received'⟩ := by
    intro hnone hdelivered hinput
    rw [hnone, List.append_nil] at hprocessed
    rw [hnone, List.flatMap_nil, List.append_nil] at hreceived
    exact hi.idle hprocessed hreceived hdelivered hinput
  cases hstep with
  | @handle m rest hinput hinbox _ =>
      have hone : s.processes .handle = [m] := by
        rw [Piped.processes, hinbox]
        rfl
      rw [hone] at hprocessed hreceived
      rw [List.flatMap_singleton] at hreceived
      subst hprocessed hreceived
      exact hi.handle hinput hinbox
  | stdinFails _ _ => exact absurd rfl hwrites
  | handleEnd _ hinbox _ =>
      refine hidle ?_ hdelivered (fun h => nomatch h)
      rw [Piped.processes, hinbox]
      rfl
  | @deliver m _ =>
      refine hidle rfl ?_ fun h => h
      show processed ++ (s.inbox ++ [m]) = s.delivered ++ [m]
      rw [← List.append_assoc, hdelivered]
  | endInput => exact hidle rfl hdelivered fun h => h
  | childTurns => exact hidle rfl hdelivered fun h => h
  | childExits _ => exact hidle rfl hdelivered fun h => h
  | waitReturns _ _ => exact hidle rfl hdelivered fun h => h
  | startKill _ _ _ => exact hidle rfl hdelivered fun h => h
  | @relay r _ _ _ =>
      obtain ⟨hinbox, hsame, hinput⟩ := s.onRelay_input r
      refine hidle rfl ?_ hinput
      show processed ++ (s.onRelay r).inbox = (s.onRelay r).delivered
      rw [hinbox, hsame, hdelivered]

theorem FedPipedRun.inv {stdout stderr : List UInt8} {h : List PipedEvent}
    (hr : FedPipedRun json stdout stderr h f) : FedPipedInv f := by
  refine hr.invariant (P := fun _ f => FedPipedInv f) ?_ ?_
  · rintro f rfl
    exact ⟨rfl, rfl, (fun _ h => nomatch h), Or.inl (fun h => nomatch h)⟩
  · intro h f e f' _ hi hs
    exact hi.step hs

/-- Without an `Eof` the child has what it should have. -/
theorem FedPipedInv.ends (hi : FedPipedInv f) (heof : .eof ∉ f.processed) : FedPiped.Ends f := by
  have hgoing : ∀ ms : List ProcessInput, .eof ∉ ms → .close ∉ ms → ∀ m ∈ ms, isStop m = false := by
    intro ms heof hclose m hm
    rw [← Bool.not_eq_true, isStop_eq_true_iff]
    rintro (rfl | rfl)
    · exact heof hm
    · exact hclose hm
  refine ⟨?_, ?_⟩
  · rw [hi.received]
    rcases hi.closing with hclose | ⟨ms, hclose, hprocessed⟩
    · exact (inputOf_of_going (hgoing _ heof hclose)).symm
    · rw [hprocessed] at heof ⊢
      have heof' : ProcessInput.eof ∉ ms := fun h => heof (List.mem_append_left _ h)
      rw [inputOf_append_of_going (hgoing ms heof' hclose), List.flatMap_append]
      rfl
  · intro hfind
    exact absurd (List.mem_of_find?_eq_some hfind) heof

/-- An `Eof` that is processed leaves the handle where it is. -/
theorem FedPipedInv.not_ends_of_eof (hi : FedPipedInv f) (heof : .eof ∉ f.processed)
    (hs : FedPipedStep json f e f') (heof' : .eof ∈ f'.processed) : ¬ FedPiped.Ends f' := by
  obtain ⟨s, processed, received⟩ := f
  obtain ⟨s', processed', received'⟩ := f'
  obtain ⟨hstep, -, hprocessed, -⟩ := hs
  dsimp only at hstep hprocessed heof heof'
  have hnew : ProcessInput.eof ∈ s.processes e := by
    rw [hprocessed] at heof'
    exact (List.mem_append.mp heof').resolve_left heof
  cases hstep with
  | @handle m rest hinput hinbox _ =>
      rw [Piped.processes, hinbox] at hnew
      obtain rfl : ProcessInput.eof = m := by simpa using hnew
      intro hends
      have hnone : ProcessInput.close ∉ processed := hi.going hinput
      have hfind : processed'.find? isStop = some .eof := by
        have hbefore : processed.find? isStop = none := by
          rw [List.find?_eq_none]
          intro m hm hstop
          rcases isStop_eq_true_iff.mp hstop with rfl | rfl
          · exact heof hm
          · exact hnone hm
        rw [hprocessed, Piped.processes, hinbox, List.find?_append, hbefore]
        rfl
      have hclosed : s.input = false := hends.closed hfind
      rw [hinput] at hclosed
      cases hclosed
  | handleEnd _ hinbox _ =>
      rw [Piped.processes, hinbox] at hnew
      cases hnew
  | _ => cases hnew

end

/-! ## On a terminal -/

/-- The message that a control message stands for. -/
def PtyControl.toInput : PtyControl → ProcessInput
  | .write data => .data data
  | .resize size => .resize size
  | .signal sent => .signal sent
  | .eof => .eof
  | .close => .close

theorem toInput_toControl (m : ProcessInput) : (toControl m).toInput = m := by cases m <;> rfl

/-- The message that the control thread comes to. -/
def Pty.processes (s : Pty) : PtyEvent → List ProcessInput
  | .obey => (s.queue.head?.map PtyControl.toInput).toList
  | _ => []

/-- The control thread has its writer until it takes it, or ends. -/
def Pty.hasWriter (s : Pty) : Bool := s.control && s.writer

/-- What a step adds to the child's input: data as long as the control thread has its writer, and
when it loses it the `farewell` of the writer, which `portable_pty` writes in its `drop`. -/
def Pty.feeds (farewell : List UInt8) (s : Pty) (e : PtyEvent) (s' : Pty) : List UInt8 :=
  (if s.writer = true then (s.processes e).flatMap payload else []) ++
    if s.hasWriter = true ∧ s'.hasWriter = false then farewell else []

section

variable (json : SerdeJson ProcessOutput) (farewell : List UInt8)

/-- A step of the service in which no write fails. -/
def FedPtyStep (f : Fed Pty) (e : PtyEvent) (f' : Fed Pty) : Prop :=
  PtyStep json f.service e f'.service ∧ e ≠ .writeFails ∧
    f'.processed = f.processed ++ f.service.processes e ∧
    f'.received = f.received ++ f.service.feeds farewell e f'.service

def FedPty.IsStart (processGroup : Option Int32) (output : List UInt8) (f : Fed Pty) : Prop :=
  f = { service := .start processGroup output, processed := [], received := [] }

abbrev FedPtyRun (processGroup : Option Int32) (output : List UInt8) :
    List PtyEvent → Fed Pty → Prop :=
  Run (FedPty.IsStart processGroup output) (FedPtyStep json farewell)

/-- The writer is taken from the control thread, or dropped with it. -/
def FedPty.Ends (f : Fed Pty) : Prop :=
  EndOfInput f.processed f.received (f.service.writer = false ∨ f.service.control = false)

end

/-- The control thread has its writer exactly until an `Eof` or a `Close`, and has written what came
before. -/
structure FedPtyInv (farewell : List UInt8) (f : Fed Pty) : Prop where
  received : f.received = inputOf f.processed ++ if f.service.hasWriter = true then [] else farewell
  going : f.service.hasWriter = true → ∀ m ∈ f.processed, isStop m = false
  stopped : f.service.writer = false → ∃ m ∈ f.processed, isStop m = true

variable {f : Fed Pty}

/-- The child has got what it should get, unless the writer has had its last word. -/
theorem FedPtyInv.ends_iff {farewell : List UInt8} (hi : FedPtyInv farewell f) :
    FedPty.Ends f ↔ farewell = [] ∨
      (.eof ∉ f.processed ∧ .close ∉ f.processed ∧ f.service.control = true) := by
  constructor
  · intro hends
    cases hwriter : f.service.hasWriter with
    | true =>
        have hgoing := hi.going hwriter
        refine .inr ⟨fun h => ?_, fun h => ?_, (Bool.and_eq_true_iff.mp hwriter).1⟩
        · cases hgoing _ h
        · cases hgoing _ h
    | false =>
        have hreceived := hi.received.symm.trans hends.received_eq
        rw [hwriter, if_neg Bool.false_ne_true, List.append_right_eq_self] at hreceived
        exact .inl hreceived
  · intro hcase
    refine ⟨?_, fun hfind => ?_⟩
    · rw [hi.received, List.append_right_eq_self, ite_eq_left_iff]
      intro hgone
      refine hcase.resolve_right fun ⟨heof, hclose, hcontrol⟩ => ?_
      obtain ⟨m, hm, hstop⟩ := hi.stopped (by simpa [Pty.hasWriter, hcontrol] using hgone)
      rcases isStop_eq_true_iff.mp hstop with rfl | rfl
      · exact heof hm
      · exact hclose hm
    · by_contra hopen
      rw [not_or, Bool.not_eq_false, Bool.not_eq_false] at hopen
      have hwriter : f.service.hasWriter = true := Bool.and_eq_true_iff.mpr hopen.symm
      cases hi.going hwriter _ (List.mem_of_find?_eq_some hfind)

variable {processed : List ProcessInput} {received output : List UInt8} {rest : List PtyControl}
  {processGroup : Option Int32} {s s' : Pty} {h : List PtyEvent} {c : PtyControl}

section

variable {json : SerdeJson ProcessOutput} {farewell : List UInt8} {f f' : Fed Pty} {e : PtyEvent}

theorem PtyStep.fed (hs : PtyStep json f.service e s') (he : e ≠ .writeFails) :
    FedPtyStep json farewell f e ⟨s', f.processed ++ f.service.processes e,
      f.received ++ f.service.feeds farewell e s'⟩ :=
  ⟨hs, he, rfl, rfl⟩

/-- Obeying a message drops the writer on `Eof` and `Close`, ends the thread on `Close`, and leaves
the messages alone. -/
theorem Pty.obey_writer (s : Pty) (c : PtyControl) :
    (s.obey c).writer = (s.writer && !isStop c.toInput) ∧
      (s.obey c).control = (s.control && decide (c ≠ .close)) ∧ (s.obey c).queue = s.queue ∧
      (s.obey c).inbox = s.inbox ∧ (s.obey c).delivered = s.delivered ∧
      (s.obey c).input = s.input := by
  cases c with
  | signal sent =>
      cases hgroup : s.processGroup <;>
        simp [Pty.obey, hgroup, Pty.call, PtyControl.toInput, isStop]
  | _ => simp [Pty.obey, Pty.call, PtyControl.toInput, isStop]

/-- The writer is lost with a message that says that no more input comes. -/
theorem Pty.hasWriter_obey (s : Pty) (hcontrol : s.control = true) (c : PtyControl) :
    (s.obey c).hasWriter = (s.writer && !isStop c.toInput) := by
  obtain ⟨hwriter, hcontrol', -⟩ := s.obey_writer c
  rw [Pty.hasWriter, hwriter, hcontrol', hcontrol]
  cases c <;> simp [PtyControl.toInput, isStop]

/-- The control thread obeys a message. -/
theorem FedPtyInv.obey (hi : FedPtyInv farewell ⟨s, processed, received⟩)
    (hcontrol : s.control = true) (hqueue : s.queue = c :: rest) :
    FedPtyInv farewell ⟨Pty.obey { s with queue := rest } c, processed ++ [c.toInput],
      received ++ s.feeds farewell .obey (Pty.obey { s with queue := rest } c)⟩ := by
  have hone : s.processes .obey = [c.toInput] := by
    rw [Pty.processes, hqueue]
    rfl
  have hhas : s.hasWriter = s.writer := by rw [Pty.hasWriter, hcontrol, Bool.true_and]
  have hlost := Pty.hasWriter_obey { s with queue := rest } hcontrol c
  obtain ⟨hwriter', -, -⟩ := Pty.obey_writer { s with queue := rest } c
  have hreceived : received = inputOf processed ++ if s.hasWriter = true then [] else farewell :=
    hi.received
  refine ⟨?_, ?_, ?_⟩
  · -- what is written is what counts as input, and the last word comes with the message that
    -- stops it
    show received ++ s.feeds farewell .obey _ = inputOf (processed ++ [c.toInput]) ++
      if (Pty.obey _ c).hasWriter = true then [] else farewell
    rw [Pty.feeds, hlost, hone, hhas, hreceived, hhas, List.flatMap_singleton]
    cases hwriter : s.writer with
    | true =>
        have hgoing : ∀ m ∈ processed, isStop m = false := hi.going (hhas.trans hwriter)
        rw [inputOf_append_of_going hgoing, inputOf_of_going hgoing]
        cases c <;> simp [PtyControl.toInput, payload, inputOf, isStop]
    | false => simp [inputOf_append_of_stopped (hi.stopped hwriter)]
  · show (Pty.obey _ c).hasWriter = true → _
    rw [hlost, Bool.and_eq_true]
    intro hwriter m hm
    rcases List.mem_append.mp hm with hm | hm
    · exact hi.going (hhas.trans hwriter.1) m hm
    · rw [List.mem_singleton.mp hm]
      simpa using hwriter.2
  · show (Pty.obey _ c).writer = false → _
    rw [hwriter', Bool.and_eq_false_iff]
    rintro (hwriter | hstop)
    · obtain ⟨m, hm, hstop⟩ := hi.stopped hwriter
      exact ⟨m, List.mem_append_left _ hm, hstop⟩
    · exact ⟨_, List.mem_append_right _ List.mem_cons_self, by simpa using hstop⟩

/-- The others leave the control thread and its writer alone. -/
theorem FedPtyInv.idle (hi : FedPtyInv farewell ⟨s, processed, received⟩)
    (hnone : s.processes e = []) (hcontrol : s'.control = s.control)
    (hwriter : s'.writer = s.writer) :
    FedPtyInv farewell ⟨s', processed ++ s.processes e, received ++ s.feeds farewell e s'⟩ := by
  have hhas : s'.hasWriter = s.hasWriter := by rw [Pty.hasWriter, hcontrol, hwriter, Pty.hasWriter]
  have hfeeds : s.feeds farewell e s' = [] := by
    rw [Pty.feeds, hnone, hhas]
    simp
  rw [hnone, hfeeds, List.append_nil, List.append_nil]
  refine ⟨?_, ?_, ?_⟩
  · show received = inputOf processed ++ if s'.hasWriter = true then [] else farewell
    rw [hhas]
    exact hi.received
  · show s'.hasWriter = true → _
    rw [hhas]
    exact hi.going
  · show s'.writer = false → _
    rw [hwriter]
    exact hi.stopped

theorem FedPtyInv.step (hi : FedPtyInv farewell f) (hs : FedPtyStep json farewell f e f') :
    FedPtyInv farewell f' := by
  obtain ⟨s, processed, received⟩ := f
  obtain ⟨s', processed', received'⟩ := f'
  obtain ⟨hstep, hwrites, hprocessed, hreceived⟩ := hs
  dsimp only at hstep hprocessed hreceived
  subst hprocessed hreceived
  cases hstep with
  | @obey c rest hcontrol hqueue _ =>
      have hone : s.processes .obey = [c.toInput] := by
        rw [Pty.processes, hqueue]
        rfl
      have hobey := hi.obey hcontrol hqueue
      rwa [← hone] at hobey
  | writeFails _ _ _ => exact absurd rfl hwrites
  | obeyEnd hcontrol hqueue _ _ =>
      have hnone : s.processes .obey = [] := by
        rw [Pty.processes, hqueue]
        rfl
      refine ⟨?_, (fun h => nomatch h), ?_⟩
      · -- the writer goes with the thread
        show received ++ s.feeds farewell .obey _ =
          inputOf (processed ++ s.processes .obey) ++ farewell
        rw [Pty.feeds, hnone, List.append_nil, show received = _ from hi.received]
        cases hwriter : s.writer <;> simp [Pty.hasWriter, hcontrol, hwriter]
      · rw [hnone, List.append_nil]
        exact hi.stopped
  | @handle m rest _ _ =>
      obtain ⟨_, _, hsame⟩ := Pty.handle_eq { s with inbox := rest } m
      rw [hsame]
      exact hi.idle rfl rfl rfl
  | handleEof _ _ _ =>
      rw [Pty.send_eq]
      exact hi.idle rfl rfl rfl
  | @relay r _ _ _ =>
      obtain ⟨_, _, hsame, -⟩ := s.onRelay_eq r
      rw [hsame]
      exact hi.idle rfl rfl rfl
  | _ => exact hi.idle rfl rfl rfl

theorem FedPtyRun.inv (hr : FedPtyRun json farewell processGroup output h f) :
    FedPtyInv farewell f := by
  refine hr.invariant (P := fun _ f => FedPtyInv farewell f) ?_ ?_
  · rintro f rfl
    exact ⟨rfl, (fun _ _ h => nomatch h), (fun h => nomatch h)⟩
  · intro h f e f' _ hi hs
    exact hi.step hs

end

/-! ## The control thread obeys the client's messages -/

theorem untilClose_of_notMem (h : .close ∉ ms) : untilClose ms = ms := by
  refine List.takeWhile_eq_self_iff.mpr fun m hm => decide_eq_true ?_
  rintro rfl
  exact h hm

theorem untilClose_append_close (ms ms' : List ProcessInput) :
    untilClose (ms ++ .close :: ms') = untilClose ms := by
  unfold untilClose
  induction ms with
  | nil => rfl
  | cons m ms ih =>
      rw [List.cons_append, List.takeWhile_cons, List.takeWhile_cons, ih]

theorem untilClose_append_of_mem (h : .close ∈ ms) (ms' : List ProcessInput) :
    untilClose (ms ++ ms') = untilClose ms := by
  obtain ⟨before, after, rfl⟩ := List.append_of_mem h
  rw [List.append_assoc, List.cons_append, untilClose_append_close, untilClose_append_close]

/-- More messages do not change what came before the first `Close`. -/
theorem untilClose_append (ms ms' : List ProcessInput) :
    untilClose ms <+: untilClose (ms ++ ms') := by
  by_cases hclose : ProcessInput.close ∈ ms
  · rw [untilClose_append_of_mem hclose]
  · have hall : ∀ m ∈ ms, decide (m ≠ ProcessInput.close) = true := by
      intro m hm
      refine decide_eq_true ?_
      rintro rfl
      exact hclose hm
    rw [untilClose_of_notMem hclose, untilClose, List.takeWhile_append_of_pos hall]
    exact List.prefix_append _ _

/-- What has been sent to the control thread, of the messages that were handled: up to a `Close`,
just these. The thread ends on a `Close`, or with the input task. -/
structure SentInv (handled sent : List ProcessInput) (control input : Bool) : Prop where
  part : untilClose sent <+: handled
  all : .close ∉ sent → sent = handled
  ended : control = false → .close ∈ sent ∨ input = false

namespace SentInv

variable {handled sent sent' : List ProcessInput} {control control' input input' : Bool}

/-- No message is handled. A `Close` may be sent that is not the client's. -/
theorem idle (hi : SentInv handled sent control input)
    (hsent : sent' = sent ∨ sent' = sent ++ [.close])
    (hcontrol : control' = false → control = false ∨ .close ∈ sent' ∨ input' = false)
    (hinput : input = false → input' = false) : SentInv handled sent' control' input' := by
  refine ⟨?_, ?_, ?_⟩
  · rcases hsent with rfl | rfl
    · exact hi.part
    · rw [untilClose_append_close]
      exact hi.part
  · intro hclose
    rcases hsent with rfl | rfl
    · exact hi.all hclose
    · exact absurd (List.mem_append_right _ List.mem_cons_self) hclose
  · intro hended
    have hmem : .close ∈ sent → .close ∈ sent' := by
      rcases hsent with rfl | rfl
      · exact fun h => h
      · exact List.mem_append_left _
    rcases hcontrol hended with hended | hclose | hended
    · exact (hi.ended hended).imp hmem hinput
    · exact Or.inl hclose
    · exact Or.inr hended

/-- A message is handled and sent on. -/
theorem pass (hi : SentInv handled sent control input) (m : ProcessInput) :
    SentInv (handled ++ [m]) (sent ++ [m]) control input := by
  refine ⟨?_, ?_, fun hended => (hi.ended hended).imp_left (List.mem_append_left _)⟩
  · by_cases hclose : ProcessInput.close ∈ sent
    · rw [untilClose_append_of_mem hclose]
      exact hi.part.trans (List.prefix_append _ _)
    · rw [hi.all hclose]
      exact List.takeWhile_prefix _
  · intro hclose
    rw [hi.all fun h => hclose (List.mem_append_left _ h)]

/-- A message is handled, but the control thread has ended. -/
theorem drop (hi : SentInv handled sent control input) (hclose : .close ∈ sent) (m : ProcessInput) :
    SentInv (handled ++ [m]) sent control input' :=
  ⟨hi.part.trans (List.prefix_append _ _), fun h => absurd hclose h, fun _ => Or.inl hclose⟩

end SentInv

/-- What the control thread has been sent so far. -/
def FedPty.sent (f : Fed Pty) : List ProcessInput :=
  f.processed ++ f.service.queue.map PtyControl.toInput

theorem map_toInput_eq (processed : List ProcessInput) {queue queue' : List PtyControl}
    (h : queue' = queue ∨ queue' = queue ++ [.close]) :
    processed ++ queue'.map PtyControl.toInput = processed ++ queue.map PtyControl.toInput ∨
      processed ++ queue'.map PtyControl.toInput =
        processed ++ queue.map PtyControl.toInput ++ [.close] := by
  rcases h with rfl | rfl
  · exact Or.inl rfl
  · rw [List.map_append, List.append_assoc]
    exact Or.inr rfl

/-- The control thread is sent the messages that the input task has handled, which are the
client's. -/
def FedPty.Follows (f : Fed Pty) : Prop :=
  ∃ handled, handled ++ f.service.inbox = f.service.delivered ∧
    SentInv handled (FedPty.sent f) f.service.control f.service.input

theorem FedPty.Follows.part (hf : FedPty.Follows f) :
    untilClose f.processed <+: f.service.delivered := by
  obtain ⟨handled, hdelivered, hi⟩ := hf
  rw [← hdelivered]
  exact ((untilClose_append _ _).trans hi.part).trans (List.prefix_append _ _)

variable {received' : List UInt8}

section

variable {json : SerdeJson ProcessOutput} {farewell : List UInt8} {f f' : Fed Pty} {e : PtyEvent}

/-- When the control thread has ended, handling a message may end the input task. -/
theorem Pty.handle_of_not_control (s : Pty) (hcontrol : s.control = false) (m : ProcessInput) :
    ∃ input, s.handle m = { s with input := input } := by
  have hended : ¬ s.control = true := by
    rw [hcontrol]
    decide
  have hsend : ∀ c, s.send c = s := fun c => if_neg hended
  cases m with
  | data data =>
      rw [Pty.handle, if_neg hended, hsend]
      exact ⟨false, rfl⟩
  | close =>
      rw [Pty.handle, hsend, hsend]
      exact ⟨false, rfl⟩
  | _ =>
      rw [Pty.handle, hsend]
      exact ⟨s.input, rfl⟩

/-- The output loop may send a `Close` and end the input task. -/
theorem Pty.onRelay_sent (s : Pty) (r : RelayEvent) :
    ∃ queue input, s.onRelay r = { s with queue := queue, input := input } ∧
      (queue = s.queue ∨ queue = s.queue ++ [.close]) ∧ (s.input = false → input = false) := by
  cases r with
  | exited =>
      rw [Pty.onRelay, Pty.send_eq]
      refine ⟨_, false, rfl, ?_, fun _ => rfl⟩
      split
      · exact Or.inr rfl
      · exact Or.inl rfl
  | shutdown => exact ⟨s.queue, false, rfl, Or.inl rfl, fun _ => rfl⟩
  | _ => exact ⟨s.queue, s.input, rfl, Or.inl rfl, fun h => h⟩

theorem FedPty.Follows.handle {s : Pty} {processed : List ProcessInput} {received : List UInt8}
    (hf : FedPty.Follows ⟨s, processed, received⟩) {m : ProcessInput} {rest : List ProcessInput}
    (hinput : s.input = true) (hinbox : s.inbox = m :: rest) :
    FedPty.Follows ⟨Pty.handle { s with inbox := rest } m, processed, received⟩ := by
  obtain ⟨handled, hdelivered, hi⟩ := hf
  have hsplit : handled ++ [m] ++ rest = s.delivered := by
    rw [← hdelivered, List.append_assoc]
    show handled ++ (m :: rest) = handled ++ s.inbox
    rw [hinbox]
  by_cases hcontrol : s.control = true
  · have hpass := hi.pass m
    have hsent : FedPty.sent ⟨s, processed, received⟩ ++ [m] =
        processed ++ (s.queue ++ [toControl m]).map PtyControl.toInput := by
      rw [FedPty.sent, List.map_append, List.map_singleton, toInput_toControl, List.append_assoc]
    rw [Pty.handle_of_control { s with inbox := rest } hcontrol m]
    split
    · next hm =>
        -- the input task sends another `Close` at its end
        subst hm
        refine ⟨handled ++ [.close], hsplit, hpass.idle (Or.inr ?_) Or.inl fun _ => rfl⟩
        rw [hsent, FedPty.sent]
        simp [toControl, PtyControl.toInput]
    · refine ⟨handled ++ [m], hsplit, ?_⟩
      rw [hsent] at hpass
      exact hpass
  · rw [Bool.not_eq_true] at hcontrol
    obtain ⟨input, hsame⟩ := Pty.handle_of_not_control { s with inbox := rest } hcontrol m
    rw [hsame]
    have hclose := (hi.ended hcontrol).resolve_right (by rw [hinput]; decide)
    exact ⟨handled ++ [m], hsplit, hi.drop hclose m⟩

/-- The control thread obeys a message: what it was sent stays the same. -/
theorem FedPty.Follows.obey (hf : FedPty.Follows ⟨s, processed, received⟩)
    (hqueue : s.queue = c :: rest) :
    FedPty.Follows ⟨Pty.obey { s with queue := rest } c, processed ++ [c.toInput], received'⟩ := by
  obtain ⟨handled, hdelivered, hi⟩ := hf
  obtain ⟨-, hcontrol', hqueue', hinbox', hdelivered', hinput'⟩ :=
    Pty.obey_writer { s with queue := rest } c
  have hsent : FedPty.sent ⟨Pty.obey { s with queue := rest } c, processed ++ [c.toInput],
      received'⟩ = FedPty.sent ⟨s, processed, received⟩ := by
    rw [FedPty.sent, FedPty.sent, hqueue', hqueue]
    simp
  refine ⟨handled, ?_, hi.idle (Or.inl hsent) ?_ ?_⟩
  · show handled ++ (Pty.obey _ c).inbox = (Pty.obey _ c).delivered
    rw [hinbox', hdelivered']
    exact hdelivered
  · show (Pty.obey _ c).control = false → _
    rw [hcontrol', Bool.and_eq_false_iff]
    rintro (hended | hclose)
    · exact Or.inl hended
    · obtain rfl : c = .close := by simpa using hclose
      refine Or.inr (Or.inl ?_)
      rw [hsent, FedPty.sent, hqueue]
      simp [PtyControl.toInput]
  · show s.input = false → (Pty.obey _ c).input = false
    rw [hinput']
    exact fun h => h

/-- The others take a step. -/
theorem FedPty.Follows.other (hf : FedPty.Follows ⟨s, processed, received⟩)
    (hs : PtyStep json s e s') (hobey : e ≠ .obey) (hwrites : e ≠ .writeFails) :
    FedPty.Follows ⟨s', processed, received'⟩ := by
  obtain ⟨handled, hdelivered, hi⟩ := id hf
  cases hs with
  | obey _ _ _ => exact absurd rfl hobey
  | obeyEnd _ _ _ _ => exact absurd rfl hobey
  | writeFails _ _ _ => exact absurd rfl hwrites
  | handle hinput hinbox => exact hf.handle hinput hinbox
  | handleEof _ _ _ =>
      have hqueue : (if s.control = true then s.queue ++ [.close] else s.queue) = s.queue ∨
          (if s.control = true then s.queue ++ [.close] else s.queue) = s.queue ++ [.close] :=
        (ite_eq_or_eq _ _ _).symm
      rw [Pty.send_eq]
      exact ⟨handled, hdelivered, hi.idle (map_toInput_eq processed hqueue) Or.inl fun _ => rfl⟩
  | handleFailed _ _ _ => exact ⟨handled, hdelivered, hi.idle (Or.inl rfl) Or.inl fun _ => rfl⟩
  | @relay r _ _ _ =>
      obtain ⟨queue, input, hsame, hqueue, hinput⟩ := s.onRelay_sent r
      rw [hsame]
      exact ⟨handled, hdelivered, hi.idle (map_toInput_eq processed hqueue) Or.inl hinput⟩
  | @deliver m _ =>
      refine ⟨handled, ?_, hi⟩
      show handled ++ (s.inbox ++ [m]) = s.delivered ++ [m]
      rw [← List.append_assoc]
      exact congrArg (· ++ [m]) hdelivered
  | _ => exact ⟨handled, hdelivered, hi⟩

theorem FedPty.Follows.step (hf : FedPty.Follows f) (hs : FedPtyStep json farewell f e f') :
    FedPty.Follows f' := by
  obtain ⟨s, processed, received⟩ := f
  obtain ⟨s', processed', received'⟩ := f'
  obtain ⟨hstep, hwrites, hprocessed, -⟩ := hs
  dsimp only at hstep hprocessed
  subst hprocessed
  by_cases hobey : e = .obey
  · subst hobey
    cases hstep with
    | obey _ hqueue _ =>
        rw [Pty.processes, hqueue]
        exact hf.obey hqueue
    | obeyEnd _ hqueue hinput _ =>
        obtain ⟨handled, hdelivered, hi⟩ := hf
        have hnone : s.processes .obey = [] := by
          rw [Pty.processes, hqueue]
          rfl
        rw [hnone, List.append_nil]
        exact ⟨handled, hdelivered, hi.idle (Or.inl rfl) (fun _ => .inr (.inr hinput)) fun h => h⟩
  · have hnone : s.processes e = [] := by
      unfold Pty.processes
      split
      · exact absurd rfl hobey
      · rfl
    rw [hnone, List.append_nil]
    exact hf.other hstep hobey hwrites

theorem FedPtyRun.follows (hr : FedPtyRun json farewell processGroup output h f) :
    FedPty.Follows f := by
  refine hr.invariant (P := fun _ f => FedPty.Follows f) ?_ ?_
  · rintro f rfl
    exact ⟨[], rfl, List.prefix_refl _, fun _ => rfl, fun h => nomatch h⟩
  · intro h f e f' _ hf hs
    exact hf.step hs

end

/-! ## Both services -/

/-- **When the end of input reaches the child**: over pipes exactly while no `Eof` is processed, and
on a terminal exactly if the writer has no last word, or the control thread has not lost it, by an
`Eof`, a `Close` or its own end. What either service processes are the messages of the client in
their order, up to the first `Close`. -/
theorem end_of_input_iff (json : SerdeJson ProcessOutput) :
    (∀ stdout stderr h f, FedPipedRun json stdout stderr h f →
      (Throughout (FedPiped.IsStart stdout stderr) (FedPipedStep json) FedPiped.Ends h f ↔
        .eof ∉ f.processed) ∧ untilClose f.processed <+: f.service.delivered) ∧
    ∀ farewell processGroup output h f, FedPtyRun json farewell processGroup output h f →
      (FedPty.Ends f ↔ farewell = [] ∨
        (.eof ∉ f.processed ∧ .close ∉ f.processed ∧ f.service.control = true)) ∧
      untilClose f.processed <+: f.service.delivered := by
  refine ⟨fun stdout stderr h f hr => ⟨?_, ?_⟩, fun farewell processGroup output h f hr => ?_⟩
  · refine Run.throughout_iff (Q := fun f => .eof ∉ f.processed) ?_ ?_ ?_ hr
    · rintro f rfl
      exact ⟨⟨rfl, fun h => nomatch h⟩, fun h => nomatch h⟩
    · rintro f e f' ⟨-, -, hprocessed, -⟩ heof hmem
      exact heof (hprocessed ▸ List.mem_append_left _ hmem)
    · intro h f e f' hr hs heof
      have hi := FedPipedRun.inv hr
      exact ⟨fun hends heof' => hi.not_ends_of_eof heof hs heof' hends, (hi.step hs).ends⟩
  · rw [← hr.inv.delivered]
    exact (List.takeWhile_prefix _).trans (List.prefix_append _ _)
  · exact ⟨hr.inv.ends_iff, hr.follows.part⟩

/-- Over pipes data is written that no `Eof` follows; on a terminal two pieces of data are. -/
theorem end_of_input_reached :
    (∃ h f, FedPipedRun (serdeJson processOutput) [] [] h f ∧
      f.processed = [.data [104], .close] ∧ f.received = [104] ∧
      Throughout (FedPiped.IsStart [] []) (FedPipedStep (serdeJson processOutput))
        FedPiped.Ends h f) ∧
    ∃ h f, FedPtyRun (serdeJson processOutput) [10] (some 7) [] h f ∧
      f.processed = [.data [104], .data [105]] ∧ f.received = [104, 105] ∧ FedPty.Ends f := by
  constructor
  · have hr : FedPipedRun (serdeJson processOutput) [] []
        [.handle, .handle, .deliver .close, .deliver (.data [104])] _ :=
      .cons (.cons (.cons (.cons (.nil rfl)
        (PipedStep.deliver rfl |>.fed (by decide)))
        (PipedStep.deliver rfl |>.fed (by decide)))
        (PipedStep.handle rfl rfl (Piped.not_blocked rfl) |>.fed (by decide)))
        (PipedStep.handle rfl rfl (Piped.not_blocked rfl) |>.fed (by decide))
    exact ⟨_, _, hr, rfl, rfl, ((end_of_input_iff _).1 _ _ _ _ hr).1.mpr (by decide)⟩
  · have hr : FedPtyRun (serdeJson processOutput) [10] (some 7) []
        [.obey, .obey, .handle, .handle, .deliver (.data [105]), .deliver (.data [104])] _ :=
      .cons (.cons (.cons (.cons (.cons (.cons (.nil rfl)
        (PtyStep.deliver rfl |>.fed (by decide)))
        (PtyStep.deliver rfl |>.fed (by decide)))
        (PtyStep.handle rfl rfl |>.fed (by decide)))
        (PtyStep.handle rfl rfl |>.fed (by decide)))
        (PtyStep.obey rfl rfl (Pty.not_blocked rfl) |>.fed (by decide)))
        (PtyStep.obey rfl rfl (Pty.not_blocked rfl) |>.fed (by decide))
    exact ⟨_, _, hr, rfl, rfl, ((end_of_input_iff _).2 _ _ _ _ _ hr).1.mpr
      (.inr ⟨by decide, by decide, rfl⟩)⟩

/-- **Over pipes an `Eof` does not close the child's input**, and the data after it is written. On a
terminal the child reads a line end that the client has not sent. -/
theorem eof_keeps_pipe_open :
    (∃ f, FedPipedRun (serdeJson processOutput) [] []
        [.handle, .deliver (.data [105]), .handle, .deliver .eof] f ∧
      f.processed = [.eof, .data [105]] ∧ inputOf f.processed = [] ∧ f.received = [105] ∧
      f.service.input = true ∧ ¬ FedPiped.Ends f) ∧
    ∃ f, FedPtyRun (serdeJson processOutput) [10] (some 7) []
        [.obey, .handle, .deliver .eof, .obey, .handle, .deliver (.data [104])] f ∧
      f.processed = [.data [104], .eof] ∧ f.received = [104, 10] ∧ ¬ FedPty.Ends f := by
  refine ⟨⟨_, .cons (.cons (.cons (.cons (.nil rfl)
    (PipedStep.deliver rfl |>.fed (by decide)))
    (PipedStep.handle rfl rfl (Piped.not_blocked rfl) |>.fed (by decide)))
    (PipedStep.deliver rfl |>.fed (by decide)))
    (PipedStep.handle rfl rfl (Piped.not_blocked rfl) |>.fed (by decide)), rfl, rfl, rfl, rfl, ?_⟩,
    ⟨_, .cons (.cons (.cons (.cons (.cons (.cons (.nil rfl)
    (PtyStep.deliver rfl |>.fed (by decide)))
    (PtyStep.handle rfl rfl |>.fed (by decide)))
    (PtyStep.obey rfl rfl (Pty.not_blocked rfl) |>.fed (by decide)))
    (PtyStep.deliver rfl |>.fed (by decide)))
    (PtyStep.handle rfl rfl |>.fed (by decide)))
    (PtyStep.obey rfl rfl (Pty.not_blocked rfl) |>.fed (by decide)), rfl, rfl, ?_⟩⟩
  · intro hends
    have hreceived : [105] = ([] : List UInt8) := hends.received_eq
    cases hreceived
  · intro hends
    have hreceived : [104, 10] = ([104] : List UInt8) := hends.received_eq
    cases hreceived

end Narrowd.Services
