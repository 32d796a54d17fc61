import Narrowd.Services.Piped
import Narrowd.Services.Pty

set_option autoImplicit false

/-! # What the process services guarantee

Three properties of both services, over every order in which their tasks and threads run: signals
and `Close` reach the child, its process id is not used once it has been waited for, and its output
arrives complete. The first two hold under conditions that the source does not ensure, and a run
that breaks them stands next to each.
-/

namespace Narrowd.Services

open Lib Executor Executor.Json

/-! ## Signals and `Close` -/

variable {json : SerdeJson ProcessOutput}

/-- **When a child is not signalled after it has been waited for.** Over pipes: when `wait()`
returns no signal and no `Close` waits for a running input task, and from then on none arrives for
it and no output fails to be sent. On a terminal: when `wait()` returns the control thread has
ended; or the output loop and the input task have, and it ignores what it has been sent. -/
theorem none_after_wait (json : SerdeJson ProcessOutput) :
    (∀ stdout stderr h s,
      Run (· = Piped.start stdout stderr) (restrict (PipedStep json) Piped.Settled) h s →
        NoneAfterWait s.calls) ∧
    ∀ processGroup output h s,
      Run (· = Pty.start processGroup output) (restrict (PtyStep json) Pty.Settled) h s →
        NoneAfterWait s.calls := by
  constructor
  · intro stdout stderr h s hr
    refine (Run.invariant (P := fun _ s => Piped.AtPeace s) ?_ ?_ hr).calls
    · rintro s rfl
      exact ⟨(fun _ h => nomatch h), (fun h => nomatch h)⟩
    · intro h s e s' _ hi hs
      exact hi.step hs.1 hs.2
  · intro processGroup output h s hr
    refine (Run.invariant (P := fun _ s => Pty.AtPeace s) ?_ ?_ hr).calls
    · rintro s rfl
      exact ⟨(fun _ h => nomatch h), (fun h => nomatch h)⟩
    · intro h s e s' _ hi hs
      exact hi.step hs.1 hs.2

/-- The client closes the channel first: the child is killed, and then it is waited for. -/
theorem close_before_wait :
    (∃ h s, PipedRun (serdeJson processOutput) [] [] h s ∧ s.child.isWaited = true ∧
      s.calls.map Logged.call = [.kill .sigkill] ∧ NoneAfterWait s.calls) ∧
    ∃ h s, PtyRun (serdeJson processOutput) (some 7) [] h s ∧ s.child.isWaited = true ∧
      s.calls.map Logged.call = [.killer true] ∧ NoneAfterWait s.calls := by
  constructor
  · have hr : Run (· = Piped.start [] [])
        (restrict (PipedStep (serdeJson processOutput)) Piped.Settled)
        [.waitReturns none, .childExits (.signaled 9), .handle, .deliver .close] _ :=
      .cons (.cons (.cons (.cons (.nil rfl)
        ⟨.deliver rfl, by simp [Piped.Settled, Piped.start, Child.isWaited]⟩)
        ⟨.handle rfl rfl (Piped.not_blocked rfl),
          by simp [Piped.Settled, Piped.start, Child.isWaited]⟩)
        ⟨.childExits rfl, by simp [Piped.Settled, Piped.handle, Piped.call, Child.isWaited]⟩)
        ⟨.waitReturns rfl (.waited rfl), by simp [Piped.Settled, Piped.handle, Child.isWaited]⟩
    exact ⟨_, _, hr.of_restrict, rfl, rfl, (none_after_wait _).1 [] [] _ _ hr⟩
  · have hr : Run (· = Pty.start (some 7) [])
        (restrict (PtyStep (serdeJson processOutput)) Pty.Settled)
        [.waitReturns none, .childExits 129, .obey, .handle, .deliver .close] _ :=
      .cons (.cons (.cons (.cons (.cons (.nil rfl)
        ⟨.deliver rfl, fun h => nomatch h⟩)
        ⟨.handle rfl rfl, fun h => nomatch h⟩)
        ⟨.obey rfl rfl (Pty.not_blocked rfl), fun h => nomatch h⟩)
        ⟨.childExits rfl, fun h => nomatch h⟩)
        ⟨.waitReturns rfl (.waited rfl), fun _ h => nomatch h⟩
    exact ⟨_, _, hr.of_restrict, rfl, rfl, (none_after_wait _).2 (some 7) [] _ _ hr⟩

/-- **A child is signalled after it has been waited for.** Over pipes a signal arrives while the
output is still open; on a terminal the exit itself makes the output loop send the `Close` that the
control thread kills with. -/
theorem signalled_after_wait :
    (∃ s, PipedRun (serdeJson processOutput) [] []
        [.handle, .deliver (.signal .term), .waitReturns none, .childExits (.exited 0)] s ∧
      s.calls = [⟨.kill .sigterm, true⟩]) ∧
    ∃ s, PtyRun (serdeJson processOutput) (some 7) []
        [.obey, .relay .exited, .waitReturns none, .childExits 0] s ∧
      s.calls = [⟨.killer true, true⟩] := by
  constructor
  · exact ⟨_, .cons (.cons (.cons (.cons (.nil rfl) (.childExits rfl))
      (.waitReturns rfl (.waited rfl))) (.deliver rfl))
      (.handle rfl rfl (Piped.not_blocked rfl)), rfl⟩
  · exact ⟨_, .cons (.cons (.cons (.cons (.nil rfl) (.childExits rfl))
      (.waitReturns rfl (.waited rfl))) (.relay (.exited rfl rfl rfl) (fun _ h => nomatch h)))
      (.obey rfl rfl (Pty.not_blocked rfl)), rfl⟩

/-! ## Output -/

theorem total_pipedService (json : SerdeJson ProcessOutput) (stdout stderr : List UInt8) :
    (pipedService json stdout stderr).total = pipedTotal stdout stderr := by
  funext which
  cases which <;> rfl

theorem total_ptyService (json : SerdeJson ProcessOutput) (processGroup : Option Int32)
    (output : List UInt8) :
    (ptyService json processGroup output).total = ptyTotal output := by
  funext which
  cases which <;> rfl

/-- **The output of a child arrives complete and in order.** In every run of either service with
the bridge in which no write to the service stream or to the channel fails: once the bridge has
finished, the client has received exactly the output, stream by stream in order, then the status
that the wait found, the end and the close; the output side takes at most a number of steps that
its length determines; and every run can be continued until the bridge has finished. -/
theorem output_complete (json : SerdeJson ProcessOutput) (hjson : json.Writes processOutput) :
    (∀ stdout stderr h s,
      Run (· = Piped.start stdout stderr)
        (restrict (PipedStep json) fun _ e => e.part.Succeeds) h s →
        (s.relay.Finished → ∃ status err, s.child = .waited status err ∧
          Delivered (pipedTotal stdout stderr) (waitCode (exitStatusCode status) err)
            s.relay.bridge.channel) ∧
        h.countP (fun e => e.part.isOutput) ≤ 61 * (stdout.length + stderr.length) + 109 ∧
        ∃ h' s', Run (· = Piped.start stdout stderr)
          (restrict (PipedStep json) fun _ e => e.part.Succeeds) (h' ++ h) s' ∧ s'.relay.Finished) ∧
    ∀ processGroup output h s,
      Run (· = Pty.start processGroup output)
        (restrict (PtyStep json) fun _ e => e.part.Succeeds) h s →
        (s.relay.Finished → ∃ code err, s.child = .waited code err ∧
          Delivered (ptyTotal output) (waitCode code err) s.relay.bridge.channel) ∧
        h.countP (fun e => e.part.isOutput) ≤ 61 * output.length + 108 ∧
        ∃ h' s', Run (· = Pty.start processGroup output)
          (restrict (PtyStep json) fun _ e => e.part.Succeeds) (h' ++ h) s' ∧
            s'.relay.Finished := by
  constructor
  · intro stdout stderr h s hr
    have hv : (pipedService json stdout stderr).run h s := hr
    obtain ⟨⟨transit, hi⟩, hcount⟩ := (pipedService json stdout stderr).exists_relayInv hjson hv
    rw [total_pipedService] at hi
    refine ⟨fun hfinished => ?_, ?_, (pipedService json stdout stderr).exists_finished hjson hv⟩
    · obtain ⟨code, hexit, hdelivered⟩ := hi.delivered hfinished
      obtain ⟨status, err, hchild, rfl⟩ := (statusInv_of_run hr.of_restrict).exists_waited hexit
      exact ⟨status, err, hchild, hdelivered⟩
    · have hreaders : readersWeight (pipedService json stdout stderr).reader =
          61 * stdout.length + 1 + (61 * stderr.length + 1) := rfl
      rw [hreaders] at hcount
      exact (Nat.le_add_right _ _).trans (hcount.trans (by omega))
  · intro processGroup output h s hr
    have hv : (ptyService json processGroup output).run h s := hr
    obtain ⟨⟨transit, hi⟩, hcount⟩ := (ptyService json processGroup output).exists_relayInv hjson hv
    rw [total_ptyService] at hi
    refine ⟨fun hfinished => ?_, ?_, (ptyService json processGroup output).exists_finished hjson hv⟩
    · obtain ⟨code, hexit, hdelivered⟩ := hi.delivered hfinished
      obtain ⟨status, err, hchild, rfl⟩ := (ptyStatusInv_of_run hr.of_restrict).exists_waited hexit
      exact ⟨status, err, hchild, hdelivered⟩
    · have hreaders : readersWeight (ptyService json processGroup output).reader =
          61 * output.length + 1 + 0 := rfl
      rw [hreaders] at hcount
      exact (Nat.le_add_right _ _).trans (hcount.trans (by omega))

/-- Five bytes of output and one of error output, from the start. -/
theorem hello_delivered :
    ∃ h s status err, PipedRun (serdeJson processOutput) [104, 101, 108, 108, 111] [33] h s ∧
      s.child = .waited status err ∧
      Delivered (pipedTotal [104, 101, 108, 108, 111] [33]) (waitCode (exitStatusCode status) err)
        s.relay.bridge.channel := by
  have hcomplete := (output_complete _ (serdeJson_writes processOutput)).1
    [104, 101, 108, 108, 111] [33]
  obtain ⟨-, -, h, s, hr, hfinished⟩ := hcomplete [] _ (.nil rfl)
  obtain ⟨status, err, hchild, hdelivered⟩ := (hcomplete _ s hr).1 hfinished
  exact ⟨_, s, status, err, hr.of_restrict, hchild, hdelivered⟩

end Narrowd.Services
