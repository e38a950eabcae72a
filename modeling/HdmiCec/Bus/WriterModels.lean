import HdmiCec.Bus.AsyncSends
import HdmiCec.Bus.Writer

/-!
# The three models of the writer

`Bus::Writer::run` appears three times: as one of the threads of the library, on its own with
`Writer::stop`, and with the copies on the heap and the exceptions of `Driver::write`.

The first two take the same steps (`writerStep_view`, `ctlStep_view`).  The third one stops
at more places, and the view that forgets these simulates it: every step of `AsyncSends` is a
step of `Bus.Writer` or changes nothing there.  What holds of the writer on its own holds of
the one with the copies.
-/

universe u

namespace HdmiCec

variable {F : Type u}

namespace Bus

/-! ## Among the threads of the library -/

/-- Where the controlling thread is in the locked section of `Writer::stop`. -/
def CtlPc.stopping : CtlPc → Option Writer.StopPc
  | .writerStopTest => some .test
  | .writerStopStarted => some .stopStarted
  | .writerStopSet => some .set
  | .writerStopOffer => some .offer
  | _ => none

/-- The writer with a thread at `pc`, without the rest of the library. -/
def State.writerView (s : State F) (pc : WriterPc F) : Writer.State F where
  state := s.writerState
  wMutex := s.ctl.stopping
  wQueue := s.wQueue
  thread := pc

/-- What a step of the writer changes, put back as a step of thread `i`. -/
def State.putWriter (s : State F) (i : Nat) (writer : Writer.State F) : State F :=
  { s.setWriter i writer.thread with writerState := writer.state, wQueue := writer.wQueue }

section Threads

variable {s : State F} {i : Nat} {pc : WriterPc F}

theorem writerPoll_view (next : Option F → WriterPc F) :
    writerPoll s i next = (Writer.pollStep (s.writerView pc) next).map (s.putWriter i) := by
  rw [writerPoll, Writer.pollStep]
  dsimp only [State.writerView]
  cases s.wQueue.poll with
  | none => rfl
  | some front => rfl

/-- A thread of the library takes the steps of the writer on its own, as long as it does not
wait for the driver. -/
theorem writerStep_view (hpc : s.writers[i]? = some pc)
    (hdriver : ∀ frame, pc = .write frame → s.driverMutex = none) :
    writerStep s i = (Writer.threadStep (s.writerView pc)).map (s.putWriter i) := by
  rw [writerStep, hpc]
  cases pc with
  | poll => exact writerPoll_view _
  | flushPoll => exact writerPoll_view _
  | write frame =>
      rw [hdriver frame rfl]
      rfl
  | _ => rfl

theorem writerWakes_view (hpc : s.writers[i]? = some pc) :
    writerWakes s i = (Writer.threadWakes (s.writerView pc)).map (s.putWriter i) := by
  rw [writerWakes, hpc, Writer.threadWakes]
  show _ = Option.map _ (if s.wQueue.items.length > 0 then none else _)
  split
  · rfl
  · cases pc <;> rfl

/-- The controlling thread takes the steps of `Writer::stop`. -/
theorem ctlStep_view (nativeOk : Bool) {stopPc : Writer.StopPc}
    (hctl : s.ctl.stopping = some stopPc) :
    (ctlStep s nativeOk).map (fun s' => s'.writerView pc) = Writer.stopStep (s.writerView pc) := by
  have hview : (s.writerView pc).wMutex = some stopPc := hctl
  rw [Writer.stopStep, hview]
  cases hpc : s.ctl <;> rw [hpc] at hctl <;> cases hctl <;> rw [ctlStep, hpc]
  · show some _ = some _
    cases hrunning : s.writerState.isRunning <;>
      simp [State.writerView, State.goto, hrunning, CtlPc.stopping]
  · show some _ = some _
    cases hrunning : s.writerState.isRunning <;>
      simp [State.writerView, State.goto, hrunning, CtlPc.stopping]
  · rfl
  · rfl

end Threads

end Bus

namespace AsyncSends

/-! ## With the copies on the heap -/

/-- The place of the writer without the places between a test and its consequence. -/
def WriterPc.place : WriterPc F → Bus.WriterPc (Copy F)
  | .entry => .entry
  | .starting => .starting
  | .poll => .poll
  | .polled (some outFrame) | .write outFrame | .terminated outFrame => .write outFrame
  | .polled none | .delete _ | .test => .test
  | .retest => .retest
  | .flushTest | .flushDelete _ => .flushTest
  | .flushPoll => .flushPoll
  | .completing => .completing
  | .done => .done

/-- Where the holder of `wMutex` is in the locked section of `Writer::stop`. -/
def Holder.stopping : Holder F → Option Bus.Writer.StopPc
  | .stop .test => some .test
  | .stop .stopStarted => some .stopStarted
  | .stop .set => some .set
  | .stop .offer => some .offer
  | _ => none

/-- The writer on its own. -/
def State.writerView (s : State F) : Bus.Writer.State (Copy F) where
  state := s.state
  wMutex := s.wMutex.bind Holder.stopping
  wQueue := s.wQueue
  thread := s.writer.place

/-- A step that the writer on its own takes as well, or does not see. -/
def Matched (s s' : State F) : Prop :=
  s'.writerView = s.writerView ∨ ∃ a, Bus.Writer.step s.writerView a = some s'.writerView

section

variable {s s' : State F}

theorem pollStep_matched {pc : Option (Copy F) → WriterPc F}
    {next : Option (Copy F) → Bus.WriterPc (Copy F)}
    (hplace : ∀ outFrame, (pc outFrame).place = next outFrame) (h : pollStep s pc = some s') :
    Bus.Writer.pollStep s.writerView next = some s'.writerView := by
  unfold pollStep at h
  cases hpoll : s.wQueue.poll with
  | none => simp [hpoll] at h
  | some front =>
      obtain ⟨outFrame, queue⟩ := front
      simp only [hpoll, Option.some.injEq] at h
      subst h
      simp [Bus.Writer.pollStep, State.writerView, hpoll, hplace]

/-- The writer on its own does not see whether its frame has been written. -/
theorem write_matched {outFrame : Copy F} {thrown : Option Exception}
    (hwriter : s.writer = .write outFrame) (h : writerStep s thrown = some s') : Matched s s' := by
  have hreturns : Matched s { s with writer := .delete (some outFrame) } := by
    refine .inr ⟨.thread, ?_⟩
    have hthread : s.writerView.thread = _ := congrArg WriterPc.place hwriter
    rw [Bus.Writer.step, Bus.Writer.threadStep, hthread]
    rfl
  rw [writerStep, hwriter] at h
  cases thrown with
  | none =>
      cases h
      exact hreturns
  | some e =>
      dsimp only at h
      split at h
      · cases h
        exact hreturns
      · split at h
        · cases h
          exact hreturns
        · cases h
          exact .inl (by simp [State.writerView, hwriter, WriterPc.place])

/-- The places between a test and its consequence. -/
theorem between_matched {thrown : Option Exception}
    (hwriter : (∃ outFrame, s.writer = .polled outFrame ∨ s.writer = .delete outFrame) ∨
      ∃ outFrame, s.writer = .flushDelete outFrame)
    (h : writerStep s thrown = some s') : Matched s s' := by
  refine .inl ?_
  rw [writerStep] at h
  obtain ⟨outFrame, hwriter | hwriter⟩ | ⟨outFrame, hwriter⟩ := hwriter <;> rw [hwriter] at h
  · -- on its own, the writer tests `outFrame` in the step that polls it
    cases outFrame <;> cases h <;> simp [State.writerView, hwriter, WriterPc.place]
  · cases h
    simp [State.writerView, deleteStep, hwriter, WriterPc.place]
  · cases h
    simp [State.writerView, deleteStep, hwriter, WriterPc.place]

theorem writerStep_matched {thrown : Option Exception} (h : writerStep s thrown = some s') :
    Matched s s' := by
  cases hwriter : s.writer with
  | poll | flushPoll =>
      rw [writerStep, hwriter] at h
      refine .inr ⟨.thread, ?_⟩
      have hthread : s.writerView.thread = _ := congrArg WriterPc.place hwriter
      rw [Bus.Writer.step, Bus.Writer.threadStep, hthread]
      refine pollStep_matched ?_ h
      intro outFrame
      cases outFrame <;> rfl
  | polled outFrame => exact between_matched (.inl ⟨outFrame, .inl hwriter⟩) h
  | delete outFrame => exact between_matched (.inl ⟨outFrame, .inr hwriter⟩) h
  | flushDelete outFrame => exact between_matched (.inr ⟨outFrame, hwriter⟩) h
  | write outFrame => exact write_matched hwriter h
  | done | terminated =>
      rw [writerStep, hwriter] at h
      cases h
  | entry =>
      rw [writerStep, hwriter] at h
      cases h
      refine .inr ⟨.thread, ?_⟩
      cases hstopped : s.state.isStopped <;>
        simp [Bus.Writer.step, Bus.Writer.threadStep, State.writerView, WriterPc.place, hwriter,
          hstopped]
  | test | retest =>
      rw [writerStep, hwriter] at h
      cases h
      refine .inr ⟨.thread, ?_⟩
      cases hrunning : s.state.isRunning <;>
        simp [Bus.Writer.step, Bus.Writer.threadStep, State.writerView, WriterPc.place, hwriter,
          hrunning]
  | flushTest =>
      rw [writerStep, hwriter] at h
      cases h
      refine .inr ⟨.thread, ?_⟩
      by_cases hmore : s.wQueue.items.length > 0 <;>
        simp [Bus.Writer.step, Bus.Writer.threadStep, State.writerView, WriterPc.place, hwriter,
          hmore]
  | starting | completing =>
      rw [writerStep, hwriter] at h
      cases h
      refine .inr ⟨.thread, ?_⟩
      simp [Bus.Writer.step, Bus.Writer.threadStep, State.writerView, WriterPc.place, hwriter]

theorem writerWakes_matched (h : writerWakes s = some s') : Matched s s' := by
  unfold writerWakes at h
  split at h
  · cases h
  · next hempty =>
    split at h
    · next hwriter =>
      cases h
      refine .inr ⟨.threadWakes, ?_⟩
      simp [Bus.Writer.step, Bus.Writer.threadWakes, State.writerView, WriterPc.place, hempty,
        hwriter]
    · next hwriter =>
      cases h
      refine .inr ⟨.threadWakes, ?_⟩
      simp [Bus.Writer.step, Bus.Writer.threadWakes, State.writerView, WriterPc.place, hempty,
        hwriter]
    · cases h

theorem holderStep_matched {ok : Bool} (h : holderStep s ok = some s') : Matched s s' := by
  cases hholds : s.wMutex with
  | none =>
      rw [holderStep, hholds] at h
      cases h
  | some holder =>
      rw [holderStep, hholds] at h
      have hmutex : s.writerView.wMutex = holder.stopping := congrArg (·.bind Holder.stopping) hholds
      cases holder with
      | sendTest frame =>
          cases h
          refine .inl ?_
          simp only [State.writerView, hholds]
          split <;> rfl
      | sendAllocate frame =>
          cases h
          exact .inl (by simp [State.writerView, hholds, Holder.stopping])
      | sendOffer copyFrame =>
          cases h
          refine .inr ⟨.sendAsync copyFrame, ?_⟩
          rw [Bus.Writer.step, hmutex]
          rfl
      | stop pc =>
          cases pc with
          | reader =>
              cases h
              cases ok with
              | false => exact .inl (by simp [State.writerView, hholds, Holder.stopping])
              | true =>
                  refine .inr ⟨.stop, ?_⟩
                  rw [Bus.Writer.step, hmutex]
                  rfl
          | wait =>
              dsimp only at h
              split at h
              · cases h
                exact .inl (by simp [State.writerView, hholds, Holder.stopping])
              · cases h
          | test | stopStarted =>
              cases h
              refine .inr ⟨.stopStep, ?_⟩
              cases hrunning : s.state.isRunning <;>
                simp [Bus.Writer.step, Bus.Writer.stopStep, State.writerView, hholds,
                  Holder.stopping, hrunning]
          | set | offer =>
              cases h
              refine .inr ⟨.stopStep, ?_⟩
              simp [Bus.Writer.step, Bus.Writer.stopStep, State.writerView, hholds,
                Holder.stopping]

theorem step_matched {a : Action F} (h : step s a = some s') : Matched s s' := by
  cases a with
  | sendAsync frame =>
      rw [step] at h
      split at h
      · cases h
      · next hfree =>
        cases h
        exact .inl (by simp [State.writerView, hfree, Holder.stopping])
  | start ok =>
      rw [step, startStep] at h
      split at h
      · cases h
      · next hfree =>
        split at h
        · next hstopped =>
          rw [Stoppable.isStopped_iff] at hstopped
          split at h
          · next hdone =>
            cases h
            refine .inr ⟨.start, ?_⟩
            simp [Bus.Writer.step, State.writerView, WriterPc.place, hfree, hstopped, hdone]
          · cases h
        · cases h
          exact .inl (by simp [State.writerView])
  | stop =>
      rw [step] at h
      split at h
      · cases h
      · next hfree =>
        cases h
        exact .inl (by simp [State.writerView, hfree, Holder.stopping])
  | holder ok => exact holderStep_matched h
  | writer thrown => exact writerStep_matched h
  | writerWakes => exact writerWakes_matched h

end

/-- The writer on its own simulates the one with the copies. -/
theorem simulates (ok : State F → Action F → Prop) :
    StepSystem.Simulation (AsyncSends.system F) ok (Bus.Writer.system (Copy F))
      StepSystem.unguarded fun s t => t = s.writerView where
  initial := by
    rintro s rfl
    exact ⟨_, rfl, rfl⟩
  step := by
    rintro s t a s' - - rfl - hstep
    obtain hsame | ⟨b, hb⟩ := step_matched hstep
    · exact ⟨s.writerView, .refl, hsame.symm⟩
    · exact ⟨s'.writerView, .single ⟨b, trivial, hb⟩, rfl⟩

theorem Holder.stopping_offer {holder : Holder F} (h : holder.stopping = some .offer) :
    holder = .stop .offer := by
  cases holder with
  | stop pc => cases pc <;> first | rfl | cases h
  | _ => cases h

/-- So a writer with copies that has been told to stop is not left waiting either: where it
polls, there is an entry for it. -/
theorem reachable_served {ok : State F → Action F → Prop} {s : State F}
    (h : (AsyncSends.system F).Reachable ok s) (hstopping : s.state = .stopping)
    (hoffered : s.wMutex ≠ some (.stop .offer))
    (hpolls : s.writer = .poll ∨ s.writer = .flushPoll) : s.wQueue.items ≠ [] := by
  obtain ⟨t, ht, rfl⟩ := (simulates ok).reachable h
  have hview : s.writerView.wMutex ≠ some .offer := by
    intro hoffer
    obtain ⟨holder, hholds, hstop⟩ := Option.bind_eq_some_iff.mp hoffer
    rw [Holder.stopping_offer hstop] at hholds
    exact hoffered hholds
  have hplace : s.writerView.thread = .poll ∨ s.writerView.thread = .flushPoll :=
    hpolls.imp (congrArg WriterPc.place) (congrArg WriterPc.place)
  exact fun hempty => (Bus.Writer.reachable_inv ht).not_asleep hstopping hview ⟨hplace, hempty⟩

end AsyncSends

end HdmiCec
