import HdmiCec.Bus.LifeCycle

/-!
# Waiting for the reader with its own mutex held

`Bus::stop` keeps `rMutex` while `Reader::stop` waits until the reader is
`STOPPED`.  A reader thread that holds a frame needs `rMutex` to notify the
listeners before it looks at the state again, so then both wait for each other.
The file shows which steps of a run lead there: taking `rMutex` for the shutdown
while a reader holds a frame, and returning one more frame from `read` during the
shutdown.
-/

universe u

namespace HdmiCec

namespace Bus

variable {F : Type u}

/-- `read` has returned a frame, and the reader blocks on `rMutex` or is about to. -/
def ReaderPc.holdsFrame : ReaderPc F → Bool
  | .notifyLock _ => true
  | _ => false

/-- `Reader::stop` waits, with `rMutex` held, for a reader thread that waits for
`rMutex`. -/
def State.Deadlocked (s : State F) : Prop :=
  s.ctl = .readerWait ∧ s.rMutex = some .ctl ∧ s.readerState ≠ .stopped ∧
    ∃ pc ∈ s.readers, pc.holdsFrame = true

instance (s : State F) : Decidable s.Deadlocked :=
  inferInstanceAs (Decidable (_ ∧ _))

/-- From the acquisition of `rMutex` by `Bus::stop` to the end of the wait of
`Reader::stop`. -/
def CtlPc.stopsReader : CtlPc → Bool
  | .stopLockW | .stopFlag | .readerStopTest | .readerStopSet => true
  | .closeTest .readerStop | .closeOffer .readerStop | .closeNative .readerStop => true
  | .readerWait => true
  | _ => false

/-- The thread's next step is a `poll` of `read` that takes a frame off the queue. -/
def State.pollsFrame (s : State F) (i : Nat) : Bool :=
  match s.readers[i]?, s.rQueue.items with
  | some .poll, some _ :: _ => true
  | _, _ => false

/-- `Bus::stop` takes `rMutex` only while no reader holds a frame, and until
`Reader::stop` has seen the reader `STOPPED` no `read` returns another one. -/
def StopsBetweenFrames (s : State F) : Action F → Prop
  | .ctl _ => s.ctl = .stopLockR → ∀ pc ∈ s.readers, pc.holdsFrame = false
  | .reader i => s.ctl.stopsReader = true → s.pollsFrame i = false
  | _ => True

instance (s : State F) (a : Action F) : Decidable (StopsBetweenFrames s a) :=
  match a with
  | .ctl _ =>
      inferInstanceAs (Decidable (s.ctl = .stopLockR → ∀ pc ∈ s.readers, pc.holdsFrame = false))
  | .reader i => inferInstanceAs (Decidable (s.ctl.stopsReader = true → s.pollsFrame i = false))
  | .init | .term | .readerWakes _ | .writer _ | .writerWakes _ | .receive _
  | .deliver _ | .sendAsync _ => inferInstanceAs (Decidable True)

/-- During the shutdown of the reader no reader thread holds a frame. -/
def State.Unburdened (s : State F) : Prop :=
  s.ctl.stopsReader = true → ∀ pc ∈ s.readers, pc.holdsFrame = false

/-- A reader comes to hold a frame in one way only. -/
theorem readerStep_holdsFrame {s s' : State F} {i : Nat} (h : readerStep s i = some s')
    {pc : ReaderPc F} (hmem : pc ∈ s'.readers) (hholds : pc.holdsFrame = true) :
    pc ∈ s.readers ∨ s.pollsFrame i = true := by
  unfold readerStep at h
  cases hi : s.readers[i]? with
  | none => simp [hi] at h
  | some old =>
      have hset : ∀ pc', pc'.holdsFrame = false → pc ∈ s.readers.set i pc' →
          pc ∈ s.readers := by
        intro pc' hpc' hmem'
        obtain hold | rfl := List.mem_or_eq_of_mem_set hmem'
        · exact hold
        · rw [hpc'] at hholds
          cases hholds
      cases old with
      | poll =>
          simp only [hi, readerPoll, BoundedFifo.poll] at h
          cases hitems : s.rQueue.items with
          | nil => simp [hitems] at h
          | cons entry rest =>
              cases entry with
              | none =>
                  simp only [hitems, Option.some.injEq] at h
                  subst h
                  exact Or.inl (hset _ rfl hmem)
              | some frame => exact Or.inr (by simp [State.pollsFrame, hi, hitems])
      | _ =>
          left
          simp only [hi] at h
          grind [readerPoll, State.setReader, ReaderPc.holdsFrame]

/-- The controlling thread creates threads outside the shutdown only, and enters
the shutdown of the reader by taking `rMutex`. -/
theorem ctlStep_stopsReader {s s' : State F} {nativeOk : Bool}
    (h : ctlStep s nativeOk = some s') (hstops : s'.ctl.stopsReader = true) :
    s'.readers = s.readers ∧ (s.ctl = .stopLockR ∨ s.ctl.stopsReader = true) := by
  unfold ctlStep at h
  cases hctl : s.ctl with
  | closeTest site =>
      cases site <;> simp only [hctl] at h <;>
        grind [CtlPc.stopsReader, State.goto, CloseSite.next]
  | closeNative site =>
      cases site <;> simp only [hctl] at h <;>
        grind [CtlPc.stopsReader, State.goto, CloseSite.next, CloseSite.throws]
  | closeOffer site =>
      cases site <;> simp only [hctl] at h <;> grind [CtlPc.stopsReader, State.goto]
  | _ =>
      simp only [hctl] at h
      grind [CtlPc.stopsReader, State.goto, State.unlockBus, driverOpen, startReader, startWriter]

/-- A reader that wakes up with nothing to take holds no frame either. -/
theorem readerWakes_holdsFrame {s s' : State F} {i : Nat} (h : readerWakes s i = some s')
    {pc : ReaderPc F} (hmem : pc ∈ s'.readers) (hholds : pc.holdsFrame = true) :
    pc ∈ s.readers := by
  unfold readerWakes at h
  grind [State.setReader, ReaderPc.holdsFrame, List.mem_or_eq_of_mem_set]

theorem step_unburdened {s s' : State F} {a : Action F} (hs : s.Unburdened)
    (hok : StopsBetweenFrames s a) (h : step s a = some s') : s'.Unburdened := by
  intro hstops pc hmem
  by_contra hholds
  rw [Bool.not_eq_false] at hholds
  -- either the thread held the frame before, or its step is one the guard excludes
  have hbefore : s.ctl.stopsReader = true → pc ∈ s.readers → False := by
    intro hstops' hmem'
    rw [hs hstops' pc hmem'] at hholds
    cases hholds
  obtain hreaders | ⟨nativeOk, rfl⟩ | ⟨i, rfl⟩ | ⟨i, rfl⟩ := step_sameReaders h
  · obtain hctl | ⟨nativeOk, rfl⟩ | ⟨-, -, rfl⟩ | ⟨-, -, rfl⟩ := step_sameCtl h
    · exact hbefore (hctl.ctl ▸ hstops) (hreaders.readers ▸ hmem)
    · obtain ⟨-, hctl | hstops'⟩ := ctlStep_stopsReader h hstops
      · rw [hok hctl pc (hreaders.readers ▸ hmem)] at hholds
        cases hholds
      · exact hbefore hstops' (hreaders.readers ▸ hmem)
    · cases hstops
    · cases hstops
  · obtain ⟨hreaders, hctl | hstops'⟩ := ctlStep_stopsReader h hstops
    · rw [hok hctl pc (hreaders ▸ hmem)] at hholds
      cases hholds
    · exact hbefore hstops' (hreaders ▸ hmem)
  · have hstops' : s.ctl.stopsReader = true := (readerStep_frame h).1.ctl ▸ hstops
    obtain hmem' | hpolls := readerStep_holdsFrame h hmem hholds
    · exact hbefore hstops' hmem'
    · rw [hok hstops'] at hpolls
      cases hpolls
  · exact hbefore ((readerWakes_frame h).1.ctl ▸ hstops)
      (readerWakes_holdsFrame h hmem hholds)

theorem reachable_unburdened {s : State F} (h : (system F).Reachable StopsBetweenFrames s) :
    s.Unburdened := by
  refine h.invariant ?_ ?_
  · rintro s rfl hstops
    cases hstops
  · intro s a s' _ hs hok hstep
    exact step_unburdened hs hok hstep

/-- `Reader::stop` does not wait for a reader that waits for `rMutex`, as long as
the shutdown of the reader and the handling of a frame do not overlap. -/
theorem not_deadlocked {s : State F} (h : (system F).Reachable StopsBetweenFrames s) :
    ¬ s.Deadlocked := by
  rintro ⟨hctl, -, -, pc, hmem, hholds⟩
  have hstops : s.ctl.stopsReader = true := by
    rw [hctl]
    rfl
  rw [reachable_unburdened h hstops pc hmem] at hholds
  cases hholds

/-- The reader of an initialized library polls on the empty queue, and the shutdown
reaches the wait of `Reader::stop`. -/
theorem not_deadlocked_while_polling :
    ∃ s : State CECFrame, (system CECFrame).Reachable StopsBetweenFrames s ∧
      s.ctl = .readerWait ∧ s.readers = [.poll] ∧ ¬ s.Deadlocked := by
  obtain ⟨s, hreach, hctl, hreaders⟩ :=
    StepSystem.exists_reachable_of_run (system CECFrame) StopsBetweenFrames (new CECFrame)
      (initCall ++ readerSteps 3 ++ termUntilClose ++ ctlSteps 1)
      (fun s => s.ctl = .readerWait ∧ s.readers = [.poll]) rfl (by decide)
  exact ⟨s, hreach, hctl, hreaders, not_deadlocked hreach⟩

/-- A broadcast `<Standby>` from the television. -/
def standbyFrame : CECFrame where
  buf_ := [0x0F, 0x36] ++ List.replicate 126 0
  len_ := 2
  buf_length := rfl
  len_le := by decide

/-- The frame arrives in the queue, and the reader takes it. -/
def standbyArrives : List (Action CECFrame) := [.receive standbyFrame, .deliver 0, .reader 0]

/-- The shutdown of the bus does deadlock on its own lock: a frame arrives, `read`
returns it, and `term` runs up to the wait of `Reader::stop`. -/
theorem deadlocked_reachable :
    ¬ ∀ s : State CECFrame, (system CECFrame).Reachable StepSystem.unguarded s →
      ¬ s.Deadlocked := by
  intro hall
  obtain ⟨s, hreach, hdeadlocked⟩ :=
    StepSystem.exists_reachable_of_run (system CECFrame) StepSystem.unguarded (new CECFrame)
      (initCall ++ readerSteps 3 ++ standbyArrives ++ termUntilClose ++ ctlSteps 1)
      (fun s => s.Deadlocked) rfl (by decide)
  exact hall s hreach hdeadlocked

end Bus

end HdmiCec
