import HdmiCec.Bus.LifeCycle

/-!
# One reader and one writer at a time

The reader and the writer of the bus as abstract workers: the projections forget
what the threads do inside their loops.  Every step of a thread is a step of its
worker, and the controlling thread creates threads and marks workers only in
lives in which that leaves at most one thread, provided that it never asks a worker to
stop whose new thread has not announced itself yet.
-/

universe u

namespace HdmiCec

namespace Bus

variable {F : Type u}

/-! ## The projections -/

def ReaderPc.stage : ReaderPc F → Stage
  | .entry => .entry
  | .starting => .starting
  | .loop | .readStatus | .poll | .sentinel | .flushTest | .flushPoll | .crashed => .looping
  | .notifyLock _ | .notify _ => .looping
  | .completing => .leaving
  | .done => .done

/-- The flush behind the loop counts as leaving it. -/
def WriterPc.stage : WriterPc F → Stage
  | .entry => .entry
  | .starting => .starting
  | .poll | .write _ | .test => .looping
  | .retest | .flushTest | .flushPoll | .completing => .leaving
  | .done => .done

def State.reader (s : State F) : Worker :=
  { state := s.readerState, threads := s.readers.map ReaderPc.stage }

def State.writer (s : State F) : Worker :=
  { state := s.writerState, threads := s.writers.map WriterPc.stage }

theorem SameReaders.reader_eq {s s' : State F} (h : SameReaders s s') : s'.reader = s.reader := by
  rw [State.reader, State.reader, h.readers, h.readerState]

theorem SameWriters.writer_eq {s s' : State F} (h : SameWriters s s') : s'.writer = s.writer := by
  rw [State.writer, State.writer, h.writers, h.writerState]

theorem stage_of_reader {s : State F} {i : Nat} {pc : ReaderPc F}
    (hi : s.readers[i]? = some pc) : s.reader.threads[i]? = some pc.stage := by
  simp [State.reader, hi]

theorem stage_of_writer {s : State F} {i : Nat} {pc : WriterPc F}
    (hi : s.writers[i]? = some pc) : s.writer.threads[i]? = some pc.stage := by
  simp [State.writer, hi]

theorem setReader_reader (s : State F) (i : Nat) (pc : ReaderPc F) :
    (s.setReader i pc).reader = { s.reader with threads := s.reader.threads.set i pc.stage } := by
  simp [State.reader, State.setReader, List.map_set]

theorem setWriter_writer (s : State F) (i : Nat) (pc : WriterPc F) :
    (s.setWriter i pc).writer = { s.writer with threads := s.writer.threads.set i pc.stage } := by
  simp [State.writer, State.setWriter, List.map_set]

/-! ## The threads' steps are steps of their workers -/

/-- A step to a point of the same stage is none of the worker. -/
theorem setReader_advances {s : State F} {i : Nat} {pc pc' : ReaderPc F}
    (hi : s.readers[i]? = some pc) (hstage : pc'.stage = pc.stage) :
    s.reader.Advances (s.setReader i pc').reader := by
  rw [setReader_reader, hstage]
  exact .of_set (stage_of_reader hi)

theorem setWriter_advances {s : State F} {i : Nat} {pc pc' : WriterPc F}
    (hi : s.writers[i]? = some pc) (hstage : pc'.stage = pc.stage) :
    s.writer.Advances (s.setWriter i pc').writer := by
  rw [setWriter_writer, hstage]
  exact .of_set (stage_of_writer hi)

theorem readerStep_advances {s s' : State F} {i : Nat} (h : readerStep s i = some s') :
    s.reader.Advances s'.reader := by
  unfold readerStep at h
  cases hi : s.readers[i]? with
  | none => simp [hi] at h
  | some pc =>
      have hstage := stage_of_reader hi
      cases pc with
      | entry =>
          simp only [hi, Option.some.injEq] at h
          subst h
          rw [setReader_reader]
          by_cases hstopped : s.readerState = .stopped
          · simpa [hstopped, ReaderPc.stage] using Worker.Advances.restarts i hstage hstopped
          · simpa [hstopped, ReaderPc.stage] using Worker.Advances.enters i hstage hstopped
      | starting =>
          simp only [hi, Option.some.injEq] at h
          subst h
          have hstep := Worker.Advances.runStarted i hstage
          simpa [State.reader, State.setReader, List.map_set, ReaderPc.stage] using hstep
      | loop =>
          simp only [hi, Option.some.injEq] at h
          subst h
          by_cases hrunning : s.readerState = .running
          · rw [(Stoppable.isRunning_iff _).mpr hrunning]
            exact setReader_advances hi rfl
          · rw [setReader_reader]
            simpa [hrunning, ReaderPc.stage] using Worker.Advances.leaves i hstage hrunning
      | completing =>
          simp only [hi, Option.some.injEq] at h
          subst h
          have hstep := Worker.Advances.stopCompleted i hstage
          simpa [State.reader, State.setReader, List.map_set, ReaderPc.stage] using hstep
      | readStatus | sentinel | flushTest | notifyLock frame =>
          simp only [hi] at h
          (repeat' split at h) <;> cases h <;> exact setReader_advances hi rfl
      | poll | flushPoll =>
          simp only [hi, readerPoll] at h
          (repeat' split at h) <;> cases h <;> exact setReader_advances hi rfl
      | notify frame =>
          simp only [hi, Option.some.injEq] at h
          subst h
          exact setReader_advances hi rfl
      | crashed | done => simp [hi] at h

theorem readerWakes_advances {s s' : State F} {i : Nat} (h : readerWakes s i = some s') :
    s.reader.Advances s'.reader := by
  unfold readerWakes at h
  split at h
  · cases h
  · split at h
    · next hi =>
      cases h
      exact setReader_advances hi rfl
    · next hi =>
      cases h
      exact setReader_advances hi rfl
    · cases h

theorem writerStep_advances {s s' : State F} {i : Nat} (h : writerStep s i = some s') :
    s.writer.Advances s'.writer := by
  unfold writerStep at h
  cases hi : s.writers[i]? with
  | none => simp [hi] at h
  | some pc =>
      have hstage := stage_of_writer hi
      cases pc with
      | entry =>
          simp only [hi, Option.some.injEq] at h
          subst h
          rw [setWriter_writer]
          by_cases hstopped : s.writerState = .stopped
          · simpa [hstopped, WriterPc.stage] using Worker.Advances.restarts i hstage hstopped
          · simpa [hstopped, WriterPc.stage] using Worker.Advances.enters i hstage hstopped
      | starting =>
          simp only [hi, Option.some.injEq] at h
          subst h
          have hstep := Worker.Advances.runStarted i hstage
          simpa [State.writer, State.setWriter, List.map_set, WriterPc.stage] using hstep
      | test =>
          simp only [hi, Option.some.injEq] at h
          subst h
          by_cases hrunning : s.writerState = .running
          · rw [(Stoppable.isRunning_iff _).mpr hrunning]
            exact setWriter_advances hi rfl
          · rw [setWriter_writer]
            simpa [hrunning, WriterPc.stage] using Worker.Advances.leaves i hstage hrunning
      | completing =>
          simp only [hi, Option.some.injEq] at h
          subst h
          have hstep := Worker.Advances.stopCompleted i hstage
          simpa [State.writer, State.setWriter, List.map_set, WriterPc.stage] using hstep
      | poll | flushPoll =>
          simp only [hi, writerPoll] at h
          (repeat' split at h) <;> cases h <;> exact setWriter_advances hi rfl
      | write frame =>
          simp only [hi] at h
          split at h <;> cases h
          exact setWriter_advances hi rfl
      | retest | flushTest =>
          simp only [hi, Option.some.injEq] at h
          subst h
          exact setWriter_advances hi (by split <;> rfl)
      | done => simp [hi] at h

theorem writerWakes_advances {s s' : State F} {i : Nat} (h : writerWakes s i = some s') :
    s.writer.Advances s'.writer := by
  unfold writerWakes at h
  split at h
  · cases h
  · split at h
    · next hi =>
      cases h
      exact setWriter_advances hi rfl
    · next hi =>
      cases h
      exact setWriter_advances hi rfl
    · cases h

/-! ## The lives that a point of the controlling thread allows -/

/-- The lives of the reader while the controlling thread is at this point. -/
def CtlPc.readerLives (initialized : Bool) : CtlPc → List Worker.Life
  | .idle | .initTest | .termTest =>
      if initialized then [.gone, .pending, .serving, .ending] else [.gone, .serving]
  | .initOpen | .startLockR | .startLockW | .startReader => [.gone, .serving]
  | .startWriter | .startOpen | .startFlag | .startUnlock | .initFlag => [.pending, .serving]
  | .stopLockR | .stopLockW | .stopFlag | .readerStopTest => [.gone, .pending, .serving, .ending]
  | .readerStopSet => [.serving]
  | .closeTest .readerStop | .closeOffer .readerStop | .closeNative .readerStop
  | .readerWait => [.gone, .ending]
  | _ => [.gone]

/-- The lives of the writer. -/
def CtlPc.writerLives (initialized : Bool) : CtlPc → List Worker.Life
  | .idle | .initTest | .termTest =>
      if initialized then [.gone, .pending, .serving, .ending] else [.gone, .serving]
  | .initOpen | .startLockR | .startLockW | .startReader | .startWriter => [.gone, .serving]
  | .startOpen | .startFlag | .startUnlock | .initFlag => [.pending, .serving]
  | .stopLockR | .stopLockW | .stopFlag | .readerStopTest | .readerStopSet
  | .closeTest .readerStop | .closeOffer .readerStop | .closeNative .readerStop
  | .readerWait | .writerStopTest => [.gone, .pending, .serving, .ending]
  | .writerStopStarted | .writerStopSet => [.serving]
  | .writerStopOffer | .writerWait => [.gone, .ending]
  | _ => [.gone]

/-- What else the controlling thread relies on: it is in `init` only before the
library is initialized, and in `Bus::start` with a driver that is not closed. -/
def State.CtlFits (s : State F) : Prop :=
  match s.ctl with
  | .initOpen => s.initialized = false
  | .startLockR => s.initialized = false ∧ s.status ≠ .closed
  | .startLockW | .startReader | .startWriter | .startOpen =>
      s.initialized = false ∧ s.status ≠ .closed ∧ s.stopReturned = false
  | .startFlag | .startUnlock | .initFlag => s.initialized = false
  | .idle | .initTest | .termTest => True
  | _ => s.initialized = true

/-- The invariant of the workers. -/
structure WorkersFit (s : State F) : Prop where
  ctl : s.CtlFits
  reader : ∃ life ∈ s.ctl.readerLives s.initialized, s.reader.Is life
  writer : ∃ life ∈ s.ctl.writerLives s.initialized, s.writer.Is life
  stopReturned : s.stopReturned = true → s.reader.Is .gone ∧ s.writer.Is .gone

/-- `Reader::stop` tests the state, and `Writer::stop` does, only when the thread
created last has got past its `runStarted`. -/
def StopsSettled (s : State F) : Action F → Prop
  | .ctl _ =>
      (s.ctl = .readerStopTest → s.readerState = .stopped →
        ∀ pc ∈ s.readers, pc.stage ≠ .entry ∧ pc.stage ≠ .starting) ∧
      (s.ctl = .writerStopTest → s.writerState = .stopped →
        ∀ pc ∈ s.writers, pc.stage ≠ .entry ∧ pc.stage ≠ .starting)
  | _ => True

instance (s : State F) (a : Action F) : Decidable (StopsSettled s a) :=
  match a with
  | .ctl _ => inferInstanceAs (Decidable (_ ∧ _))
  | .init | .term | .reader _ | .readerWakes _ | .writer _ | .writerWakes _ | .receive _
  | .deliver _ | .sendAsync _ => inferInstanceAs (Decidable True)

/-- The lives allowed at a point are closed under the steps of the threads. -/
theorem CtlPc.readerLives_next {pc : CtlPc} {initialized : Bool} {life life' : Worker.Life}
    (h : life ∈ pc.readerLives initialized) (hnext : life' ∈ life.next) :
    life' ∈ pc.readerLives initialized := by
  unfold CtlPc.readerLives at h ⊢
  cases life <;> cases life' <;> simp only [Worker.Life.next] at hnext <;> grind

theorem CtlPc.writerLives_next {pc : CtlPc} {initialized : Bool} {life life' : Worker.Life}
    (h : life ∈ pc.writerLives initialized) (hnext : life' ∈ life.next) :
    life' ∈ pc.writerLives initialized := by
  unfold CtlPc.writerLives at h ⊢
  cases life <;> cases life' <;> simp only [Worker.Life.next] at hnext <;> grind

/-! ## The controlling thread -/

theorem ctlStep_sameReaders {s s' : State F} {nativeOk : Bool}
    (h : ctlStep s nativeOk = some s') (hstart : s.ctl ≠ .startReader)
    (hset : s.ctl ≠ .readerStopSet) : SameReaders s s' := by
  unfold ctlStep driverOpen startWriter at h
  cases hctl : s.ctl with
  | startReader => exact absurd hctl hstart
  | readerStopSet => exact absurd hctl hset
  | closeNative site =>
      simp only [hctl] at h
      split at h <;> cases h <;> cases site <;> exact ⟨rfl, rfl⟩
  | _ =>
      simp only [hctl] at h
      (repeat' split at h) <;> cases h <;> exact ⟨rfl, rfl⟩

theorem ctlStep_sameWriters {s s' : State F} {nativeOk : Bool}
    (h : ctlStep s nativeOk = some s') (hstart : s.ctl ≠ .startWriter)
    (hset : s.ctl ≠ .writerStopSet) : SameWriters s s' := by
  unfold ctlStep driverOpen startReader at h
  cases hctl : s.ctl with
  | startWriter => exact absurd hctl hstart
  | writerStopSet => exact absurd hctl hset
  | closeNative site =>
      simp only [hctl] at h
      split at h <;> cases h <;> cases site <;> exact ⟨rfl, rfl⟩
  | _ =>
      simp only [hctl] at h
      (repeat' split at h) <;> cases h <;> exact ⟨rfl, rfl⟩

theorem ctlStep_ctlFits {s s' : State F} {nativeOk : Bool} (hfits : s.CtlFits)
    (h : ctlStep s nativeOk = some s') : s'.CtlFits := by
  unfold ctlStep at h
  unfold State.CtlFits at hfits ⊢
  cases hctl : s.ctl with
  | closeTest site | closeNative site | closeOffer site =>
      cases site <;> simp only [hctl] at h hfits <;>
        grind [State.goto, State.unlockBus, CloseSite.next, CloseSite.throws]
  | _ =>
      simp only [hctl] at h hfits
      grind [State.goto, State.unlockBus, driverOpen, startReader, startWriter]

/-- Where the reader is not involved, the points of the controlling thread follow
each other so that every life stays allowed. -/
theorem ctlStep_readerLives {s s' : State F} {nativeOk : Bool} (hfits : s.CtlFits)
    (h : ctlStep s nativeOk = some s') (hstart : s.ctl ≠ .startReader)
    (htest : s.ctl ≠ .readerStopTest) (hset : s.ctl ≠ .readerStopSet)
    (hwait : s.ctl ≠ .readerWait) {life : Worker.Life}
    (hlife : life ∈ s.ctl.readerLives s.initialized) :
    life ∈ s'.ctl.readerLives s'.initialized := by
  unfold ctlStep at h
  unfold State.CtlFits at hfits
  cases hctl : s.ctl with
  | closeTest site | closeNative site | closeOffer site =>
      cases site <;> simp only [hctl] at h hfits hlife <;>
        grind [State.goto, State.unlockBus, CloseSite.next, CloseSite.throws, CtlPc.readerLives]
  | _ =>
      simp only [hctl] at h hfits hlife
      grind [State.goto, State.unlockBus, driverOpen, startReader, startWriter,
        CtlPc.readerLives]

theorem ctlStep_writerLives {s s' : State F} {nativeOk : Bool} (hfits : s.CtlFits)
    (h : ctlStep s nativeOk = some s') (hstart : s.ctl ≠ .startWriter)
    (htest : s.ctl ≠ .writerStopTest) (hstarted : s.ctl ≠ .writerStopStarted)
    (hset : s.ctl ≠ .writerStopSet) (hwait : s.ctl ≠ .writerWait) {life : Worker.Life}
    (hlife : life ∈ s.ctl.writerLives s.initialized) :
    life ∈ s'.ctl.writerLives s'.initialized := by
  unfold ctlStep at h
  unfold State.CtlFits at hfits
  cases hctl : s.ctl with
  | closeTest site | closeNative site | closeOffer site =>
      cases site <;> simp only [hctl] at h hfits hlife <;>
        grind [State.goto, State.unlockBus, CloseSite.next, CloseSite.throws, CtlPc.writerLives]
  | _ =>
      simp only [hctl] at h hfits hlife
      grind [State.goto, State.unlockBus, driverOpen, startReader, startWriter,
        CtlPc.writerLives]

/-- A pending reader has a thread that the guard of `Reader::stop` excludes. -/
theorem StopsSettled.reader_not_pending {s : State F} {nativeOk : Bool}
    (hok : StopsSettled s (.ctl nativeOk)) (hctl : s.ctl = .readerStopTest) :
    ¬ s.reader.Is .pending := by
  rintro ⟨hstate, i, stage, hsole, hstage⟩
  obtain ⟨pc, hmem, rfl⟩ := List.mem_map.mp (List.mem_of_getElem? hsole.here)
  obtain ⟨hentry, hstarting⟩ := hok.1 hctl hstate pc hmem
  exact hstage.elim hentry hstarting

theorem StopsSettled.writer_not_pending {s : State F} {nativeOk : Bool}
    (hok : StopsSettled s (.ctl nativeOk)) (hctl : s.ctl = .writerStopTest) :
    ¬ s.writer.Is .pending := by
  rintro ⟨hstate, i, stage, hsole, hstage⟩
  obtain ⟨pc, hmem, rfl⟩ := List.mem_map.mp (List.mem_of_getElem? hsole.here)
  obtain ⟨hentry, hstarting⟩ := hok.2 hctl hstate pc hmem
  exact hstage.elim hentry hstarting

theorem startReader_reader (s : State F) :
    (startReader s).reader = if s.readerState = .stopped then s.reader.create else s.reader := by
  unfold startReader
  split <;> simp_all [State.reader, Worker.create, ReaderPc.stage]

theorem startWriter_writer (s : State F) :
    (startWriter s).writer = if s.writerState = .stopped then s.writer.create else s.writer := by
  unfold startWriter
  split <;> simp_all [State.writer, Worker.create, WriterPc.stage]

/-- The reader's part of the invariant after a step of the controlling thread. -/
theorem ctlStep_reader {s s' : State F} {nativeOk : Bool} (hs : WorkersFit s)
    (hok : StopsSettled s (.ctl nativeOk)) (h : ctlStep s nativeOk = some s') :
    ∃ life ∈ s'.ctl.readerLives s'.initialized, s'.reader.Is life := by
  obtain ⟨life, hlife, his⟩ := hs.reader
  have hstate : s.readerState = life.state := his.state
  by_cases hstart : s.ctl = .startReader
  · simp only [ctlStep, hstart, Option.some.injEq] at h
    subst h
    rw [hstart] at hlife
    have hbefore : life = .gone ∨ life = .serving := by simpa [CtlPc.readerLives] using hlife
    obtain ⟨life', hafter, his'⟩ := his.started hbefore (startReader_reader s)
    exact ⟨life', by simpa [State.goto, CtlPc.readerLives] using hafter, his'⟩
  by_cases htest : s.ctl = .readerStopTest
  · have hnot := hok.reader_not_pending htest
    simp only [ctlStep, htest, Option.some.injEq] at h
    subst h
    refine ⟨life, ?_, his⟩
    cases life with
    | pending => exact absurd his hnot
    | gone | serving | ending =>
        simp [State.goto, hstate, Worker.Life.state, Stoppable.isRunning, CtlPc.readerLives]
  by_cases hset : s.ctl = .readerStopSet
  · simp only [ctlStep, hset, Option.some.injEq] at h
    subst h
    rw [hset] at hlife
    obtain rfl : life = .serving := by simpa [CtlPc.readerLives] using hlife
    exact ⟨.ending, by simp [State.goto, CtlPc.readerLives], his.mark⟩
  by_cases hwait : s.ctl = .readerWait
  · simp only [ctlStep, hwait] at h
    split at h
    · next hstopped =>
      cases h
      rw [hwait] at hlife
      have hbefore : life = .gone ∨ life = .ending := by simpa [CtlPc.readerLives] using hlife
      obtain rfl := his.gone_of_stopped hbefore hstopped
      exact ⟨.gone, by simp [State.goto, CtlPc.readerLives], his⟩
    · cases h
  have hreader := (ctlStep_sameReaders h hstart hset).reader_eq
  exact ⟨life, ctlStep_readerLives hs.ctl h hstart htest hset hwait hlife, hreader ▸ his⟩

/-- The writer's part, which has a second test of the state. -/
theorem ctlStep_writer {s s' : State F} {nativeOk : Bool} (hs : WorkersFit s)
    (hok : StopsSettled s (.ctl nativeOk)) (h : ctlStep s nativeOk = some s') :
    ∃ life ∈ s'.ctl.writerLives s'.initialized, s'.writer.Is life := by
  obtain ⟨life, hlife, his⟩ := hs.writer
  have hstate : s.writerState = life.state := his.state
  by_cases hstart : s.ctl = .startWriter
  · simp only [ctlStep, hstart, Option.some.injEq] at h
    subst h
    rw [hstart] at hlife
    have hbefore : life = .gone ∨ life = .serving := by simpa [CtlPc.writerLives] using hlife
    obtain ⟨life', hafter, his'⟩ := his.started hbefore (startWriter_writer s)
    exact ⟨life', by simpa [State.goto, CtlPc.writerLives] using hafter, his'⟩
  by_cases htest : s.ctl = .writerStopTest
  · have hnot := hok.writer_not_pending htest
    simp only [ctlStep, htest, Option.some.injEq] at h
    subst h
    refine ⟨life, ?_, his⟩
    cases life with
    | pending => exact absurd his hnot
    | gone | serving | ending =>
        simp [State.goto, hstate, Worker.Life.state, Stoppable.isRunning, CtlPc.writerLives]
  by_cases hstarted : s.ctl = .writerStopStarted
  · simp only [ctlStep, hstarted, Option.some.injEq] at h
    subst h
    rw [hstarted] at hlife
    obtain rfl : life = .serving := by simpa [CtlPc.writerLives] using hlife
    refine ⟨.serving, ?_, his⟩
    simp [State.goto, hstate, Worker.Life.state, Stoppable.isRunning, CtlPc.writerLives]
  by_cases hset : s.ctl = .writerStopSet
  · simp only [ctlStep, hset, Option.some.injEq] at h
    subst h
    rw [hset] at hlife
    obtain rfl : life = .serving := by simpa [CtlPc.writerLives] using hlife
    exact ⟨.ending, by simp [State.goto, CtlPc.writerLives], his.mark⟩
  by_cases hwait : s.ctl = .writerWait
  · simp only [ctlStep, hwait] at h
    split at h
    · next hstopped =>
      cases h
      rw [hwait] at hlife
      have hbefore : life = .gone ∨ life = .ending := by simpa [CtlPc.writerLives] using hlife
      obtain rfl := his.gone_of_stopped hbefore hstopped
      exact ⟨.gone, by simp [State.goto, CtlPc.writerLives], his⟩
    · cases h
  have hwriter := (ctlStep_sameWriters h hstart hset).writer_eq
  exact ⟨life, ctlStep_writerLives hs.ctl h hstart htest hstarted hset hwait hlife,
    hwriter ▸ his⟩

/-- `Bus::stop` returns with both workers gone, and they stay so until `Bus::start`. -/
theorem ctlStep_stopReturned {s s' : State F} {nativeOk : Bool} (hs : WorkersFit s)
    (h : ctlStep s nativeOk = some s') (hreturned : s'.stopReturned = true) :
    s'.reader.Is .gone ∧ s'.writer.Is .gone := by
  by_cases hunlock : s.ctl = .stopUnlock
  · simp only [ctlStep, hunlock, Option.some.injEq] at h
    subst h
    obtain ⟨life, hlife, hreader⟩ := hs.reader
    obtain ⟨life', hlife', hwriter⟩ := hs.writer
    rw [hunlock] at hlife hlife'
    obtain rfl : life = .gone := by simpa [CtlPc.readerLives] using hlife
    obtain rfl : life' = .gone := by simpa [CtlPc.writerLives] using hlife'
    exact ⟨hreader, hwriter⟩
  have hbefore : s.stopReturned = true := by
    unfold ctlStep at h
    cases hctl : s.ctl with
    | stopUnlock => exact absurd hctl hunlock
    | closeTest site | closeNative site | closeOffer site =>
        cases site <;> simp only [hctl] at h <;>
          grind [State.goto, State.unlockBus, CloseSite.throws]
    | _ =>
        simp only [hctl] at h
        grind [State.goto, State.unlockBus, driverOpen, startReader, startWriter]
  obtain ⟨hreader, hwriter⟩ := hs.stopReturned hbefore
  have hfits := hs.ctl
  -- the steps that touch a worker are taken with a thread left or after `Bus::start`
  have hstartReader : s.ctl ≠ .startReader := by
    intro hctl
    simp [State.CtlFits, hctl, hbefore] at hfits
  have hstartWriter : s.ctl ≠ .startWriter := by
    intro hctl
    simp [State.CtlFits, hctl, hbefore] at hfits
  have hreaderSet : s.ctl ≠ .readerStopSet := by
    intro hctl
    obtain ⟨life, hlife, his⟩ := hs.reader
    rw [hctl] at hlife
    obtain rfl : life = .serving := by simpa [CtlPc.readerLives] using hlife
    have heq := his.1.symm.trans hreader.1
    cases heq
  have hwriterSet : s.ctl ≠ .writerStopSet := by
    intro hctl
    obtain ⟨life, hlife, his⟩ := hs.writer
    rw [hctl] at hlife
    obtain rfl : life = .serving := by simpa [CtlPc.writerLives] using hlife
    have heq := his.1.symm.trans hwriter.1
    cases heq
  rw [(ctlStep_sameReaders h hstartReader hreaderSet).reader_eq,
    (ctlStep_sameWriters h hstartWriter hwriterSet).writer_eq]
  exact ⟨hreader, hwriter⟩

theorem ctlStep_workersFit {s s' : State F} {nativeOk : Bool} (hs : WorkersFit s)
    (hok : StopsSettled s (.ctl nativeOk)) (h : ctlStep s nativeOk = some s') : WorkersFit s' :=
  ⟨ctlStep_ctlFits hs.ctl h, ctlStep_reader hs hok h, ctlStep_writer hs hok h,
    ctlStep_stopReturned hs h⟩

/-! ## Every step keeps the invariant -/

theorem SameCtl.ctlFits {s s' : State F} (h : SameCtl s s') (hs : s.CtlFits) : s'.CtlFits := by
  unfold State.CtlFits
  rw [h.ctl, h.initialized, h.status, h.stopReturned]
  exact hs

/-- A step of the two workers, each of which may stand still. -/
theorem WorkersFit.advances {s s' : State F} (hs : WorkersFit s) (hctl : SameCtl s s')
    (hreader : s.reader.Advances s'.reader) (hwriter : s.writer.Advances s'.writer) :
    WorkersFit s' := by
  refine ⟨hctl.ctlFits hs.ctl, ?_, ?_, ?_⟩
  · obtain ⟨life, hlife, his⟩ := hs.reader
    obtain ⟨life', hnext, his'⟩ := hreader.is his
    rw [hctl.ctl, hctl.initialized]
    exact ⟨life', CtlPc.readerLives_next hlife hnext, his'⟩
  · obtain ⟨life, hlife, his⟩ := hs.writer
    obtain ⟨life', hnext, his'⟩ := hwriter.is his
    rw [hctl.ctl, hctl.initialized]
    exact ⟨life', CtlPc.writerLives_next hlife hnext, his'⟩
  · intro hreturned
    obtain ⟨hgone, hgone'⟩ := hs.stopReturned (hctl.stopReturned ▸ hreturned)
    obtain ⟨life, hnext, his⟩ := hreader.is hgone
    obtain ⟨life', hnext', his'⟩ := hwriter.is hgone'
    obtain rfl : life = .gone := by simpa [Worker.Life.next] using hnext
    obtain rfl : life' = .gone := by simpa [Worker.Life.next] using hnext'
    exact ⟨his, his'⟩

/-- A call leaves the workers alone; at `idle` and at the first test of a call the
same lives are allowed. -/
theorem WorkersFit.call {s : State F} (hs : WorkersFit s) (hidle : s.ctl = .idle) {pc : CtlPc}
    (hpc : pc = .initTest ∨ pc = .termTest) : WorkersFit (s.goto pc) := by
  obtain ⟨-, hreader, hwriter, hreturned⟩ := hs
  rw [hidle] at hreader hwriter
  rcases hpc with rfl | rfl
  · exact ⟨trivial, hreader, hwriter, hreturned⟩
  · exact ⟨trivial, hreader, hwriter, hreturned⟩

theorem step_workersFit {s s' : State F} {a : Action F} (hs : WorkersFit s)
    (hok : StopsSettled s a) (h : step s a = some s') : WorkersFit s' := by
  by_cases hctl : ∃ nativeOk, a = .ctl nativeOk
  · obtain ⟨nativeOk, rfl⟩ := hctl
    exact ctlStep_workersFit hs hok h
  have hreader : s.reader.Advances s'.reader := by
    rcases step_sameReaders h with hsame | hctl' | ⟨i, rfl⟩ | ⟨i, rfl⟩
    · rw [hsame.reader_eq]
      exact .works
    · exact absurd hctl' hctl
    · exact readerStep_advances h
    · exact readerWakes_advances h
  have hwriter : s.writer.Advances s'.writer := by
    rcases step_sameWriters h with hsame | hctl' | ⟨i, rfl⟩ | ⟨i, rfl⟩
    · rw [hsame.writer_eq]
      exact .works
    · exact absurd hctl' hctl
    · exact writerStep_advances h
    · exact writerWakes_advances h
  rcases step_sameCtl h with hsame | hctl' | ⟨-, hidle, rfl⟩ | ⟨-, hidle, rfl⟩
  · exact hs.advances hsame hreader hwriter
  · exact absurd hctl' hctl
  · exact hs.call hidle (Or.inl rfl)
  · exact hs.call hidle (Or.inr rfl)

theorem new_workersFit : WorkersFit (new F) := by
  have hsole : ∀ state, Worker.Sole { state := state, threads := [.entry] } 0 .entry := by
    intro state
    refine ⟨rfl, fun j stage hj _ => ?_⟩
    have hlt := (List.getElem?_eq_some_iff.mp hj).1
    simpa using hlt
  refine ⟨trivial, ?_, ?_, fun hreturned => nomatch hreturned⟩
  · exact ⟨.serving, by simp [new, CtlPc.readerLives], rfl, 0, .entry, hsole _, Or.inl rfl⟩
  · exact ⟨.serving, by simp [new, CtlPc.writerLives], rfl, 0, .entry, hsole _, Or.inl rfl⟩

theorem reachable_workersFit {s : State F} (h : (system F).Reachable StopsSettled s) :
    WorkersFit s := by
  refine h.invariant ?_ ?_
  · rintro s rfl
    exact new_workersFit
  · intro s a s' _ hs hok hstep
    exact step_workersFit hs hok hstep

/-! ## One reader and one writer -/

/-- At most one reader thread and at most one writer thread have not returned from
`run`, and none at all when `Bus::stop` has returned. -/
structure State.OneWorkerEach (s : State F) : Prop where
  reader : ∀ (i j : Nat) (pc pc' : ReaderPc F), s.readers[i]? = some pc →
    s.readers[j]? = some pc' → pc ≠ .done → pc' ≠ .done → i = j
  writer : ∀ (i j : Nat) (pc pc' : WriterPc F), s.writers[i]? = some pc →
    s.writers[j]? = some pc' → pc ≠ .done → pc' ≠ .done → i = j
  stopped : s.stopReturned = true → (∀ pc ∈ s.readers, pc = .done) ∧ ∀ pc ∈ s.writers, pc = .done

theorem ReaderPc.stage_eq_done {pc : ReaderPc F} : pc.stage = .done ↔ pc = .done := by
  cases pc <;> simp [ReaderPc.stage]

theorem WriterPc.stage_eq_done {pc : WriterPc F} : pc.stage = .done ↔ pc = .done := by
  cases pc <;> simp [WriterPc.stage]

theorem WorkersFit.atMostOneEach {s : State F} (hs : WorkersFit s) : s.OneWorkerEach := by
  obtain ⟨-, ⟨life, -, hreader⟩, ⟨life', -, hwriter⟩, hreturned⟩ := hs
  refine ⟨?_, ?_, ?_⟩
  · intro i j pc pc' hi hj hlive hlive'
    exact hreader.unique i j pc.stage pc'.stage (stage_of_reader hi) (stage_of_reader hj)
      (mt ReaderPc.stage_eq_done.mp hlive) (mt ReaderPc.stage_eq_done.mp hlive')
  · intro i j pc pc' hi hj hlive hlive'
    exact hwriter.unique i j pc.stage pc'.stage (stage_of_writer hi) (stage_of_writer hj)
      (mt WriterPc.stage_eq_done.mp hlive) (mt WriterPc.stage_eq_done.mp hlive')
  · intro hstop
    obtain ⟨hgone, hgone'⟩ := hreturned hstop
    constructor
    · intro pc hpc
      exact ReaderPc.stage_eq_done.mp (hgone.2 pc.stage (List.mem_map_of_mem hpc))
    · intro pc hpc
      exact WriterPc.stage_eq_done.mp (hgone'.2 pc.stage (List.mem_map_of_mem hpc))

/-- Over any number of cycles there is one reader and one writer at a time, as long
as no worker is asked to stop before its new thread has announced itself. -/
theorem oneWorkerEach {s : State F} (h : (system F).Reachable StopsSettled s) :
    s.OneWorkerEach :=
  (reachable_workersFit h).atMostOneEach

/-- The rest of a first `term`: the constructor's threads see that they are to stop,
and end. -/
def termWithThreads : List (Action F) :=
  termUntilClose ++ .ctl true :: List.replicate 3 (.reader 0) ++ List.replicate 5 (.ctl true) ++
    List.replicate 6 (.writer 0) ++ List.replicate 5 (.ctl true)

/-- A whole `term` without a step of any worker: both are still `STOPPED`. -/
def termBeforeThreads : List (Action F) := .term :: List.replicate 15 (.ctl true)

/-- A second session has created its threads. -/
theorem oneWorkerEach_second_session :
    ∃ s : State CECFrame, (system CECFrame).Reachable StopsSettled s ∧
      s.readers = [.done, .entry] ∧ s.writers = [.done, .entry] ∧ s.OneWorkerEach := by
  obtain ⟨s, hreach, hreaders, hwriters⟩ :=
    StepSystem.exists_reachable_of_run (system CECFrame) StopsSettled (new CECFrame)
      (initCall ++ termWithThreads ++ initCall)
      (fun s => s.readers = [.done, .entry] ∧ s.writers = [.done, .entry]) rfl (by decide)
  exact ⟨s, hreach, hreaders, hwriters, oneWorkerEach hreach⟩

/-- The second session ends before its threads have run, `Bus::stop` returns with
them pending, and the third session creates another pair. -/
theorem not_oneWorkerEach :
    ¬ ∀ s : State CECFrame, (system CECFrame).Reachable StepSystem.unguarded s →
      s.OneWorkerEach := by
  intro hall
  obtain ⟨s, hreach, hreaders⟩ :=
    StepSystem.exists_reachable_of_run (system CECFrame) StepSystem.unguarded (new CECFrame)
      (initCall ++ termWithThreads ++ initCall ++ termBeforeThreads ++ initCall)
      (fun s => s.readers = [.done, .entry, .entry]) rfl (by decide)
  have heq := (hall s hreach).reader 1 2 .entry .entry (by simp [hreaders]) (by simp [hreaders])
    nofun nofun
  cases heq

end Bus

end HdmiCec
