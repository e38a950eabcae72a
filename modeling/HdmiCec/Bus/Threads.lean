import HdmiCec.Osal.Stoppable
import HdmiCec.Driver.DriverImpl

/-!
# The bus and its threads

`Bus`, the parts of `DriverImpl` that its threads meet, and `LibCCEC::init` and
`LibCCEC::term`, which start and stop it.  Every thread is at a program point
and takes one step at a time, in any order:

* one controlling thread, which calls `init` and `term` in any sequence
  (`LibCCEC`'s own mutex makes them one sequence, whoever calls them);
* every reader and every writer thread ever created, numbered in the order of
  their creation;
* the driver's callbacks and the callers of `sendAsync`.

The native driver is outside: whether `HdmiCecOpen` and `HdmiCecClose` succeed is
part of the label of the step that calls them.  Frames are of any type.  The two
event queues are the bounded buffers that `EventQueue` refines, with `none` for
the null pointer that serves as a sentinel.  A call of `poll` on an empty queue
blocks, or returns null after a wake-up with nothing to take.
-/

universe u

namespace HdmiCec

namespace Bus

/-- The threads that hold `rMutex`, `wMutex` or the driver's `mutex`. -/
inductive Holder where
  | ctl
  | reader (i : Nat)
  deriving DecidableEq

/-- Where a reader thread is in `Bus::Reader::run` and in the `DriverImpl::read`
that it calls. -/
inductive ReaderPc (F : Type u) where
  | entry
  | starting
  | loop
  | readStatus
  | poll
  /-- `poll` returned null; `read` takes the driver's mutex next. -/
  | sentinel
  | flushTest
  | flushPoll
  /-- `frame = *inFrame` with a null `inFrame`. -/
  | crashed
  /-- `read` returned a frame; `AutoLock lock_(bus.rMutex)` is next. -/
  | notifyLock (frame : F)
  | notify (frame : F)
  | completing
  | done
  deriving DecidableEq

/-- Where a writer thread is in `Bus::Writer::run`. -/
inductive WriterPc (F : Type u) where
  | entry
  | starting
  | poll
  | write (frame : F)
  /-- The condition of the `do` loop. -/
  | test
  /-- The condition of the `if` behind it. -/
  | retest
  | flushTest
  | flushPoll
  | completing
  | done
  deriving DecidableEq

/-- The three calls of `DriverImpl::close` inside `LibCCEC::term`. -/
inductive CloseSite where
  | readerStop
  | busStop
  | term
  deriving DecidableEq

/-- Where the controlling thread is in `LibCCEC::init` and `LibCCEC::term` and in
what they call: `DriverImpl::open`, `Bus::start`, `Bus::stop`, the two `stop`s of
the workers and `DriverImpl::close`. -/
inductive CtlPc where
  | idle
  | initTest
  | initOpen
  | startLockR
  | startLockW
  | startReader
  | startWriter
  | startOpen
  | startFlag
  | startUnlock
  | initFlag
  | termTest
  | stopLockR
  | stopLockW
  | stopFlag
  | readerStopTest
  | readerStopSet
  | readerWait
  | writerStopTest
  | writerStopStarted
  | writerStopSet
  | writerStopOffer
  | writerWait
  | stopUnlock
  | termFlag
  | closeTest (site : CloseSite)
  | closeOffer (site : CloseSite)
  | closeNative (site : CloseSite)
  deriving DecidableEq

/-- The state of the library between two steps.  `callbacks` are the frames whose
`DriverReceiveCallback` has passed the status test of `getIncomingQueue` and not
offered its frame yet; `stopReturned` says that `Bus::stop` has returned and
`Bus::start` has not been entered since. -/
structure State (F : Type u) where
  initialized : Bool
  started : Bool
  status : DriverStatus
  rMutex : Option Holder
  wMutex : Option Holder
  driverMutex : Option Holder
  rQueue : BoundedFifo (Option F)
  wQueue : BoundedFifo (Option F)
  readerState : Stoppable
  writerState : Stoppable
  ctl : CtlPc
  readers : List (ReaderPc F)
  writers : List (WriterPc F)
  callbacks : List F
  stopReturned : Bool

/-- Who takes the next step, and how what is left open turns out: `nativeOk` is
the result of `HdmiCecOpen` or `HdmiCecClose` in a step that calls one of them. -/
inductive Action (F : Type u) where
  | init
  | term
  | ctl (nativeOk : Bool)
  | reader (i : Nat)
  | readerWakes (i : Nat)
  | writer (i : Nat)
  | writerWakes (i : Nat)
  | receive (frame : F)
  | deliver (i : Nat)
  | sendAsync (frame : F)
  deriving DecidableEq

variable {F : Type u}

namespace State

def goto (s : State F) (pc : CtlPc) : State F := { s with ctl := pc }

def setReader (s : State F) (i : Nat) (pc : ReaderPc F) : State F :=
  { s with readers := s.readers.set i pc }

def setWriter (s : State F) (i : Nat) (pc : WriterPc F) : State F :=
  { s with writers := s.writers.set i pc }

/-- The end of the scope of the two `AutoLock`s of `Bus::start` and `Bus::stop`,
by a return or by an exception. -/
def unlockBus (s : State F) : State F := { s with rMutex := none, wMutex := none }

end State

/-! ## The controlling thread -/

/-- `DriverImpl::open`.  It throws an `IOException` if `HdmiCecOpen` fails, and
returns at once unless the driver is closed. -/
def driverOpen (s : State F) (nativeOk : Bool) (returns throws : State F → State F) :
    Option (State F) :=
  match s.driverMutex with
  | some _ => none
  | none =>
      if s.status = .closed then
        if nativeOk then some (returns { s with status := .opened }) else some (throws s)
      else
        some (returns s)

/-- Where the controlling thread goes on when `DriverImpl::close` returns. -/
def CloseSite.next : CloseSite → CtlPc
  | .readerStop => .readerWait
  | .busStop => .stopUnlock
  | .term => .termFlag

/-- The `IOException` of `DriverImpl::close` leaves `LibCCEC::term`, and the
`AutoLock`s on the way are released. -/
def CloseSite.throws (s : State F) : CloseSite → State F
  | .readerStop | .busStop => (s.unlockBus.goto .idle)
  | .term => s.goto .idle

/-- `Thread(reader).start()` if the reader is stopped. -/
def startReader (s : State F) : State F :=
  if s.readerState.isStopped then { s with readers := s.readers ++ [.entry] } else s

/-- `Thread(writer).start()` if the writer is stopped. -/
def startWriter (s : State F) : State F :=
  if s.writerState.isStopped then { s with writers := s.writers ++ [.entry] } else s

/-- The next step of the controlling thread inside a call. -/
def ctlStep (s : State F) (nativeOk : Bool) : Option (State F) :=
  match s.ctl with
  | .idle => none
  -- LibCCEC::init
  | .initTest => some (s.goto (if s.initialized then .idle else .initOpen))
  | .initOpen => driverOpen s nativeOk (·.goto .startLockR) (·.goto .idle)
  -- Bus::start
  | .startLockR =>
      match s.rMutex with
      | some _ => none
      | none => some { s.goto .startLockW with rMutex := some .ctl, stopReturned := false }
  | .startLockW =>
      match s.wMutex with
      | some _ => none
      | none => some { s.goto .startReader with wMutex := some .ctl }
  | .startReader => some ((startReader s).goto .startWriter)
  | .startWriter => some ((startWriter s).goto .startOpen)
  | .startOpen => driverOpen s nativeOk (·.goto .startFlag) (·.unlockBus.goto .idle)
  | .startFlag => some { s.goto .startUnlock with started := true }
  | .startUnlock => some (s.unlockBus.goto .initFlag)
  | .initFlag => some { s.goto .idle with initialized := true }
  -- LibCCEC::term and Bus::stop
  | .termTest => some (s.goto (if s.initialized then .stopLockR else .idle))
  | .stopLockR =>
      match s.rMutex with
      | some _ => none
      | none => some { s.goto .stopLockW with rMutex := some .ctl }
  | .stopLockW =>
      match s.wMutex with
      | some _ => none
      | none => some { s.goto .stopFlag with wMutex := some .ctl }
  | .stopFlag => some { s.goto .readerStopTest with started := false }
  -- Bus::Reader::stop; its AutoLock is recursive
  | .readerStopTest =>
      some (s.goto (if s.readerState.isRunning then .readerStopSet else .closeTest .readerStop))
  | .readerStopSet =>
      some { s.goto (.closeTest .readerStop) with readerState := .stopStarted }
  | .readerWait => if s.readerState.isStopped then some (s.goto .writerStopTest) else none
  -- Bus::Writer::stop
  | .writerStopTest =>
      some (s.goto (if s.writerState.isRunning then .writerStopStarted else .writerWait))
  | .writerStopStarted =>
      some (s.goto (if s.writerState.isRunning then .writerStopSet else .writerStopOffer))
  | .writerStopSet => some { s.goto .writerStopOffer with writerState := .stopStarted }
  | .writerStopOffer => some { s.goto .writerWait with wQueue := s.wQueue.offer none }
  | .writerWait =>
      if s.writerState.isStopped then some (s.goto (.closeTest .busStop)) else none
  | .stopUnlock => some { s.unlockBus.goto (.closeTest .term) with stopReturned := true }
  | .termFlag => some { s.goto .idle with initialized := false }
  -- DriverImpl::close
  | .closeTest site =>
      match s.driverMutex with
      | some _ => none
      | none =>
          if s.status = .opened then
            some { s.goto (.closeOffer site) with status := .closing, driverMutex := some .ctl }
          else
            some (s.goto site.next)
  | .closeOffer site => some { s.goto (.closeNative site) with rQueue := s.rQueue.offer none }
  | .closeNative site =>
      if nativeOk then
        some { s.goto site.next with status := .closed, driverMutex := none }
      else
        some (site.throws { s with driverMutex := none })

/-! ## The reader threads -/

/-- `rQueue.poll()` takes the front entry. -/
def readerPoll (s : State F) (i : Nat) (pc : Option F → ReaderPc F) : Option (State F) :=
  match s.rQueue.poll with
  | none => none
  | some (inFrame, rest) => some { s.setReader i (pc inFrame) with rQueue := rest }

/-- The next step of reader thread `i`. -/
def readerStep (s : State F) (i : Nat) : Option (State F) :=
  match s.readers[i]? with
  | none => none
  | some .entry => some (s.setReader i (if s.readerState.isStopped then .starting else .loop))
  | some .starting => some { s.setReader i .loop with readerState := .runStarted }
  | some .loop => some (s.setReader i (if s.readerState.isRunning then .readStatus else .completing))
  -- an InvalidStateException leads back to the loop
  | some .readStatus =>
      match s.driverMutex with
      | some _ => none
      | none => some (s.setReader i (if s.status = .opened then .poll else .loop))
  | some .poll =>
      readerPoll s i fun inFrame =>
        match inFrame with
        | some frame => .notifyLock frame
        | none => .sentinel
  | some .sentinel =>
      match s.driverMutex with
      | some _ => none
      | none =>
          if s.status = .opened then
            some (s.setReader i .poll)
          else
            some { s.setReader i .flushTest with driverMutex := some (.reader i) }
  | some .flushTest =>
      if s.rQueue.items.length > 0 then
        some (s.setReader i .flushPoll)
      else
        some { s.setReader i .loop with driverMutex := none }
  | some .flushPoll =>
      readerPoll s i fun inFrame =>
        match inFrame with
        | some _ => .flushTest
        | none => .crashed
  | some .crashed => none
  | some (.notifyLock frame) =>
      match s.rMutex with
      | some _ => none
      | none => some { s.setReader i (.notify frame) with rMutex := some (.reader i) }
  | some (.notify _) => some { s.setReader i .loop with rMutex := none }
  | some .completing => some { s.setReader i .done with readerState := .stopCompleted }
  | some .done => none

/-- A `poll` of reader thread `i` wakes up, finds the queue empty and returns null. -/
def readerWakes (s : State F) (i : Nat) : Option (State F) :=
  if s.rQueue.items.length > 0 then
    none
  else
    match s.readers[i]? with
    | some .poll => some (s.setReader i .sentinel)
    | some .flushPoll => some (s.setReader i .crashed)
    | _ => none

/-! ## The writer threads -/

/-- `wQueue.poll()` takes the front entry. -/
def writerPoll (s : State F) (i : Nat) (pc : Option F → WriterPc F) : Option (State F) :=
  match s.wQueue.poll with
  | none => none
  | some (outFrame, rest) => some { s.setWriter i (pc outFrame) with wQueue := rest }

/-- The next step of writer thread `i`.  Whether `Driver::write` returns or throws
makes no difference to it. -/
def writerStep (s : State F) (i : Nat) : Option (State F) :=
  match s.writers[i]? with
  | none => none
  | some .entry => some (s.setWriter i (if s.writerState.isStopped then .starting else .poll))
  | some .starting => some { s.setWriter i .poll with writerState := .runStarted }
  | some .poll =>
      writerPoll s i fun outFrame =>
        match outFrame with
        | some frame => .write frame
        | none => .test
  | some (.write _) =>
      match s.driverMutex with
      | some _ => none
      | none => some (s.setWriter i .test)
  | some .test => some (s.setWriter i (if s.writerState.isRunning then .poll else .retest))
  | some .retest =>
      some (s.setWriter i (if s.writerState.isRunning then .completing else .flushTest))
  | some .flushTest =>
      some (s.setWriter i (if s.wQueue.items.length > 0 then .flushPoll else .completing))
  | some .flushPoll => writerPoll s i fun _ => .flushTest
  | some .completing => some { s.setWriter i .done with writerState := .stopCompleted }
  | some .done => none

/-- A `poll` of writer thread `i` wakes up, finds the queue empty and returns null. -/
def writerWakes (s : State F) (i : Nat) : Option (State F) :=
  if s.wQueue.items.length > 0 then
    none
  else
    match s.writers[i]? with
    | some .poll => some (s.setWriter i .test)
    | some .flushPoll => some (s.setWriter i .flushTest)
    | _ => none

/-! ## The whole system -/

def step (s : State F) : Action F → Option (State F)
  | .init => if s.ctl = .idle then some (s.goto .initTest) else none
  | .term => if s.ctl = .idle then some (s.goto .termTest) else none
  | .ctl nativeOk => ctlStep s nativeOk
  | .reader i => readerStep s i
  | .readerWakes i => readerWakes s i
  | .writer i => writerStep s i
  | .writerWakes i => writerWakes s i
  -- the first half of DriverReceiveCallback; a closed driver discards the frame
  | .receive frame =>
      if s.status = .opened then some { s with callbacks := s.callbacks ++ [frame] } else some s
  | .deliver i =>
      match s.callbacks[i]? with
      | none => none
      | some frame =>
          some { s with callbacks := s.callbacks.eraseIdx i, rQueue := s.rQueue.offer (some frame) }
  | .sendAsync frame =>
      match s.wMutex with
      | some _ => none
      | none =>
          if s.started then some { s with wQueue := s.wQueue.offer (some frame) } else some s

/-- The library when the constructor of `Bus` has returned: both workers have a
thread that has not run yet, and both are `RUNNING` from the start. -/
def new (F : Type u) : State F :=
  { initialized := false
    started := false
    status := .closed
    rMutex := none
    wMutex := none
    driverMutex := none
    rQueue := .empty 32
    wQueue := .empty 32
    readerState := .running
    writerState := .running
    ctl := .idle
    readers := [.entry]
    writers := [.entry]
    callbacks := []
    stopReturned := false }

def system (F : Type u) : StepSystem (State F) (Action F) where
  initial s := s = new F
  step := step

/-! ## What the workers' steps leave alone -/

/-- The controlling thread and what only it writes are the same. -/
structure SameCtl (s s' : State F) : Prop where
  initialized : s'.initialized = s.initialized
  started : s'.started = s.started
  status : s'.status = s.status
  ctl : s'.ctl = s.ctl
  stopReturned : s'.stopReturned = s.stopReturned

/-- The reader and its threads are the same. -/
structure SameReaders (s s' : State F) : Prop where
  readers : s'.readers = s.readers
  readerState : s'.readerState = s.readerState

/-- The writer and its threads are the same. -/
structure SameWriters (s s' : State F) : Prop where
  writers : s'.writers = s.writers
  writerState : s'.writerState = s.writerState

theorem readerStep_frame {s s' : State F} {i : Nat} (h : readerStep s i = some s') :
    SameCtl s s' ∧ SameWriters s s' := by
  unfold readerStep readerPoll at h
  split at h <;> (repeat' split at h) <;> cases h <;> exact ⟨⟨rfl, rfl, rfl, rfl, rfl⟩, rfl, rfl⟩

theorem readerWakes_frame {s s' : State F} {i : Nat} (h : readerWakes s i = some s') :
    SameCtl s s' ∧ SameWriters s s' := by
  unfold readerWakes at h
  repeat' split at h
  all_goals cases h
  all_goals exact ⟨⟨rfl, rfl, rfl, rfl, rfl⟩, rfl, rfl⟩

theorem writerStep_frame {s s' : State F} {i : Nat} (h : writerStep s i = some s') :
    SameCtl s s' ∧ SameReaders s s' := by
  unfold writerStep writerPoll at h
  split at h <;> (repeat' split at h) <;> cases h <;> exact ⟨⟨rfl, rfl, rfl, rfl, rfl⟩, rfl, rfl⟩

theorem writerWakes_frame {s s' : State F} {i : Nat} (h : writerWakes s i = some s') :
    SameCtl s s' ∧ SameReaders s s' := by
  unfold writerWakes at h
  repeat' split at h
  all_goals cases h
  all_goals exact ⟨⟨rfl, rfl, rfl, rfl, rfl⟩, rfl, rfl⟩

/-- Whoever moves in a step, it is the controlling thread, or that thread and what
it writes stay the same. -/
theorem step_sameCtl {s s' : State F} {a : Action F} (h : step s a = some s') :
    SameCtl s s' ∨ (∃ nativeOk, a = .ctl nativeOk) ∨
      (a = .init ∧ s.ctl = .idle ∧ s' = s.goto .initTest) ∨
      (a = .term ∧ s.ctl = .idle ∧ s' = s.goto .termTest) := by
  cases a with
  | init =>
      simp only [step] at h
      split at h
      · next hidle =>
        cases h
        exact Or.inr (Or.inr (Or.inl ⟨rfl, hidle, rfl⟩))
      · cases h
  | term =>
      simp only [step] at h
      split at h
      · next hidle =>
        cases h
        exact Or.inr (Or.inr (Or.inr ⟨rfl, hidle, rfl⟩))
      · cases h
  | ctl nativeOk => exact Or.inr (Or.inl ⟨nativeOk, rfl⟩)
  | reader i => exact Or.inl (readerStep_frame h).1
  | readerWakes i => exact Or.inl (readerWakes_frame h).1
  | writer i => exact Or.inl (writerStep_frame h).1
  | writerWakes i => exact Or.inl (writerWakes_frame h).1
  | receive frame =>
      simp only [step] at h
      split at h <;> cases h <;> exact Or.inl ⟨rfl, rfl, rfl, rfl, rfl⟩
  | deliver i =>
      simp only [step] at h
      split at h <;> cases h
      exact Or.inl ⟨rfl, rfl, rfl, rfl, rfl⟩
  | sendAsync frame =>
      simp only [step] at h
      (repeat' split at h) <;> cases h <;> exact Or.inl ⟨rfl, rfl, rfl, rfl, rfl⟩

/-- The reader changes in its own steps and in those of the controlling thread. -/
theorem step_sameReaders {s s' : State F} {a : Action F} (h : step s a = some s') :
    SameReaders s s' ∨ (∃ nativeOk, a = .ctl nativeOk) ∨ (∃ i, a = .reader i) ∨
      ∃ i, a = .readerWakes i := by
  cases a with
  | ctl nativeOk => exact Or.inr (Or.inl ⟨nativeOk, rfl⟩)
  | reader i => exact Or.inr (Or.inr (Or.inl ⟨i, rfl⟩))
  | readerWakes i => exact Or.inr (Or.inr (Or.inr ⟨i, rfl⟩))
  | writer i => exact Or.inl (writerStep_frame h).2
  | writerWakes i => exact Or.inl (writerWakes_frame h).2
  | _ =>
      simp only [step] at h
      (repeat' split at h) <;> cases h <;> exact Or.inl ⟨rfl, rfl⟩

/-- The writer changes in its own steps and in those of the controlling thread. -/
theorem step_sameWriters {s s' : State F} {a : Action F} (h : step s a = some s') :
    SameWriters s s' ∨ (∃ nativeOk, a = .ctl nativeOk) ∨ (∃ i, a = .writer i) ∨
      ∃ i, a = .writerWakes i := by
  cases a with
  | ctl nativeOk => exact Or.inr (Or.inl ⟨nativeOk, rfl⟩)
  | writer i => exact Or.inr (Or.inr (Or.inl ⟨i, rfl⟩))
  | writerWakes i => exact Or.inr (Or.inr (Or.inr ⟨i, rfl⟩))
  | reader i => exact Or.inl (readerStep_frame h).2
  | readerWakes i => exact Or.inl (readerWakes_frame h).2
  | _ =>
      simp only [step] at h
      (repeat' split at h) <;> cases h <;> exact Or.inl ⟨rfl, rfl⟩

end Bus

end HdmiCec
