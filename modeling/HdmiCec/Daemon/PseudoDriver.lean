import HdmiCec.Daemon.Carrying
import HdmiCec.Driver.InTransit
import HdmiCec.Driver.ReceiveHandler

/-!
# The pseudo-driver in a client process

`Sessions` and `ReceiveHandler` are two views of one driver.  The first has what the reading
thread and the callbacks see of it: the status, the queue, and when `mutex` is held.  The
second has the statements of `open` and `close`, with the context that they allocate and free,
and the handler of RECV events, which reads it.

Here they are one process.  A statement of `open` or `close` that the other threads see is a
step in both views (`seen`), `rQueue.offer(0)` is one in the first view only, and the handler
calls `DriverReceiveCallback` in its last step.  The thread that delivers events has one of
them in its hands at a time.
-/

namespace HdmiCec

namespace PseudoDriver

open ReceiveHandler (Control Handler Safe)

/-! ## The steps -/

/-- `event` is what the handler has been called with.  `up` says that no exception has left
a callback. -/
structure State where
  driver : Sessions.State CECFrame
  native : ReceiveHandler.State Unit
  event : Option CECMgr.EventData
  up : Bool

/-- `open` and `close` are called and go on as in `ReceiveHandler`, the reading thread and the
callbacks take steps as in `Sessions`, and an event is delivered to the handler, which goes
on. -/
inductive Action where
  | driverOpen
  | driverClose
  | control (memory : Option Nat)
  | thread (a : Sessions.Action CECFrame)
  | deliver (event : CECMgr.EventData)
  | handler

/-- Nothing has taken the process down. -/
def State.Alive (p : State) : Prop := p.up = true ∧ p.native.fault = none

instance (p : State) : Decidable p.Alive := inferInstanceAs (Decidable (_ ∧ _))

/-- A call of `open` or `close` begins when nobody holds `mutex`. -/
def beginStep (p : State) (a : ReceiveHandler.Action Unit) : Option State :=
  match p.driver.mutex with
  | some _ => none
  | none => (ReceiveHandler.step p.native a).map fun native => { p with native := native }

/-- What the other threads see of the next statement of `open` or `close`. -/
def seen (native : ReceiveHandler.State Unit) : Option (Sessions.Action CECFrame) :=
  match native.control with
  | .setOpened => some (.driverOpen true)
  | .setClosing => some .driverClose
  | .closeTest => if native.driverCtx.isSome then none else some (.closeStep false)
  | .setClosed => some (.closeStep true)
  | _ => none

/-- A step of `Sessions`, if there is one. -/
def seenStep (driver : Sessions.State CECFrame) :
    Option (Sessions.Action CECFrame) → Option (Sessions.State CECFrame)
  | none => some driver
  | some a => Sessions.step driver a

/-- The next statement of `open` or `close`. -/
def controlStep (p : State) (memory : Option Nat) : Option State :=
  if p.driver.mutex = some .closeOffer then
    -- `rQueue.offer(0)` is in front of `HdmiCecClose`
    (Sessions.step p.driver (.closeStep true)).map fun driver => { p with driver := driver }
  else do
    let native ← ReceiveHandler.step p.native (.control memory)
    let driver ← seenStep p.driver (seen p.native)
    return { p with driver := driver, native := native }

/-- The steps of the reading thread and of a callback that has begun. -/
def ofThread : Sessions.Action CECFrame → Bool
  | .read | .reader | .readerWakes | .test _ | .deliver _ => true
  | .driverOpen _ | .driverClose | .closeStep _ | .receive _ => false

/-- The reading thread is in front of a block that locks `mutex`. -/
def locks (pc : Sessions.ReadPc CECFrame) : Bool :=
  match pc with
  | .readStatus | .polled none => true
  | _ => false

/-- The reading thread does not enter its block during a call of `open` or `close`. -/
def threadStep (p : State) (a : Sessions.Action CECFrame) : Option State :=
  if ofThread a ∧ ¬ (a = .reader ∧ locks p.driver.reader ∧ p.native.control ≠ .idle) then
    (Sessions.step p.driver a).map fun driver => { p with driver := driver }
  else
    none

/-- An event is delivered when the last call of the handler has returned.  Without a handler
nothing comes of it. -/
def deliverStep (p : State) (event : CECMgr.EventData) : Option State :=
  if p.native.handler () = .out then
    if p.native.registered then
      (ReceiveHandler.step p.native (.handler ())).map fun native =>
        { p with native := native, event := some event }
    else
      some p
  else
    none

/-- The handler has taken a step; its event is dealt with when it returns. -/
def State.handles (p : State) (native : ReceiveHandler.State Unit) : State :=
  { p with native := native, event := if native.handler () = .out then none else p.event }

/-- The call of `DriverReceiveCallback`. -/
def callbackStep (p : State) : Option State := do
  let event ← p.event
  let native ← ReceiveHandler.step p.native (.handler ())
  match Daemon.rebuild event.length event.data with
  | .error _ => return { p with up := false }
  | .ok frame =>
      let driver ← Sessions.step p.driver (.receive frame)
      return { p.handles native with driver := driver }

/-- The next step of the handler. -/
def handlerStep (p : State) : Option State :=
  match p.native.handler () with
  | .out => none
  | .call .set => callbackStep p
  | _ => (ReceiveHandler.step p.native (.handler ())).map p.handles

def step (p : State) (a : Action) : Option State :=
  if p.Alive then
    match a with
    | .driverOpen => beginStep p .driverOpen
    | .driverClose => beginStep p .driverClose
    | .control memory => controlStep p memory
    | .thread a => threadStep p a
    | .deliver event => deliverStep p event
    | .handler => handlerStep p
  else
    none

/-- A process that has not opened the driver yet. -/
def new : State where
  driver := Sessions.new CECFrame
  native := ReceiveHandler.new Unit
  event := none
  up := true

def system : StepSystem State Action where
  initial p := p = new
  step := step

/-! ## What one step does -/

/-- One constructor for each way a step can turn out. -/
inductive Moves (p : State) : Action → State → Prop where
  | begins (a : Action) (control : Control)
      (calls : a = .driverOpen ∧ control = .openStatus ∨ a = .driverClose ∧ control = .closeStatus)
      (free : p.driver.mutex = none) (idle : p.native.control = .idle) :
      Moves p a { p with native := { p.native with control := control } }
  | offersSentinel (memory : Option Nat) (driver : Sessions.State CECFrame)
      (holds : p.driver.mutex = some .closeOffer)
      (step : Sessions.step p.driver (.closeStep true) = some driver) :
      Moves p (.control memory) { p with driver := driver }
  | goesOn (memory : Option Nat) (driver : Sessions.State CECFrame)
      (behind : p.driver.mutex ≠ some .closeOffer) (calling : p.native.control ≠ .idle)
      (step : seenStep p.driver (seen p.native) = some driver) :
      Moves p (.control memory)
        { p with driver := driver, native := ReceiveHandler.controlStep p.native memory }
  | threads (a : Sessions.Action CECFrame) (driver : Sessions.State CECFrame)
      (thread : ofThread a = true)
      (enters : ¬ (a = .reader ∧ locks p.driver.reader = true ∧ p.native.control ≠ .idle))
      (step : Sessions.step p.driver a = some driver) :
      Moves p (.thread a) { p with driver := driver }
  | delivers (event : CECMgr.EventData) (place : p.native.handler () = .out)
      (registered : p.native.registered = true) :
      Moves p (.deliver event)
        { p with native := p.native.goes () .loadTest, event := some event }
  | drops (event : CECMgr.EventData) (place : p.native.handler () = .out)
      (unregistered : p.native.registered = false) : Moves p (.deliver event) p
  | handles (native : ReceiveHandler.State Unit) (busy : p.native.handler () ≠ .out)
      (place : p.native.handler () ≠ .call .set)
      (step : ReceiveHandler.handlerStep p.native () = some native) :
      Moves p .handler (p.handles native)
  | receives (event : CECMgr.EventData) (frame : CECFrame) (driver : Sessions.State CECFrame)
      (place : p.native.handler () = .call .set) (hands : p.event = some event)
      (rebuilds : Daemon.rebuild event.length event.data = .ok frame)
      (step : Sessions.step p.driver (.receive frame) = some driver) :
      Moves p .handler
        { p with driver := driver, native := p.native.goes () .out, event := none }
  | escapes (event : CECMgr.EventData) (reason : Abrupt) (hands : p.event = some event)
      (rebuilds : Daemon.rebuild event.length event.data = .error reason) :
      Moves p .handler { p with up := false }

section Steps

variable {p p' : State} {a : Action}

/-- A call of `open` or `close` in `ReceiveHandler`. -/
theorem native_begins {native native' : ReceiveHandler.State Unit} {control : Control}
    {a : ReceiveHandler.Action Unit}
    (hcalls : a = .driverOpen ∧ control = .openStatus ∨ a = .driverClose ∧ control = .closeStatus)
    (hstep : ReceiveHandler.step native a = some native') :
    native.control = .idle ∧ native' = { native with control := control } := by
  rcases hcalls with ⟨rfl, rfl⟩ | ⟨rfl, rfl⟩ <;> simp only [ReceiveHandler.step] at hstep <;> grind

theorem beginStep_cases {control : Control} {call : ReceiveHandler.Action Unit}
    (hcalls : call = .driverOpen ∧ control = .openStatus ∨
      call = .driverClose ∧ control = .closeStatus)
    (hstep : beginStep p call = some p') :
    p.driver.mutex = none ∧ p.native.control = .idle ∧
      p' = { p with native := { p.native with control := control } } := by
  unfold beginStep at hstep
  split at hstep
  · cases hstep
  · next hfree =>
    obtain ⟨native, hnative, rfl⟩ := Option.map_eq_some_iff.mp hstep
    obtain ⟨hidle, rfl⟩ := native_begins hcalls hnative
    exact ⟨hfree, hidle, rfl⟩

theorem controlStep_moves {memory : Option Nat} (hstep : controlStep p memory = some p') :
    Moves p (.control memory) p' := by
  unfold controlStep at hstep
  split at hstep
  · next hholds =>
    obtain ⟨driver, hdriver, rfl⟩ := Option.map_eq_some_iff.mp hstep
    exact .offersSentinel memory driver hholds hdriver
  · next hbehind =>
    obtain ⟨native, hnative, hrest⟩ := Option.bind_eq_some_iff.mp hstep
    obtain ⟨driver, hdriver, hlast⟩ := Option.bind_eq_some_iff.mp hrest
    cases hlast
    have hcalling : p.native.control ≠ .idle := by
      intro hidle
      simp [ReceiveHandler.step, hidle] at hnative
    obtain ⟨control, -, hidle, -⟩ | ⟨memory', hmemory, rfl⟩ | ⟨t, hnot, -⟩ :=
      ReceiveHandler.step_cases hnative
    · exact absurd hidle hcalling
    · cases hmemory
      exact .goesOn memory driver hbehind hcalling hdriver
    · cases hnot

/-- A step of the handler is one of `handlerStep`. -/
theorem native_handles {native native' : ReceiveHandler.State Unit}
    (hstep : ReceiveHandler.step native (.handler ()) = some native') :
    ReceiveHandler.handlerStep native () = some native' := by
  obtain ⟨control, -, -, hnot | hnot, -⟩ | ⟨memory, hnot, -⟩ | ⟨t, -, hhandles⟩ :=
    ReceiveHandler.step_cases hstep
  · cases hnot
  · cases hnot
  · cases hnot
  · exact hhandles

theorem deliverStep_moves {event : CECMgr.EventData} (hstep : deliverStep p event = some p') :
    Moves p (.deliver event) p' := by
  unfold deliverStep at hstep
  split at hstep
  · next hplace =>
    split at hstep
    · next hregistered =>
      obtain ⟨native, hnative, rfl⟩ := Option.map_eq_some_iff.mp hstep
      have hgoes := native_handles hnative
      simp only [ReceiveHandler.handlerStep, hplace, hregistered, if_true] at hgoes
      cases hgoes
      exact .delivers event hplace hregistered
    · next hunregistered =>
      cases hstep
      exact .drops event hplace (Bool.eq_false_iff.mpr hunregistered)
  · cases hstep

theorem callbackStep_moves (hplace : p.native.handler () = .call .set)
    (hstep : callbackStep p = some p') : Moves p .handler p' := by
  obtain ⟨event, hevent, hrest⟩ := Option.bind_eq_some_iff.mp hstep
  obtain ⟨native, hnative, hlast⟩ := Option.bind_eq_some_iff.mp hrest
  have hgoes := native_handles hnative
  simp only [ReceiveHandler.handlerStep, hplace, if_true] at hgoes
  cases hgoes
  cases hrebuild : Daemon.rebuild event.length event.data with
  | error reason =>
      rw [hrebuild] at hlast
      cases hlast
      exact .escapes event reason hevent hrebuild
  | ok frame =>
      rw [hrebuild] at hlast
      obtain ⟨driver, hdriver, hp'⟩ := Option.bind_eq_some_iff.mp hlast
      cases hp'
      have hmoves : Moves p .handler _ := .receives event frame driver hplace hevent hrebuild hdriver
      simpa [State.handles] using hmoves

theorem handlerStep_moves (hstep : handlerStep p = some p') : Moves p .handler p' := by
  unfold handlerStep at hstep
  split at hstep
  · cases hstep
  · next hplace => exact callbackStep_moves hplace hstep
  · next hbusy hplace =>
    obtain ⟨native, hnative, rfl⟩ := Option.map_eq_some_iff.mp hstep
    exact .handles native hbusy hplace (native_handles hnative)

theorem threadStep_moves {a : Sessions.Action CECFrame} (hstep : threadStep p a = some p') :
    Moves p (.thread a) p' := by
  unfold threadStep at hstep
  split at hstep
  · next henters =>
    obtain ⟨driver, hdriver, rfl⟩ := Option.map_eq_some_iff.mp hstep
    exact .threads a driver henters.1 henters.2 hdriver
  · cases hstep

theorem step_moves (hstep : step p a = some p') : Moves p a p' := by
  unfold step at hstep
  split at hstep
  · cases a with
    | driverOpen =>
        obtain ⟨hfree, hidle, rfl⟩ := beginStep_cases (.inl ⟨rfl, rfl⟩) hstep
        exact .begins _ _ (.inl ⟨rfl, rfl⟩) hfree hidle
    | driverClose =>
        obtain ⟨hfree, hidle, rfl⟩ := beginStep_cases (.inr ⟨rfl, rfl⟩) hstep
        exact .begins _ _ (.inr ⟨rfl, rfl⟩) hfree hidle
    | control memory => exact controlStep_moves hstep
    | thread a => exact threadStep_moves hstep
    | deliver event => exact deliverStep_moves hstep
    | handler => exact handlerStep_moves hstep
  · cases hstep

theorem step_alive (hstep : step p a = some p') : p.Alive := by
  unfold step at hstep
  split at hstep
  · next halive => exact halive
  · cases hstep

end Steps

/-! ## The two views agree -/

/-- Where the holder of `mutex` is in the view of the other threads, and the status that it
has found or set. -/
def Place (status : DriverStatus) (mutex : Option Sessions.Holder) : Control → Prop
  | .idle => mutex = none ∨ mutex = some .reader
  | .openStatus | .closeStatus => mutex = none
  | .openTest | .register | .malloc | .setRxCB | .setRxCBdata | .setTxCB | .setTxCBdata
  | .setOpened => status = .closed ∧ mutex = none
  | .setClosing => status = .opened ∧ mutex = none
  | .closeTest =>
      status = .closing ∧ (mutex = some .closeOffer ∨ mutex = some .closeNative)
  | .unregister | .free | .clear | .setClosed => status = .closing ∧ mutex = some .closeNative

structure Agrees (p : State) : Prop where
  inv : Sessions.Inv p.driver
  status : p.driver.status = p.native.status
  place : Place p.native.status p.driver.mutex p.native.control

theorem new_agrees : Agrees new := ⟨Sessions.new_inv, rfl, .inl rfl⟩

/-- A thread changes the status never, and `mutex` only while nobody is in `open` or
`close`. -/
theorem thread_frame {driver driver' : Sessions.State CECFrame}
    {a : Sessions.Action CECFrame} (hinv : Sessions.Inv driver) (hthread : ofThread a = true)
    (hstep : Sessions.step driver a = some driver') :
    driver'.status = driver.status ∧
      (driver'.mutex = driver.mutex ∨
        driver.mutex = none ∧ driver'.mutex = some .reader ∧ a = .reader ∧
          locks driver.reader = true ∨
        driver.mutex = some .reader ∧ driver'.mutex = none) := by
  cases Sessions.step_moves hstep with
  | opens | closes | offersSentinel | closeEnds | receives => cases hthread
  | flushes hpc hfree =>
      refine ⟨rfl, .inr (.inl ⟨hfree, rfl, rfl, ?_⟩)⟩
      rw [hpc]
      rfl
  | flushEnds hpc => exact ⟨rfl, .inr (.inr ⟨hinv.holder (by rw [hpc]; rfl), rfl⟩)⟩
  | _ => exact ⟨rfl, .inl rfl⟩

/-- `close` is in front of `rQueue.offer(0)`. -/
theorem Place.of_closeOffer {status : DriverStatus} {control : Control}
    (h : Place status (some .closeOffer) control) : control = .closeTest ∧ status = .closing := by
  cases control with
  | closeTest => exact ⟨rfl, h.1⟩
  | idle => rcases h with h | h <;> cases h
  | openStatus | closeStatus => cases h
  | _ => cases h.2

/-- Outside of a call the reading thread may hold `mutex`. -/
theorem Place.of_reader {status : DriverStatus} {control : Control}
    (h : Place status (some .reader) control) : control = .idle := by
  cases control with
  | idle => rfl
  | openStatus | closeStatus => cases h
  | closeTest => rcases h.2 with h | h <;> cases h
  | _ => cases h.2

section Agrees

variable {p p' : State} {a : Action}

/-- The status and the place of the holder stay what the other threads see of them. -/
theorem Agrees.unseen (h : Agrees p) {native : ReceiveHandler.State Unit}
    (hstatus : native.status = p.native.status)
    (hplace : Place p.native.status p.driver.mutex native.control) :
    Agrees { p with native := native } := by
  refine ⟨h.inv, h.status.trans hstatus.symm, ?_⟩
  show Place native.status p.driver.mutex native.control
  rw [hstatus]
  exact hplace

/-- A store through `driverCtx`, or the fault of storing behind none. -/
theorem Agrees.stores (h : Agrees p) {store : ReceiveHandler.Context → ReceiveHandler.State Unit}
    (hstore : ∀ o, (store o).status = p.native.status ∧
      Place p.native.status p.driver.mutex (store o).control) :
    Agrees { p with native := ReceiveHandler.storeStep p.native store } := by
  unfold ReceiveHandler.storeStep
  split
  · exact h.unseen rfl h.place
  · exact h.unseen (hstore _).1 (hstore _).2

/-- A statement that the other threads see. -/
theorem Agrees.seen (h : Agrees p) {native : ReceiveHandler.State Unit}
    {driver : Sessions.State CECFrame} {a : Sessions.Action CECFrame}
    (hstep : Sessions.step p.driver a = some driver) (hstatus : driver.status = native.status)
    (hplace : Place native.status driver.mutex native.control) :
    Agrees { p with driver := driver, native := native } :=
  ⟨Sessions.step_inv h.inv hstep, hstatus, hplace⟩

/-- A statement of `open` or `close` that the other threads do not see. -/
theorem Agrees.goesUnseen (h : Agrees p) (memory : Option Nat)
    (hbehind : p.driver.mutex ≠ some .closeOffer) (hseen : PseudoDriver.seen p.native = none) :
    Agrees { p with native := ReceiveHandler.controlStep p.native memory } := by
  have hplace := h.place
  cases hcontrol : p.native.control with
  | idle =>
      simp only [ReceiveHandler.controlStep, hcontrol]
      exact ⟨h.inv, h.status, h.place⟩
  | openStatus | closeStatus =>
      rw [hcontrol] at hplace
      simp only [ReceiveHandler.controlStep, hcontrol]
      refine h.unseen rfl ?_
      dsimp only
      split
      · exact .inl hplace
      · next hfound => exact ⟨not_not.mp hfound, hplace⟩
  | openTest =>
      rw [hcontrol] at hplace
      simp only [ReceiveHandler.controlStep, hcontrol]
      refine h.unseen rfl ?_
      dsimp only
      split
      · exact hplace
      · exact .inl hplace.2
  | register | unregister | clear =>
      rw [hcontrol] at hplace
      simp only [ReceiveHandler.controlStep, hcontrol]
      exact h.unseen rfl hplace
  | malloc =>
      rw [hcontrol] at hplace
      simp only [ReceiveHandler.controlStep, hcontrol]
      cases memory <;> exact h.unseen rfl hplace
  | setRxCB | setRxCBdata | setTxCB | setTxCBdata =>
      rw [hcontrol] at hplace
      simp only [ReceiveHandler.controlStep, hcontrol]
      exact h.stores fun o => ⟨rfl, hplace⟩
  | free =>
      rw [hcontrol] at hplace
      simp only [ReceiveHandler.controlStep, hcontrol]
      split <;> exact h.unseen rfl hplace
  | closeTest =>
      rw [hcontrol] at hplace
      have hsome : p.native.driverCtx.isSome = true := by
        by_contra hnone
        simp [PseudoDriver.seen, hcontrol, hnone] at hseen
      simp only [ReceiveHandler.controlStep, hcontrol, hsome, if_true]
      exact h.unseen rfl ⟨hplace.1, hplace.2.resolve_left hbehind⟩
  | setOpened | setClosing | setClosed => simp [PseudoDriver.seen, hcontrol] at hseen

/-- A statement of `open` or `close` that is a step in both views. -/
theorem Agrees.goesSeen (h : Agrees p) (memory : Option Nat) {driver : Sessions.State CECFrame}
    {a : Sessions.Action CECFrame} (hbehind : p.driver.mutex ≠ some .closeOffer)
    (hseen : PseudoDriver.seen p.native = some a)
    (hstep : Sessions.step p.driver a = some driver) :
    Agrees { p with driver := driver, native := ReceiveHandler.controlStep p.native memory } := by
  have hplace := h.place
  have hstatus := h.status
  have hnext := hstep
  cases hcontrol : p.native.control with
  | setOpened =>
      rw [hcontrol] at hplace
      obtain ⟨hclosed, hfree⟩ := hplace
      simp only [PseudoDriver.seen, hcontrol, Option.some.injEq] at hseen
      subst hseen
      simp only [Sessions.step, hfree, hstatus, hclosed, and_self, if_true,
        Option.some.injEq] at hnext
      simp only [ReceiveHandler.controlStep, hcontrol]
      exact h.seen hstep (by rw [← hnext]) (by rw [← hnext]; exact .inl rfl)
  | setClosing =>
      rw [hcontrol] at hplace
      obtain ⟨hopened, hfree⟩ := hplace
      simp only [PseudoDriver.seen, hcontrol, Option.some.injEq] at hseen
      subst hseen
      simp only [Sessions.step, hfree, hstatus, hopened, if_true, Option.some.injEq] at hnext
      simp only [ReceiveHandler.controlStep, hcontrol]
      exact h.seen hstep (by rw [← hnext]) (by rw [← hnext]; exact ⟨rfl, .inl rfl⟩)
  | closeTest =>
      -- `HdmiCecClose` fails, and the status stays `CLOSING`
      rw [hcontrol] at hplace
      have hnative := hplace.2.resolve_left hbehind
      have hnone : p.native.driverCtx.isSome = false := by
        by_contra hsome
        simp [PseudoDriver.seen, hcontrol, hsome] at hseen
      simp only [PseudoDriver.seen, hcontrol, hnone, Bool.false_eq_true, if_false,
        Option.some.injEq] at hseen
      subst hseen
      simp only [Sessions.step, hnative, Bool.false_eq_true, if_false,
        Option.some.injEq] at hnext
      simp only [ReceiveHandler.controlStep, hcontrol, hnone, Bool.false_eq_true, if_false]
      exact h.seen hstep (by rw [← hnext]; exact hstatus) (by rw [← hnext]; exact .inl rfl)
  | setClosed =>
      rw [hcontrol] at hplace
      simp only [PseudoDriver.seen, hcontrol, Option.some.injEq] at hseen
      subst hseen
      simp only [Sessions.step, hplace.2, if_true, Option.some.injEq] at hnext
      simp only [ReceiveHandler.controlStep, hcontrol]
      exact h.seen hstep (by rw [← hnext]) (by rw [← hnext]; exact .inl rfl)
  | _ => simp [PseudoDriver.seen, hcontrol] at hseen

/-- The next statement of `open` or `close`, but for `rQueue.offer(0)`. -/
theorem Agrees.goesOn (h : Agrees p) (memory : Option Nat) {driver : Sessions.State CECFrame}
    (hbehind : p.driver.mutex ≠ some .closeOffer)
    (hstep : seenStep p.driver (PseudoDriver.seen p.native) = some driver) :
    Agrees { p with driver := driver, native := ReceiveHandler.controlStep p.native memory } := by
  cases hseen : PseudoDriver.seen p.native with
  | none =>
      rw [hseen] at hstep
      cases hstep
      exact h.goesUnseen memory hbehind hseen
  | some a =>
      rw [hseen] at hstep
      exact h.goesSeen memory hbehind hseen hstep

/-- A step of a thread that does not enter its block during a call. -/
theorem Agrees.threads (h : Agrees p) {a : Sessions.Action CECFrame}
    {driver : Sessions.State CECFrame} (hthread : ofThread a = true)
    (henters : ¬ (a = .reader ∧ locks p.driver.reader = true ∧ p.native.control ≠ .idle))
    (hstep : Sessions.step p.driver a = some driver) : Agrees { p with driver := driver } := by
  obtain ⟨hstatus, hmutex⟩ := thread_frame h.inv hthread hstep
  refine ⟨Sessions.step_inv h.inv hstep, hstatus.trans h.status, ?_⟩
  show Place p.native.status driver.mutex p.native.control
  have hplace := h.place
  rcases hmutex with hsame | ⟨-, hreader, hread, hlocks⟩ | ⟨hreader, hfree⟩
  · rw [hsame]
    exact hplace
  · -- the flush is entered between two calls
    have hidle : p.native.control = .idle := by
      by_contra hcalling
      exact henters ⟨hread, hlocks, hcalling⟩
    rw [hidle, hreader]
    exact .inr rfl
  · rw [hreader] at hplace
    rw [hplace.of_reader, hfree]
    exact .inl rfl

theorem step_agrees (h : Agrees p) (hstep : step p a = some p') : Agrees p' := by
  cases step_moves hstep with
  | begins a control hcalls hfree hidle =>
      refine h.unseen rfl ?_
      rcases hcalls with ⟨-, rfl⟩ | ⟨-, rfl⟩ <;> exact hfree
  | offersSentinel memory driver hholds hdriver =>
      have hplace := h.place
      have hnext := hdriver
      simp only [Sessions.step, hholds, Option.some.injEq] at hnext
      subst hnext
      refine ⟨Sessions.step_inv h.inv hdriver, h.status, ?_⟩
      rw [hholds] at hplace
      obtain ⟨hcontrol, hclosing⟩ := hplace.of_closeOffer
      show Place p.native.status (some .closeNative) p.native.control
      rw [hcontrol]
      exact ⟨hclosing, .inr rfl⟩
  | goesOn memory driver hbehind hcalling hdriver => exact h.goesOn memory hbehind hdriver
  | threads a driver hthread henters hdriver => exact h.threads hthread henters hdriver
  | delivers event hplace hregistered => exact ⟨h.inv, h.status, h.place⟩
  | drops => exact h
  | handles native hbusy hplace hnative =>
      obtain ⟨hstatus, hcontrol, -⟩ := ReceiveHandler.handlerStep_frame hnative
      refine ⟨h.inv, h.status.trans hstatus.symm, ?_⟩
      show Place native.status p.driver.mutex native.control
      rw [hstatus, hcontrol]
      exact h.place
  | receives event frame driver hplace hhands hrebuilds hdriver =>
      have hinv := Sessions.step_inv h.inv hdriver
      cases hdriver
      exact ⟨hinv, h.status, h.place⟩
  | escapes => exact ⟨h.inv, h.status, h.place⟩

/-- In every run the two views have one status, and agree on who holds `mutex`. -/
theorem agrees_of_reachable {ok : State → Action → Prop} (h : system.Reachable ok p) : Agrees p := by
  refine h.invariant ?_ ?_
  · rintro p rfl
    exact new_agrees
  · intro p a p' _ hp _ hstep
    exact step_agrees hp hstep

/-- A step of the process is one of `ReceiveHandler`, or none. -/
theorem step_native (hstep : step p a = some p') :
    p'.native = p.native ∨ ∃ a', ReceiveHandler.step p.native a' = some p'.native := by
  have hfault := (step_alive hstep).2
  cases step_moves hstep with
  | begins a control hcalls hfree hidle =>
      rcases hcalls with ⟨-, rfl⟩ | ⟨-, rfl⟩
      · exact .inr ⟨.driverOpen, by simp [ReceiveHandler.step, hfault, hidle]⟩
      · exact .inr ⟨.driverClose, by simp [ReceiveHandler.step, hfault, hidle]⟩
  | goesOn memory driver hbehind hcalling hdriver =>
      exact .inr ⟨.control memory, by simp [ReceiveHandler.step, hfault, hcalling]⟩
  | delivers event hplace hregistered =>
      exact .inr ⟨.handler (), by
        simp [ReceiveHandler.step, ReceiveHandler.handlerStep, hfault, hplace, hregistered]⟩
  | handles native hbusy hplace hnative =>
      exact .inr ⟨.handler (), by simp [ReceiveHandler.step, hfault, hnative, State.handles]⟩
  | receives event frame driver hplace =>
      exact .inr ⟨.handler (), by
        simp [ReceiveHandler.step, ReceiveHandler.handlerStep, hfault, hplace]⟩
  | offersSentinel | threads | drops | escapes => exact .inl rfl

/-- A step of the process is one of `Sessions`, or none. -/
theorem step_driver (hstep : step p a = some p') :
    p'.driver = p.driver ∨ ∃ a', Sessions.step p.driver a' = some p'.driver := by
  cases step_moves hstep with
  | offersSentinel memory driver hholds hdriver => exact .inr ⟨_, hdriver⟩
  | goesOn memory driver hbehind hcalling hdriver =>
      cases hseen : seen p.native with
      | none =>
          rw [hseen] at hdriver
          cases hdriver
          exact .inl rfl
      | some a' =>
          rw [hseen] at hdriver
          exact .inr ⟨a', hdriver⟩
  | threads a driver hthread henters hdriver => exact .inr ⟨a, hdriver⟩
  | receives event frame driver hplace hhands hrebuilds hdriver => exact .inr ⟨_, hdriver⟩
  | begins | delivers | drops | handles | escapes => exact .inl rfl

/-- Each view of a run is a run of its own. -/
theorem reachable_views {ok : State → Action → Prop} (h : system.Reachable ok p) :
    (Sessions.system CECFrame).Reachable StepSystem.unguarded p.driver ∧
      (ReceiveHandler.system Unit).Reachable StepSystem.unguarded p.native := by
  refine h.invariant (I := fun p =>
    (Sessions.system CECFrame).Reachable StepSystem.unguarded p.driver ∧
      (ReceiveHandler.system Unit).Reachable StepSystem.unguarded p.native) ?_ ?_
  · rintro p rfl
    exact ⟨.of_initial rfl, .of_initial rfl⟩
  · rintro p a p' - ⟨hdriver, hnative⟩ - hstep
    constructor
    · rcases step_driver hstep with hsame | ⟨a', hstep'⟩
      · rw [hsame]
        exact hdriver
      · exact hdriver.next trivial hstep'
    · rcases step_native hstep with hsame | ⟨a', hstep'⟩
      · rw [hsame]
        exact hnative
      · exact hnative.next trivial hstep'

end Agrees

end PseudoDriver

end HdmiCec
