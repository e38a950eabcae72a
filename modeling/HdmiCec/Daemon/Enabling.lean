import HdmiCec.Daemon.CecIARMBusMgr
import HdmiCec.Library.StepSystem

/-!
# Starting and stopping the manager

`CECIARMMgr::start` and `CECIARMMgr::stop` one after the other, with the library that
they initialise and terminate.  Three objects have a state of their own: the driver, the
library with its bus, and the manager with its four pointers.  `HdmiCecOpen` and
`HdmiCecClose` may fail, and what is thrown then leaves every call on the way where it
is.

`stop` takes the pointers down before it calls `LibCCEC::term`, and `started` only
behind it: a failing `HdmiCecClose` leaves a manager that is started and has no
connection.

`Manager` is `CECIARMMgr` with its `Connection` objects told apart.  An object is its
number in the order of construction, so that an address which the allocator hands out
again is another object; `start_forget` and `stop_forget` say that the manager is
otherwise the same.  The threads of the bus are left out; `Reader::stop` and
`Writer::stop` return.
-/

namespace HdmiCec

namespace Library

/-- `Bus::start()`. -/
def busStart (library : Library) (hdmiCecOpen : Bool) : Library × Result Unit :=
  match library.driver.driverOpen hdmiCecOpen with
  | (driver, .ok ()) => ({ library with driver := driver, started := true }, .ok ())
  | (driver, .error r) => ({ library with driver := driver }, .error r)

/-- `Bus::stop()`: the driver is closed in `Reader::stop` and once more at the end.  Of
the calls of `close` one at most comes to `HdmiCecClose`. -/
def busStop (library : Library) (hdmiCecClose : Bool) : Library × Result Unit :=
  match library.driver.driverClose hdmiCecClose with
  | (driver, .error r) => ({ library with driver := driver, started := false }, .error r)
  | (driver, .ok ()) =>
      match driver.driverClose hdmiCecClose with
      | (driver, answer) => ({ library with driver := driver, started := false }, answer)

/-- `LibCCEC::init(const char *name)`. -/
def init (library : Library) (hdmiCecOpen : Bool) : Library × Result Unit :=
  if library.initialized then
    (library, throwing .invalidStateException)
  else
    match library.driver.driverOpen hdmiCecOpen with
    | (driver, .error r) => ({ library with driver := driver }, .error r)
    | (driver, .ok ()) =>
        match { library with driver := driver }.busStart hdmiCecOpen with
        | (library, .error r) => (library, .error r)
        | (library, .ok ()) => ({ library with initialized := true }, .ok ())

/-- `LibCCEC::term()`. -/
def term (library : Library) (hdmiCecClose : Bool) : Library × Result Unit :=
  if !library.initialized then
    (library, throwing .invalidStateException)
  else
    match library.busStop hdmiCecClose with
    | (library, .error r) => (library, .error r)
    | (library, .ok ()) =>
        match library.driver.driverClose hdmiCecClose with
        | (driver, .error r) => ({ library with driver := driver }, .error r)
        | (driver, .ok ()) => ({ library with driver := driver, initialized := false }, .ok ())

/-- The exceptions of `Connection::open` and `Connection::close`, which are those of the
bus. -/
def onBus (library : Library) : Result Unit :=
  if library.started then .ok () else throwing .invalidStateException

/-- Nothing is initialised, started or open. -/
structure IsDown (library : Library) : Prop where
  initialized : library.initialized = false
  started : library.started = false
  closed : library.driver.status = .closed

theorem onBus_running {library : Library} (h : library.IsRunning) : library.onBus = .ok () := by
  rw [onBus, if_pos h.started]

theorem init_fails {library : Library} (h : library.IsDown) :
    library.init false = (library, throwing .ioException) := by
  have hopen : library.driver.driverOpen false = (library.driver, throwing .ioException) := by
    simp [DriverImpl.driverOpen, h.closed]
  rw [init, if_neg (by simp [h.initialized]), hopen]
  rfl

theorem init_succeeds {library : Library} (h : library.IsDown) :
    (library.init true).2 = .ok () ∧ (library.init true).1.IsRunning := by
  have hstatus := h.closed
  constructor
  · simp [init, busStart, DriverImpl.driverOpen, h.initialized, hstatus]
  · constructor <;> simp [init, busStart, DriverImpl.driverOpen, h.initialized, hstatus]

theorem term_succeeds {library : Library} (h : library.IsRunning) :
    (library.term true).2 = .ok () ∧ (library.term true).1.IsDown := by
  have hopened := h.opened
  constructor
  · simp [term, busStop, DriverImpl.driverClose, h.initialized, hopened]
  · constructor <;> simp [term, busStop, DriverImpl.driverClose, h.initialized, hopened]

theorem term_fails {library : Library} (h : library.IsRunning) :
    (library.term false).2 = throwing .ioException := by
  simp [term, busStop, DriverImpl.driverClose, h.initialized, h.opened, throwing]

end Library

/-! ## The manager and its objects -/

/-- The `Connection` objects of the daemon, numbered. -/
abbrev Object := Nat

/-- The class `CECIARMMgr` with the variable `m_connection`.  `constructed` connections
have been made so far. -/
structure Manager where
  m_connection : Option Object
  started : Bool
  processor : Bool
  frameListener : Bool
  connection : Option Object
  constructed : Nat
  deriving DecidableEq

namespace Manager

/-- The manager after `init`. -/
def new : Manager where
  m_connection := none
  started := false
  processor := false
  frameListener := false
  connection := none
  constructed := 0

/-- `start()`. -/
def start (manager : Manager) (calls : LibraryCalls) : Manager × Result IARM_Result_t :=
  if manager.started then
    (manager, .ok .invalidState)
  else
    match calls.init with
    | .error r => (manager, .error r)
    | .ok () =>
        let manager :=
          { manager with
            processor := true
            frameListener := true
            connection := some manager.constructed
            constructed := manager.constructed + 1 }
        match calls.connectionOpen with
        | .error r => (manager, .error r)
        | .ok () =>
            ({ manager with m_connection := manager.connection, started := true }, .ok .success)

/-- `stop()`. -/
def stop (manager : Manager) (calls : LibraryCalls) : Manager × Result IARM_Result_t :=
  if !manager.started then
    (manager, .ok .invalidState)
  else
    match manager.connection, calls.connectionClose with
    | none, _ => (manager, .error .undefined)
    | some _, .error r => (manager, .error r)
    | some _, .ok () =>
        let manager :=
          { manager with
            frameListener := false, m_connection := none, connection := none, processor := false }
        match calls.term with
        | .error r => (manager, .error r)
        | .ok () => ({ manager with started := false }, .ok .success)

/-- The manager without the numbers, whatever `enabled` says. -/
def forget (manager : Manager) (enabled : Bool) : CECIARMMgr where
  enabled := enabled
  m_connection :=
    manager.m_connection.map fun _ => Connection.ofSource LogicalAddress.unregistered
  started := manager.started
  processor := manager.processor
  frameListener := manager.frameListener
  connection := manager.connection.map fun _ => Connection.ofSource LogicalAddress.unregistered

theorem start_forget (manager : Manager) (enabled : Bool) (calls : LibraryCalls) :
    (manager.forget enabled).start calls =
      ((manager.start calls).1.forget enabled, (manager.start calls).2) := by
  obtain ⟨m_connection, started, processor, frameListener, connection, constructed⟩ := manager
  obtain ⟨init, connectionOpen, connectionClose, term⟩ := calls
  cases started with
  | true => rfl
  | false =>
      cases init with
      | error r => rfl
      | ok _ => cases connectionOpen <;> rfl

theorem stop_forget (manager : Manager) (enabled : Bool) (calls : LibraryCalls) :
    (manager.forget enabled).stop calls =
      ((manager.stop calls).1.forget enabled, (manager.stop calls).2) := by
  obtain ⟨m_connection, started, processor, frameListener, connection, constructed⟩ := manager
  obtain ⟨init, connectionOpen, connectionClose, term⟩ := calls
  cases started with
  | false => rfl
  | true =>
      cases connection with
      | none => rfl
      | some o =>
          cases connectionClose with
          | error r => rfl
          | ok _ => cases term <;> rfl

end Manager

/-! ## Sequences of calls -/

namespace Enabling

/-- The daemon between two calls. -/
structure State where
  manager : Manager
  library : Library
  crashed : Bool

inductive Action where
  | start (hdmiCecOpen : Bool)
  | stop (hdmiCecClose : Bool)
  deriving DecidableEq

/-- The call is at the dereference of a null pointer. -/
def crashes : Result IARM_Result_t → Bool
  | .error .undefined => true
  | _ => false

/-- `CECIARMMgr::start()` with what it does to the library. -/
def start (s : State) (hdmiCecOpen : Bool) : State :=
  let init := s.library.init hdmiCecOpen
  let answer := s.manager.start
    { LibraryCalls.normal with init := init.2, connectionOpen := init.1.onBus }
  { manager := answer.1
    library := if s.manager.started then s.library else init.1
    crashed := crashes answer.2 }

/-- `CECIARMMgr::stop()` with what it does to the library, which it terminates if it
comes that far. -/
def stop (s : State) (hdmiCecClose : Bool) : State :=
  let term := s.library.term hdmiCecClose
  let answer := s.manager.stop
    { LibraryCalls.normal with connectionClose := s.library.onBus, term := term.2 }
  let terminates := s.manager.started && s.manager.connection.isSome && s.library.started
  { manager := answer.1
    library := if terminates then term.1 else s.library
    crashed := crashes answer.2 }

def step (s : State) (a : Action) : Option State :=
  if s.crashed then
    none
  else
    match a with
    | .start hdmiCecOpen => some (start s hdmiCecOpen)
    | .stop hdmiCecClose => some (stop s hdmiCecClose)

/-- The daemon when `CECIARMMgr::init` has returned. -/
def new : State where
  manager := .new
  library :=
    { initialized := false
      started := false
      driver := { status := .closed, rQueue := .empty 32, logicalAddresses := [] } }
  crashed := false

def system : StepSystem State Action where
  initial s := s = new
  step := step

/-! ## The pointers and the flag -/

/-- What the flag `started` says about the pointers. -/
structure Consistent (manager : Manager) : Prop where
  running : manager.started = true →
    manager.connection.isSome = true ∧ manager.frameListener = true ∧
      manager.processor = true ∧ manager.m_connection = manager.connection
  down : manager.started = false → manager.m_connection = none

/-- `HdmiCecClose` succeeds whenever the `stop` of a started manager comes to it. -/
def Closes (s : State) (a : Action) : Prop := a = .stop false → s.manager.started = false

instance (s : State) (a : Action) : Decidable (Closes s a) := inferInstanceAs (Decidable (_ → _))

/-- The invariant of the runs in which `HdmiCecClose` succeeds: the library is up
together with the manager. -/
structure Inv (s : State) : Prop where
  consistent : Consistent s.manager
  up : s.manager.started = true → s.library.IsRunning
  down : s.manager.started = false → s.library.IsDown
  crashed : s.crashed = false

theorem start_inv {s : State} (h : Inv s) (hdmiCecOpen : Bool) : Inv (start s hdmiCecOpen) := by
  cases hstarted : s.manager.started with
  | true =>
      -- the flag is tested before anything else
      have hstart : start s hdmiCecOpen = { s with crashed := false } := by
        simp [start, Manager.start, hstarted, crashes]
      rw [hstart]
      exact ⟨h.consistent, h.up, h.down, rfl⟩
  | false =>
      have hdown := h.down hstarted
      cases hdmiCecOpen with
      | false =>
          -- `LibCCEC::init` throws before a pointer has been written
          have hstart : start s false = { s with crashed := false } := by
            simp [start, Manager.start, hstarted, Library.init_fails hdown, throwing, crashes]
          rw [hstart]
          exact ⟨h.consistent, h.up, h.down, rfl⟩
      | true =>
          obtain ⟨hreturns, hrunning⟩ := Library.init_succeeds hdown
          have hopens := Library.onBus_running hrunning
          have hstart : start s true =
              { manager :=
                  { m_connection := some s.manager.constructed
                    started := true
                    processor := true
                    frameListener := true
                    connection := some s.manager.constructed
                    constructed := s.manager.constructed + 1 }
                library := (s.library.init true).1
                crashed := false } := by
            simp [start, Manager.start, hreturns, hopens, hstarted, crashes]
          rw [hstart]
          refine ⟨⟨?_, ?_⟩, ?_, ?_, rfl⟩
          · intro _
            exact ⟨rfl, rfl, rfl, rfl⟩
          · intro hnot
            cases hnot
          · intro _
            exact hrunning
          · intro hnot
            cases hnot

/-- The pointers behind the statements of `stop` that clear them. -/
def cleared (manager : Manager) : Manager :=
  { manager with
    m_connection := none, connection := none, frameListener := false, processor := false }

/-- What `stop` does to a started manager when `HdmiCecClose` succeeds. -/
theorem stop_succeeds {s : State} (hstarted : s.manager.started = true)
    (hconnection : s.manager.connection.isSome = true) (hrunning : s.library.IsRunning) :
    stop s true =
      { manager := { cleared s.manager with started := false }
        library := (s.library.term true).1
        crashed := false } := by
  obtain ⟨o, hsome⟩ := Option.isSome_iff_exists.mp hconnection
  have hcloses := Library.onBus_running hrunning
  have hterm := (Library.term_succeeds hrunning).1
  simp [stop, Manager.stop, cleared, crashes, hstarted, hsome, hcloses, hterm, hrunning.started]

/-- What it does when `HdmiCecClose` fails: the pointers are gone, the flag is not. -/
theorem stop_fails {s : State} (hstarted : s.manager.started = true)
    (hconnection : s.manager.connection.isSome = true) (hrunning : s.library.IsRunning) :
    stop s false =
      { manager := cleared s.manager
        library := (s.library.term false).1
        crashed := false } := by
  obtain ⟨o, hsome⟩ := Option.isSome_iff_exists.mp hconnection
  have hcloses := Library.onBus_running hrunning
  have hterm := Library.term_fails hrunning
  simp [stop, Manager.stop, cleared, crashes, hstarted, hsome, hcloses, hterm, hrunning.started,
    throwing]

theorem stop_inv {s : State} (h : Inv s) {hdmiCecClose : Bool}
    (hcloses : Closes s (.stop hdmiCecClose)) : Inv (stop s hdmiCecClose) := by
  cases hstarted : s.manager.started with
  | true =>
      -- by the guard the call comes to its end, where it clears the flag
      have htrue : hdmiCecClose = true := by
        cases hdmiCecClose with
        | true => rfl
        | false => simpa [hstarted] using hcloses rfl
      subst htrue
      have hrunning := h.up hstarted
      rw [stop_succeeds hstarted (h.consistent.running hstarted).1 hrunning]
      refine ⟨⟨?_, ?_⟩, ?_, ?_, rfl⟩
      · intro hnot
        cases hnot
      · intro _
        rfl
      · intro hnot
        cases hnot
      · intro _
        exact (Library.term_succeeds hrunning).2
  | false =>
      have hstop : stop s hdmiCecClose = { s with crashed := false } := by
        simp [stop, Manager.stop, hstarted, crashes]
      rw [hstop]
      exact ⟨h.consistent, h.up, h.down, rfl⟩

theorem step_inv {s s' : State} {a : Action} (h : Inv s) (hcloses : Closes s a)
    (hstep : step s a = some s') : Inv s' := by
  have hruns : ¬ s.crashed = true := by simp [h.crashed]
  cases a with
  | start hdmiCecOpen =>
      simp only [step, if_neg hruns] at hstep
      cases hstep
      exact start_inv h hdmiCecOpen
  | stop hdmiCecClose =>
      simp only [step, if_neg hruns] at hstep
      cases hstep
      exact stop_inv h hcloses

theorem new_inv : Inv new where
  consistent := ⟨fun hstarted => (by cases hstarted), fun _ => rfl⟩
  up := fun hstarted => by cases hstarted
  down := fun _ => ⟨rfl, rfl, rfl⟩
  crashed := rfl

theorem reachable_inv {s : State} (h : system.Reachable Closes s) : Inv s := by
  refine h.invariant ?_ ?_
  · rintro s rfl
    exact new_inv
  · intro s a s' _ hinv hcloses hstep
    exact step_inv hinv hcloses hstep

/-! ## Between the calls -/

/-- In every run in which `HdmiCecClose` succeeds whenever the `stop` of a started
manager comes to it, the flag says the truth about the pointers between all calls, and
no call has dereferenced a null connection. -/
theorem reachable_pointers {s : State} (h : system.Reachable Closes s) :
    Consistent s.manager ∧ s.crashed = false :=
  ⟨(reachable_inv h).consistent, (reachable_inv h).crashed⟩

/-- A start that fails, one that succeeds, a stop, a stop that has nothing to do, and
two starts. -/
theorem reachable_pointers_restarted :
    ∃ s : State, system.Reachable Closes s ∧ s.manager.started = true ∧
      s.manager.constructed = 2 ∧
      Consistent s.manager ∧ s.crashed = false := by
  obtain ⟨s, hreach, hstarted, hconstructed⟩ :=
    StepSystem.exists_reachable_of_run system Closes new
      [.start false, .start true, .stop true, .stop false, .start true, .start true]
      (fun s => s.manager.started = true ∧ s.manager.constructed = 2) rfl (by decide)
  exact ⟨s, hreach, hstarted, hconstructed, reachable_pointers hreach⟩

/-- The guard cannot be spared: the step against it leaves a started manager without a
connection, and the next `stop` crashes. -/
theorem stop_unclosed {s s' s'' : State} {a : Action} (h : system.Reachable Closes s)
    (hunclosed : ¬ Closes s a) (hstep : step s a = some s') (hdmiCecClose : Bool)
    (hnext : step s' (.stop hdmiCecClose) = some s'') :
    ¬ Consistent s'.manager ∧ s''.crashed = true := by
  have hinv := reachable_inv h
  obtain ⟨rfl, hnotStopped⟩ := Classical.not_imp.mp hunclosed
  have hstarted : s.manager.started = true := by simpa using hnotStopped
  have hruns : ¬ s.crashed = true := by simp [hinv.crashed]
  simp only [step, if_neg hruns] at hstep
  rw [stop_fails hstarted (hinv.consistent.running hstarted).1 (hinv.up hstarted)] at hstep
  cases hstep
  constructor
  · intro hconsistent
    have hsome := (hconsistent.running hstarted).1
    cases hsome
  · simp only [step, Bool.false_eq_true, if_false] at hnext
    cases hnext
    simp [stop, Manager.stop, cleared, hstarted, crashes]

/-- The manager is started, `HdmiCecClose` fails in the first stop, and the second one
takes `connection` for an object. -/
theorem not_pointers :
    ¬ ∀ s : State, system.Reachable StepSystem.unguarded s →
      Consistent s.manager ∧ s.crashed = false := by
  intro hall
  obtain ⟨s, hreach, hcrashed⟩ :=
    StepSystem.exists_reachable_of_run system StepSystem.unguarded new
      [.start true, .stop false, .stop true] (fun s => s.crashed = true) rfl (by decide)
  have hnot := (hall s hreach).2
  rw [hcrashed] at hnot
  cases hnot

end Enabling

end HdmiCec
