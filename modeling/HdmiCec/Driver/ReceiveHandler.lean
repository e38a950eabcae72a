import HdmiCec.Driver.DriverImpl
import HdmiCec.Library.StepSystem
import Mathlib.Logic.Function.Basic
import Mathlib.Tactic.ByContra

/-!
# The receive handler of the pseudo-driver

`cecRecvEventHandler` takes no lock and reads the global `driverCtx` and the field `rxCB`
behind it.  `HdmiCecOpen` registers the handler and allocates the context afterwards,
`HdmiCecSetRxCallback` stores the field later still, and `HdmiCecClose` frees the context
behind a call that stops new events but waits for none under way.

One step is one statement of `DriverImpl::open` or `DriverImpl::close` with what they call,
or one read of the handler.  The holder of the driver's `mutex` is inside `open` or `close`;
any threads of the IARM bus deliver events.  Contexts are numbered in the order of their
allocation.  Of a context `rxCB` is kept, with what the block held before if nobody has
stored it: `rxCBdata` is handed on as it is, and `txCB` is never read.
-/

namespace HdmiCec

namespace ReceiveHandler

/-- A `DriverContext_t`. -/
abbrev Context := Nat

/-- The field `rxCB`: what `malloc` has left in it, or what `HdmiCecSetRxCallback` has
stored. -/
inductive Field where
  | left (value : Nat)
  | set
  deriving DecidableEq

/-- The test `if (driverCtx->rxCB)`; the callback of `DriverImpl` is not null. -/
def Field.nonNull : Field → Bool
  | .left value => value != 0
  | .set => true

/-- The statement that the holder of `mutex` is at, or `idle` when nobody holds it. -/
inductive Control where
  | idle
  | openStatus
  /-- `if (driverCtx == 0)` in `HdmiCecOpen`. -/
  | openTest
  | register
  | malloc
  | setRxCB
  | setRxCBdata
  | setTxCB
  | setTxCBdata
  | setOpened
  | closeStatus
  | setClosing
  /-- `if (driverCtx != 0)` in `HdmiCecClose`. -/
  | closeTest
  | unregister
  | free
  | clear
  | setClosed
  deriving DecidableEq

/-- Where a thread is in `cecRecvEventHandler`, or `out` when it delivers nothing.  Each
`driverCtx->` is a read of the global and then one of the field. -/
inductive Handler where
  | out
  | loadTest
  | test (driverCtx : Option Context)
  | loadCall
  | readRxCB (driverCtx : Option Context)
  | loadData (rxCB : Field)
  | readRxCBdata (rxCB : Field) (driverCtx : Option Context)
  /-- In the call of the callback. -/
  | call (rxCB : Field)
  deriving DecidableEq

/-- How the process comes to its end. -/
inductive Fault where
  /-- The handler reads a field of a null or freed context. -/
  | handlerPointer
  /-- The handler calls what `HdmiCecSetRxCallback` has not stored. -/
  | unsetCallback
  /-- `HdmiCecSetRxCallback` or `HdmiCecSetTxCallback` stores through a null pointer. -/
  | setter
  deriving DecidableEq

structure State (T : Type) where
  status : DriverStatus
  control : Control
  driverCtx : Option Context
  registered : Bool
  allocated : Nat
  rxCB : Context → Field
  freed : Context → Bool
  handler : T → Handler
  fault : Option Fault

/-- `driverOpen` and `driverClose` begin a call with `mutex` free.  `control` is the next
statement of that call; `memory` is what `malloc` has left in `rxCB`, or that it failed. -/
inductive Action (T : Type) where
  | driverOpen
  | driverClose
  | control (memory : Option Nat)
  | handler (t : T)
  deriving DecidableEq

variable {T : Type}

/-! ## The steps -/

/-- A store through `driverCtx`. -/
def storeStep (s : State T) (store : Context → State T) : State T :=
  match s.driverCtx with
  | none => { s with fault := some .setter }
  | some o => store o

/-- The next statement of `open()` or `close()`. -/
def controlStep (s : State T) (memory : Option Nat) : State T :=
  match s.control with
  | .idle => s
  | .openStatus => { s with control := if s.status ≠ .closed then .idle else .openTest }
  -- `HDMI_CEC_IO_INVALID_STATE` makes `open` throw
  | .openTest => { s with control := if s.driverCtx.isNone then .register else .idle }
  | .register => { s with registered := true, control := .malloc }
  | .malloc =>
      match memory with
      | none => { s with driverCtx := none, control := .setRxCB }
      | some value =>
          { s with
            driverCtx := some s.allocated
            allocated := s.allocated + 1
            rxCB := Function.update s.rxCB s.allocated (.left value)
            control := .setRxCB }
  | .setRxCB =>
      storeStep s fun o => { s with rxCB := Function.update s.rxCB o .set, control := .setRxCBdata }
  | .setRxCBdata => storeStep s fun _ => { s with control := .setTxCB }
  | .setTxCB => storeStep s fun _ => { s with control := .setTxCBdata }
  | .setTxCBdata => storeStep s fun _ => { s with control := .setOpened }
  | .setOpened => { s with status := .opened, control := .idle }
  | .closeStatus => { s with control := if s.status ≠ .opened then .idle else .setClosing }
  | .setClosing => { s with status := .closing, control := .closeTest }
  | .closeTest => { s with control := if s.driverCtx.isSome then .unregister else .idle }
  | .unregister => { s with registered := false, control := .free }
  | .free =>
      match s.driverCtx with
      | none => { s with control := .clear }
      | some o => { s with freed := Function.update s.freed o true, control := .clear }
  | .clear => { s with driverCtx := none, control := .setClosed }
  | .setClosed => { s with status := .closed, control := .idle }

/-- `open` and `close` wait for no event. -/
@[simp] theorem controlStep_handler (s : State T) (memory : Option Nat) :
    (controlStep s memory).handler = s.handler := by
  cases hcontrol : s.control with
  | malloc => cases memory <;> simp only [controlStep, hcontrol]
  | setRxCB | setRxCBdata | setTxCB | setTxCBdata =>
      simp only [controlStep, hcontrol, storeStep]
      split <;> rfl
  | free =>
      simp only [controlStep, hcontrol]
      split <;> rfl
  | _ => simp only [controlStep, hcontrol]

section Steps

variable [DecidableEq T]

def State.goes (s : State T) (t : T) (place : Handler) : State T :=
  { s with handler := Function.update s.handler t place }

@[simp] theorem State.goes_handler (s : State T) (t : T) (place : Handler) :
    (s.goes t place).handler t = place := Function.update_self _ _ _

/-- A thread reads a field behind the pointer that it has loaded. -/
def State.reads (s : State T) (t : T) (driverCtx : Option Context) (place : Context → Handler) :
    State T :=
  match driverCtx with
  | none => { s with fault := some .handlerPointer }
  | some o => if s.freed o then { s with fault := some .handlerPointer } else s.goes t (place o)

/-- The next step of a thread of the IARM bus.  Events are delivered to a registered
handler. -/
def handlerStep (s : State T) (t : T) : Option (State T) :=
  match s.handler t with
  | .out => if s.registered then some (s.goes t .loadTest) else none
  | .loadTest => some (s.goes t (.test s.driverCtx))
  | .test driverCtx =>
      some (s.reads t driverCtx fun o => if (s.rxCB o).nonNull then .loadCall else .out)
  | .loadCall => some (s.goes t (.readRxCB s.driverCtx))
  | .readRxCB driverCtx => some (s.reads t driverCtx fun o => .loadData (s.rxCB o))
  | .loadData rxCB => some (s.goes t (.readRxCBdata rxCB s.driverCtx))
  | .readRxCBdata rxCB driverCtx => some (s.reads t driverCtx fun _ => .call rxCB)
  | .call rxCB =>
      if rxCB = .set then some (s.goes t .out) else some { s with fault := some .unsetCallback }

def step (s : State T) (a : Action T) : Option (State T) :=
  if s.fault.isSome then
    none
  else
    match a with
    | .driverOpen => if s.control = .idle then some { s with control := .openStatus } else none
    | .driverClose => if s.control = .idle then some { s with control := .closeStatus } else none
    | .control memory => if s.control = .idle then none else some (controlStep s memory)
    | .handler t => handlerStep s t

/-- The library when nobody has opened the driver yet. -/
def new (T : Type) : State T where
  status := .closed
  control := .idle
  driverCtx := none
  registered := false
  allocated := 0
  rxCB _ := .left 0
  freed _ := false
  handler _ := .out
  fault := none

/-- A call begins, the holder of `mutex` goes on, or a thread delivers. -/
theorem step_cases {s s' : State T} {a : Action T} (h : step s a = some s') :
    (∃ control, (control = .openStatus ∨ control = .closeStatus) ∧ s.control = .idle ∧
      (a = .driverOpen ∨ a = .driverClose) ∧ s' = { s with control := control }) ∨
    (∃ memory, a = .control memory ∧ s' = controlStep s memory) ∨
    ∃ t, a = .handler t ∧ handlerStep s t = some s' := by
  simp only [step] at h
  split at h
  · cases h
  · cases a with
    | driverOpen =>
        simp only at h
        split at h
        · next hidle =>
          cases h
          exact .inl ⟨.openStatus, .inl rfl, hidle, .inl rfl, rfl⟩
        · cases h
    | driverClose =>
        simp only at h
        split at h
        · next hidle =>
          cases h
          exact .inl ⟨.closeStatus, .inr rfl, hidle, .inr rfl, rfl⟩
        · cases h
    | control memory =>
        simp only at h
        split at h
        · cases h
        · cases h
          exact .inr (.inl ⟨memory, rfl, rfl⟩)
    | handler t => exact .inr (.inr ⟨t, rfl, h⟩)

def system (T : Type) [DecidableEq T] : StepSystem (State T) (Action T) where
  initial s := s = new T
  step := step

end Steps

/-! ## Contexts -/

/-- The pointer that a thread has loaded and reads a field of next. -/
def Handler.pointer : Handler → Option Context
  | .test driverCtx | .readRxCB driverCtx | .readRxCBdata _ driverCtx => driverCtx
  | .out | .loadTest | .loadCall | .loadData _ | .call _ => none

/-- The context of the session is the only one that is not freed, in every run. -/
structure Contexts (s : State T) : Prop where
  cleared : s.control = .register ∨ s.control = .malloc → s.driverCtx = none
  numbered : ∀ o, s.driverCtx = some o → o < s.allocated
  live : s.control ≠ .clear → ∀ o, s.driverCtx = some o → s.freed o = false
  gone : s.control = .clear → ∀ o, s.driverCtx = some o → s.freed o = true
  unregistered : s.control = .free ∨ s.control = .clear → s.registered = false
  fresh : ∀ o, s.allocated ≤ o → s.freed o = false
  others : ∀ o, o < s.allocated → s.driverCtx ≠ some o → s.freed o = true
  held : ∀ t o, (s.handler t).pointer = some o → o < s.allocated

theorem new_contexts : Contexts (new T) where
  cleared := fun _ => rfl
  numbered := fun _ hsome => by cases hsome
  live := fun _ _ hsome => by cases hsome
  gone := fun _ _ hsome => by cases hsome
  unregistered := fun _ => rfl
  fresh := fun _ _ => rfl
  others := fun _ hlt => absurd hlt (Nat.not_lt_zero _)
  held := fun _ _ hsome => by cases hsome

/-- A statement that leaves the contexts and the pointers to them alone. -/
theorem Contexts.quiet {s s' : State T} (h : Contexts s) (hctx : s'.driverCtx = s.driverCtx)
    (hallocated : s'.allocated = s.allocated) (hfreed : s'.freed = s.freed)
    (hhandler : s'.handler = s.handler) (hfrom : s.control ≠ .clear)
    (hcleared : s'.control = .register ∨ s'.control = .malloc → s.driverCtx = none)
    (hgone : s'.control = .clear → s.driverCtx = none)
    (hunregistered : s'.control = .free ∨ s'.control = .clear → s'.registered = false) :
    Contexts s' where
  cleared := by rw [hctx]; exact hcleared
  numbered := by rw [hctx, hallocated]; exact h.numbered
  live := by rw [hctx, hfreed]; exact fun _ => h.live hfrom
  gone := by
    intro hclear o hsome
    rw [hctx, hgone hclear] at hsome
    cases hsome
  unregistered := hunregistered
  fresh := by rw [hallocated, hfreed]; exact h.fresh
  others := by rw [hctx, hallocated, hfreed]; exact h.others
  held := by rw [hhandler, hallocated]; exact h.held

/-- A context is allocated when there is none. -/
theorem Contexts.mallocs {s : State T} (h : Contexts s) (hcontrol : s.control = .malloc)
    (value : Nat) :
    Contexts { s with
      driverCtx := some s.allocated
      allocated := s.allocated + 1
      rxCB := Function.update s.rxCB s.allocated (.left value)
      control := .setRxCB } where
  cleared := fun hnot => by rcases hnot with hnot | hnot <;> cases hnot
  numbered := by
    intro o hsome
    cases hsome
    exact Nat.lt_succ_self _
  live := by
    intro _ o hsome
    cases hsome
    exact h.fresh _ (Nat.le_refl _)
  gone := fun hnot => by cases hnot
  unregistered := fun hnot => by rcases hnot with hnot | hnot <;> cases hnot
  fresh := fun o hle => h.fresh o (Nat.le_of_succ_le hle)
  others := by
    intro o hlt hne
    have hold : o ≠ s.allocated := fun heq => hne (by rw [heq])
    have hnone := h.cleared (.inr hcontrol)
    refine h.others o (Nat.lt_of_le_of_ne (Nat.le_of_lt_succ hlt) hold) ?_
    rw [hnone]
    exact nofun
  held := fun t o hsome => Nat.lt_succ_of_lt (h.held t o hsome)

/-- `free(driverCtx)`. -/
theorem Contexts.frees {s : State T} (h : Contexts s) (hcontrol : s.control = .free)
    {o : Context} (hctx : s.driverCtx = some o) :
    Contexts { s with freed := Function.update s.freed o true, control := .clear } where
  cleared := fun hnot => by rcases hnot with hnot | hnot <;> cases hnot
  numbered := h.numbered
  live := fun hnot => absurd rfl hnot
  gone := by
    intro _ o' hsome
    rw [show s.driverCtx = some o' from hsome] at hctx
    cases hctx
    exact Function.update_self _ _ _
  unregistered := fun _ => h.unregistered (.inl hcontrol)
  fresh := by
    intro o' hle
    have hlt := h.numbered o hctx
    have hne : o' ≠ o := by
      rintro rfl
      exact absurd hle (Nat.not_le_of_lt hlt)
    show Function.update s.freed o true o' = false
    rw [Function.update_of_ne hne]
    exact h.fresh o' hle
  others := by
    intro o' hlt hne
    show Function.update s.freed o true o' = true
    by_cases heq : o' = o
    · rw [heq, Function.update_self]
    · rw [Function.update_of_ne heq]
      exact h.others o' hlt hne
  held := h.held

/-- `driverCtx = 0`, behind `free`. -/
theorem Contexts.clears {s : State T} (h : Contexts s) (hcontrol : s.control = .clear) :
    Contexts { s with driverCtx := none, control := .setClosed } where
  cleared := fun _ => rfl
  numbered := fun _ hsome => by cases hsome
  live := fun _ _ hsome => by cases hsome
  gone := fun _ _ hsome => by cases hsome
  unregistered := fun hnot => by rcases hnot with hnot | hnot <;> cases hnot
  fresh := h.fresh
  others := by
    intro o hlt _
    by_cases hctx : s.driverCtx = some o
    · exact h.gone hcontrol o hctx
    · exact h.others o hlt hctx
  held := h.held

/-- A statement behind which nothing about the contexts depends on the next one. -/
theorem Contexts.passes {s s' : State T} (h : Contexts s) (hctx : s'.driverCtx = s.driverCtx)
    (hallocated : s'.allocated = s.allocated) (hfreed : s'.freed = s.freed)
    (hhandler : s'.handler = s.handler) (hfrom : s.control ≠ .clear)
    (hregister : s'.control ≠ .register) (hmalloc : s'.control ≠ .malloc)
    (hfree : s'.control ≠ .free) (hclear : s'.control ≠ .clear) : Contexts s' := by
  refine h.quiet hctx hallocated hfreed hhandler hfrom ?_ ?_ ?_
  · intro hto
    exact (hto.elim hregister hmalloc).elim
  · intro hto
    exact (hclear hto).elim
  · intro hto
    exact (hto.elim hfree hclear).elim

/-- A store behind the pointer, or the fault of storing behind none. -/
theorem Contexts.stores {s : State T} (h : Contexts s) {store : Context → State T}
    (hregister : s.control ≠ .register) (hmalloc : s.control ≠ .malloc)
    (hfree : s.control ≠ .free) (hclear : s.control ≠ .clear)
    (hstore : ∀ o, Contexts (store o)) : Contexts (storeStep s store) := by
  unfold storeStep
  split
  · exact h.passes rfl rfl rfl rfl hclear hregister hmalloc hfree hclear
  · exact hstore _

theorem controlStep_contexts {s : State T} (h : Contexts s) (memory : Option Nat) :
    Contexts (controlStep s memory) := by
  cases hcontrol : s.control with
  | idle =>
      simp only [controlStep, hcontrol]
      exact h
  | openStatus =>
      simp only [controlStep, hcontrol]
      split <;> exact h.passes rfl rfl rfl rfl (by simp [hcontrol]) nofun nofun nofun nofun
  | openTest =>
      simp only [controlStep, hcontrol]
      split
      · next hnone =>
        exact h.quiet rfl rfl rfl rfl (by simp [hcontrol])
          (fun _ => Option.isNone_iff_eq_none.mp hnone) nofun (fun hto => by simp at hto)
      · exact h.passes rfl rfl rfl rfl (by simp [hcontrol]) nofun nofun nofun nofun
  | register =>
      have hnone := h.cleared (.inl hcontrol)
      simp only [controlStep, hcontrol]
      exact h.quiet rfl rfl rfl rfl (by simp [hcontrol]) (fun _ => hnone) nofun
        (fun hto => by simp at hto)
  | malloc =>
      simp only [controlStep, hcontrol]
      cases memory with
      | none =>
          have hsame : ({ s with driverCtx := none, control := .setRxCB } : State T) =
              { s with control := .setRxCB } := by
            rw [← h.cleared (.inr hcontrol)]
          rw [hsame]
          exact h.passes rfl rfl rfl rfl (by simp [hcontrol]) nofun nofun nofun nofun
      | some value => exact h.mallocs hcontrol value
  | setRxCB | setRxCBdata | setTxCB | setTxCBdata =>
      simp only [controlStep, hcontrol]
      refine h.stores (by simp [hcontrol]) (by simp [hcontrol]) (by simp [hcontrol])
        (by simp [hcontrol]) fun o => ?_
      exact h.passes rfl rfl rfl rfl (by simp [hcontrol]) nofun nofun nofun nofun
  | closeStatus =>
      simp only [controlStep, hcontrol]
      split <;> exact h.passes rfl rfl rfl rfl (by simp [hcontrol]) nofun nofun nofun nofun
  | closeTest =>
      simp only [controlStep, hcontrol]
      split <;> exact h.passes rfl rfl rfl rfl (by simp [hcontrol]) nofun nofun nofun nofun
  | setOpened | setClosing | setClosed =>
      simp only [controlStep, hcontrol]
      exact h.passes rfl rfl rfl rfl (by simp [hcontrol]) nofun nofun nofun nofun
  | unregister =>
      simp only [controlStep, hcontrol]
      exact h.quiet rfl rfl rfl rfl (by simp [hcontrol]) (fun hto => by simp at hto) nofun
        (fun _ => rfl)
  | free =>
      have hunregistered := h.unregistered (.inl hcontrol)
      simp only [controlStep, hcontrol]
      split
      · next hnone =>
        exact h.quiet rfl rfl rfl rfl (by simp [hcontrol]) (fun hto => by simp at hto)
          (fun _ => hnone) (fun _ => hunregistered)
      · next o hctx => exact h.frees hcontrol hctx
  | clear =>
      simp only [controlStep, hcontrol]
      exact h.clears hcontrol

/-- Between two calls nothing changes but the statement. -/
theorem Contexts.begins {s : State T} (h : Contexts s) (hidle : s.control = .idle)
    {control : Control} (hbegins : control = .openStatus ∨ control = .closeStatus) :
    Contexts { s with control := control } := by
  rcases hbegins with rfl | rfl <;>
    exact h.quiet rfl rfl rfl rfl (by simp [hidle]) (fun hto => by simp at hto) nofun
      (fun hto => by simp at hto)

section Contexts

variable [DecidableEq T]

omit [DecidableEq T] in
theorem Contexts.faults {s : State T} (h : Contexts s) (fault : Option Fault) :
    Contexts { s with fault := fault } :=
  ⟨h.cleared, h.numbered, h.live, h.gone, h.unregistered, h.fresh, h.others, h.held⟩

theorem Contexts.goes {s : State T} (h : Contexts s) (t : T) {place : Handler}
    (hpointer : ∀ o, place.pointer = some o → o < s.allocated) : Contexts (s.goes t place) := by
  refine ⟨h.cleared, h.numbered, h.live, h.gone, h.unregistered, h.fresh, h.others, ?_⟩
  intro u o hsome
  show o < s.allocated
  by_cases hu : u = t
  · rw [hu] at hsome
    exact hpointer o (by simpa [State.goes] using hsome)
  · exact h.held u o (by simpa [State.goes, hu] using hsome)

theorem Contexts.reads {s : State T} (h : Contexts s) (t : T) (driverCtx : Option Context)
    {place : Context → Handler} (hnone : ∀ o, (place o).pointer = none) :
    Contexts (s.reads t driverCtx place) := by
  unfold State.reads
  split
  · exact h.faults _
  · split
    · exact h.faults _
    · refine h.goes t ?_
      intro o hsome
      rw [hnone] at hsome
      cases hsome

/-- What a thread has in its hands next it has already, or it has just loaded it. -/
theorem handlerStep_contexts {s s' : State T} {t : T} (h : Contexts s)
    (hstep : handlerStep s t = some s') : Contexts s' := by
  unfold handlerStep at hstep
  cases hplace : s.handler t with
  | out =>
      simp only [hplace] at hstep
      split at hstep
      · cases hstep
        exact h.goes t nofun
      · cases hstep
  | loadTest | loadCall | loadData rxCB =>
      simp only [hplace, Option.some.injEq] at hstep
      subst hstep
      exact h.goes t h.numbered
  | test driverCtx =>
      simp only [hplace, Option.some.injEq] at hstep
      subst hstep
      refine h.reads t _ fun o => ?_
      split <;> rfl
  | readRxCB driverCtx | readRxCBdata rxCB driverCtx =>
      simp only [hplace, Option.some.injEq] at hstep
      subst hstep
      exact h.reads t _ fun o => rfl
  | call rxCB =>
      simp only [hplace] at hstep
      split at hstep
      · cases hstep
        exact h.goes t nofun
      · cases hstep
        exact h.faults _

theorem step_contexts {s s' : State T} {a : Action T} (h : Contexts s)
    (hstep : step s a = some s') : Contexts s' := by
  obtain ⟨control, hbegins, hidle, -, rfl⟩ | ⟨memory, -, rfl⟩ | ⟨t, -, ht⟩ := step_cases hstep
  · exact h.begins hidle hbegins
  · exact controlStep_contexts h memory
  · exact handlerStep_contexts h ht

theorem reachable_contexts {ok : State T → Action T → Prop} {s : State T}
    (h : (system T).Reachable ok s) : Contexts s := by
  refine h.invariant ?_ ?_
  · rintro s rfl
    exact new_contexts
  · intro s a s' _ hs _ hstep
    exact step_contexts hs hstep

end Contexts

/-! ## Events in order -/

/-- The field `rxCB` of the context that `driverCtx` points to, if it is not freed. -/
def State.current (s : State T) : Option Field :=
  s.driverCtx.bind fun o => if s.freed o then none else some (s.rxCB o)

/-- The thread reads no context any more. -/
def Handler.done : Handler → Bool
  | .out | .call _ => true
  | _ => false

/-- The field is stored, or it turns the event away. -/
def Safe (current : Option Field) : Prop := current = some .set ∨ current = some (.left 0)

/-- An event is delivered only while there is a context that `HdmiCecSetRxCallback` has
stored its callback in, or that `malloc` has left a null in; `free(driverCtx)` is executed
only when no thread reads a context any more. -/
def Orderly (s : State T) : Action T → Prop
  | .handler t => s.handler t = .out → Safe s.current
  | .control _ => s.control = .free → ∀ t, (s.handler t).done = true
  | _ => True

/-- What a thread may hold on to beside the context of the session. -/
def Fits (driverCtx : Option Context) (current : Option Field) : Handler → Prop
  | .out => True
  | .loadTest => Safe current
  | .test loaded => loaded = driverCtx ∧ Safe current
  | .loadCall => current = some .set
  | .readRxCB loaded => loaded = driverCtx ∧ current = some .set
  | .loadData rxCB => rxCB = .set ∧ current = some .set
  | .readRxCBdata rxCB loaded => loaded = driverCtx ∧ rxCB = .set ∧ current = some .set
  | .call rxCB => rxCB = .set

/-- The claim about the handler: it has come to no fault. -/
def NoFault (s : State T) : Prop :=
  s.fault ≠ some .handlerPointer ∧ s.fault ≠ some .unsetCallback

structure Inv (s : State T) : Prop where
  fits : ∀ t, Fits s.driverCtx s.current (s.handler t)
  noFault : NoFault s

theorem new_inv : Inv (new T) := ⟨fun _ => trivial, nofun, nofun⟩

theorem current_eq_some {s : State T} {field : Field} (h : s.current = some field) :
    ∃ o, s.driverCtx = some o ∧ s.freed o = false ∧ s.rxCB o = field := by
  obtain ⟨o, hctx, hfield⟩ := Option.bind_eq_some_iff.mp h
  split at hfield
  · cases hfield
  · next hlive =>
    cases hfield
    exact ⟨o, hctx, by simpa using hlive, rfl⟩

theorem current_eq_none_iff {s : State T} :
    s.current = none ↔ ∀ o, s.driverCtx = some o → s.freed o = true := by
  rw [State.current, Option.bind_eq_none_iff]
  constructor
  · intro h o hctx
    have hnone := h o hctx
    split at hnone
    · next hfreed => exact hfreed
    · cases hnone
  · intro h o hctx
    exact if_pos (h o hctx)

/-- A thread that reads no context any more fits any. -/
theorem Fits.done {driverCtx driverCtx' : Option Context} {current current' : Option Field}
    {place : Handler} (h : Fits driverCtx current place) (hdone : place.done = true) :
    Fits driverCtx' current' place := by
  cases place with
  | out => trivial
  | call rxCB => exact h
  | loadTest | test | loadCall | readRxCB | loadData | readRxCBdata => cases hdone

/-- Without a context, no thread reads one. -/
theorem Fits.done_of_none {driverCtx : Option Context} {place : Handler}
    (h : Fits driverCtx none place) : place.done = true := by
  cases place with
  | out | call => rfl
  | loadTest => rcases h with h | h <;> cases h
  | test => rcases h.2 with h | h <;> cases h
  | loadCall => cases h
  | readRxCB | loadData => cases h.2
  | readRxCBdata => cases h.2.2

/-- `HdmiCecSetRxCallback` stores its callback. -/
theorem Fits.sets {driverCtx : Option Context} {field : Field} {place : Handler}
    (h : Fits driverCtx (some field) place) : Fits driverCtx (some .set) place := by
  cases place with
  | out => trivial
  | loadTest => exact .inl rfl
  | test => exact ⟨h.1, .inl rfl⟩
  | loadCall => rfl
  | readRxCB | loadData => exact ⟨h.1, rfl⟩
  | readRxCBdata => exact ⟨h.1, h.2.1, rfl⟩
  | call => exact h

/-- A statement that leaves the context of the session alone. -/
theorem Inv.quiet {s s' : State T} (h : Inv s) (hctx : s'.driverCtx = s.driverCtx)
    (hrxCB : s'.rxCB = s.rxCB) (hfreed : s'.freed = s.freed) (hhandler : s'.handler = s.handler)
    (hfault : s'.fault = s.fault ∨ s'.fault = some .setter) : Inv s' where
  fits := by
    have hcurrent : s'.current = s.current := by
      rw [State.current, State.current, hctx, hrxCB, hfreed]
    rw [hctx, hcurrent, hhandler]
    exact h.fits
  noFault := by
    rcases hfault with hfault | hfault
    · rw [NoFault, hfault]
      exact h.noFault
    · rw [NoFault, hfault]
      exact ⟨nofun, nofun⟩

theorem Inv.done_of_no_current {s : State T} (h : Inv s) (hcurrent : s.current = none) (t : T) :
    (s.handler t).done = true := by
  have hfits := h.fits t
  rw [hcurrent] at hfits
  exact hfits.done_of_none

/-- A statement before which, or behind which, no thread reads a context. -/
theorem Inv.alone {s s' : State T} (h : Inv s) (hdone : ∀ t, (s.handler t).done = true)
    (hhandler : s'.handler = s.handler) (hfault : s'.fault = s.fault) : Inv s' where
  fits := by
    rw [hhandler]
    exact fun t => (h.fits t).done (hdone t)
  noFault := by
    rw [NoFault, hfault]
    exact h.noFault

theorem Inv.stores {s : State T} (h : Inv s) {store : Context → State T}
    (hstore : ∀ o, s.driverCtx = some o → Inv (store o)) : Inv (storeStep s store) := by
  unfold storeStep
  split
  · exact h.quiet rfl rfl rfl rfl (.inr rfl)
  · next o hctx => exact hstore o hctx

theorem Inv.setsRxCB {s : State T} (h : Inv s) {o : Context} (hctx : s.driverCtx = some o) :
    Inv { s with rxCB := Function.update s.rxCB o .set, control := .setRxCBdata } where
  fits := by
    intro t
    show Fits s.driverCtx
      (s.driverCtx.bind fun o' =>
        if s.freed o' then none else some (Function.update s.rxCB o .set o')) (s.handler t)
    have hfits := h.fits t
    rw [State.current] at hfits
    rw [hctx] at hfits ⊢
    simp only [Option.bind_some, Function.update_self] at hfits ⊢
    split at hfits
    · next hfreed =>
      rw [if_pos hfreed]
      exact hfits
    · next hlive =>
      rw [if_neg hlive]
      exact hfits.sets
  noFault := h.noFault

theorem controlStep_inv {s : State T} (hcontexts : Contexts s) (h : Inv s) {memory : Option Nat}
    (hok : Orderly s (.control memory)) : Inv (controlStep s memory) := by
  cases hcontrol : s.control with
  | malloc =>
      have hcleared := hcontexts.cleared (.inr hcontrol)
      have hdone := h.done_of_no_current (by rw [State.current, hcleared]; rfl)
      simp only [controlStep, hcontrol]
      cases memory with
      | none => exact h.alone hdone rfl rfl
      | some value => exact h.alone hdone rfl rfl
  | setRxCB =>
      simp only [controlStep, hcontrol]
      exact h.stores fun o hctx => h.setsRxCB hctx
  | setRxCBdata | setTxCB | setTxCBdata =>
      simp only [controlStep, hcontrol]
      exact h.stores fun o _ => h.quiet rfl rfl rfl rfl (.inl rfl)
  | free =>
      have hdone := hok hcontrol
      simp only [controlStep, hcontrol]
      split
      · exact h.quiet rfl rfl rfl rfl (.inl rfl)
      · exact h.alone hdone rfl rfl
  | clear =>
      have hcurrent := current_eq_none_iff.mpr (hcontexts.gone hcontrol)
      simp only [controlStep, hcontrol]
      exact h.alone (h.done_of_no_current hcurrent) rfl rfl
  | openStatus | openTest | closeStatus | closeTest =>
      simp only [controlStep, hcontrol]
      exact h.quiet rfl rfl rfl rfl (.inl rfl)
  | idle | register | setOpened | setClosing | unregister | setClosed =>
      simp only [controlStep, hcontrol]
      exact h.quiet rfl rfl rfl rfl (.inl rfl)

section Runs

variable [DecidableEq T]

theorem Inv.goes {s : State T} (h : Inv s) (t : T) {place : Handler}
    (hfits : Fits s.driverCtx s.current place) : Inv (s.goes t place) where
  fits := by
    intro u
    show Fits s.driverCtx s.current (Function.update s.handler t place u)
    by_cases hu : u = t
    · rw [hu, Function.update_self]
      exact hfits
    · rw [Function.update_of_ne hu]
      exact h.fits u
  noFault := h.noFault

/-- A thread that has loaded the context of the session reads a field of it. -/
theorem Inv.reads {s : State T} (h : Inv s) (t : T) {loaded : Option Context} {field : Field}
    {place : Context → Handler} (hloaded : loaded = s.driverCtx) (hfield : s.current = some field)
    (hfits : ∀ o, s.rxCB o = field → Fits s.driverCtx (some field) (place o)) :
    Inv (s.reads t loaded place) := by
  obtain ⟨o, hctx, hlive, hrxCB⟩ := current_eq_some hfield
  simp only [State.reads, hloaded, hctx, hlive, Bool.false_eq_true, if_false]
  refine h.goes t ?_
  rw [hfield]
  exact hfits o hrxCB

theorem handlerStep_inv {s s' : State T} {t : T} (h : Inv s) (hok : Orderly s (.handler t))
    (hstep : handlerStep s t = some s') : Inv s' := by
  have hfits := h.fits t
  unfold handlerStep at hstep
  cases hplace : s.handler t with
  | out =>
      simp only [hplace] at hstep
      split at hstep
      · cases hstep
        exact h.goes t (hok hplace)
      · cases hstep
  | loadTest =>
      rw [hplace] at hfits
      simp only [hplace, Option.some.injEq] at hstep
      subst hstep
      exact h.goes t ⟨rfl, hfits⟩
  | test loaded =>
      rw [hplace] at hfits
      simp only [hplace, Option.some.injEq] at hstep
      subst hstep
      rcases hfits with ⟨hloaded, hset | hnull⟩
      · refine h.reads t hloaded hset fun o hfield => ?_
        rw [hfield]
        rfl
      · -- `malloc` has left a null: the event is dropped
        refine h.reads t hloaded hnull fun o hfield => ?_
        rw [hfield]
        trivial
  | loadCall =>
      rw [hplace] at hfits
      simp only [hplace, Option.some.injEq] at hstep
      subst hstep
      exact h.goes t ⟨rfl, hfits⟩
  | readRxCB loaded =>
      rw [hplace] at hfits
      simp only [hplace, Option.some.injEq] at hstep
      subst hstep
      exact h.reads t hfits.1 hfits.2 fun o hfield => ⟨hfield, rfl⟩
  | loadData rxCB =>
      rw [hplace] at hfits
      simp only [hplace, Option.some.injEq] at hstep
      subst hstep
      exact h.goes t ⟨rfl, hfits⟩
  | readRxCBdata rxCB loaded =>
      rw [hplace] at hfits
      simp only [hplace, Option.some.injEq] at hstep
      subst hstep
      exact h.reads t hfits.1 hfits.2.2 fun o _ => hfits.2.1
  | call rxCB =>
      rw [hplace] at hfits
      have hset : rxCB = .set := hfits
      simp only [hplace, if_pos hset, Option.some.injEq] at hstep
      subst hstep
      exact h.goes t trivial

/-- The handler changes nothing but its own place. -/
theorem handlerStep_frame {s s' : State T} {t : T}
    (hstep : handlerStep s t = some s') :
    s'.status = s.status ∧ s'.control = s.control ∧ s'.registered = s.registered ∧
      s'.current = s.current := by
  have hreads : ∀ driverCtx (place : Context → Handler),
      (s.reads t driverCtx place).status = s.status ∧
        (s.reads t driverCtx place).control = s.control ∧
        (s.reads t driverCtx place).registered = s.registered ∧
        (s.reads t driverCtx place).current = s.current := by
    intro driverCtx place
    unfold State.reads
    split
    · exact ⟨rfl, rfl, rfl, rfl⟩
    · split <;> exact ⟨rfl, rfl, rfl, rfl⟩
  unfold handlerStep at hstep
  split at hstep
  · split at hstep
    · cases hstep
      exact ⟨rfl, rfl, rfl, rfl⟩
    · cases hstep
  · cases hstep
    exact ⟨rfl, rfl, rfl, rfl⟩
  · cases hstep
    exact hreads _ _
  · cases hstep
    exact ⟨rfl, rfl, rfl, rfl⟩
  · cases hstep
    exact hreads _ _
  · cases hstep
    exact ⟨rfl, rfl, rfl, rfl⟩
  · cases hstep
    exact hreads _ _
  · split at hstep <;> cases hstep <;> exact ⟨rfl, rfl, rfl, rfl⟩

/-- The handler comes to no other faults. -/
theorem handlerStep_fault {s s' : State T} {t : T} (hstep : handlerStep s t = some s')
    (hnone : NoFault s') : s'.fault = s.fault := by
  have hreads : ∀ driverCtx (place : Context → Handler), NoFault (s.reads t driverCtx place) →
      (s.reads t driverCtx place).fault = s.fault := by
    intro driverCtx place hreads
    unfold State.reads at hreads ⊢
    split
    · exact absurd rfl hreads.1
    · split
      · next hfreed =>
        simp only [hfreed, if_true] at hreads
        exact absurd rfl hreads.1
      · rfl
  unfold handlerStep at hstep
  split at hstep
  · split at hstep
    · cases hstep
      rfl
    · cases hstep
  · cases hstep
    rfl
  · cases hstep
    exact hreads _ _ hnone
  · cases hstep
    rfl
  · cases hstep
    exact hreads _ _ hnone
  · cases hstep
    rfl
  · cases hstep
    exact hreads _ _ hnone
  · split at hstep
    · cases hstep
      rfl
    · cases hstep
      exact absurd rfl hnone.2

theorem step_inv {s s' : State T} {a : Action T} (hcontexts : Contexts s) (h : Inv s)
    (hok : Orderly s a) (hstep : step s a = some s') : Inv s' := by
  obtain ⟨control, -, -, -, rfl⟩ | ⟨memory, rfl, rfl⟩ | ⟨t, rfl, ht⟩ := step_cases hstep
  · exact h.quiet rfl rfl rfl rfl (.inl rfl)
  · exact controlStep_inv hcontexts h hok
  · exact handlerStep_inv h hok ht

/-- In every run whose events and calls of `free` are in order, the handler reads no field
of a null or freed context and calls nothing but what `HdmiCecSetRxCallback` has stored in
the context of the session. -/
theorem handler_no_fault {s : State T} (h : (system T).Reachable Orderly s) :
    s.fault ≠ some .handlerPointer ∧ s.fault ≠ some .unsetCallback := by
  have hinv : Inv s := by
    refine h.invariant ?_ ?_
    · rintro s rfl
      exact new_inv
    · intro s a s' hreach hs hok hstep
      exact step_inv (reachable_contexts hreach) hs hok hstep
  exact hinv.noFault

/-! ### Out of order -/

theorem leads_handlerStep {s s' : State T} (hfault : s.fault = none) {t : T}
    (hstep : handlerStep s t = some s') : (system T).Leads StepSystem.unguarded s s' := by
  have hnext : (system T).step s (.handler t) = some s' := by
    show step s (.handler t) = some s'
    rw [step, hfault]
    exact hstep
  exact StepSystem.Leads.single trivial hnext

/-- A thread that reads a field behind a null or dangling pointer. -/
theorem leads_reads {s : State T} (hfault : s.fault = none) {t : T} {loaded : Option Context}
    {place : Context → Handler} (hstep : handlerStep s t = some (s.reads t loaded place))
    (hfreed : ∀ o, loaded = some o → s.freed o = true) :
    ∃ s', (system T).Leads StepSystem.unguarded s s' ∧ s'.fault = some .handlerPointer := by
  refine ⟨_, leads_handlerStep hfault hstep, ?_⟩
  cases loaded with
  | none => rfl
  | some o => simp only [State.reads, hfreed o rfl, if_true]

/-- A thread that has to read a context, and finds none but freed ones, comes to a fault. -/
theorem leads_handlerPointer {s : State T} (hfault : s.fault = none) {t : T}
    (hbusy : (s.handler t).done = false) (hctx : ∀ o, s.driverCtx = some o → s.freed o = true)
    (hpointer : ∀ o, (s.handler t).pointer = some o → s.freed o = true) :
    ∃ s', (system T).Leads StepSystem.unguarded s s' ∧ s'.fault = some .handlerPointer := by
  -- the pointer that is loaded in one step is read in the next one
  have hloads : ∀ place : Handler, handlerStep s t = some (s.goes t place) →
      (∃ place', handlerStep (s.goes t place) t =
        some ((s.goes t place).reads t s.driverCtx place')) →
      ∃ s', (system T).Leads StepSystem.unguarded s s' ∧ s'.fault = some .handlerPointer := by
    rintro place hstep ⟨place', hread⟩
    have hnone : (s.goes t place).fault = none := hfault
    obtain ⟨s', hlead, hpoints⟩ := leads_reads hnone hread hctx
    exact ⟨s', (leads_handlerStep hfault hstep).trans hlead, hpoints⟩
  cases hplace : s.handler t with
  | out | call => rw [hplace] at hbusy; cases hbusy
  | test loaded =>
      rw [hplace] at hpointer
      refine @leads_reads _ _ s hfault t loaded
        (fun o => if (s.rxCB o).nonNull then .loadCall else .out) ?_ hpointer
      rw [handlerStep, hplace]
  | readRxCB loaded =>
      rw [hplace] at hpointer
      refine @leads_reads _ _ s hfault t loaded (fun o => .loadData (s.rxCB o)) ?_ hpointer
      rw [handlerStep, hplace]
  | readRxCBdata rxCB loaded =>
      rw [hplace] at hpointer
      refine @leads_reads _ _ s hfault t loaded (fun _ => .call rxCB) ?_ hpointer
      rw [handlerStep, hplace]
  | loadTest =>
      refine hloads (.test s.driverCtx) (by rw [handlerStep, hplace]) ?_
      rw [handlerStep, State.goes_handler]
      exact ⟨_, rfl⟩
  | loadCall =>
      refine hloads (.readRxCB s.driverCtx) (by rw [handlerStep, hplace]) ?_
      rw [handlerStep, State.goes_handler]
      exact ⟨_, rfl⟩
  | loadData rxCB =>
      refine hloads (.readRxCBdata rxCB s.driverCtx) (by rw [handlerStep, hplace]) ?_
      rw [handlerStep, State.goes_handler]
      exact ⟨_, rfl⟩

/-- An event that meets a field with something else in it calls that. -/
theorem leads_unsetCallback {s : State T} (hfault : s.fault = none) {t : T}
    (hplace : s.handler t = .loadTest) {value : Nat} (hvalue : value ≠ 0)
    (hcurrent : s.current = some (.left value)) :
    ∃ s', (system T).Leads StepSystem.unguarded s s' ∧ s'.fault = some .unsetCallback := by
  obtain ⟨o, hctx, hlive, hrxCB⟩ := current_eq_some hcurrent
  have hrun : ∃ s', (system T).run StepSystem.unguarded s (List.replicate 7 (.handler t)) =
      some s' ∧ s'.fault = some .unsetCallback := by
    simp [StepSystem.run, List.replicate, system, step, handlerStep, State.goes, State.reads,
      StepSystem.unguarded, Field.nonNull, hfault, hplace, hctx, hlive, hrxCB, hvalue]
  obtain ⟨s', hrun, hunset⟩ := hrun
  exact ⟨s', StepSystem.leads_of_run hrun, hunset⟩

/-- `free(driverCtx)` while a thread still has to read a context. -/
theorem early_free_faults {s : State T} (hcontexts : Contexts s) (hfault : s.fault = none)
    (hcontrol : s.control = .free) {t : T} (hbusy : (s.handler t).done = false)
    (memory : Option Nat) :
    ∃ s', (system T).Leads StepSystem.unguarded (controlStep s memory) s' ∧
      s'.fault = some .handlerPointer := by
  have hafter := controlStep_contexts hcontexts memory
  have hclear : (controlStep s memory).control = .clear := by
    simp only [controlStep, hcontrol]
    split <;> rfl
  have hhandler := controlStep_handler s memory
  have hnone : (controlStep s memory).fault = none := by
    simp only [controlStep, hcontrol]
    split <;> exact hfault
  have hgone := hafter.gone hclear
  rw [← hhandler] at hbusy
  refine leads_handlerPointer hnone hbusy hgone ?_
  intro o hsome
  by_cases hctx : (controlStep s memory).driverCtx = some o
  · exact hgone o hctx
  · exact hafter.others o (hafter.held t o hsome) hctx

/-- An event that is delivered while its thread has no stored callback to find. -/
theorem early_event_faults {s : State T} (hfault : s.fault = none) (t : T)
    (hnotSafe : ¬ Safe s.current) :
    ∃ s', (system T).Leads StepSystem.unguarded (s.goes t .loadTest) s' ∧ ¬ NoFault s' := by
  have hbegun := s.goes_handler t .loadTest
  have hnone : (s.goes t .loadTest).fault = none := hfault
  cases hcurrent : s.current with
  | some field =>
      cases field with
      | set => exact absurd (.inl hcurrent) hnotSafe
      | left value =>
          have hvalue : value ≠ 0 := by
            rintro rfl
            exact hnotSafe (.inr hcurrent)
          obtain ⟨s', hlead, hunset⟩ := leads_unsetCallback hnone hbegun hvalue hcurrent
          exact ⟨s', hlead, fun hno => hno.2 hunset⟩
  | none =>
      have hbusy : ((s.goes t .loadTest).handler t).done = false := by
        rw [hbegun]
        rfl
      have hgone := current_eq_none_iff.mp hcurrent
      obtain ⟨s', hlead, hpoints⟩ :=
        leads_handlerPointer hnone hbusy hgone (by rw [hbegun]; exact nofun)
      exact ⟨s', hlead, fun hno => hno.1 hpoints⟩

/-- Behind a step that is out of order, the thread that delivers the event, or the one that
the `free` has not waited for, comes to a fault if it goes on at once. -/
theorem disorder_faults {s s' : State T} {a : Action T}
    (h : (system T).Reachable StepSystem.unguarded s) (hnot : ¬ Orderly s a)
    (hstep : step s a = some s') :
    ∃ s'', (system T).Leads StepSystem.unguarded s' s'' ∧ ¬ NoFault s'' := by
  have hfault : s.fault = none := by
    cases hsome : s.fault with
    | none => rfl
    | some fault => simp [step, hsome] at hstep
  obtain ⟨control, -, -, rfl | rfl, -⟩ | ⟨memory, rfl, rfl⟩ | ⟨t, rfl, ht⟩ := step_cases hstep
  · exact absurd trivial hnot
  · exact absurd trivial hnot
  · obtain ⟨hcontrol, hall⟩ := Classical.not_imp.mp hnot
    obtain ⟨t, hbusy⟩ := Classical.not_forall.mp hall
    obtain ⟨s'', hlead, hpoints⟩ := early_free_faults (reachable_contexts h) hfault hcontrol
      (Bool.eq_false_iff.mpr hbusy) memory
    exact ⟨s'', hlead, fun hno => hno.1 hpoints⟩
  · obtain ⟨hplace, hnotSafe⟩ := Classical.not_imp.mp hnot
    simp only [handlerStep, hplace] at ht
    split at ht
    · cases ht
      exact early_event_faults hfault t hnotSafe
    · cases ht

end Runs

instance (current : Option Field) : Decidable (Safe current) :=
  inferInstanceAs (Decidable (_ ∨ _))

instance (s : State Bool) (a : Action Bool) : Decidable (Orderly s a) :=
  match a with
  | .driverOpen | .driverClose => .isTrue trivial
  | .control _ => inferInstanceAs (Decidable
      (s.control = .free → ∀ t : Bool, (s.handler t).done = true))
  | .handler t => inferInstanceAs (Decidable (s.handler t = .out → Safe s.current))

/-- A call of `open` that has come to its `n`-th statement; `malloc` gives a block that
holds `value`. -/
def opens (value n : Nat) : List (Action Bool) :=
  .driverOpen :: List.replicate n (.control (some value))

/-- A call of `close`, likewise. -/
def closes (n : Nat) : List (Action Bool) := .driverClose :: List.replicate n (.control none)

/-- The next `n` steps of a thread that delivers an event. -/
def delivers (t : Bool) (n : Nat) : List (Action Bool) := List.replicate n (.handler t)

/-- Two sessions with an event in each; the callback of the first one lasts until behind
the `free`. -/
theorem handler_no_fault_sessions :
    ∃ s : State Bool, (system Bool).Reachable Orderly s ∧ s.status = .opened ∧
      s.driverCtx = some 1 ∧ s.freed 0 = true ∧ s.handler false = .call .set ∧ s.handler true = .call .set ∧
      s.fault ≠ some .handlerPointer ∧ s.fault ≠ some .unsetCallback := by
  obtain ⟨s, hreach, hstatus, hctx, hfreed, hfirst, hsecond⟩ :=
    StepSystem.exists_reachable_of_run (system Bool) Orderly (new Bool)
      (opens 7 9 ++ delivers false 7 ++ closes 7 ++ opens 7 9 ++ delivers true 7)
      (fun s => s.status = .opened ∧ s.driverCtx = some 1 ∧ s.freed 0 = true ∧
        s.handler false = .call .set ∧ s.handler true = .call .set) rfl (by decide)
  exact ⟨s, hreach, hstatus, hctx, hfreed, hfirst, hsecond, handler_no_fault hreach⟩

/-- An event between the registration of the handler and the return of `malloc` makes the
handler read a field of a null context. -/
theorem not_handler_no_fault :
    ¬ ∀ s : State Bool, (system Bool).Reachable StepSystem.unguarded s →
      s.fault ≠ some .handlerPointer ∧ s.fault ≠ some .unsetCallback := by
  intro hall
  obtain ⟨s, hreach, hfault⟩ :=
    StepSystem.exists_reachable_of_run (system Bool) StepSystem.unguarded (new Bool)
      (opens 7 3 ++ delivers false 3) (fun s => s.fault = some .handlerPointer) rfl (by decide)
  exact (hall s hreach).1 hfault

end ReceiveHandler

end HdmiCec
