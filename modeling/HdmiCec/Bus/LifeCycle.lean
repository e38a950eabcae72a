import HdmiCec.Bus.Threads
import HdmiCec.Core.CECFrame

/-!
# The three flags of the life cycle

`LibCCEC::initialized`, `Bus::started` and `DriverImpl::status` are written one
after the other by `LibCCEC::init` and `LibCCEC::term`.  As long as no
`HdmiCecClose` fails they agree whenever no call is in progress.  A failing one
leaves `term` half done and breaks the agreement for good.
-/

universe u

namespace HdmiCec

namespace Bus

variable {F : Type u}

/-- The library is initialized if and only if the bus is started and the driver
is open. -/
def State.Consistent (s : State F) : Prop :=
  s.initialized = true ↔ s.started = true ∧ s.status = .opened

instance (s : State F) : Decidable s.Consistent :=
  inferInstanceAs (Decidable (_ ↔ _))

/-- The step from here calls `HdmiCecClose`. -/
def CtlPc.closes : CtlPc → Bool
  | .closeNative _ => true
  | _ => false

/-- No `HdmiCecClose` fails. -/
def ClosesSucceed (s : State F) : Action F → Prop
  | .ctl nativeOk => s.ctl.closes = true → nativeOk = true
  | _ => True

instance (s : State F) (a : Action F) : Decidable (ClosesSucceed s a) :=
  match a with
  | .ctl nativeOk => inferInstanceAs (Decidable (s.ctl.closes = true → nativeOk = true))
  | .init | .term | .reader _ | .readerWakes _ | .writer _ | .writerWakes _ | .receive _
  | .deliver _ | .sendAsync _ => inferInstanceAs (Decidable True)

/-- `initialized`, `started` and `status` while the controlling thread is at this
point and no `HdmiCecClose` has failed. -/
def CtlPc.flags : CtlPc → List (Bool × Bool × DriverStatus)
  | .idle | .initTest | .termTest => [(false, false, .closed), (true, true, .opened)]
  | .initOpen => [(false, false, .closed)]
  | .startLockR | .startLockW | .startReader | .startWriter | .startOpen | .startFlag =>
      [(false, false, .opened)]
  | .startUnlock | .initFlag => [(false, true, .opened)]
  | .stopLockR | .stopLockW | .stopFlag => [(true, true, .opened)]
  | .readerStopTest | .readerStopSet | .closeTest .readerStop => [(true, false, .opened)]
  | .closeOffer _ | .closeNative _ => [(true, false, .closing)]
  | .readerWait | .writerStopTest | .writerStopStarted | .writerStopSet | .writerStopOffer
  | .writerWait | .closeTest .busStop | .stopUnlock | .closeTest .term | .termFlag =>
      [(true, false, .closed)]

def State.flags (s : State F) : Bool × Bool × DriverStatus := (s.initialized, s.started, s.status)

/-- One case per program point; a `close` continues according to where it was
called. -/
theorem ctlStep_flags {s s' : State F} {nativeOk : Bool} (hflags : s.flags ∈ s.ctl.flags)
    (hok : ClosesSucceed s (.ctl nativeOk)) (h : ctlStep s nativeOk = some s') :
    s'.flags ∈ s'.ctl.flags := by
  unfold ctlStep at h
  cases hctl : s.ctl with
  | closeTest site =>
      cases site <;> simp only [hctl] at h hflags <;>
        grind [CtlPc.flags, State.flags, State.goto, CloseSite.next]
  | closeNative site =>
      cases site <;> simp only [hctl] at h hflags <;>
        grind [CtlPc.flags, State.flags, State.goto, CloseSite.next, ClosesSucceed, CtlPc.closes]
  | _ =>
      simp only [hctl] at h hflags
      grind [CtlPc.flags, State.flags, State.goto, State.unlockBus, driverOpen, startReader,
        startWriter]

theorem step_flags {s s' : State F} {a : Action F} (hflags : s.flags ∈ s.ctl.flags)
    (hok : ClosesSucceed s a) (h : step s a = some s') : s'.flags ∈ s'.ctl.flags := by
  obtain hsame | ⟨nativeOk, rfl⟩ | ⟨-, hidle, rfl⟩ | ⟨-, hidle, rfl⟩ := step_sameCtl h
  · rw [State.flags, hsame.initialized, hsame.started, hsame.status, hsame.ctl]
    exact hflags
  · exact ctlStep_flags hflags hok h
  · rw [hidle] at hflags
    exact hflags
  · rw [hidle] at hflags
    exact hflags

/-- In a run without a failing `HdmiCecClose` the flags are those of the program
point. -/
theorem reachable_flags {s : State F} (h : (system F).Reachable ClosesSucceed s) :
    s.flags ∈ s.ctl.flags := by
  refine h.invariant (I := fun s => s.flags ∈ s.ctl.flags) ?_ ?_
  · rintro s rfl
    exact List.mem_cons_self
  · intro s a s' _ hflags hok hstep
    exact step_flags hflags hok hstep

theorem CtlPc.eq_closeNative_of_closes {pc : CtlPc} (h : pc.closes = true) :
    ∃ site, pc = .closeNative site := by
  cases pc with
  | closeNative site => exact ⟨site, rfl⟩
  | _ => cases h

/-- A failing `HdmiCecClose` ends the call of `term` at once, with the bus no longer
started and the library still initialized. -/
theorem closeNative_fails {s s' : State F} {site : CloseSite}
    (hflags : s.flags ∈ s.ctl.flags) (hctl : s.ctl = .closeNative site)
    (h : ctlStep s false = some s') : s'.ctl = .idle ∧ ¬ s'.Consistent := by
  have hfalse : s.initialized = true ∧ s.started = false := by
    rw [hctl] at hflags
    simp only [CtlPc.flags, State.flags, List.mem_singleton, Prod.mk.injEq] at hflags
    exact ⟨hflags.1, hflags.2.1⟩
  simp only [ctlStep, hctl] at h
  cases h
  cases site <;>
    simp [CloseSite.throws, State.goto, State.unlockBus, State.Consistent, hfalse]

/-- Between the calls of a run without a failing `HdmiCecClose` the three flags
agree; and the first step of a run that breaks this condition ends its call in a
state where they do not. -/
theorem consistent_between_calls {s : State F} (h : (system F).Reachable ClosesSucceed s) :
    (s.ctl = .idle → s.Consistent) ∧
      ∀ a s', ¬ ClosesSucceed s a → step s a = some s' → s'.ctl = .idle ∧ ¬ s'.Consistent := by
  have hflags := reachable_flags h
  constructor
  · intro hidle
    rw [hidle] at hflags
    simp only [CtlPc.flags, State.flags, List.mem_cons, List.not_mem_nil, or_false,
      Prod.mk.injEq] at hflags
    obtain ⟨hinitialized, hstarted, hstatus⟩ | ⟨hinitialized, hstarted, hstatus⟩ := hflags
    · simp [State.Consistent, hinitialized, hstarted]
    · simp [State.Consistent, hinitialized, hstarted, hstatus]
  · intro a s' hfails hstep
    cases a with
    | ctl nativeOk =>
        simp only [ClosesSucceed, Classical.not_imp, Bool.not_eq_true] at hfails
        obtain ⟨hcloses, rfl⟩ := hfails
        obtain ⟨site, hctl⟩ := CtlPc.eq_closeNative_of_closes hcloses
        exact closeNative_fails hflags hctl hstep
    | _ => exact absurd trivial hfails

/-- A call of `init` in which every native call succeeds. -/
def initCall : List (Action F) := .init :: List.replicate 10 (.ctl true)

/-- A call of `term` up to the `HdmiCecClose` inside `Reader::stop`. -/
def termUntilClose : List (Action F) := .term :: List.replicate 8 (.ctl true)

/-- The next `n` steps of the reader that the constructor has created. -/
def readerSteps (n : Nat) : List (Action F) := List.replicate n (.reader 0)

/-- The next `n` statements of the call that is under way. -/
def ctlSteps (n : Nat) : List (Action F) := List.replicate n (.ctl true)

/-- After one `init` the library is initialized and consistent. -/
theorem consistent_between_calls_after_init :
    ∃ s : State CECFrame, (system CECFrame).Reachable ClosesSucceed s ∧ s.ctl = .idle ∧
      s.initialized = true ∧ s.Consistent := by
  obtain ⟨s, hreach, hidle, hinitialized⟩ :=
    StepSystem.exists_reachable_of_run (system CECFrame) ClosesSucceed (new CECFrame) initCall
      (fun s => s.ctl = .idle ∧ s.initialized = true) rfl (by decide)
  exact ⟨s, hreach, hidle, hinitialized, (consistent_between_calls hreach).1 hidle⟩

/-- The flags do not agree after every sequence of calls: `init`, and a `term` whose
`HdmiCecClose` fails. -/
theorem not_consistent_between_calls :
    ¬ ∀ s : State CECFrame, (system CECFrame).Reachable StepSystem.unguarded s →
      s.ctl = .idle → s.Consistent := by
  intro hall
  obtain ⟨s, hreach, hidle, hbroken⟩ :=
    StepSystem.exists_reachable_of_run (system CECFrame) StepSystem.unguarded (new CECFrame)
      (initCall ++ termUntilClose ++ [.ctl false])
      (fun s => s.ctl = .idle ∧ ¬ s.Consistent) rfl (by decide)
  exact hbroken (hall s hreach hidle)

end Bus

end HdmiCec
