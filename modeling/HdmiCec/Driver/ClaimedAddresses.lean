import HdmiCec.Driver.DriverImpl
import HdmiCec.Library.StepSystem

/-!
# The logical addresses of a session

`isValidLogicalAddress` looks an address up in a list that `addLogicalAddress` and
`removeLogicalAddress` keep while the driver is open.  `open` and `close` do not touch
the list, although the native driver behind them starts each session without addresses.

The calls are the steps of a system, in any order; the log of what they have achieved is
part of the state, the most recent entry first.  `Claimed` says of a log which addresses
belong to the session.  The list is right about it as long as every `close` finds it
empty.
-/

namespace HdmiCec

namespace ClaimedAddresses

/-! ## Logs -/

/-- What a call has achieved. -/
inductive Event where
  | opened
  | added (source : LogicalAddress)
  | removed (source : LogicalAddress)
  deriving DecidableEq

/-- The address was added since the last opening, and has not been removed since then. -/
def Claimed (log : List Event) (source : LogicalAddress) : Prop :=
  ∃ later earlier, log = later ++ .added source :: earlier ∧
    .opened ∉ later ∧ .removed source ∉ later

variable {log : List Event} {source other : LogicalAddress}

theorem not_claimed_nil : ¬ Claimed [] source := by
  rintro ⟨later, earlier, hlog, -⟩
  exact List.append_ne_nil_of_right_ne_nil later (List.cons_ne_nil _ _) hlog.symm

/-- Everything behind the first entry is decided by that entry or by the rest. -/
theorem claimed_cons (event : Event) :
    Claimed (event :: log) source ↔
      event = .added source ∨ event ≠ .opened ∧ event ≠ .removed source ∧ Claimed log source := by
  constructor
  · rintro ⟨later, earlier, hlog, hopened, hremoved⟩
    cases later with
    | nil =>
        cases hlog
        exact .inl rfl
    | cons first later =>
        rw [List.cons_append] at hlog
        cases hlog
        rw [List.mem_cons, not_or] at hopened hremoved
        refine .inr ⟨Ne.symm hopened.1, Ne.symm hremoved.1, ?_⟩
        exact ⟨later, earlier, rfl, hopened.2, hremoved.2⟩
  · rintro (rfl | ⟨hopened, hremoved, later, earlier, rfl, hopened', hremoved'⟩)
    · exact ⟨[], log, rfl, List.not_mem_nil, List.not_mem_nil⟩
    · refine ⟨event :: later, earlier, rfl, ?_, ?_⟩
      · rw [List.mem_cons, not_or]
        exact ⟨Ne.symm hopened, hopened'⟩
      · rw [List.mem_cons, not_or]
        exact ⟨Ne.symm hremoved, hremoved'⟩

theorem not_claimed_opened : ¬ Claimed (.opened :: log) source := by
  rw [claimed_cons]
  simp

theorem claimed_added :
    Claimed (.added other :: log) source ↔ other = source ∨ Claimed log source := by
  rw [claimed_cons]
  simp

theorem claimed_removed :
    Claimed (.removed other :: log) source ↔ other ≠ source ∧ Claimed log source := by
  rw [claimed_cons]
  simp

/-! ## The calls -/

/-- The driver, and what the calls so far have achieved. -/
structure State where
  driver : DriverImpl
  log : List Event

/-- The call that is made next, and how the native function in it ends. -/
inductive Action where
  | driverOpen (nativeOk : Bool)
  | driverClose (nativeOk : Bool)
  | addLogicalAddress (source : LogicalAddress) (retErr : Int)
  | removeLogicalAddress (source : LogicalAddress)
  deriving DecidableEq

/-- A call that changes nothing of the driver leaves no entry. -/
def step (s : State) : Action → Option State
  | .driverOpen nativeOk =>
      let driver := (s.driver.driverOpen nativeOk).1
      some { driver := driver
             log := if s.driver.status = .closed ∧ driver.status = .opened then
                 .opened :: s.log
               else
                 s.log }
  | .driverClose nativeOk => some { s with driver := (s.driver.driverClose nativeOk).1 }
  | .addLogicalAddress source retErr =>
      match s.driver.addLogicalAddress (fun _ native => (retErr, native)) source () with
      | (.ok _, driver, _) => some { driver := driver, log := .added source :: s.log }
      | (.error _, driver, _) => some { s with driver := driver }
  | .removeLogicalAddress source =>
      some { driver := (s.driver.removeLogicalAddress source).2
             log := if s.driver.status = .opened then .removed source :: s.log else s.log }

/-- A new `DriverImpl`. -/
def new : State where
  driver := { status := .closed, rQueue := .empty 32, logicalAddresses := [] }
  log := []

def system : StepSystem State Action where
  initial s := s = new
  step := step

/-- What one call can do. -/
inductive Moves (s : State) : Action → State → Prop where
  | stays (a : Action) : Moves s a s
  | opens (closed : s.driver.status = .closed) :
      Moves s (.driverOpen true)
        { driver := { s.driver with status := .opened }, log := .opened :: s.log }
  | closes (nativeOk : Bool) (opened : s.driver.status = .opened) :
      Moves s (.driverClose nativeOk)
        { s with
          driver :=
            { s.driver with
              status := if nativeOk then .closed else .closing
              rQueue := s.driver.rQueue.offer none } }
  | adds (source : LogicalAddress) (retErr : Int) (opened : s.driver.status = .opened)
      (available : retErr ≠ HdmiCecIo.logicalAddressUnavailable)
      (noError : retErr ≠ HdmiCecIo.generalError) :
      Moves s (.addLogicalAddress source retErr)
        { driver :=
            { s.driver with logicalAddresses := s.driver.logicalAddresses ++ [source] }
          log := .added source :: s.log }
  | removes (source : LogicalAddress) (opened : s.driver.status = .opened) :
      Moves s (.removeLogicalAddress source)
        { driver :=
            { s.driver with
              logicalAddresses := s.driver.logicalAddresses.filter (· != source) }
          log := .removed source :: s.log }

/-- `addLogicalAddress` throws and leaves the driver, or records the address. -/
theorem addLogicalAddress_cases (driver : DriverImpl) (source : LogicalAddress) (retErr : Int) :
    (∃ r, driver.addLogicalAddress (fun _ native => (retErr, native)) source () =
      (.error r, driver, ())) ∨
    (driver.status = .opened ∧ retErr ≠ HdmiCecIo.logicalAddressUnavailable ∧
      retErr ≠ HdmiCecIo.generalError ∧
      driver.addLogicalAddress (fun _ native => (retErr, native)) source () =
        (.ok true, { driver with logicalAddresses := driver.logicalAddresses ++ [source] }, ())) := by
  unfold DriverImpl.addLogicalAddress
  split
  · exact .inl ⟨_, rfl⟩
  · next hopened =>
    split
    · exact .inl ⟨_, rfl⟩
    · dsimp only
      split
      · exact .inl ⟨_, rfl⟩
      · next hunavailable =>
        split
        · exact .inl ⟨_, rfl⟩
        · next herror => exact .inr ⟨Decidable.not_not.mp hopened, hunavailable, herror, rfl⟩

theorem step_moves {s s' : State} {a : Action} (h : step s a = some s') : Moves s a s' := by
  cases a with
  | driverOpen nativeOk =>
      cases h
      by_cases hclosed : s.driver.status = .closed
      · cases nativeOk with
        | true => simpa [DriverImpl.driverOpen, hclosed] using Moves.opens hclosed
        | false => simpa [DriverImpl.driverOpen, hclosed] using Moves.stays (.driverOpen false)
      · simpa [DriverImpl.driverOpen, hclosed] using Moves.stays (.driverOpen nativeOk)
  | driverClose nativeOk =>
      cases h
      by_cases hopened : s.driver.status = .opened
      · have hmove := Moves.closes nativeOk hopened
        cases nativeOk <;> simpa [DriverImpl.driverClose, hopened] using hmove
      · simpa [DriverImpl.driverClose, hopened] using Moves.stays (.driverClose nativeOk)
  | addLogicalAddress source retErr =>
      rcases addLogicalAddress_cases s.driver source retErr with
        ⟨r, hanswer⟩ | ⟨hopened, hunavailable, herror, hanswer⟩
      · rw [step, hanswer] at h
        cases h
        exact .stays _
      · rw [step, hanswer] at h
        cases h
        exact .adds source retErr hopened hunavailable herror
  | removeLogicalAddress source =>
      cases h
      by_cases hopened : s.driver.status = .opened
      · simpa [DriverImpl.removeLogicalAddress, hopened] using Moves.removes source hopened
      · simpa [DriverImpl.removeLogicalAddress, hopened] using
          Moves.stays (.removeLogicalAddress source)

/-! ## Sessions without leftovers -/

/-- A native add succeeds, or reports one of the two codes that the driver looks at. -/
def NativeCodes (_ : State) : Action → Prop
  | .addLogicalAddress _ retErr =>
      retErr = HdmiCecIo.success ∨ retErr = HdmiCecIo.logicalAddressUnavailable ∨
        retErr = HdmiCecIo.generalError
  | _ => True

/-- An open driver is closed only when no logical address is valid. -/
def ClosesEmpty (s : State) : Action → Prop
  | .driverClose _ => s.driver.status = .opened →
      ∀ source, s.driver.isValidLogicalAddress source = false
  | _ => True

/-- The runs in which both hold. -/
def Orderly (s : State) (a : Action) : Prop := NativeCodes s a ∧ ClosesEmpty s a

/-- The valid addresses are those that the session has claimed, and a driver that is not
open has none. -/
structure Valid (s : State) : Prop where
  claimed : ∀ source, s.driver.isValidLogicalAddress source = true ↔ Claimed s.log source
  shut : s.driver.status ≠ .opened → ∀ source, s.driver.isValidLogicalAddress source = false

theorem isValidLogicalAddress_iff (driver : DriverImpl) (source : LogicalAddress) :
    driver.isValidLogicalAddress source = true ↔ source ∈ driver.logicalAddresses := by
  simp [DriverImpl.isValidLogicalAddress]

theorem isValidLogicalAddress_none_iff (driver : DriverImpl) :
    (∀ source, driver.isValidLogicalAddress source = false) ↔ driver.logicalAddresses = [] := by
  simp only [← Bool.not_eq_true, isValidLogicalAddress_iff, List.eq_nil_iff_forall_not_mem]

instance (s : State) (a : Action) : Decidable (NativeCodes s a) :=
  match a with
  | .addLogicalAddress _ _ => inferInstanceAs (Decidable (_ ∨ _ ∨ _))
  | .driverOpen _ | .driverClose _ | .removeLogicalAddress _ => inferInstanceAs (Decidable True)

instance (s : State) (a : Action) : Decidable (ClosesEmpty s a) :=
  match a with
  | .driverClose _ =>
      decidable_of_iff (s.driver.status = .opened → s.driver.logicalAddresses = [])
        (imp_congr_right fun _ => (isValidLogicalAddress_none_iff s.driver).symm)
  | .driverOpen _ | .addLogicalAddress _ _ | .removeLogicalAddress _ =>
      inferInstanceAs (Decidable True)

instance (s : State) (a : Action) : Decidable (Orderly s a) :=
  inferInstanceAs (Decidable (_ ∧ _))

theorem new_valid : Valid new := by
  constructor
  · intro source
    exact iff_of_false (by simp [new, DriverImpl.isValidLogicalAddress]) not_claimed_nil
  · intro _ source
    rfl

theorem step_valid {s s' : State} {a : Action} (h : Valid s) (hcloses : ClosesEmpty s a)
    (hmove : Moves s a s') : Valid s' := by
  cases hmove with
  | stays => exact h
  | opens hclosed =>
      have hnone := h.shut (by rw [hclosed]; decide)
      constructor
      · intro source
        refine iff_of_false ?_ not_claimed_opened
        rw [Bool.not_eq_true]
        exact hnone source
      · intro hshut
        exact absurd rfl hshut
  | closes nativeOk hopened =>
      exact ⟨h.claimed, fun _ => hcloses hopened⟩
  | adds added retErr hopened =>
      refine ⟨fun source => ?_, fun hshut => absurd hopened hshut⟩
      have hclaimed := h.claimed source
      rw [isValidLogicalAddress_iff] at hclaimed ⊢
      rw [List.mem_append, List.mem_singleton, hclaimed, claimed_added, or_comm, eq_comm]
  | removes removed hopened =>
      refine ⟨fun source => ?_, fun hshut => absurd hopened hshut⟩
      have hclaimed := h.claimed source
      rw [isValidLogicalAddress_iff] at hclaimed ⊢
      rw [List.mem_filter, hclaimed, claimed_removed, and_comm, bne_iff_ne, ne_comm]

/-- As long as an open driver is closed only when no address is valid, the valid addresses
are those of the current session. -/
theorem valid_in_session {s : State} (h : system.Reachable Orderly s) : Valid s := by
  refine h.invariant ?_ ?_
  · rintro s rfl
    exact new_valid
  · intro s a s' _ hvalid hok hstep
    exact step_valid hvalid hok.2 (step_moves hstep)

/-- A second session, after a first one that has given its address back. -/
theorem valid_in_session_second :
    ∃ s, system.Reachable Orderly s ∧ Valid s ∧ s.driver.logicalAddresses = [LogicalAddress.ofInt 8] := by
  obtain ⟨s, hreach, haddresses⟩ :=
    system.exists_reachable_of_run Orderly new
      [.driverOpen true, .addLogicalAddress (.ofInt 4) HdmiCecIo.success,
        .removeLogicalAddress (.ofInt 4), .driverClose true, .driverOpen true,
        .addLogicalAddress (.ofInt 4) HdmiCecIo.logicalAddressUnavailable,
        .addLogicalAddress (.ofInt 8) HdmiCecIo.success]
      (fun s => s.driver.logicalAddresses = [LogicalAddress.ofInt 8]) rfl (by decide +kernel)
  exact ⟨s, hreach, valid_in_session hreach, haddresses⟩

/-- A close that finds a valid address leaves it valid, whether `HdmiCecClose` succeeds or
not. -/
theorem close_leaves {s s' : State} {nativeOk : Bool} {source : LogicalAddress}
    (hopened : s.driver.status = .opened) (hvalid : s.driver.isValidLogicalAddress source = true)
    (hstep : step s (.driverClose nativeOk) = some s') : ¬ Valid s' := by
  intro hvalid'
  have hshut : s'.driver.status ≠ .opened ∧
      s'.driver.logicalAddresses = s.driver.logicalAddresses := by
    cases hstep
    cases nativeOk <;> simp [DriverImpl.driverClose, hopened]
  have hnone := hvalid'.shut hshut.1 source
  rw [← Bool.not_eq_true, isValidLogicalAddress_iff, hshut.2, ← isValidLogicalAddress_iff] at hnone
  exact hnone hvalid

/-- The address that a session has not given back is valid while the driver is closed. -/
theorem not_valid_in_session :
    ¬ ∀ s, system.Reachable NativeCodes s → Valid s := by
  intro hall
  obtain ⟨s, hreach, hshut, hvalid⟩ :=
    system.exists_reachable_of_run NativeCodes new
      [.driverOpen true, .addLogicalAddress (.ofInt 4) HdmiCecIo.success, .driverClose true]
      (fun s => s.driver.status ≠ .opened ∧ s.driver.isValidLogicalAddress (.ofInt 4) = true)
      rfl (by decide +kernel)
  rw [(hall s hreach).shut hshut] at hvalid
  cases hvalid

end ClaimedAddresses

end HdmiCec
