import HdmiCec.Library.StepSystem
import HdmiCec.Daemon.CecIARMBusMgr

/-!
# Claiming a logical address

A client claims a logical address through the pseudo-driver, `_AddLogicalAddress`,
`LibCCEC::addLogicalAddress` and the daemon's `DriverImpl::addLogicalAddress`, which
asks the physical driver.  The daemon's own process can claim addresses as well.
`Processes` is the client's driver and the daemon, and a run of the system is a
history of such calls, each with the answer of the physical driver.

On the way back the answer turns into an exception, into
`IARM_RESULT_INVALID_STATE` and into `HDMI_CEC_IO_INVALID_STATE`, a code that the
client's `addLogicalAddress` does not know: the client records every address that
it asks for (`clientAdds_eq`).
-/

namespace HdmiCec

/-- The answer of the physical `HdmiCecAddLogicalAddress`. -/
def physicalAnswer (result : Int) (_ : Int) (native : Unit) : Int × Unit := (result, native)

theorem physicalAnswer_eq (result : Int) (address : UInt8) :
    physicalAnswer result address.toNat () = (result, ()) := rfl

/-- `LogicalAddress(int addr)` of an address that went through an `int`. -/
theorem LogicalAddress.ofInt_toNat (address : UInt8) :
    LogicalAddress.ofInt (address.toNat : Int) = CECBytes.ofByte address := by
  have hmod : ((address.toNat : Int) % 256).toNat = address.toNat := by
    have := address.toNat_lt
    omega
  rw [LogicalAddress.ofInt, hmod, UInt8.ofNat_toNat]

namespace DriverImpl

/-- The answers that make `addLogicalAddress` throw. -/
def IsKnownRefusal (retErr : Int) : Prop :=
  retErr = HdmiCecIo.logicalAddressUnavailable ∨ retErr = HdmiCecIo.generalError

instance (retErr : Int) : Decidable (IsKnownRefusal retErr) :=
  inferInstanceAs (Decidable (_ ∨ _))

/-- The driver with one more logical address. -/
def claim (driver : DriverImpl) (address : UInt8) : DriverImpl :=
  { driver with logicalAddresses := driver.logicalAddresses ++ [CECBytes.ofByte address] }

@[simp] theorem claim_status (driver : DriverImpl) (address : UInt8) :
    (driver.claim address).status = driver.status := rfl

theorem claim_isValid (driver : DriverImpl) (address : UInt8) :
    (driver.claim address).isValidLogicalAddress (CECBytes.ofByte address) = true := by
  simp [claim, isValidLogicalAddress]

section

variable {N : Type} {driver : DriverImpl} {hdmiCecAddLogicalAddress : Int → N → Int × N}
  {address : UInt8} {native native' : N} {retErr : Int}

/-- An open driver throws on a known refusal, and records the address on every
other answer. -/
theorem addLogicalAddress_eq (hopened : driver.status = .opened)
    (hanswer : hdmiCecAddLogicalAddress address.toNat native = (retErr, native')) :
    (IsKnownRefusal retErr ∧ ∃ e : Exception, e.isCCEC = true ∧
      driver.addLogicalAddress hdmiCecAddLogicalAddress (CECBytes.ofByte address) native =
        (throwing e, driver, native')) ∨
    (¬ IsKnownRefusal retErr ∧
      driver.addLogicalAddress hdmiCecAddLogicalAddress (CECBytes.ofByte address) native =
        (.ok true, driver.claim address, native')) := by
  have hcall : driver.addLogicalAddress hdmiCecAddLogicalAddress (CECBytes.ofByte address)
      native = if retErr = HdmiCecIo.logicalAddressUnavailable then
          (throwing .addressNotAvailableException, driver, native')
        else if retErr = HdmiCecIo.generalError then
          (throwing .ioException, driver, native')
        else
          (.ok true, driver.claim address, native') := by
    rw [addLogicalAddress, if_neg (not_not_intro hopened), LogicalAddress.toInt_ofByte]
    dsimp only
    rw [hanswer]
    rfl
  by_cases hunavailable : retErr = HdmiCecIo.logicalAddressUnavailable
  · exact .inl ⟨.inl hunavailable, _, rfl, by rw [hcall, if_pos hunavailable]⟩
  · by_cases hgeneral : retErr = HdmiCecIo.generalError
    · exact .inl ⟨.inr hgeneral, _, rfl, by rw [hcall, if_neg hunavailable, if_pos hgeneral]⟩
    · refine .inr ⟨not_or_intro hunavailable hgeneral, ?_⟩
      rw [hcall, if_neg hunavailable, if_neg hgeneral]

end

end DriverImpl

/-! ## The daemon's side -/

/-- Between `LibCCEC::init` and `LibCCEC::term` the library passes the call on to
its driver. -/
theorem Library.addLogicalAddress_eq {N : Type} {library : Library}
    (hinitialized : library.initialized = true) (hdmiCecAddLogicalAddress : Int → N → Int × N)
    {source : LogicalAddress} {native native' : N} {outcome : Result Bool} {driver : DriverImpl}
    (hadd : library.driver.addLogicalAddress hdmiCecAddLogicalAddress source native =
      (outcome, driver, native')) :
    library.addLogicalAddress hdmiCecAddLogicalAddress source native =
      (outcome.map fun _ => 1, { library with driver := driver }, native') := by
  rw [Library.addLogicalAddress, if_neg (by simp [hinitialized]), hadd]

namespace Daemon

variable {daemon : Daemon}

/-- The daemon with one more logical address. -/
def claim (daemon : Daemon) (address : UInt8) : Daemon :=
  { daemon with
    library := { daemon.library with driver := daemon.library.driver.claim address } }

theorem claim_isStarted (h : daemon.IsStarted) (address : UInt8) :
    (daemon.claim address).IsStarted :=
  ⟨h.connection, ⟨h.running.initialized, h.running.started, h.running.opened⟩⟩

/-- `_AddLogicalAddress` answers `IARM_RESULT_INVALID_STATE` to a known refusal,
and records the address on every other answer. -/
theorem addLogicalAddress_eq (h : daemon.IsStarted) (address : UInt8) (result : Int) :
    ∃ param, Daemon.addLogicalAddress (physicalAnswer result) ⟨address.toNat⟩ (daemon, ()) =
      if DriverImpl.IsKnownRefusal result then
        (.ok (.invalidState, param), daemon, ())
      else
        (.ok (.success, param), daemon.claim address, ()) := by
  rw [Daemon.addLogicalAddress, LogicalAddress.ofInt_toNat]
  obtain ⟨hrefused, e, hccec, hadd⟩ | ⟨hgranted, hadd⟩ :=
    DriverImpl.addLogicalAddress_eq h.running.opened (physicalAnswer_eq result address)
  · refine ⟨⟨address.toNat⟩, ?_⟩
    rw [if_pos hrefused, Library.addLogicalAddress_eq h.running.initialized _ hadd]
    exact congrArg (·, daemon, ()) (catching_of_caught hccec)
  · refine ⟨⟨1⟩, ?_⟩
    rw [if_neg hgranted, Library.addLogicalAddress_eq h.running.initialized _ hadd]
    rfl

end Daemon

/-! ## The two processes -/

/-- The client's driver, on the pseudo-driver, and the daemon. -/
structure Processes where
  client : DriverImpl
  daemon : Daemon

/-- A call of `addLogicalAddress` and the answer of the physical driver to it. -/
inductive AddCall where
  | client (address : UInt8) (result : Int)
  | daemon (address : UInt8) (result : Int)
  deriving DecidableEq

namespace Processes

/-- The client's driver is open, and the daemon is started. -/
structure AreOpen (processes : Processes) : Prop where
  client : processes.client.status = .opened
  daemon : processes.daemon.IsStarted

/-- `DriverImpl::addLogicalAddress` in the client. -/
def clientAdds (bus : IarmBus) (processes : Processes) (address : UInt8) (result : Int) :
    Result Bool × Processes :=
  match processes.client.addLogicalAddress
      (IarmDriver.hdmiCecAddLogicalAddress bus (Daemon.addLogicalAddress (physicalAnswer result)))
      (CECBytes.ofByte address) (processes.daemon, ()) with
  | (outcome, client, daemon, ()) => (outcome, { client := client, daemon := daemon })

/-- `DriverImpl::addLogicalAddress` in the daemon. -/
def daemonAdds (processes : Processes) (address : UInt8) (result : Int) :
    Result Bool × Processes :=
  let library := processes.daemon.library
  match library.driver.addLogicalAddress (physicalAnswer result) (CECBytes.ofByte address) () with
  | (outcome, driver, ()) =>
      (outcome,
        { processes with
          daemon := { processes.daemon with library := { library with driver := driver } } })

/-- One call of a history. -/
def step (bus : IarmBus) (processes : Processes) : AddCall → Option Processes
  | .client address result => some (processes.clientAdds bus address result).2
  | .daemon address result => some (processes.daemonAdds address result).2

/-- Every history of calls, from an open client and a started daemon. -/
def system (bus : IarmBus) : StepSystem Processes AddCall where
  initial := AreOpen
  step := step bus

section Calls

variable {bus : IarmBus} {processes : Processes}

/-- The client records the address and returns, whatever the physical driver
answers. -/
theorem clientAdds_eq (hdelivers : bus.Delivers) (h : processes.AreOpen) (address : UInt8)
    (result : Int) :
    processes.clientAdds bus address result =
      (.ok true,
        { client := processes.client.claim address
          daemon := if DriverImpl.IsKnownRefusal result then processes.daemon
            else processes.daemon.claim address }) := by
  obtain ⟨param, hdaemon⟩ := Daemon.addLogicalAddress_eq h.daemon address result
  have hnative : ∃ retErr, ¬ DriverImpl.IsKnownRefusal retErr ∧
      IarmDriver.hdmiCecAddLogicalAddress bus (Daemon.addLogicalAddress (physicalAnswer result))
        address.toNat (processes.daemon, ()) =
      (retErr, if DriverImpl.IsKnownRefusal result then processes.daemon
        else processes.daemon.claim address, ()) := by
    by_cases hrefused : DriverImpl.IsKnownRefusal result
    · -- the refusal comes back as a code that the client's chain of tests lacks
      rw [if_pos hrefused] at hdaemon
      refine ⟨HdmiCecIo.invalidState, by decide, ?_⟩
      rw [IarmDriver.hdmiCecAddLogicalAddress, hdelivers.call _ _ _ _ _ _ hdaemon, if_pos hrefused]
      rfl
    · rw [if_neg hrefused] at hdaemon
      refine ⟨HdmiCecIo.success, by decide, ?_⟩
      rw [IarmDriver.hdmiCecAddLogicalAddress, hdelivers.call _ _ _ _ _ _ hdaemon, if_neg hrefused]
      rfl
  obtain ⟨retErr, hunknown, hanswer⟩ := hnative
  obtain ⟨hrefused, -⟩ | ⟨-, hadd⟩ := DriverImpl.addLogicalAddress_eq h.client hanswer
  · exact absurd hrefused hunknown
  · rw [clientAdds, hadd]

/-- The daemon throws on a known refusal only. -/
theorem daemonAdds_cases (h : processes.AreOpen) (address : UInt8) (result : Int) :
    (DriverImpl.IsKnownRefusal result ∧ ∃ e : Exception,
      processes.daemonAdds address result = (throwing e, processes)) ∨
    (¬ DriverImpl.IsKnownRefusal result ∧
      processes.daemonAdds address result =
        (.ok true, { processes with daemon := processes.daemon.claim address })) := by
  obtain ⟨hrefused, e, -, hadd⟩ | ⟨hgranted, hadd⟩ :=
    DriverImpl.addLogicalAddress_eq h.daemon.running.opened (physicalAnswer_eq result address)
  · exact .inl ⟨hrefused, e, by rw [daemonAdds]; dsimp only; rw [hadd]⟩
  · exact .inr ⟨hgranted, by rw [daemonAdds]; dsimp only; rw [hadd]; rfl⟩

/-- A call closes neither side. -/
theorem step_areOpen (hdelivers : bus.Delivers) {call : AddCall} {processes' : Processes}
    (h : processes.AreOpen) (hstep : step bus processes call = some processes') :
    processes'.AreOpen := by
  cases call with
  | client address result =>
      cases hstep
      rw [clientAdds_eq hdelivers h]
      refine ⟨h.client, ?_⟩
      split
      · exact h.daemon
      · exact Daemon.claim_isStarted h.daemon address
  | daemon address result =>
      cases hstep
      obtain ⟨-, e, hadd⟩ | ⟨-, hadd⟩ := daemonAdds_cases h address result
      · rw [hadd]
        exact h
      · rw [hadd]
        exact ⟨h.client, Daemon.claim_isStarted h.daemon address⟩

/-- Nor does a history of calls. -/
theorem reachable_areOpen (hdelivers : bus.Delivers)
    (h : (system bus).Reachable StepSystem.unguarded processes) : processes.AreOpen :=
  h.invariant (fun _ hinitial => hinitial)
    fun _ _ _ _ hopen _ hstep => step_areOpen hdelivers hopen hstep

end Calls

/-! ## A refused address -/

/-- What the client's call is to come to: a refusal makes `addLogicalAddress` throw
in both processes and changes the addresses of neither, and a granted address is
valid in both. -/
structure ClaimsGranted (bus : IarmBus) (processes : Processes) (address : UInt8)
    (result : Int) : Prop where
  refused : result ≠ HdmiCecIo.success →
    (∀ b, (processes.clientAdds bus address result).1 ≠ .ok b) ∧
    (∀ b, (processes.daemonAdds address result).1 ≠ .ok b) ∧
    ∀ a, (processes.clientAdds bus address result).2.client.isValidLogicalAddress a =
        processes.client.isValidLogicalAddress a ∧
      (processes.clientAdds bus address result).2.daemon.library.driver.isValidLogicalAddress a =
        processes.daemon.library.driver.isValidLogicalAddress a
  granted : result = HdmiCecIo.success →
    (processes.clientAdds bus address result).2.client.isValidLogicalAddress
        (CECBytes.ofByte address) = true ∧
      (processes.clientAdds bus address result).2.daemon.library.driver.isValidLogicalAddress
        (CECBytes.ofByte address) = true

/-- After every history of calls, a claim comes to what it should exactly when
the physical driver grants the address. -/
theorem claimsGranted_iff {bus : IarmBus} (hdelivers : bus.Delivers) {processes : Processes}
    (h : (system bus).Reachable StepSystem.unguarded processes) (address : UInt8)
    (result : Int) :
    ClaimsGranted bus processes address result ↔ result = HdmiCecIo.success := by
  have hcall := clientAdds_eq hdelivers (reachable_areOpen hdelivers h) address result
  constructor
  · intro hclaims
    by_cases hsuccess : result = HdmiCecIo.success
    · exact hsuccess
    · -- the client's call has returned normally, which a refused claim must not
      have hreturns : (processes.clientAdds bus address result).1 = .ok true := by rw [hcall]
      exact absurd hreturns ((hclaims.refused hsuccess).1 true)
  · intro hsuccess
    refine ⟨fun hrefused => absurd hsuccess hrefused, fun _ => ?_⟩
    have hgranted : ¬ DriverImpl.IsKnownRefusal result := by
      rw [hsuccess]
      decide
    rw [hcall, if_neg hgranted]
    exact ⟨DriverImpl.claim_isValid _ address, DriverImpl.claim_isValid _ address⟩

/-- A client and a daemon that have just been started; the physical driver grants
the address 4. -/
theorem claimsGranted_playback :
    ClaimsGranted IarmBus.synchronous
      ⟨⟨.opened, BoundedFifo.empty 32, []⟩, Daemon.started []⟩ 4 HdmiCecIo.success :=
  (claimsGranted_iff IarmBus.synchronous_delivers
    (.of_initial ⟨rfl, Daemon.started_isStarted []⟩) 4 HdmiCecIo.success).mpr rfl

/-- The physical driver refuses the address 4, because another device has it: the
client claims it. -/
theorem not_claimsGranted_unavailable :
    ¬ ClaimsGranted IarmBus.synchronous
      ⟨⟨.opened, BoundedFifo.empty 32, []⟩, Daemon.started []⟩ 4
      HdmiCecIo.logicalAddressUnavailable :=
  fun hclaims => (hclaims.refused (by decide)).1 true rfl

end Processes

end HdmiCec
