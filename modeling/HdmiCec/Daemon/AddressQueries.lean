import HdmiCec.Daemon.CecIARMBusMgr

/-!
# Asking for an address

`LibCCEC::getLogicalAddress` and `LibCCEC::getPhysicalAddress` of a client go through the
pseudo-driver and the IARM bus to the same two functions of the daemon, which ask the
physical driver.

The two are built differently.  `HdmiCecGetLogicalAddress` has a return code that nobody
looks at, and a logical address of 0 stands for a failure; both processes turn it into an
`InvalidStateException`.  `HdmiCecGetPhysicalAddress` returns nothing: a daemon that cannot
answer leaves the variable of the client as it was.
-/

namespace HdmiCec

/-- `HdmiCecGetLogicalAddress(handle, devType, &logicalAddress)`: the device type and the
value of `logicalAddress` before the call give the return code and the value after it. -/
abbrev HdmiCecGetLogicalAddress := Int → Int → Int × Int

/-- `HdmiCecGetPhysicalAddress(handle, &physicalAddress)`: the value before the call gives
the value after it. -/
abbrev HdmiCecGetPhysicalAddress := UInt32 → UInt32

namespace CECMgr

/-- `IARM_Bus_CECMgr_GetLogicalAddress_Param_t`. -/
structure GetLogicalAddressParam where
  devType : Int
  logicalAddress : Int

/-- `IARM_Bus_CECMgr_GetPhysicalAddress_Param_t`. -/
structure GetPhysicalAddressParam where
  physicalAddress : UInt32

end CECMgr

/-! ## The library -/

namespace DriverImpl

/-- `getLogicalAddress(int devType)`, which looks at neither `status` nor the return code. -/
def getLogicalAddress (hdmiCecGetLogicalAddress : HdmiCecGetLogicalAddress) (devType : Int) :
    Int :=
  (hdmiCecGetLogicalAddress devType 0).2

/-- `getPhysicalAddress(unsigned int *physicalAddress)`. -/
def getPhysicalAddress (hdmiCecGetPhysicalAddress : HdmiCecGetPhysicalAddress)
    (physicalAddress : UInt32) : UInt32 :=
  hdmiCecGetPhysicalAddress physicalAddress

end DriverImpl

namespace Library

/-- `LibCCEC::getLogicalAddress(int devType)`. -/
def getLogicalAddress (library : Library)
    (hdmiCecGetLogicalAddress : HdmiCecGetLogicalAddress) (devType : Int) : Result Int :=
  if !library.initialized then
    throwing .invalidStateException
  else
    let logicalAddress := DriverImpl.getLogicalAddress hdmiCecGetLogicalAddress devType
    if 0 = logicalAddress then
      throwing .invalidStateException
    else
      .ok logicalAddress

/-- `LibCCEC::getPhysicalAddress(unsigned int *physicalAddress)`: the outcome, and the value
behind the pointer. -/
def getPhysicalAddress (library : Library)
    (hdmiCecGetPhysicalAddress : HdmiCecGetPhysicalAddress) (physicalAddress : UInt32) :
    Result Unit × UInt32 :=
  if !library.initialized then
    (throwing .invalidStateException, physicalAddress)
  else
    (.ok (), DriverImpl.getPhysicalAddress hdmiCecGetPhysicalAddress physicalAddress)

variable {library : Library}

theorem getLogicalAddress_eq (h : library.initialized = true)
    (native : HdmiCecGetLogicalAddress) (devType : Int) :
    library.getLogicalAddress native devType =
      if (native devType 0).2 = 0 then
        throwing .invalidStateException
      else
        .ok (native devType 0).2 := by
  rw [getLogicalAddress, if_neg (by simp [h])]
  dsimp only [DriverImpl.getLogicalAddress]
  by_cases hzero : (native devType 0).2 = 0
  · rw [if_pos hzero.symm, if_pos hzero]
  · rw [if_neg (Ne.symm hzero), if_neg hzero]

theorem getLogicalAddress_uninitialized (h : library.initialized = false)
    (native : HdmiCecGetLogicalAddress) (devType : Int) :
    library.getLogicalAddress native devType = throwing .invalidStateException := by
  rw [getLogicalAddress, if_pos (by simp [h])]

theorem getPhysicalAddress_eq (h : library.initialized = true)
    (native : HdmiCecGetPhysicalAddress) (physicalAddress : UInt32) :
    library.getPhysicalAddress native physicalAddress = (.ok (), native physicalAddress) := by
  rw [getPhysicalAddress, if_neg (by simp [h])]
  rfl

theorem getPhysicalAddress_uninitialized (h : library.initialized = false)
    (native : HdmiCecGetPhysicalAddress) (physicalAddress : UInt32) :
    library.getPhysicalAddress native physicalAddress =
      (throwing .invalidStateException, physicalAddress) := by
  rw [getPhysicalAddress, if_pos (by simp [h])]

end Library

/-! ## The daemon -/

namespace Daemon

/-- `_GetLogicalAddress(void *arg)`. -/
def getLogicalAddress (hdmiCecGetLogicalAddress : HdmiCecGetLogicalAddress)
    (param : CECMgr.GetLogicalAddressParam) (daemon : Daemon) :
    Result (IARM_Result_t × CECMgr.GetLogicalAddressParam) :=
  let answer :=
    (daemon.library.getLogicalAddress hdmiCecGetLogicalAddress param.devType).map
      fun logicalAddress =>
        (IARM_Result_t.success, { param with logicalAddress := logicalAddress })
  catching Exception.isCCEC answer fun _ => .ok (.invalidState, param)

/-- `_GetPhysicalAddress(void *arg)`. -/
def getPhysicalAddress (hdmiCecGetPhysicalAddress : HdmiCecGetPhysicalAddress)
    (param : CECMgr.GetPhysicalAddressParam) (daemon : Daemon) :
    Result (IARM_Result_t × CECMgr.GetPhysicalAddressParam) :=
  let (outcome, physicalAddress) :=
    daemon.library.getPhysicalAddress hdmiCecGetPhysicalAddress param.physicalAddress
  let param := { param with physicalAddress := physicalAddress }
  let answer := outcome.map fun _ => (IARM_Result_t.success, param)
  catching Exception.isCCEC answer fun _ => .ok (.invalidState, param)

/-- The block keeps what it had unless there is an address for it. -/
theorem getLogicalAddress_answers (native : HdmiCecGetLogicalAddress)
    (param : CECMgr.GetLogicalAddressParam) (daemon : Daemon) :
    daemon.getLogicalAddress native param =
      if daemon.library.initialized = true ∧ (native param.devType 0).2 ≠ 0 then
        .ok (.success, { param with logicalAddress := (native param.devType 0).2 })
      else
        .ok (.invalidState, param) := by
  unfold getLogicalAddress
  cases hinitialized : daemon.library.initialized with
  | false =>
      rw [Library.getLogicalAddress_uninitialized hinitialized]
      rfl
  | true =>
      rw [Library.getLogicalAddress_eq hinitialized]
      by_cases hzero : (native param.devType 0).2 = 0
      · rw [if_pos hzero, if_neg (fun h => h.2 hzero)]
        rfl
      · rw [if_neg hzero, if_pos ⟨rfl, hzero⟩]
        rfl

theorem getPhysicalAddress_answers (native : HdmiCecGetPhysicalAddress)
    (param : CECMgr.GetPhysicalAddressParam) (daemon : Daemon) :
    daemon.getPhysicalAddress native param =
      if daemon.library.initialized then
        .ok (.success, ⟨native param.physicalAddress⟩)
      else
        .ok (.invalidState, param) := by
  unfold getPhysicalAddress
  cases hinitialized : daemon.library.initialized with
  | false =>
      rw [Library.getPhysicalAddress_uninitialized hinitialized]
      rfl
  | true =>
      rw [Library.getPhysicalAddress_eq hinitialized]
      rfl

end Daemon

/-! ## The pseudo-driver -/

namespace IarmDriver

variable {D : Type}

/-- `HdmiCecGetLogicalAddress(handle, devType, &logicalAddresses)`.  `registered` is the
daemon's function for `IARM_BUS_CECMGR_API_GetLogicalAddress`. -/
def hdmiCecGetLogicalAddress (bus : IarmBus)
    (registered : CECMgr.GetLogicalAddressParam → D →
      Result (IARM_Result_t × CECMgr.GetLogicalAddressParam) × D)
    (daemon : D) : HdmiCecGetLogicalAddress := fun devType logicalAddresses =>
  match bus.call registered ⟨devType, 0⟩ daemon with
  | (.success, data, _) => (HdmiCecIo.success, data.logicalAddress)
  | _ => (HdmiCecIo.invalidState, logicalAddresses)

/-- `HdmiCecGetPhysicalAddress(handle, &physicalAddresses)`.  `registered` is the daemon's
function for `IARM_BUS_CECMGR_API_GetPhysicalAddress`. -/
def hdmiCecGetPhysicalAddress (bus : IarmBus)
    (registered : CECMgr.GetPhysicalAddressParam → D →
      Result (IARM_Result_t × CECMgr.GetPhysicalAddressParam) × D)
    (daemon : D) : HdmiCecGetPhysicalAddress := fun physicalAddresses =>
  match bus.call registered ⟨0⟩ daemon with
  | (.success, data, _) => data.physicalAddress
  | _ => physicalAddresses

variable {bus : IarmBus}

/-- The pseudo-driver in front of a daemon. -/
theorem hdmiCecGetLogicalAddress_eq (hdelivers : bus.Delivers) (daemon : Daemon)
    (native : HdmiCecGetLogicalAddress) (devType logicalAddresses : Int) :
    (hdmiCecGetLogicalAddress bus
        (fun param daemon => (Daemon.getLogicalAddress native param daemon, daemon)) daemon
        devType logicalAddresses).2 =
      if daemon.library.initialized = true ∧ (native devType 0).2 ≠ 0 then
        (native devType 0).2
      else
        logicalAddresses := by
  have hanswers := daemon.getLogicalAddress_answers native ⟨devType, 0⟩
  unfold hdmiCecGetLogicalAddress
  by_cases h : daemon.library.initialized = true ∧ (native devType 0).2 ≠ 0
  · rw [if_pos h] at hanswers
    rw [if_pos h, hdelivers.call _ _ _ daemon daemon _ (congrArg (·, daemon) hanswers)]
  · rw [if_neg h] at hanswers
    rw [if_neg h, hdelivers.call _ _ _ daemon daemon _ (congrArg (·, daemon) hanswers)]

theorem hdmiCecGetPhysicalAddress_eq (hdelivers : bus.Delivers) (daemon : Daemon)
    (native : HdmiCecGetPhysicalAddress) (physicalAddresses : UInt32) :
    hdmiCecGetPhysicalAddress bus
        (fun param daemon => (Daemon.getPhysicalAddress native param daemon, daemon)) daemon
        physicalAddresses =
      if daemon.library.initialized then native 0 else physicalAddresses := by
  have hanswers := daemon.getPhysicalAddress_answers native ⟨0⟩
  unfold hdmiCecGetPhysicalAddress
  by_cases h : daemon.library.initialized = true
  · rw [if_pos h] at hanswers
    rw [if_pos h, hdelivers.call _ _ _ daemon daemon _ (congrArg (·, daemon) hanswers)]
  · rw [if_neg h] at hanswers
    rw [if_neg h, hdelivers.call _ _ _ daemon daemon _ (congrArg (·, daemon) hanswers)]

end IarmDriver

/-! ## The two hops together -/

section TwoHops

variable {bus : IarmBus} {client : Library}

/-- A client gets the logical address that the physical driver gives, if both libraries are
initialized and it is not 0; the return code of the physical driver does not matter.  In
every other case it gets an `InvalidStateException`, and never an address that is not the
physical driver's.  The physical address of the client's variable is replaced by what the
physical driver makes of 0, and is untouched when the daemon is not initialized; an
initialized client is not told which of the two has happened. -/
theorem address_twoHops (hdelivers : bus.Delivers) (client : Library) (daemon : Daemon)
    (nativeLogical : HdmiCecGetLogicalAddress) (nativePhysical : HdmiCecGetPhysicalAddress)
    (devType : Int) (physicalAddress : UInt32) :
    client.getLogicalAddress
        (IarmDriver.hdmiCecGetLogicalAddress bus
          (fun param daemon => (Daemon.getLogicalAddress nativeLogical param daemon, daemon))
          daemon) devType =
      (if client.initialized = true ∧ daemon.library.initialized = true ∧
          (nativeLogical devType 0).2 ≠ 0 then
        .ok (nativeLogical devType 0).2
      else
        throwing .invalidStateException) ∧
    client.getPhysicalAddress
        (IarmDriver.hdmiCecGetPhysicalAddress bus
          (fun param daemon => (Daemon.getPhysicalAddress nativePhysical param daemon, daemon))
          daemon) physicalAddress =
      (if client.initialized then .ok () else throwing .invalidStateException,
        if client.initialized = true ∧ daemon.library.initialized = true then
          nativePhysical 0
        else
          physicalAddress) := by
  cases hclient : client.initialized with
  | false =>
      rw [Library.getLogicalAddress_uninitialized hclient,
        Library.getPhysicalAddress_uninitialized hclient]
      simp
  | true =>
      rw [Library.getLogicalAddress_eq hclient, Library.getPhysicalAddress_eq hclient,
        IarmDriver.hdmiCecGetLogicalAddress_eq hdelivers,
        IarmDriver.hdmiCecGetPhysicalAddress_eq hdelivers]
      constructor
      · by_cases h : daemon.library.initialized = true ∧ (nativeLogical devType 0).2 ≠ 0
        · rw [if_pos h, if_neg h.2, if_pos ⟨rfl, h⟩]
        · rw [if_neg h, if_pos rfl, if_neg (fun hall => h hall.2)]
      · by_cases h : daemon.library.initialized = true <;> simp [h]

end TwoHops

/-- The physical driver gives tuner 3, with a return code that reports an error, and the
physical address 1.0.0.0. -/
theorem address_twoHops_tuner :
    (Daemon.started []).library.getLogicalAddress
        (IarmDriver.hdmiCecGetLogicalAddress IarmBus.synchronous
          (fun param daemon =>
            (Daemon.getLogicalAddress (fun _ _ => (HdmiCecIo.generalError, 3)) param daemon,
              daemon))
          (Daemon.started [])) 3 = .ok 3 ∧
    (Daemon.started []).library.getPhysicalAddress
        (IarmDriver.hdmiCecGetPhysicalAddress IarmBus.synchronous
          (fun param daemon => (Daemon.getPhysicalAddress (fun _ => 0x1000) param daemon, daemon))
          (Daemon.started [])) 0xFFFF = (.ok (), 0x1000) :=
  address_twoHops IarmBus.synchronous_delivers (Daemon.started []).library (Daemon.started [])
    (fun _ _ => (HdmiCecIo.generalError, 3)) (fun _ => 0x1000) 3 0xFFFF

end HdmiCec
