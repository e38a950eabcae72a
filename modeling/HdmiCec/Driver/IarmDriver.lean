import HdmiCec.Driver.DriverImpl

/-!
# The pseudo-driver on the IARM bus

`drivers/iarmbus/hdmi_cec_driver.c` has the interface of a native driver and no
hardware: it packs the arguments of a call into a parameter block and hands the
block to the daemon.  The blocks are those of `CecIARMBusMgr.h`.

`MEMCPY_S` and `IARM_Bus_Call` come from other packages.  They are parameters,
and what the code relies on is stated in `MemcpyS.Copies` and `IarmBus.Delivers`.
-/

namespace HdmiCec

/-- The results of IARM functions that the code names. -/
inductive IARM_Result_t where
  | success
  | invalidParam
  | invalidState
  deriving DecidableEq, Repr

namespace CECMgr

/-- `IARM_BUS_CECMGR_MAX_DATA_LENGTH`. -/
def maxDataLength : Nat := 62

/-- `uint8_t data[IARM_BUS_CECMGR_MAX_DATA_LENGTH + 1]`. -/
abbrev Data := Vector UInt8 (maxDataLength + 1)

/-- The array after `memset`. -/
def Data.zero : Data := Vector.replicate _ 0

/-- `data[0]`. -/
def Data.first (data : Data) : UInt8 := data[0]

/-- `IARM_Bus_CECMgr_EventData_t`. -/
structure EventData where
  length : UInt8
  data : Data
  deriving DecidableEq

/-- `IARM_Bus_CECMgr_Send_Param_t`. -/
structure SendParam where
  length : UInt8
  data : Data
  retVal : UInt8

/-- `IARM_Bus_CECMgr_AddLogicalAddress_Param_t`. -/
structure AddLogicalAddressParam where
  logicalAddress : Int

end CECMgr

/-! ## What other packages provide -/

/-- `MEMCPY_S(dest, sizeof(dest), src, len)`. -/
structure MemcpyS where
  copy {size : Nat} (dest : Vector UInt8 size) (src : List UInt8) (len : Nat) :
    Vector UInt8 size

/-- A copy that fits both arrays replaces the first `len` bytes. -/
structure MemcpyS.Copies (memcpyS : MemcpyS) : Prop where
  fits : ∀ {size : Nat} (dest : Vector UInt8 size) (src : List UInt8) (len : Nat),
    len ≤ size → len ≤ src.length →
      (memcpyS.copy dest src len).toList = src.take len ++ dest.toList.drop len

/-- `IARM_Bus_Call(ownerName, methodName, arg, argLen)`, with the function that
the owner has registered under that name and the state `D` of its process.  The
function may end abruptly there; the caller gets a result and a block anyway. -/
structure IarmBus where
  call {D P : Type} (registered : P → D → Result (IARM_Result_t × P) × D) (arg : P)
    (owner : D) : IARM_Result_t × P × D

/-- A registered function that returns is run once, in the state of its owner;
the caller gets its result and the block as it left it. -/
structure IarmBus.Delivers (bus : IarmBus) : Prop where
  call : ∀ {D P : Type} (registered : P → D → Result (IARM_Result_t × P) × D) (arg arg' : P)
    (owner owner' : D) (result : IARM_Result_t),
    registered arg owner = (.ok (result, arg'), owner') →
      bus.call registered arg owner = (result, arg', owner')

/-- A copy that checks its bounds first, as the documentation of `memcpy_s` has
it. -/
def MemcpyS.checked : MemcpyS where
  copy {size} dest src len :=
    if h : len ≤ size ∧ len ≤ src.length then
      ⟨(src.take len ++ dest.toList.drop len).toArray, by
        simp only [List.size_toArray, List.length_append, List.length_take, List.length_drop,
          Vector.length_toList]
        omega⟩
    else
      dest

theorem MemcpyS.checked_copies : MemcpyS.checked.Copies := by
  constructor
  intro size dest src len hdest hsrc
  simp [checked, hdest, hsrc, Vector.toList]

/-- A bus that runs every call to its end before it returns; a function that ends
abruptly comes back as `IARM_RESULT_INVALID_STATE`. -/
def IarmBus.synchronous : IarmBus where
  call registered arg owner :=
    match registered arg owner with
    | (.ok (result, arg'), owner') => (result, arg', owner')
    | (.error _, owner') => (.invalidState, arg, owner')

theorem IarmBus.synchronous_delivers : IarmBus.synchronous.Delivers := by
  constructor
  intro D P registered arg arg' owner owner' result hreturns
  simp [synchronous, hreturns]

/-! ## The functions of the driver -/

namespace IarmDriver

variable {D : Type}

/-- The block of an ENABLE event. -/
def enableEvent (enabled : Bool) : CECMgr.EventData where
  length := 1
  data := CECMgr.Data.zero.set 0 (if enabled then 1 else 0)

/-- `HdmiCecOpen(&handle)`: the return code, whether `driverCtx` is set after the
call, and the event it broadcasts. -/
def hdmiCecOpen (driverCtx : Bool) : Int × Bool × Option CECMgr.EventData :=
  if !driverCtx then
    (HdmiCecIo.success, true, some (enableEvent true))
  else
    (HdmiCecIo.invalidState, driverCtx, none)

/-- `HdmiCecClose(handle)`. -/
def hdmiCecClose (driverCtx : Bool) : Int × Bool × Option CECMgr.EventData :=
  if driverCtx then
    (HdmiCecIo.success, false, some (enableEvent false))
  else
    (HdmiCecIo.invalidState, driverCtx, none)

/-- A call that leaves the driver as it was broadcasts nothing, and a call that
opens or closes it broadcasts which of the two. -/
def Broadcasts (driverCtx driverCtx' : Bool) (event : Option CECMgr.EventData) : Prop :=
  driverCtx' = driverCtx ∧ event = none ∨
    driverCtx' = (!driverCtx) ∧ event = some (enableEvent driverCtx')

theorem hdmiCecOpen_broadcasts (driverCtx : Bool) :
    Broadcasts driverCtx (hdmiCecOpen driverCtx).2.1 (hdmiCecOpen driverCtx).2.2 := by
  cases driverCtx with
  | false => exact .inr ⟨rfl, rfl⟩
  | true => exact .inl ⟨rfl, rfl⟩

theorem hdmiCecClose_broadcasts (driverCtx : Bool) :
    Broadcasts driverCtx (hdmiCecClose driverCtx).2.1 (hdmiCecClose driverCtx).2.2 := by
  cases driverCtx with
  | false => exact .inl ⟨rfl, rfl⟩
  | true => exact .inr ⟨rfl, rfl⟩

/-- The block that `HdmiCecTx` sends. -/
def dataToSend (memcpyS : MemcpyS) (buf : List UInt8) : CECMgr.SendParam where
  length := UInt8.ofNat buf.length
  data := memcpyS.copy CECMgr.Data.zero buf buf.length
  retVal := 0

/-- `HdmiCecTx(handle, buf, len, &result)`.  `registered` is the daemon's function
for `IARM_BUS_CECMGR_API_Send`. -/
def hdmiCecTx (memcpyS : MemcpyS) (bus : IarmBus)
    (registered : CECMgr.SendParam → D → Result (IARM_Result_t × CECMgr.SendParam) × D)
    (daemon : D) : HdmiCecTx := fun buf result =>
  match bus.call registered (dataToSend memcpyS buf) daemon with
  | (.success, dataToSend', _) => (HdmiCecIo.success, dataToSend'.retVal.toNat)
  | _ => (HdmiCecIo.invalidState, result)

/-- The SEND event that `HdmiCecTxAsync` broadcasts. -/
def eventToSend (memcpyS : MemcpyS) (buf : List UInt8) : CECMgr.EventData where
  length := UInt8.ofNat buf.length
  data := memcpyS.copy CECMgr.Data.zero buf buf.length

/-- `HdmiCecTxAsync(handle, buf, len)`: the return code, and the event.  The result of the
broadcast is not looked at. -/
def hdmiCecTxAsync (memcpyS : MemcpyS) (buf : List UInt8) : Int × CECMgr.EventData :=
  (HdmiCecIo.success, eventToSend memcpyS buf)

/-- `HdmiCecAddLogicalAddress(handle, logicalAddresses)`.  `registered` is the
daemon's function for `IARM_BUS_CECMGR_API_AddLogicalAddress`. -/
def hdmiCecAddLogicalAddress (bus : IarmBus)
    (registered : CECMgr.AddLogicalAddressParam → D →
      Result (IARM_Result_t × CECMgr.AddLogicalAddressParam) × D)
    (logicalAddresses : Int) (daemon : D) : Int × D :=
  let (ret, _, daemon') := bus.call registered ⟨logicalAddresses⟩ daemon
  (if ret ≠ .success then HdmiCecIo.invalidState else HdmiCecIo.success, daemon')

/-- A frame that fits the block arrives in it. -/
theorem dataToSend_carries {memcpyS : MemcpyS} (hcopies : memcpyS.Copies) {buf : List UInt8}
    (hfits : buf.length ≤ CECMgr.maxDataLength + 1) :
    (dataToSend memcpyS buf).length.toNat = buf.length ∧
      (dataToSend memcpyS buf).data.toList.take buf.length = buf := by
  constructor
  · have hbyte : buf.length < 256 := by
      unfold CECMgr.maxDataLength at hfits
      omega
    rw [dataToSend, UInt8.toNat_ofNat', Nat.mod_eq_of_lt hbyte]
  · rw [dataToSend, hcopies.fits _ buf buf.length hfits (Nat.le_refl _), List.take_length]
    exact List.take_left

end IarmDriver

end HdmiCec
