import HdmiCec.Daemon.Send

/-!
# What the parameter block carries

Three limits meet on the way of a frame from a client to the daemon: a frame has up
to 128 bytes, the `data` of a block 63, and its `length` is one byte.  The pseudo-driver
copies with `MEMCPY_S`, does not look at its result, and writes the length of the frame
into the block all the same.  The daemon's handlers append `length` bytes of `data` to
an empty frame.

A frame that fits is carried byte for byte.  With a longer one the daemon reads past the
array (`rebuild_tooLong`), while the client is told of a success.  This holds on both
paths: `HdmiCecTx` with `_Send`, and `HdmiCecTxAsync` with `cecSendEventHandler`.
-/

namespace HdmiCec

namespace Daemon

/-- The daemon has rebuilt the frame of these bytes from the block, and has read inside
`data` only: a read outside would end the handler as undefined. -/
def Carries (length : UInt8) (data : CECMgr.Data) (bytes : List UInt8) : Prop :=
  ∃ frameIn, rebuild length data = .ok frameIn ∧ frameIn.bytes = bytes

/-- What `_Send` does with the frame it has rebuilt. -/
def sendFrame (hdmiCecTx : HdmiCecTx) (param : CECMgr.SendParam) (daemon : Daemon)
    (frameIn : CECFrame) : Result (IARM_Result_t × CECMgr.SendParam) := do
  let _ ← Header.ofFrame frameIn 0
  if frameIn.length > 1 then
    let _ ← OpCode.ofFrame frameIn 1
  match daemon.manager.m_connection with
  | none => return (.invalidState, param)
  | some connection =>
      let library := daemon.library
      let busSend := fun frame =>
        (Bus.send library.started (fun _ => library.driver.write hdmiCecTx frame) 0).2
      let sent := (connection.send library.driver busSend frameIn).map fun _ =>
        HdmiCecIo.sentAndAckd
      let retVal ← catching Exception.isCCEC sent fun e =>
        if e = .cecNoAckException then
          .ok HdmiCecIo.sentButNotAckd
        else
          .ok HdmiCecIo.sentFailed
      return (.success, { param with retVal := UInt8.ofNat retVal.toNat })

/-- `_Send` works on the rebuilt frame. -/
theorem send_eq (hdmiCecTx : HdmiCecTx) (param : CECMgr.SendParam) (daemon : Daemon) :
    daemon.send hdmiCecTx param =
      rebuild param.length param.data >>= daemon.sendFrame hdmiCecTx param := by
  have hbytes : sendBytes ⟨param.length, param.data, 0⟩ = sendBytes param := rfl
  rw [send, rebuild, hbytes]
  cases sendBytes param with
  | error r => rfl
  | ok buf =>
      rw [Result.ok_bind, Result.ok_bind]
      cases CECFrame.empty.appendAll buf with
      | error r => rfl
      | ok frameIn => rfl

/-- A length behind the end of the array makes the handlers read there. -/
theorem rebuild_tooLong {length : UInt8} {data : CECMgr.Data}
    (hlong : CECMgr.maxDataLength + 1 < length.toNat) :
    rebuild length data = .error .undefined := by
  rw [rebuild, sendBytes, if_neg (Nat.not_le.mpr hlong)]
  rfl

theorem carries_of_fits {length : UInt8} {data : CECMgr.Data} {bytes : List UInt8}
    (hlength : length.toNat = bytes.length) (hfits : bytes.length ≤ CECMgr.maxDataLength + 1)
    (hdata : data.toList.take bytes.length = bytes) : Carries length data bytes := by
  have hroom : CECFrame.empty.length + bytes.length ≤ 128 := by
    unfold CECMgr.maxDataLength at hfits
    rw [CECFrame.length_empty]
    omega
  obtain ⟨frameIn, happend, hbytes⟩ := CECFrame.appendAll_extends CECFrame.empty bytes hroom
  refine ⟨frameIn, ?_, by simpa using hbytes⟩
  rw [rebuild, sendBytes, if_pos (by rw [hlength]; exact hfits), hlength, hdata]
  exact happend

end Daemon

/-! ## The two paths -/

section Paths

variable {memcpyS : MemcpyS}

/-- A synchronous write of the frame throws, or is carried: whatever the bus and the daemon
do, and whatever the physical driver answers. -/
def WritesFaithfully (memcpyS : MemcpyS) (frame : CECFrame) : Prop :=
  ∀ (bus : IarmBus), bus.Delivers → ∀ client : DriverImpl, client.status = .opened →
    ∀ (daemon : Daemon) (answer : Int × Int),
      (∃ e, client.write
        (IarmDriver.hdmiCecTx memcpyS bus
          (fun param daemon => (daemon.send (fun _ _ => answer) param, daemon)) daemon)
        frame = throwing e) ∨
      Daemon.Carries (IarmDriver.dataToSend memcpyS frame.bytes).length
        (IarmDriver.dataToSend memcpyS frame.bytes).data frame.bytes

/-- An asynchronous write of the frame throws, or the event it broadcasts is carried. -/
def WritesAsyncFaithfully (memcpyS : MemcpyS) (frame : CECFrame) : Prop :=
  ∀ client : DriverImpl, client.status = .opened →
    (∃ e, (client.writeAsync (IarmDriver.hdmiCecTxAsync memcpyS) frame).1 = throwing e) ∨
    ∃ event, (client.writeAsync (IarmDriver.hdmiCecTxAsync memcpyS) frame).2 = some event ∧
      Daemon.Carries event.length event.data frame.bytes

/-- What the driver puts into either block is carried exactly if it fits the array. -/
theorem carries_copied_iff (hcopies : memcpyS.Copies) (frame : CECFrame) :
    Daemon.Carries (UInt8.ofNat frame.bytes.length)
        (memcpyS.copy CECMgr.Data.zero frame.bytes frame.bytes.length) frame.bytes ↔
      frame.length ≤ CECMgr.maxDataLength + 1 := by
  have hle := frame.length_le
  rw [← CECFrame.bytes_length] at hle
  have hlength : (UInt8.ofNat frame.bytes.length).toNat = frame.bytes.length := by
    rw [UInt8.toNat_ofNat']
    exact Nat.mod_eq_of_lt (by omega)
  rw [← CECFrame.bytes_length]
  constructor
  · rintro ⟨frameIn, hrebuild, -⟩
    rcases Nat.lt_or_ge (CECMgr.maxDataLength + 1) frame.bytes.length with hlong | hfits
    · rw [Daemon.rebuild_tooLong (by rw [hlength]; exact hlong)] at hrebuild
      cases hrebuild
    · exact hfits
  · intro hfits
    refine Daemon.carries_of_fits hlength hfits ?_
    rw [hcopies.fits _ frame.bytes frame.bytes.length hfits (Nat.le_refl _), List.take_length]
    exact List.take_left

/-- A bus that reports a success whatever became of the function, and then hands the block
back as it was. -/
def IarmBus.unaware : IarmBus where
  call registered arg owner :=
    match registered arg owner with
    | (.ok (result, arg'), owner') => (result, arg', owner')
    | (.error _, owner') => (.success, arg, owner')

theorem IarmBus.unaware_delivers : IarmBus.unaware.Delivers := by
  constructor
  intro D P registered arg arg' owner owner' result hreturns
  simp [unaware, hreturns]

/-- With a frame that is too long the synchronous write can return normally. -/
theorem write_tooLong {frame : CECFrame} (hlong : CECMgr.maxDataLength + 1 < frame.length)
    {client : DriverImpl} (hclient : client.status = .opened) (daemon : Daemon)
    (answer : Int × Int) :
    client.write
      (IarmDriver.hdmiCecTx memcpyS IarmBus.unaware
        (fun param daemon => (daemon.send (fun _ _ => answer) param, daemon)) daemon)
      frame = .ok () := by
  have hle := frame.length_le
  have hbytes : frame.bytes ≠ [] := by
    rw [← List.length_pos_iff, CECFrame.bytes_length]
    omega
  have hlength : (IarmDriver.dataToSend memcpyS frame.bytes).length.toNat = frame.length := by
    show (UInt8.ofNat frame.bytes.length).toNat = frame.length
    rw [UInt8.toNat_ofNat', CECFrame.bytes_length]
    exact Nat.mod_eq_of_lt (by omega)
  have hsend : daemon.send (fun _ _ => answer) (IarmDriver.dataToSend memcpyS frame.bytes) =
      .error .undefined := by
    rw [Daemon.send_eq, Daemon.rebuild_tooLong (by rw [hlength]; exact hlong)]
    rfl
  have htx : IarmDriver.hdmiCecTx memcpyS IarmBus.unaware
      (fun param daemon => (daemon.send (fun _ _ => answer) param, daemon)) daemon frame.bytes
      HdmiCecIo.success = (HdmiCecIo.success, HdmiCecIo.success) := by
    rw [IarmDriver.hdmiCecTx, IarmBus.unaware]
    dsimp only
    rw [hsend]
    rfl
  rw [DriverImpl.write_eq _ hclient hbytes, htx]
  have hcode : HdmiCecIo.success ≠ HdmiCecIo.sentButNotAckd := by decide
  simp [DriverImpl.sendOutcome, DriverImpl.isSendFailure_success, hcode]

/-- On each of the two paths a frame is carried faithfully, or refused, exactly if it fits
the array of the block. -/
theorem writes_faithfully_iff (hcopies : memcpyS.Copies) (frame : CECFrame) :
    (WritesFaithfully memcpyS frame ↔ frame.length ≤ 63) ∧
      (WritesAsyncFaithfully memcpyS frame ↔ frame.length ≤ 63) := by
  have hcarries := carries_copied_iff hcopies frame
  have hopened : (DriverImpl.mk .opened (BoundedFifo.empty 32) []).status = .opened := rfl
  refine ⟨⟨fun hfaithful => ?_, fun hfits => ?_⟩, ⟨fun hfaithful => ?_, fun hfits => ?_⟩⟩
  · rcases hfaithful IarmBus.unaware IarmBus.unaware_delivers _ hopened (Daemon.started [])
      (HdmiCecIo.success, HdmiCecIo.sentAndAckd) with ⟨e, hthrows⟩ | hcarried
    · rcases Nat.lt_or_ge 63 frame.length with hlong | hfits
      · rw [write_tooLong hlong hopened] at hthrows
        cases hthrows
      · exact hfits
    · exact hcarries.mp hcarried
  · intro bus hdelivers client hclient daemon answer
    exact .inr (hcarries.mpr hfits)
  · rcases hfaithful _ hopened with ⟨e, hthrows⟩ | ⟨event, hevent, hcarried⟩
    · cases hthrows
    · cases hevent
      exact hcarries.mp hcarried
  · intro client hclient
    refine .inr ⟨IarmDriver.eventToSend memcpyS frame.bytes, ?_, hcarries.mpr hfits⟩
    rw [DriverImpl.writeAsync, if_neg (by rw [hclient]; decide)]
    rfl

end Paths

/-- The longest frame that both paths carry. -/
theorem writes_faithfully_sixtyThree :
    WritesFaithfully MemcpyS.checked (CECFrame.ofBytes (List.replicate 63 0x41) (by decide)) ∧
      WritesAsyncFaithfully MemcpyS.checked
        (CECFrame.ofBytes (List.replicate 63 0x41) (by decide)) :=
  have hfits : (CECFrame.ofBytes (List.replicate 63 0x41) (by decide)).length ≤ 63 := by decide
  ⟨(writes_faithfully_iff MemcpyS.checked_copies _).1.mpr hfits,
    (writes_faithfully_iff MemcpyS.checked_copies _).2.mpr hfits⟩

/-- With one byte more `cecSendEventHandler` reads behind the array, and the client is told
of a success. -/
theorem not_writes_faithfully :
    ¬ ∀ frame : CECFrame, 1 ≤ frame.length →
      WritesFaithfully MemcpyS.checked frame ∧ WritesAsyncFaithfully MemcpyS.checked frame := by
  intro hall
  have hasync := (hall (CECFrame.ofBytes (List.replicate 64 0x41) (by decide)) (by decide)).2
  rcases hasync (DriverImpl.mk .opened (BoundedFifo.empty 32) []) rfl with
    ⟨e, hthrows⟩ | ⟨event, hevent, hcarried⟩
  · cases hthrows
  · cases hevent
    have hfits := (carries_copied_iff MemcpyS.checked_copies _).mp hcarried
    revert hfits
    decide

end HdmiCec
