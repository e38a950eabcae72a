import HdmiCec.Bus.AcceptedSends
import HdmiCec.Daemon.Carrying

/-!
# What leaves the daemon's send handlers

`_Send` and `cecSendEventHandler` are called by the IARM bus, which knows nothing of C++
exceptions.  `_Send` rebuilds the frame and reads its header before its `try` block;
`cecSendEventHandler` has no `try` block at all.

A block that carries at least one byte, and no more than its array holds, comes through
`_Send` whatever the bus and the driver do.  The event handler needs a started bus besides,
but would take an empty block.
-/

namespace HdmiCec

/-! ## The connection of the daemon -/

namespace CECIARMMgr

/-- `m_connection` is null or points to a connection that `start` has made. -/
def Proper (manager : CECIARMMgr) : Prop :=
  manager.m_connection = none ∨
    manager.m_connection = some (Connection.ofSource LogicalAddress.unregistered)

theorem new_proper : new.Proper := .inl rfl

theorem start_proper {manager : CECIARMMgr} (h : manager.Proper) (calls : LibraryCalls) :
    (manager.start calls).1.Proper := by
  unfold start
  split
  · exact h
  · split
    · exact h
    · split
      · exact h
      · exact .inr rfl

theorem stop_proper {manager : CECIARMMgr} (h : manager.Proper) (calls : LibraryCalls) :
    (manager.stop calls).1.Proper := by
  unfold stop
  split
  · exact h
  · split
    · exact h
    · exact h
    · split
      · exact .inl rfl
      · exact .inl rfl

/-- Whatever events the manager gets, and however the calls of the library end. -/
theorem cecMgrEventHandler_proper {manager : CECIARMMgr} (h : manager.Proper)
    (calls : LibraryCalls) (eventId : EventId) (cecEventData : CECMgr.EventData) :
    (manager.cecMgrEventHandler calls eventId cecEventData).1.Proper := by
  have henabled : ∀ enabled, { manager with enabled := enabled }.Proper := fun _ => h
  unfold cecMgrEventHandler
  split
  · split
    · unfold enable
      dsimp only
      split
      · exact start_proper (henabled _) calls
      · exact stop_proper (henabled _) calls
    · exact h
  · exact h

end CECIARMMgr

namespace Daemon

/-! ## Rebuilding the frame -/

/-- A block whose length stays in its array. -/
theorem rebuild_inside {length : UInt8} (data : CECMgr.Data)
    (hinside : length.toNat ≤ CECMgr.maxDataLength + 1) :
    ∃ frameIn, rebuild length data = .ok frameIn ∧ frameIn.length = length.toNat := by
  have hlength : (data.toList.take length.toNat).length = length.toNat := by
    rw [List.length_take, Vector.length_toList]
    omega
  have hcarries : Carries length data (data.toList.take length.toNat) :=
    carries_of_fits hlength.symm (by omega) (by rw [hlength])
  obtain ⟨frameIn, hrebuild, hbytes⟩ := hcarries
  refine ⟨frameIn, hrebuild, ?_⟩
  rw [← CECFrame.bytes_length, hbytes, hlength]

/-- The frame that is rebuilt if the bytes behind the array are `behind`: what the read
outside comes to on a machine that allows it. -/
def rebuildBehind (behind : List UInt8) (length : UInt8) (data : CECMgr.Data) :
    Result CECFrame :=
  CECFrame.empty.appendAll ((data.toList ++ behind).take length.toNat)

/-- Even then a length of more than 128 ends in `std::out_of_range`. -/
theorem rebuildBehind_overflows {behind : List UInt8} {length : UInt8} (data : CECMgr.Data)
    (hbehind : 192 ≤ behind.length) (hlong : 128 < length.toNat) :
    rebuildBehind behind length data = throwing .outOfRange := by
  have hbound := length.toNat_lt
  apply CECFrame.appendAll_overflows
  rw [CECFrame.length_empty, List.length_take, List.length_append, Vector.length_toList]
  unfold CECMgr.maxDataLength
  omega

/-! ## `_Send` -/

/-- What `Connection::send` comes to in `_Send`. -/
def sentOutcome (hdmiCecTx : HdmiCecTx) (daemon : Daemon) (connection : Connection)
    (frameIn : CECFrame) : Result Unit :=
  connection.send daemon.library.driver
    (fun frame => (Bus.send daemon.library.started
      (fun _ => daemon.library.driver.write hdmiCecTx frame) 0).2) frameIn

/-- The call returns, and a success means that `retVal` has the code of the outcome. -/
def SendReturns (hdmiCecTx : HdmiCecTx) (param : CECMgr.SendParam) (daemon : Daemon) : Prop :=
  ∃ result param', daemon.send hdmiCecTx param = .ok (result, param') ∧
    (result = .success → ∃ connection frameIn,
      daemon.manager.m_connection = some connection ∧
        rebuild param.length param.data = .ok frameIn ∧
        (param'.retVal.toNat : Int) =
          retValOf (sentOutcome hdmiCecTx daemon connection frameIn))

/-- The clauses of `_Send` turn every outcome of a send into its code. -/
theorem catching_ccecOutcome {outcome : Result Unit} (h : Bus.CCECOutcome outcome) :
    catching Exception.isCCEC (outcome.map fun _ => HdmiCecIo.sentAndAckd)
      (fun e => if e = .cecNoAckException then .ok HdmiCecIo.sentButNotAckd
        else .ok HdmiCecIo.sentFailed) = .ok (retValOf outcome) := by
  obtain rfl | ⟨e, hccec, rfl⟩ := h
  · rfl
  · cases e with
    | outOfRange => cases hccec
    | lengthError => cases hccec
    | cecNoAckException => rfl
    | _ => rfl

/-- A frame with a header is sent, or an exception of the library comes back. -/
theorem sentOutcome_ccec (hdmiCecTx : HdmiCecTx) (daemon : Daemon) {frameIn : CECFrame}
    (hframe : 1 ≤ frameIn.length) :
    Bus.CCECOutcome (sentOutcome hdmiCecTx daemon
      (Connection.ofSource LogicalAddress.unregistered) frameIn) := by
  have hne : frameIn.bytes ≠ [] := by
    rw [← List.length_pos_iff, CECFrame.bytes_length]
    exact hframe
  obtain ⟨first, rest, hbytes⟩ := List.exists_cons_of_ne_nil hne
  obtain ⟨frame, first', hmatch, hframeBytes, -⟩ :=
    Connection.matchSource_bytes (Connection.ofSource LogicalAddress.unregistered)
      daemon.library.driver (LogicalAddress.toInt_ofByte 15) hbytes
  have hlength : 1 ≤ frame.length := by
    rw [← CECFrame.bytes_length, hframeBytes, List.length_cons]
    omega
  rw [sentOutcome, Connection.send, hmatch, Result.ok_bind, catching_rethrow]
  cases daemon.library.started with
  | true =>
      rw [Bus.send_zero]
      exact Bus.driverWrite_ccecOutcome daemon.library.driver hdmiCecTx hlength
  | false => exact .inr ⟨.invalidStateException, rfl, rfl⟩

/-- With a rebuilt frame that has a header `_Send` returns. -/
theorem sendFrame_returns (hdmiCecTx : HdmiCecTx) (param : CECMgr.SendParam)
    {daemon : Daemon} (hproper : daemon.manager.Proper) {frameIn : CECFrame}
    (hframe : 1 ≤ frameIn.length) :
    ∃ result param', daemon.sendFrame hdmiCecTx param frameIn = .ok (result, param') ∧
      (result = .success → ∃ connection, daemon.manager.m_connection = some connection ∧
        (param'.retVal.toNat : Int) =
          retValOf (sentOutcome hdmiCecTx daemon connection frameIn)) := by
  obtain ⟨header, hheader⟩ := @Header.ofFrame_returns frameIn 0 (by omega)
  unfold sendFrame
  rw [hheader, Result.ok_bind]
  dsimp only
  rw [OpCode.ofFrame_logged]
  rcases hproper with hnone | hsome
  · refine ⟨.invalidState, param, ?_, fun hsuccess => nomatch hsuccess⟩
    rw [hnone]
    rfl
  · have hretVal := catching_ccecOutcome (sentOutcome_ccec hdmiCecTx daemon hframe)
    refine ⟨.success, { param with retVal := _ }, ?_, fun _ =>
      ⟨Connection.ofSource LogicalAddress.unregistered, hsome, retValOf_byte _⟩⟩
    rw [sentOutcome] at hretVal
    rw [hsome]
    dsimp only
    rw [hretVal]
    rfl

/-- An empty block: the header is read past the end of the frame. -/
theorem send_empty (hdmiCecTx : HdmiCecTx) {param : CECMgr.SendParam}
    (hempty : param.length.toNat = 0) (daemon : Daemon) :
    daemon.send hdmiCecTx param = throwing .outOfRange := by
  obtain ⟨frameIn, hrebuild, hlength⟩ :=
    @rebuild_inside param.length param.data (by rw [hempty]; omega)
  rw [send_eq, hrebuild, Result.ok_bind, sendFrame, Header.ofFrame_empty (by omega)]
  rfl

/-- `_Send` returns exactly if the block carries a byte and no more than its array holds. -/
theorem sendReturns_iff (hdmiCecTx : HdmiCecTx) (param : CECMgr.SendParam) {daemon : Daemon}
    (hproper : daemon.manager.Proper) :
    SendReturns hdmiCecTx param daemon ↔
      1 ≤ param.length.toNat ∧ param.length.toNat ≤ CECMgr.maxDataLength + 1 := by
  constructor
  · rintro ⟨result, param', hsend, -⟩
    constructor
    · rcases Nat.eq_zero_or_pos param.length.toNat with hempty | hpos
      · rw [send_empty hdmiCecTx hempty] at hsend
        cases hsend
      · exact hpos
    · rcases Nat.lt_or_ge (CECMgr.maxDataLength + 1) param.length.toNat with hlong | hinside
      · rw [send_eq, rebuild_tooLong hlong] at hsend
        cases hsend
      · exact hinside
  · rintro ⟨hpos, hinside⟩
    obtain ⟨frameIn, hrebuild, hlength⟩ := rebuild_inside param.data hinside
    obtain ⟨result, param', hframe, hcode⟩ :=
      sendFrame_returns hdmiCecTx param hproper (by rw [hlength]; exact hpos)
    refine ⟨result, param', ?_, ?_⟩
    · rw [send_eq, hrebuild, Result.ok_bind, hframe]
    · intro hsuccess
      obtain ⟨connection, hconnection, hretVal⟩ := hcode hsuccess
      exact ⟨connection, frameIn, hconnection, hrebuild, hretVal⟩

/-! ## `cecSendEventHandler` -/

/-- The handler returns, on the daemon's bus with this write queue. -/
def EventReturns (wQueue : BoundedFifo (Option CECFrame)) (cecEventData : CECMgr.EventData)
    (daemon : Daemon) : Prop :=
  daemon.cecSendEventHandler
    (fun frame => (Bus.asyncSend daemon.library.started wQueue frame).outcome) cecEventData =
      .ok ()

/-- The handler returns exactly if the block carries no more than its array holds, and there
is no connection or its bus is started. -/
theorem eventReturns_iff (wQueue : BoundedFifo (Option CECFrame))
    (cecEventData : CECMgr.EventData) {daemon : Daemon} (hproper : daemon.manager.Proper) :
    EventReturns wQueue cecEventData daemon ↔
      cecEventData.length.toNat ≤ CECMgr.maxDataLength + 1 ∧
        (daemon.manager.m_connection = none ∨ daemon.library.started = true) := by
  unfold EventReturns cecSendEventHandler
  rcases Nat.lt_or_ge (CECMgr.maxDataLength + 1) cecEventData.length.toNat with hlong | hinside
  · rw [rebuild_tooLong hlong]
    refine iff_of_false (fun h => nomatch h) ?_
    rintro ⟨hle, -⟩
    omega
  · obtain ⟨frameIn, hrebuild, -⟩ := rebuild_inside cecEventData.data hinside
    rw [hrebuild, Result.ok_bind]
    rcases hproper with hnone | hsome
    · rw [hnone]
      exact iff_of_true rfl ⟨hinside, .inl rfl⟩
    · obtain ⟨sent, hmatch, -⟩ := @SendPaths.matchSource_returns
        (Connection.ofSource LogicalAddress.unregistered) 15 rfl daemon.library.driver frameIn
      rw [hsome]
      dsimp only
      rw [Connection.sendAsync, hmatch, Result.ok_bind]
      cases daemon.library.started with
      | true => exact iff_of_true rfl ⟨hinside, .inr rfl⟩
      | false =>
          refine iff_of_false (fun h => nomatch h) ?_
          rintro ⟨-, hnone | hstarted⟩
          · cases hnone
          · cases hstarted

/-- When nothing leaves the send handlers. -/
theorem handlers_return_iff {daemon : Daemon} (hproper : daemon.manager.Proper) :
    (∀ (hdmiCecTx : HdmiCecTx) (param : CECMgr.SendParam),
      SendReturns hdmiCecTx param daemon ↔
        1 ≤ param.length.toNat ∧ param.length.toNat ≤ 63) ∧
      ∀ (wQueue : BoundedFifo (Option CECFrame)) (cecEventData : CECMgr.EventData),
        EventReturns wQueue cecEventData daemon ↔
          cecEventData.length.toNat ≤ 63 ∧
            (daemon.manager.m_connection = none ∨ daemon.library.started = true) :=
  ⟨fun hdmiCecTx param => sendReturns_iff hdmiCecTx param hproper,
    fun wQueue cecEventData => eventReturns_iff wQueue cecEventData hproper⟩

/-- A daemon whose bus has been stopped behind its back returns from `_Send` all the same. -/
theorem handlers_return_iff_stopped :
    let daemon : Daemon :=
      { started [] with library := { (started []).library with started := false } }
    SendReturns (fun _ _ => (HdmiCecIo.success, HdmiCecIo.sentAndAckd))
      ⟨2, CECMgr.Data.zero, 0⟩ daemon :=
  ((@handlers_return_iff
      { started [] with library := { (started []).library with started := false } }
      (.inr rfl)).1 _ ⟨2, CECMgr.Data.zero, 0⟩).mpr (by decide)

/-- A block of length 0: `std::out_of_range` leaves `_Send`, with a connection and without
one.  On a bus that is not started `InvalidStateException` leaves the event handler. -/
theorem not_handlers_return :
    let stopped : Daemon :=
      { started [] with library := { (started []).library with started := false } }
    Daemon.send (fun _ _ => (HdmiCecIo.success, HdmiCecIo.sentAndAckd))
        ⟨0, CECMgr.Data.zero, 0⟩ (started []) = throwing .outOfRange ∧
      ¬ SendReturns (fun _ _ => (HdmiCecIo.success, HdmiCecIo.sentAndAckd))
        ⟨0, CECMgr.Data.zero, 0⟩ (started []) ∧
      ¬ EventReturns (.empty 32) ⟨2, CECMgr.Data.zero⟩ stopped := by
  dsimp only
  refine ⟨send_empty _ rfl _, ?_, ?_⟩
  · rw [sendReturns_iff _ _ (.inr rfl)]
    decide
  · rw [eventReturns_iff _ _ (.inr rfl)]
    rintro ⟨-, hnone | hstarted⟩
    · cases hnone
    · cases hstarted

end Daemon

end HdmiCec
