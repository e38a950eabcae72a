import HdmiCec.Daemon.CecIARMBusMgr

/-!
# A send over two hops

A client process writes to the pseudo-driver; the daemon's `_Send` writes to the
physical driver and reports the outcome in `retVal`; the pseudo-driver hands
`retVal` back as the result of the transmission, and the client's `write` turns it
into an outcome again.

The four translations lose information: every code of a failed transmission
becomes `HDMI_CEC_IO_SENT_FAILED`, and a missing acknowledgement that nobody
waits for becomes `HDMI_CEC_IO_SENT_AND_ACKD`.  What `sendOutcome` makes of the
codes is the same before and after (`sendOutcome_retVal`), and the change of the
initiator by `matchSource` does not matter to it (`expectsAck_newInitiator`).
-/

namespace HdmiCec

/-- The code that `_Send` stores in `retVal` for an outcome of `Connection::send`. -/
def retValOf : Result Unit → Int
  | .ok () => HdmiCecIo.sentAndAckd
  | .error (.throws .cecNoAckException) => HdmiCecIo.sentButNotAckd
  | .error _ => HdmiCecIo.sentFailed

namespace DriverImpl

/-- A write ends in one of three ways. -/
theorem sendOutcome_cases (bytes : List UInt8) (err sendResult : Int) :
    sendOutcome bytes err sendResult = .ok () ∨
      sendOutcome bytes err sendResult = throwing .ioException ∨
      sendOutcome bytes err sendResult = throwing .cecNoAckException ∧
        expectsAck bytes = true := by
  unfold sendOutcome
  split
  · exact .inr (.inl rfl)
  · split
    · next hnoAck => exact .inr (.inr ⟨rfl, hnoAck.1⟩)
    · exact .inl rfl

/-- Another initiator leaves a frame that waits for an acknowledgement one. -/
theorem expectsAck_newInitiator {first first' : UInt8} (rest : List UInt8)
    (hfollower : first' &&& 0x0F = first &&& 0x0F) :
    expectsAck (first' :: rest) = expectsAck (first :: rest) := by
  rw [expectsAck, expectsAck, hfollower]

theorem sendOutcome_newInitiator {first first' : UInt8} (rest : List UInt8)
    (hfollower : first' &&& 0x0F = first &&& 0x0F) (err sendResult : Int) :
    sendOutcome (first' :: rest) err sendResult = sendOutcome (first :: rest) err sendResult := by
  rw [sendOutcome, sendOutcome, expectsAck_newInitiator rest hfollower]

/-- The way back: a client that is told the `retVal` of an outcome ends with
that outcome. -/
theorem sendOutcome_retVal (bytes : List UInt8) (err sendResult : Int) :
    sendOutcome bytes HdmiCecIo.success (retValOf (sendOutcome bytes err sendResult)) =
      sendOutcome bytes err sendResult := by
  obtain hreturns | hfails | ⟨hnoAck, hexpects⟩ := sendOutcome_cases bytes err sendResult
  · rw [hreturns]
    -- `HDMI_CEC_IO_SENT_AND_ACKD` is neither a failure nor a missing acknowledgement
    have hcode : isSendFailure HdmiCecIo.sentAndAckd = false := by decide
    have hnotNak : HdmiCecIo.sentAndAckd ≠ HdmiCecIo.sentButNotAckd := by decide
    simp [sendOutcome, retValOf, hcode, hnotNak]
  · rw [hfails]
    have hcode : isSendFailure HdmiCecIo.sentFailed = true := by decide
    simp [sendOutcome, retValOf, throwing, hcode]
  · rw [hnoAck]
    have hcode : isSendFailure HdmiCecIo.sentButNotAckd = false := by decide
    simp [sendOutcome, retValOf, throwing, hcode, hexpects]

end DriverImpl

namespace Daemon

/-- The codes of `retVal` fit its byte. -/
theorem retValOf_byte (outcome : Result Unit) :
    ((UInt8.ofNat (retValOf outcome).toNat).toNat : Int) = retValOf outcome := by
  cases outcome with
  | ok _ => rfl
  | error r =>
      cases r with
      | throws e => cases e <;> rfl
      | assertFails | unexpected | undefined => rfl

/-- The three clauses around `Connection::send` in `_Send` store `retValOf`, as
long as nothing but an exception of the library comes out of it. -/
theorem catching_retVal {outcome : Result Unit}
    (hccec : outcome = .ok () ∨ outcome = throwing .ioException ∨
      outcome = throwing .cecNoAckException) :
    catching Exception.isCCEC (outcome.map fun _ => HdmiCecIo.sentAndAckd)
      (fun e => if e = .cecNoAckException then .ok HdmiCecIo.sentButNotAckd
        else .ok HdmiCecIo.sentFailed) = .ok (retValOf outcome) := by
  obtain rfl | rfl | rfl := hccec <;> rfl

/-- Through the connection of a started daemon a frame goes to the driver, with
another initiator at most. -/
theorem connection_send_eq {library : Library} (hrunning : library.IsRunning)
    {frame : CECFrame} {first : UInt8} {rest : List UInt8}
    (hbytes : frame.bytes = first :: rest) (err sendResult : Int) :
    (Connection.ofSource LogicalAddress.unregistered).send library.driver
        (fun frame => (Bus.send library.started
          (fun _ => library.driver.write (fun _ _ => (err, sendResult)) frame) 0).2) frame =
      DriverImpl.sendOutcome (first :: rest) err sendResult := by
  obtain ⟨frame', first', hmatch, hbytes', hfollower⟩ :=
    Connection.matchSource_bytes (Connection.ofSource LogicalAddress.unregistered) library.driver
      (LogicalAddress.toInt_ofByte 15) hbytes
  have hne : frame'.bytes ≠ [] := by simp [hbytes']
  rw [Connection.send, hmatch, Result.ok_bind, catching_rethrow, hrunning.started, Bus.send_zero,
    DriverImpl.write_eq _ hrunning.opened hne, hbytes',
    DriverImpl.sendOutcome_newInitiator rest hfollower]

/-- `_Send` of a started daemon, for a block that carries a frame. -/
theorem send_started {daemon : Daemon} (hstarted : daemon.IsStarted)
    {param : CECMgr.SendParam} {first : UInt8} {rest : List UInt8}
    (hfits : param.length.toNat ≤ CECMgr.maxDataLength + 1)
    (hdata : param.data.toList.take param.length.toNat = first :: rest)
    (err sendResult : Int) :
    ∃ param', daemon.send (fun _ _ => (err, sendResult)) param = .ok (.success, param') ∧
      (param'.retVal.toNat : Int) =
        retValOf (DriverImpl.sendOutcome (first :: rest) err sendResult) := by
  have hbuf : sendBytes param = .ok (first :: rest) := by
    rw [sendBytes, if_pos hfits, hdata]
  have hroom : CECFrame.empty.length + (first :: rest).length ≤ 128 := by
    have htake := List.length_take_le param.length.toNat param.data.toList
    rw [hdata] at htake
    unfold CECMgr.maxDataLength at hfits
    rw [CECFrame.length_empty]
    omega
  obtain ⟨frameIn, happend, hbytes⟩ :=
    CECFrame.appendAll_extends CECFrame.empty (first :: rest) hroom
  rw [CECFrame.bytes_empty, List.nil_append] at hbytes
  have hlength : frameIn.length = rest.length + 1 := by
    rw [← CECFrame.bytes_length, hbytes, List.length_cons]
  obtain ⟨header, hheader⟩ : ∃ header, Header.ofFrame frameIn 0 = .ok header :=
    Header.ofFrame_returns (by omega)
  have hsent := connection_send_eq hstarted.running hbytes err sendResult
  have houtcome := DriverImpl.sendOutcome_cases (first :: rest) err sendResult
  have hretVal := catching_retVal (houtcome.imp_right (Or.imp_right And.left))
  refine ⟨{ param with retVal := _ }, ?_, retValOf_byte _⟩
  rw [send, hbuf, Result.ok_bind, happend, Result.ok_bind, hheader, Result.ok_bind,
    hstarted.connection]
  dsimp only
  rw [OpCode.ofFrame_logged, hsent, hretVal]
  rfl

end Daemon

/-! ## The two hops together -/

section TwoHops

variable {memcpyS : MemcpyS} {bus : IarmBus}

/-- The pseudo-driver in front of a started daemon reports every transmission as
done, with the code of the daemon's outcome as its result. -/
theorem IarmDriver.hdmiCecTx_eq (hcopies : memcpyS.Copies) (hdelivers : bus.Delivers)
    {daemon : Daemon} (hstarted : daemon.IsStarted) {first : UInt8} {rest : List UInt8}
    (hfits : (first :: rest).length ≤ CECMgr.maxDataLength + 1) (err sendResult result : Int) :
    IarmDriver.hdmiCecTx memcpyS bus
        (fun param daemon => (daemon.send (fun _ _ => (err, sendResult)) param, daemon))
        daemon (first :: rest) result =
      (HdmiCecIo.success,
        retValOf (DriverImpl.sendOutcome (first :: rest) err sendResult)) := by
  obtain ⟨hlength, hdata⟩ := IarmDriver.dataToSend_carries hcopies hfits
  obtain ⟨param', hsend, hretVal⟩ :=
    Daemon.send_started hstarted (by rw [hlength]; exact hfits) (by rw [hlength, hdata])
      err sendResult
  have hcall := hdelivers.call
    (fun param daemon => (Daemon.send (fun _ _ => (err, sendResult)) param daemon, daemon))
    (IarmDriver.dataToSend memcpyS (first :: rest)) param' daemon daemon .success
    (by rw [hsend])
  rw [IarmDriver.hdmiCecTx, hcall]
  exact congrArg (Prod.mk HdmiCecIo.success) hretVal

/-- A client that writes over the pseudo-driver ends as it would on the physical
driver itself, for every frame that fits the parameter block and every answer of
the physical `HdmiCecTx`. -/
theorem write_twoHops (hcopies : memcpyS.Copies) (hdelivers : bus.Delivers)
    {client : DriverImpl} (hclient : client.status = .opened)
    {daemon : Daemon} (hstarted : daemon.IsStarted)
    (frame : CECFrame) (hne : 1 ≤ frame.length) (hfits : frame.length ≤ 63)
    (err sendResult : Int) :
    client.write (IarmDriver.hdmiCecTx memcpyS bus
        (fun param daemon => (daemon.send (fun _ _ => (err, sendResult)) param, daemon))
        daemon) frame =
      daemon.library.driver.write (fun _ _ => (err, sendResult)) frame := by
  have hbytes : frame.bytes ≠ [] := by
    rw [← List.length_pos_iff, CECFrame.bytes_length]
    exact hne
  obtain ⟨first, rest, hcons⟩ := List.exists_cons_of_ne_nil hbytes
  have hlength : (first :: rest).length ≤ CECMgr.maxDataLength + 1 := by
    rw [← hcons, CECFrame.bytes_length]
    exact hfits
  rw [DriverImpl.write_eq _ hclient hbytes, DriverImpl.write_eq _ hstarted.running.opened hbytes,
    hcons, IarmDriver.hdmiCecTx_eq hcopies hdelivers hstarted hlength]
  exact DriverImpl.sendOutcome_retVal (first :: rest) err sendResult

end TwoHops

/-- A broadcast <Report Physical Address> that nobody acknowledges, sent by a
client while the daemon's driver owns the address 15: the daemon puts its own
initiator into the frame, and the client gets the exception all the same. -/
theorem write_twoHops_reportPhysicalAddress :
    (DriverImpl.mk .opened (BoundedFifo.empty 32) []).write
        (IarmDriver.hdmiCecTx MemcpyS.checked IarmBus.synchronous
          (fun param daemon =>
            (Daemon.send (fun _ _ => (HdmiCecIo.success, HdmiCecIo.sentButNotAckd)) param daemon,
              daemon))
          (Daemon.started [LogicalAddress.unregistered]))
        (CECFrame.ofBytes [0x3F, 0x84, 0x10, 0x00, 0x03] (by decide)) =
      throwing .cecNoAckException :=
  write_twoHops MemcpyS.checked_copies IarmBus.synchronous_delivers rfl
    (Daemon.started_isStarted [LogicalAddress.unregistered])
    (CECFrame.ofBytes [0x3F, 0x84, 0x10, 0x00, 0x03] (by decide)) (by decide) (by decide)
    HdmiCecIo.success HdmiCecIo.sentButNotAckd

end HdmiCec
