import HdmiCec.Core.MessageProcessor
import HdmiCec.Core.RoundTrip
import HdmiCec.Daemon.Send

/-!
# Polls and pings

`Connection::poll` asks whether a logical address is free, and `Connection::ping` whether a
device is there.  Both put one byte on the bus, the two addresses, and report whether
somebody has acknowledged it: `DriverImpl::poll` makes a frame of the byte and writes it.

On the pseudo-driver the byte goes through `_Send`, where `matchSource` may put the address
15 of the daemon in the place of the initiator.  The physical driver is a function of the
bytes here, so that it makes a difference which ones it is given (`initiated`).
-/

namespace HdmiCec

/-! ## The calls -/

namespace DriverImpl

/-- `(((from.toInt() & 0x0F) << 4) | (to.toInt() & 0x0F))`. -/
def firstByte (from_ to_ : UInt8) : UInt8 :=
  ((from_ &&& 0x0F) <<< (4 : UInt8)) ||| (to_ &&& 0x0F)

/-- `poll(const LogicalAddress &from, const LogicalAddress &to)`. -/
def poll (driver : DriverImpl) (hdmiCecTx : HdmiCecTx) (from_ to_ : LogicalAddress) :
    Result Unit := do
  let frame ← CECFrame.empty.append (firstByte (← from_.toInt) (← to_.toInt))
  driver.write hdmiCecTx frame

end DriverImpl

namespace Bus

/-- The locked section of `Bus::poll` and `Bus::ping`.  The catch clause logs and
rethrows. -/
def pollDriver (started : Bool) (driverPoll : Result Unit) : Result Unit :=
  if started then
    catching Exception.isCCEC driverPoll throwing
  else
    throwing .invalidStateException

/-- `Bus::poll(const LogicalAddress &from, const LogicalAddress &to)`. -/
def poll (started : Bool) (driverPoll : LogicalAddress → LogicalAddress → Result Unit)
    (from_ to_ : LogicalAddress) : Result Unit :=
  pollDriver started (driverPoll from_ to_)

/-- `Bus::ping(const LogicalAddress &from, const LogicalAddress &to)`. -/
def ping (started : Bool) (driverPoll : LogicalAddress → LogicalAddress → Result Unit)
    (from_ to_ : LogicalAddress) : Result Unit :=
  pollDriver started (driverPoll from_ to_)

end Bus

namespace Connection

/-- `poll(const LogicalAddress &from, const Throw_e &doThrow)`. -/
def poll (busPoll : LogicalAddress → LogicalAddress → Result Unit) (from_ : LogicalAddress) :
    Result Unit :=
  catching Exception.isCCEC (busPoll from_ from_) throwing

/-- `ping(const LogicalAddress &from, const LogicalAddress &to, const Throw_e &doThrow)`. -/
def ping (busPing : LogicalAddress → LogicalAddress → Result Unit)
    (from_ to_ : LogicalAddress) : Result Unit :=
  catching Exception.isCCEC (busPing from_ to_) throwing

end Connection

namespace Library

/-- `Connection::poll` on the bus and the driver of a process. -/
def poll (library : Library) (hdmiCecTx : HdmiCecTx) (from_ : LogicalAddress) : Result Unit :=
  Connection.poll (Bus.poll library.started (library.driver.poll hdmiCecTx)) from_

/-- `Connection::ping` on the bus and the driver of a process. -/
def ping (library : Library) (hdmiCecTx : HdmiCecTx) (from_ to_ : LogicalAddress) :
    Result Unit :=
  Connection.ping (Bus.ping library.started (library.driver.poll hdmiCecTx)) from_ to_

/-- A poll is a ping of its own address. -/
theorem poll_eq_ping (library : Library) (hdmiCecTx : HdmiCecTx) (from_ : LogicalAddress) :
    library.poll hdmiCecTx from_ = library.ping hdmiCecTx from_ from_ := rfl

end Library

/-! ## The byte -/

namespace DriverImpl

theorem firstByte_follower (from_ to_ : UInt8) :
    firstByte from_ to_ &&& 0x0F = to_ &&& 0x0F := by
  rw [firstByte, UInt8.or_comm]
  have h := Connection.follower_of_newInitiator to_ from_
  exact h

theorem and_fifteen_le (byte : UInt8) : byte &&& 0x0F ≤ 15 := by
  rw [UInt8.le_iff_toNat_le]
  exact Nat.and_le_right

/-- Nobody waits for the acknowledgement of a broadcast. -/
theorem expectsAck_firstByte (from_ to_ : UInt8) :
    expectsAck [firstByte from_ to_] = true ↔ to_ &&& 0x0F ≠ 15 := by
  rw [expectsAck, firstByte_follower]
  simp

/-- A poll writes the one byte. -/
theorem poll_eq_write (driver : DriverImpl) (hdmiCecTx : HdmiCecTx) (from_ to_ : UInt8) :
    ∃ frame : CECFrame, frame.bytes = [firstByte from_ to_] ∧
      driver.poll hdmiCecTx (CECBytes.ofByte from_) (CECBytes.ofByte to_) =
        driver.write hdmiCecTx frame := by
  obtain ⟨frame, happend, hbytes⟩ :=
    CECFrame.append_extends CECFrame.empty (firstByte from_ to_) (by decide)
  refine ⟨frame, hbytes, ?_⟩
  simp only [poll, LogicalAddress.toInt_ofByte, Result.ok_bind, happend]

end DriverImpl

theorem Library.ping_eq {library : Library} (hrunning : library.IsRunning)
    (hdmiCecTx : HdmiCecTx) (from_ to_ : UInt8) :
    library.ping hdmiCecTx (CECBytes.ofByte from_) (CECBytes.ofByte to_) =
      DriverImpl.sendOutcome [DriverImpl.firstByte from_ to_]
        (hdmiCecTx [DriverImpl.firstByte from_ to_] HdmiCecIo.success).1
        (hdmiCecTx [DriverImpl.firstByte from_ to_] HdmiCecIo.success).2 := by
  obtain ⟨frame, hbytes, hpoll⟩ :=
    DriverImpl.poll_eq_write library.driver hdmiCecTx from_ to_
  rw [ping, Connection.ping, catching_rethrow, Bus.ping, Bus.pollDriver, if_pos hrunning.started,
    catching_rethrow, hpoll,
    DriverImpl.write_eq _ hrunning.opened (by rw [hbytes]; exact List.cons_ne_nil _ _), hbytes]

/-! ## What the physical driver is given -/

namespace Daemon

/-- The first byte of a frame behind the daemon's `matchSource`. -/
def initiated (daemon : Daemon) (first : UInt8) : UInt8 :=
  if daemon.library.driver.isValidLogicalAddress LogicalAddress.unregistered then
    (first &&& 0x0F) ||| 0xF0
  else
    first

/-- The upper half of a byte that keeps it. -/
theorem or_upper_eq {first : UInt8} (h : (first >>> (4 : UInt8)) &&& 0x0F = 0x0F &&& 0x0F) :
    (first &&& 0x0F) ||| 0xF0 = first := by
  have hall : ∀ n : Fin 256, (UInt8.ofNat n >>> (4 : UInt8)) &&& 0x0F = 0x0F &&& 0x0F →
      (UInt8.ofNat n &&& 0x0F) ||| 0xF0 = UInt8.ofNat n := by decide +kernel
  have hfirst := hall ⟨first.toNat, first.toNat_lt⟩
  rw [UInt8.ofNat_toNat] at hfirst
  exact hfirst h

theorem matchSource_initiated (daemon : Daemon) {frame : CECFrame} {first : UInt8}
    {rest : List UInt8} (hbytes : frame.bytes = first :: rest) :
    ∃ frame', (Connection.ofSource LogicalAddress.unregistered).matchSource
        daemon.library.driver frame = .ok frame' ∧
      frame'.bytes = daemon.initiated first :: rest := by
  have hsource : (Connection.ofSource LogicalAddress.unregistered).source.toInt = .ok 0x0F :=
    LogicalAddress.toInt_ofByte 15
  unfold Connection.matchSource initiated
  rw [hsource, Connection.getD_of_bytes hbytes]
  by_cases hvalid : daemon.library.driver.isValidLogicalAddress LogicalAddress.unregistered
  · rw [if_pos hvalid, Result.ok_bind]
    rw [Connection.ofSource, if_pos hvalid]
    dsimp only
    by_cases hsame : (first >>> (4 : UInt8)) &&& 0x0F = 0x0F &&& 0x0F
    · rw [if_neg (not_not_intro hsame), or_upper_eq hsame]
      exact ⟨frame, rfl, hbytes⟩
    · rw [if_pos hsame]
      exact ⟨_, rfl, Connection.storeFirst_bytes hbytes _⟩
  · rw [if_neg hvalid, Connection.ofSource, if_neg hvalid]
    exact ⟨frame, rfl, hbytes⟩

/-- The daemon's `_Send` works on the answer to one call of the physical driver. -/
theorem send_congr {daemon : Daemon} (hstarted : daemon.IsStarted) {param : CECMgr.SendParam}
    {first : UInt8} {rest : List UInt8}
    (hfits : param.length.toNat ≤ CECMgr.maxDataLength + 1)
    (hdata : param.data.toList.take param.length.toNat = first :: rest)
    (hdmiCecTx : HdmiCecTx) :
    daemon.send hdmiCecTx param =
      daemon.send
        (fun _ _ => hdmiCecTx (daemon.initiated first :: rest) HdmiCecIo.success) param := by
  have hbuf : sendBytes param = .ok (first :: rest) := by
    rw [sendBytes, if_pos hfits, hdata]
  rw [send, send, hbuf, Result.ok_bind, Result.ok_bind]
  cases happend : CECFrame.empty.appendAll (first :: rest) with
  | error r => rfl
  | ok frameIn =>
      have hroom : (first :: rest).length ≤ 128 := by
        have htake := List.length_take_le param.length.toNat param.data.toList
        rw [hdata] at htake
        unfold CECMgr.maxDataLength at hfits
        omega
      obtain ⟨frame, hframe, hbytes⟩ :=
        CECFrame.appendAll_extends CECFrame.empty (first :: rest) (by simpa using hroom)
      rw [happend] at hframe
      cases hframe
      rw [CECFrame.bytes_empty, List.nil_append] at hbytes
      obtain ⟨frame', hmatch, hbytes'⟩ := daemon.matchSource_initiated hbytes
      rw [hstarted.connection]
      simp only [Result.ok_bind, Connection.send, hmatch]
      -- only the bytes of this frame are handed to the driver
      have hwrite : daemon.library.driver.write hdmiCecTx frame' =
          daemon.library.driver.write
            (fun _ _ => hdmiCecTx (daemon.initiated first :: rest) HdmiCecIo.success) frame' := by
        rw [← hbytes']
        rfl
      rw [hwrite]

end Daemon

/-- The pseudo-driver in front of a started daemon, on any physical driver. -/
theorem IarmDriver.hdmiCecTx_initiated {memcpyS : MemcpyS} {bus : IarmBus}
    (hcopies : memcpyS.Copies) (hdelivers : bus.Delivers) {daemon : Daemon}
    (hstarted : daemon.IsStarted) {first : UInt8} {rest : List UInt8}
    (hfits : (first :: rest).length ≤ CECMgr.maxDataLength + 1) (tx : HdmiCecTx) (result : Int) :
    IarmDriver.hdmiCecTx memcpyS bus
        (fun param daemon => (daemon.send tx param, daemon)) daemon (first :: rest) result =
      (HdmiCecIo.success,
        retValOf (DriverImpl.sendOutcome (first :: rest)
          (tx (daemon.initiated first :: rest) HdmiCecIo.success).1
          (tx (daemon.initiated first :: rest) HdmiCecIo.success).2)) := by
  obtain ⟨hlength, hdata⟩ := IarmDriver.dataToSend_carries hcopies hfits
  rw [← hlength] at hfits
  rw [← hlength] at hdata
  obtain ⟨param', hsend, hretVal⟩ :=
    Daemon.send_started hstarted hfits hdata
      (tx (daemon.initiated first :: rest) HdmiCecIo.success).1
      (tx (daemon.initiated first :: rest) HdmiCecIo.success).2
  have hsend' : daemon.send tx (IarmDriver.dataToSend memcpyS (first :: rest)) =
      .ok (.success, param') := by
    rw [Daemon.send_congr hstarted hfits hdata]
    exact hsend
  have hcall := hdelivers.call (fun param daemon => (Daemon.send tx param daemon, daemon))
    (IarmDriver.dataToSend memcpyS (first :: rest)) param' daemon daemon .success
    (by rw [hsend'])
  rw [IarmDriver.hdmiCecTx, hcall]
  exact congrArg (Prod.mk HdmiCecIo.success) hretVal

/-! ## A ping over two hops -/

/-- The outcome that the answer of the physical driver to the byte of a ping stands for. -/
def pingOutcome (to_ : UInt8) (err sendResult : Int) : Result Unit :=
  if err ≠ HdmiCecIo.success ∨ DriverImpl.isSendFailure sendResult then
    throwing .ioException
  else if to_ &&& 0x0F ≠ 15 ∧ sendResult = HdmiCecIo.sentButNotAckd then
    throwing .cecNoAckException
  else
    .ok ()

theorem sendOutcome_ping (from_ to_ : UInt8) (err sendResult : Int) :
    DriverImpl.sendOutcome [DriverImpl.firstByte from_ to_] err sendResult =
      pingOutcome to_ err sendResult := by
  simp only [DriverImpl.sendOutcome, pingOutcome, DriverImpl.expectsAck_firstByte]

/-- Whoever receives the byte of a ping decodes it as a polling message. -/
theorem decode_firstByte (process : Message → Header → Result Unit) (from_ to_ : UInt8)
    {frame : CECFrame} (hbytes : frame.bytes = [DriverImpl.firstByte from_ to_]) :
    (MessageDecoder.decode process frame).calls =
      [(.polling, Header.ofNibbles (from_ &&& 0x0F) (to_ &&& 0x0F))] := by
  have hlength : frame.length = 1 := by rw [← CECFrame.bytes_length, hbytes]; rfl
  have hheader := Header.ofFrame_pack (DriverImpl.and_fifteen_le from_)
    (DriverImpl.and_fifteen_le to_) hbytes
  rw [MessageDecoder.decode, hheader]
  dsimp only
  rw [if_pos hlength]

/-- The byte of a ping behind the daemon's `matchSource`: its initiator is 15 if the daemon
owns that address. -/
theorem initiated_firstByte (daemon : Daemon) (from_ to_ : UInt8) :
    daemon.initiated (DriverImpl.firstByte from_ to_) =
      DriverImpl.firstByte
        (if daemon.library.driver.isValidLogicalAddress LogicalAddress.unregistered then 15
          else from_) to_ := by
  rw [Daemon.initiated]
  split
  · rw [DriverImpl.firstByte_follower, DriverImpl.firstByte, UInt8.or_comm]
    rfl
  · rfl

/-- A client pings over the daemon.  The physical driver is given one byte, with the
follower of the ping, and with the initiator of the ping unless the daemon owns the address
15; a receiver decodes it as a polling message between these two addresses.  The client gets
the outcome that the answer of the physical driver stands for, as the daemon itself would: a
missing acknowledgement is reported unless the follower is the broadcast address. -/
theorem ping_twoHops {memcpyS : MemcpyS} {bus : IarmBus} (hcopies : memcpyS.Copies)
    (hdelivers : bus.Delivers) {client : Library} (hclient : client.IsRunning) {daemon : Daemon}
    (hstarted : daemon.IsStarted) (tx : HdmiCecTx)
    (process : Message → Header → Result Unit) (from_ to_ : UInt8) :
    ∃ initiator, initiator =
        (if daemon.library.driver.isValidLogicalAddress LogicalAddress.unregistered then 15
          else from_) ∧
      (∀ frame : CECFrame, frame.bytes = [DriverImpl.firstByte initiator to_] →
        (MessageDecoder.decode process frame).calls =
          [(.polling, Header.ofNibbles (initiator &&& 0x0F) (to_ &&& 0x0F))]) ∧
      client.ping
          (IarmDriver.hdmiCecTx memcpyS bus (fun param daemon => (daemon.send tx param, daemon))
            daemon) (CECBytes.ofByte from_) (CECBytes.ofByte to_) =
        pingOutcome to_ (tx [DriverImpl.firstByte initiator to_] HdmiCecIo.success).1
          (tx [DriverImpl.firstByte initiator to_] HdmiCecIo.success).2 ∧
      daemon.library.ping tx (CECBytes.ofByte initiator) (CECBytes.ofByte to_) =
        pingOutcome to_ (tx [DriverImpl.firstByte initiator to_] HdmiCecIo.success).1
          (tx [DriverImpl.firstByte initiator to_] HdmiCecIo.success).2 := by
  refine ⟨_, rfl, fun frame => decode_firstByte process _ to_, ?_, ?_⟩
  · rw [Library.ping_eq hclient,
      IarmDriver.hdmiCecTx_initiated hcopies hdelivers hstarted (by simp [CECMgr.maxDataLength])]
    -- `retVal` brings the outcome of the daemon back
    dsimp only
    rw [DriverImpl.sendOutcome_retVal, initiated_firstByte, sendOutcome_ping]
  · rw [Library.ping_eq hstarted.running, sendOutcome_ping]

/-- The line of a bus on which the television is the only device. -/
def televisionOnly : HdmiCecTx := fun bytes _ =>
  if bytes.headD 0 &&& 0x0F = 0 then
    (HdmiCecIo.success, HdmiCecIo.sentAndAckd)
  else
    (HdmiCecIo.success, HdmiCecIo.sentButNotAckd)

/-- A client polls for the address 3 there, and finds it free. -/
theorem ping_twoHops_free :
    ∃ initiator : UInt8, initiator = 3 ∧
      (∀ frame : CECFrame, frame.bytes = [DriverImpl.firstByte initiator 3] →
        (MessageDecoder.decode (MessageProcessor.process (.ok 0)) frame).calls =
          [(.polling, Header.ofNibbles (initiator &&& 0x0F) 3)]) ∧
      (Daemon.started []).library.poll
          (IarmDriver.hdmiCecTx MemcpyS.checked IarmBus.synchronous
            (fun param daemon => (daemon.send televisionOnly param, daemon)) (Daemon.started []))
          (CECBytes.ofByte 3) = throwing .cecNoAckException ∧
      (Daemon.started []).library.ping televisionOnly (CECBytes.ofByte initiator)
          (CECBytes.ofByte 3) = throwing .cecNoAckException := by
  obtain ⟨initiator, rfl, hdecode, hclient, hdaemon⟩ :=
    ping_twoHops MemcpyS.checked_copies IarmBus.synchronous_delivers
      (Daemon.started_isStarted []).running (Daemon.started_isStarted []) televisionOnly
      (MessageProcessor.process (.ok 0)) 3 3
  exact ⟨3, rfl, hdecode, (Library.poll_eq_ping _ _ _).trans hclient, hdaemon⟩

end HdmiCec
