import HdmiCec.Bus.AcceptedSends

/-!
# The frame of the caller

`Connection::send` and `Connection::sendAsync` take the frame as `const`.
`matchSource` casts that away and writes the connection's own address over the
initiator, so the object of the caller may come back with another first byte.
The functions are modelled here with that object, and what they hand on is
compared for two connections that send the same object in turn.
-/

namespace HdmiCec

/-- What a synchronous call hands on, as the bytes that `Driver::write` gets. -/
def SyncCall.puts (call : SyncCall) : List (List UInt8) := call.written.map CECFrame.bytes

/-- The entries of the write queue behind an asynchronous call, as bytes. -/
def AsyncCall.queued (call : AsyncCall) : List (Option (List UInt8)) :=
  call.wQueue.items.map (Option.map CECFrame.bytes)

namespace CallerFrames

/-- A synchronous call with the frame of the caller behind it. -/
structure KeptCall extends SyncCall where
  frame : CECFrame

/-- `send(const CECFrame &frame, int timeout)`. -/
def send (connection : Connection) (driver : DriverImpl) (busSend : CECFrame → SyncCall)
    (frame : CECFrame) : KeptCall :=
  match connection.matchSource driver frame with
  | .error r => { written := [], outcome := .error r, frame := frame }
  | .ok frame =>
      let call := busSend frame
      { written := call.written
        outcome := catching Exception.isCCEC call.outcome fun _ => .ok ()
        frame := frame }

/-- `send(const CECFrame &frame, int timeout, const Throw_e &doThrow)`. -/
def sendThrow (connection : Connection) (driver : DriverImpl) (busSend : CECFrame → SyncCall)
    (frame : CECFrame) : KeptCall :=
  match connection.matchSource driver frame with
  | .error r => { written := [], outcome := .error r, frame := frame }
  | .ok frame =>
      let call := busSend frame
      { written := call.written
        outcome := catching Exception.isCCEC call.outcome throwing
        frame := frame }

theorem send_toSyncCall (connection : Connection) (driver : DriverImpl)
    (busSend : CECFrame → SyncCall) (frame : CECFrame) :
    (send connection driver busSend frame).toSyncCall =
      SendPaths.send connection driver busSend frame := by
  unfold send SendPaths.send
  cases connection.matchSource driver frame with
  | ok sent => rfl
  | error r => rfl

theorem sendThrow_toSyncCall (connection : Connection) (driver : DriverImpl)
    (busSend : CECFrame → SyncCall) (frame : CECFrame) :
    (sendThrow connection driver busSend frame).toSyncCall =
      SendPaths.sendThrow connection driver busSend frame := by
  unfold sendThrow SendPaths.sendThrow
  cases connection.matchSource driver frame with
  | ok sent => rfl
  | error r => rfl

/-! ## What is left in the frame -/

section Left

variable {connection : Connection} {driver : DriverImpl} {frame sent : CECFrame}

theorem send_frame (hmatch : connection.matchSource driver frame = .ok sent)
    (busSend : CECFrame → SyncCall) :
    (send connection driver busSend frame).frame = sent := by
  rw [send, hmatch]

theorem sendThrow_frame (hmatch : connection.matchSource driver frame = .ok sent)
    (busSend : CECFrame → SyncCall) :
    (sendThrow connection driver busSend frame).frame = sent := by
  rw [sendThrow, hmatch]

theorem sendAsync_frame (hmatch : connection.matchSource driver frame = .ok sent)
    (started : Bool) (wQueue : BoundedFifo (Option CECFrame)) :
    (SendPaths.sendAsync connection driver started wQueue frame).frame = sent := by
  rw [SendPaths.sendAsync, hmatch]
  cases started <;> rfl

end Left

open SendPaths (HasInitiator)

/-- The fix-up leaves the bytes alone when there are none, when the driver does not own the
connection's address, and when the frame has it already. -/
def Untouched (driver : DriverImpl) (connection : Connection) (s : UInt8)
    (frame : CECFrame) : Prop :=
  frame.bytes = [] ∨
    (driver.isValidLogicalAddress connection.source = true → HasInitiator frame s)

/-- A store at the front changes the bytes of the frame unless there are none. -/
theorem storeFirst_bytes_eq_iff (frame : CECFrame) (byte : UInt8) :
    (frame.storeFirst byte).bytes = frame.bytes ↔
      frame.bytes = [] ∨ frame.buf_.getD 0 0 = byte := by
  cases hbytes : frame.bytes with
  | nil =>
      have hlength : frame.len_ = 0 := by
        have h := frame.bytes_length
        rw [hbytes] at h
        exact h.symm
      have hstored : (frame.storeFirst byte).bytes = [] := by
        show (frame.buf_.set 0 byte).take frame.len_ = []
        rw [hlength, List.take_zero]
      exact iff_of_true hstored (.inl rfl)
  | cons first rest =>
      rw [Connection.storeFirst_bytes hbytes, Connection.getD_of_bytes hbytes]
      constructor
      · intro heq
        exact .inr (List.cons.inj heq).1.symm
      · rintro (hnil | rfl)
        · cases hnil
        · rfl

theorem matchSource_bytes_iff {connection : Connection} {s : UInt8}
    (hsource : connection.source = CECBytes.ofByte s) (driver : DriverImpl)
    (frame : CECFrame) :
    ∃ sent, connection.matchSource driver frame = .ok sent ∧
      (sent.bytes = frame.bytes ↔ Untouched driver connection s frame) := by
  rcases SendPaths.matchSource_cases hsource driver frame with
    ⟨hkept, hmatch⟩ | ⟨⟨howned, hother⟩, byte, hne, hmatch⟩
  · exact ⟨frame, hmatch, iff_of_true rfl (.inr hkept)⟩
  · refine ⟨_, hmatch, ?_⟩
    rw [storeFirst_bytes_eq_iff]
    constructor
    · rintro (hnil | hfirst)
      · exact .inl hnil
      · exact absurd hfirst.symm hne
    · rintro (hnil | hkept)
      · exact .inl hnil
      · exact absurd (hkept howned) hother

/-! ## Two objects with the same bytes -/

/-- `matchSource` makes the same bytes of the same bytes. -/
theorem matchSource_congr (connection : Connection) (driver : DriverImpl)
    {frame copy : CECFrame} (hbytes : frame.bytes = copy.bytes) {s : UInt8}
    (hsource : connection.source = CECBytes.ofByte s) :
    ∃ sent sent', connection.matchSource driver frame = .ok sent ∧
      connection.matchSource driver copy = .ok sent' ∧ sent.bytes = sent'.bytes := by
  cases hlist : copy.bytes with
  | nil =>
      obtain ⟨sent, hmatch, hiff⟩ := matchSource_bytes_iff hsource driver frame
      obtain ⟨sent', hmatch', hiff'⟩ := matchSource_bytes_iff hsource driver copy
      refine ⟨sent, sent', hmatch, hmatch', ?_⟩
      rw [hiff.mpr (.inl (hbytes.trans hlist)), hiff'.mpr (.inl hlist), hbytes]
  | cons first rest =>
      have hfirst : frame.buf_.getD 0 0 = copy.buf_.getD 0 0 := by
        rw [Connection.getD_of_bytes (hbytes.trans hlist), Connection.getD_of_bytes hlist]
      rw [Connection.matchSource, Connection.matchSource, hsource,
        LogicalAddress.toInt_ofByte, hfirst]
      simp only [Result.ok_bind, Result.pure_eq]
      split
      · split
        · refine ⟨_, _, rfl, rfl, ?_⟩
          rw [Connection.storeFirst_bytes (hbytes.trans hlist),
            Connection.storeFirst_bytes hlist]
        · exact ⟨_, _, rfl, rfl, hbytes⟩
      · exact ⟨_, _, rfl, rfl, hbytes⟩

/-- `Bus::send` to a driver that sees the bytes of a frame. -/
def busSend (started : Bool) (write : Nat → List UInt8 → Result Unit) (timeout : Int) :
    CECFrame → SyncCall :=
  Bus.syncSend started (fun i frame => write i frame.bytes) timeout

/-- Whichever connection sends one or the other, and by whichever function, the same bytes
are handed on, and the call ends in the same way. -/
def SameOnBus (frame copy : CECFrame) : Prop :=
  ∀ (connection : Connection) (s : UInt8), connection.source = CECBytes.ofByte s →
    ∀ (driver : DriverImpl) (started : Bool) (write : Nat → List UInt8 → Result Unit)
      (timeout : Int) (wQueue : BoundedFifo (Option CECFrame)),
      let call := send connection driver (busSend started write timeout)
      let callThrow := sendThrow connection driver (busSend started write timeout)
      let callAsync := SendPaths.sendAsync connection driver started wQueue
      ((call frame).puts = (call copy).puts ∧ (call frame).outcome = (call copy).outcome) ∧
        ((callThrow frame).puts = (callThrow copy).puts ∧
          (callThrow frame).outcome = (callThrow copy).outcome) ∧
        ((callAsync frame).queued = (callAsync copy).queued ∧
          (callAsync frame).outcome = (callAsync copy).outcome)

section Same

variable {frame copy : CECFrame}

theorem busSend_puts (started : Bool) (write : Nat → List UInt8 → Result Unit)
    (timeout : Int) (frame : CECFrame) :
    (busSend started write timeout frame).puts =
      (Bus.writesOf (Bus.sendTrace started (fun i => write i frame.bytes) timeout).1).map
        fun _ => frame.bytes := by
  show List.map CECFrame.bytes (List.map (fun _ => frame) _) = _
  rw [List.map_map]
  rfl

theorem busSend_congr (started : Bool) (write : Nat → List UInt8 → Result Unit)
    (timeout : Int) (hbytes : frame.bytes = copy.bytes) :
    (busSend started write timeout frame).puts = (busSend started write timeout copy).puts ∧
      (busSend started write timeout frame).outcome =
        (busSend started write timeout copy).outcome := by
  refine ⟨?_, ?_⟩
  · rw [busSend_puts, busSend_puts, hbytes]
  · show (Bus.sendTrace started (fun i => write i frame.bytes) timeout).2 = _
    rw [hbytes]
    rfl

theorem asyncSend_congr (started : Bool) (wQueue : BoundedFifo (Option CECFrame))
    (hbytes : frame.bytes = copy.bytes) :
    (Bus.asyncSend started wQueue frame).queued = (Bus.asyncSend started wQueue copy).queued ∧
      (Bus.asyncSend started wQueue frame).outcome =
        (Bus.asyncSend started wQueue copy).outcome := by
  cases started with
  | false => exact ⟨rfl, rfl⟩
  | true =>
      refine ⟨?_, rfl⟩
      show (wQueue.offer (some frame)).items.map (Option.map CECFrame.bytes) =
        (wQueue.offer (some copy)).items.map (Option.map CECFrame.bytes)
      by_cases hroom : wQueue.items.length < wQueue.cap
      · rw [BoundedFifo.offer_room _ hroom, BoundedFifo.offer_room _ hroom, List.map_append,
          List.map_append]
        simp only [List.map_cons, Option.map_some, hbytes]
      · rw [BoundedFifo.offer_full _ (Nat.not_lt.mp hroom),
          BoundedFifo.offer_full _ (Nat.not_lt.mp hroom)]

theorem sameOnBus_of_bytes (hbytes : frame.bytes = copy.bytes) : SameOnBus frame copy := by
  intro connection s hsource driver started write timeout wQueue
  obtain ⟨sent, sent', hmatch, hmatch', hsent⟩ :=
    matchSource_congr connection driver hbytes hsource
  obtain ⟨hputs, houtcome⟩ := busSend_congr started write timeout hsent
  refine ⟨⟨?_, ?_⟩, ⟨?_, ?_⟩, ?_⟩
  · rw [send, send, hmatch, hmatch']
    exact hputs
  · rw [send, send, hmatch, hmatch']
    show catching _ _ _ = catching _ _ _
    rw [houtcome]
  · rw [sendThrow, sendThrow, hmatch, hmatch']
    exact hputs
  · rw [sendThrow, sendThrow, hmatch, hmatch']
    show catching _ _ _ = catching _ _ _
    rw [houtcome]
  · rw [SendPaths.sendAsync, SendPaths.sendAsync, hmatch, hmatch']
    exact asyncSend_congr started wQueue hsent

end Same

/-! ## The promise of `const` -/

/-- The object has the bytes it had, and sending it once more is sending a copy that was
made before. -/
structure Kept (frame left : CECFrame) : Prop where
  bytes : left.bytes = frame.bytes
  again : SameOnBus left frame

theorem Kept.of_bytes {frame left : CECFrame} (hbytes : left.bytes = frame.bytes) :
    Kept frame left :=
  ⟨hbytes, sameOnBus_of_bytes hbytes⟩

/-- What a caller goes by who hands over a `const` frame. -/
structure KeepsFrame (connection : Connection) (driver : DriverImpl) (frame : CECFrame) :
    Prop where
  send : ∀ started write timeout,
    Kept frame (send connection driver (busSend started write timeout) frame).frame
  sendThrow : ∀ started write timeout,
    Kept frame (sendThrow connection driver (busSend started write timeout) frame).frame
  sendAsync : ∀ started wQueue,
    Kept frame (SendPaths.sendAsync connection driver started wQueue frame).frame

/-- The frame of the caller is kept exactly when there is no initiator in it, when the
driver does not own the connection's address, or when the initiator is that address. -/
theorem keepsFrame_iff {connection : Connection} {s : UInt8}
    (hsource : connection.source = CECBytes.ofByte s) (driver : DriverImpl)
    (frame : CECFrame) :
    KeepsFrame connection driver frame ↔
      frame.bytes = [] ∨
        (driver.isValidLogicalAddress connection.source = true → HasInitiator frame s) := by
  obtain ⟨sent, hmatch, hiff⟩ := matchSource_bytes_iff hsource driver frame
  show _ ↔ Untouched driver connection s frame
  rw [← hiff]
  constructor
  · intro hkeeps
    have hkept := (hkeeps.sendAsync false (.empty 32)).bytes
    rw [sendAsync_frame hmatch] at hkept
    exact hkept
  · intro hbytes
    constructor
    · intro started write timeout
      rw [send_frame hmatch]
      exact Kept.of_bytes hbytes
    · intro started write timeout
      rw [sendThrow_frame hmatch]
      exact Kept.of_bytes hbytes
    · intro started wQueue
      rw [sendAsync_frame hmatch]
      exact Kept.of_bytes hbytes

/-- The driver of a playback device that has the address 4. -/
def playback : DriverImpl :=
  { status := .opened, rQueue := .empty 32, logicalAddresses := [CECBytes.ofByte 4] }

/-- A standby message that has the device's own address as its initiator. -/
theorem keepsFrame_standby :
    KeepsFrame (Connection.ofSource (CECBytes.ofByte 4)) playback
      (CECFrame.ofBytes [0x40, 0x36] (by decide)) :=
  (@keepsFrame_iff (Connection.ofSource (CECBytes.ofByte 4)) 4 rfl playback
    (CECFrame.ofBytes [0x40, 0x36] (by decide))).mpr (.inr fun _ => by
      show _ = _
      decide)

/-- A standby message with another initiator comes back changed.  A connection with an
address that the driver does not own then sends the changed message, where a copy would
have been sent as it was. -/
theorem not_keepsFrame_standby :
    let first := Connection.ofSource (CECBytes.ofByte 4)
    let second := Connection.ofSource (CECBytes.ofByte 8)
    let frame := CECFrame.ofBytes [0x80, 0x36] (by decide)
    let bus := busSend true (fun _ _ => .ok ()) 0
    let left := (send first playback bus frame).frame
    left.bytes = [0x40, 0x36] ∧
      (send second playback bus left).puts = [[0x40, 0x36]] ∧
      (send second playback bus frame).puts = [[0x80, 0x36]] ∧
      ¬ KeepsFrame first playback frame := by
  refine ⟨by decide, by decide, by decide, ?_⟩
  intro hkeeps
  have hbytes := (hkeeps.send true (fun _ _ => .ok ()) 0).bytes
  revert hbytes
  decide

end CallerFrames

end HdmiCec
