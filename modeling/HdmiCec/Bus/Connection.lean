import HdmiCec.Driver.DriverImpl

/-!
# `Bus::send`, the dispatch of received frames, and `Connection`

The two paths of a frame through the library, each as one call: down from a
connection over `Bus::send` to the driver, and up from the reader's loop to the
listeners of a connection.

`Driver::write` may answer differently each time it is called, so it enters as
the sequence of its outcomes.  `Bus::send` returns how far it has read in that
sequence, which is the number of writes, together with its own outcome.
-/

namespace HdmiCec

namespace Bus

/-! ## `Bus::send` -/

/-- The block for a timeout of zero or less, after `writes` calls of
`Driver::write`.  The catch clause logs and rethrows. -/
def sendNow (started : Bool) (write : Nat → Result Unit) (writes : Nat) :
    Nat × Result Unit :=
  if started then
    (writes + 1, catching Exception.isCCEC (write writes) throwing)
  else
    (writes, throwing .invalidStateException)

/-- The loop `do { … } while (retry--)` of the second block.  A success sets
`retry` to 0, and so does not come back; an exception is thrown on once `retry`
is 0. -/
def sendLoop (started : Bool) (write : Nat → Result Unit) :
    (retry writes : Nat) → Nat × Result Unit
  | 0, writes => sendNow started write writes
  | retry + 1, writes =>
      match sendNow started write writes with
      | (writes', .error (.throws e)) =>
          if e.isCCEC then sendLoop started write retry writes' else (writes', throwing e)
      | answer => answer

/-- `Bus::send(const CECFrame &frame, int timeout)`. -/
def send (started : Bool) (write : Nat → Result Unit) (timeout : Int) :
    Nat × Result Unit :=
  if timeout ≤ 0 then
    sendNow started write 0
  else
    sendLoop started write (timeout / 250).toNat 0

/-- Without a timeout a started bus writes once and passes the outcome on. -/
theorem send_zero (write : Nat → Result Unit) :
    send true write 0 = (1, write 0) := by
  simp [send, sendNow]

/-! ## The body of `Bus::Reader::run` -/

/-- The loop over a list of listeners.  An exception of one of them ends it. -/
def notifyAll : List (CECFrame → Result Unit) → CECFrame → Result Unit
  | [], _ => .ok ()
  | listener :: rest, frame => do
      listener frame
      notifyAll rest frame

theorem notifyAll_singleton (listener : CECFrame → Result Unit) (frame : CECFrame) :
    notifyAll [listener] frame = listener frame := by
  rw [notifyAll]
  cases listener frame <;> rfl

/-- One turn of the loop of `Bus::Reader::run`, after `Driver::read` has returned
`frame`.  The only catch clause is for `InvalidStateException`; what is thrown
past it leaves the thread. -/
def readerTurn (listeners : List (CECFrame → Result Unit)) (frame : CECFrame) :
    Result Unit :=
  catching (· == .invalidStateException) (notifyAll listeners frame) fun _ => .ok ()

end Bus

/-! ## `Connection` -/

/-- The class `Connection`: its address, and the copy of it that the filter
`busFrameFilter` was constructed with. -/
structure Connection where
  source : LogicalAddress
  busFrameFilter : LogicalAddress
  deriving DecidableEq

/-- The byte store `buf[0] = byte` through the pointer that `getBuffer` returns;
the length of the frame is not looked at. -/
def CECFrame.storeFirst (frame : CECFrame) (byte : UInt8) : CECFrame :=
  { frame with
    buf_ := frame.buf_.set 0 byte
    buf_length := by rw [List.length_set]; exact frame.buf_length }

namespace Connection

/-- `Connection(const LogicalAddress &source, …)`. -/
def ofSource (source : LogicalAddress) : Connection :=
  { source := source, busFrameFilter := source }

/-! ### Sending -/

/-- `matchSource(const CECFrame &frame)`.  The frame is `const`, and changed all
the same. -/
def matchSource (connection : Connection) (driver : DriverImpl) (frame : CECFrame) :
    Result CECFrame :=
  if driver.isValidLogicalAddress connection.source then do
    let source ← connection.source.toInt
    let first := frame.buf_.getD 0 0
    if (first >>> (4 : UInt8)) &&& 0x0F ≠ source &&& 0x0F then
      return frame.storeFirst ((first &&& 0x0F) ||| ((source &&& 0x0F) <<< (4 : UInt8)))
    else
      return frame
  else
    return frame

/-- `send(const CECFrame &frame, int timeout, const Throw_e &doThrow)`, on a bus
that sends by `busSend`. -/
def send (connection : Connection) (driver : DriverImpl)
    (busSend : CECFrame → Result Unit) (frame : CECFrame) : Result Unit := do
  let frame ← connection.matchSource driver frame
  catching Exception.isCCEC (busSend frame) throwing

/-- `sendAsync(const CECFrame &frame)`, on a bus that takes frames by `busSendAsync`. -/
def sendAsync (connection : Connection) (driver : DriverImpl)
    (busSendAsync : CECFrame → Result Unit) (frame : CECFrame) : Result Unit := do
  let frame ← connection.matchSource driver frame
  busSendAsync frame

/-- The mask of the follower is untouched by a new initiator. -/
theorem follower_of_newInitiator (first source : UInt8) :
    ((first &&& 0x0F) ||| ((source &&& 0x0F) <<< (4 : UInt8))) &&& 0x0F = first &&& 0x0F := by
  have hsource : ((source &&& 0x0F) <<< (4 : UInt8)) &&& 0x0F = 0 := by
    rw [UInt8.shiftLeft_and, UInt8.and_assoc]
    exact UInt8.and_zero
  have hdistrib : ∀ a b c : UInt8, (a ||| b) &&& c = (a &&& c) ||| (b &&& c) := by
    intro a b c
    apply UInt8.toBitVec_inj.mp
    simp only [UInt8.toBitVec_and, UInt8.toBitVec_or, BitVec.and_or_distrib_right]
  rw [hdistrib, hsource, UInt8.or_zero, UInt8.and_assoc, UInt8.and_self]

theorem storeFirst_bytes {frame : CECFrame} {first : UInt8} {rest : List UInt8}
    (hbytes : frame.bytes = first :: rest) (byte : UInt8) :
    (frame.storeFirst byte).bytes = byte :: rest := by
  have htake : (frame.storeFirst byte).bytes = frame.bytes.set 0 byte := List.take_set
  rw [htake, hbytes, List.set_cons_zero]

theorem getD_of_bytes {frame : CECFrame} {first : UInt8} {rest : List UInt8}
    (hbytes : frame.bytes = first :: rest) : frame.buf_.getD 0 0 = first := by
  have hzero : frame.bytes[0]? = some first := by rw [hbytes]; rfl
  rw [CECFrame.bytes, List.getElem?_take] at hzero
  split at hzero
  · rw [List.getD_eq_getElem?_getD, hzero]
    rfl
  · cases hzero

/-- `matchSource` changes the initiator at most: the follower and everything
behind the header stay. -/
theorem matchSource_bytes (connection : Connection) (driver : DriverImpl) {frame : CECFrame}
    {source first : UInt8} {rest : List UInt8}
    (hsource : connection.source.toInt = .ok source)
    (hbytes : frame.bytes = first :: rest) :
    ∃ frame' first', connection.matchSource driver frame = .ok frame' ∧
      frame'.bytes = first' :: rest ∧ first' &&& 0x0F = first &&& 0x0F := by
  unfold matchSource
  rw [hsource, getD_of_bytes hbytes]
  split
  · simp only [Result.ok_bind, Result.pure_eq]
    split
    · exact ⟨_, _, rfl, storeFirst_bytes hbytes _, follower_of_newInitiator first source⟩
    · exact ⟨frame, first, rfl, hbytes, rfl⟩
  · exact ⟨frame, first, rfl, hbytes, rfl⟩

/-! ### Receiving -/

/-- `DefaultFilter::isFiltered(const CECFrame &frame)`. -/
def isFiltered (connection : Connection) (frame : CECFrame) : Result Bool :=
  if connection.busFrameFilter = LogicalAddress.unregistered then
    return false
  else do
    let header ← Header.ofFrame frame 0
    return !(header.to_ = LogicalAddress.unregistered ∨
      header.to_ = connection.busFrameFilter)

/-- `DefaultFrameListener::notify(const CECFrame &frame)`. -/
def notify (connection : Connection) (frameListeners : List (CECFrame → Result Unit))
    (frame : CECFrame) : Result Unit := do
  if (← connection.isFiltered frame) then
    let _ ← Header.ofFrame frame 0
  else
    Bus.notifyAll frameListeners frame

/-- The destination nibble of the frame's first byte. -/
def destination (frame : CECFrame) : UInt8 := frame.bytes.headD 0 &&& 0x0F

/-- A connection with this address in its filter is to have the frame. -/
def Receives (source : LogicalAddress) (frame : CECFrame) : Prop :=
  source = LogicalAddress.unregistered ∨ destination frame = 15 ∨
    source = CECBytes.ofByte (destination frame)

instance (source : LogicalAddress) (frame : CECFrame) : Decidable (Receives source frame) :=
  inferInstanceAs (Decidable (_ ∨ _ ∨ _))

/-- The filter compares with its own copy of the address, and lets through what a
connection with that address is to have. -/
theorem isFiltered_eq (connection : Connection) {frame : CECFrame} (h : 1 ≤ frame.length) :
    connection.isFiltered frame =
      .ok (decide (¬ Receives connection.busFrameFilter frame)) := by
  obtain ⟨first, rest, hbytes⟩ : ∃ first rest, frame.bytes = first :: rest := by
    cases hbytes : frame.bytes with
    | nil =>
        have hlength := frame.bytes_length
        rw [hbytes, List.length_nil] at hlength
        omega
    | cons first rest => exact ⟨first, rest, rfl⟩
  have hheader : Header.ofFrame frame 0 =
      .ok { from_ := CECBytes.ofByte ((first &&& 0xF0) >>> 4)
            to_ := CECBytes.ofByte (destination frame) } := by
    have hshift : (first &&& 0x0F) >>> 0 = destination frame := by
      rw [destination, hbytes]
      simp
    rw [Header.ofFrame, CECFrame.at'_eq, hbytes]
    simp only [List.getElem?_cons_zero, Result.ok_bind, Result.pure_eq, hshift]
  unfold isFiltered Receives
  by_cases hunregistered : connection.busFrameFilter = LogicalAddress.unregistered
  · simp [hunregistered]
  · have hbroadcast : (CECBytes.ofByte (destination frame) : LogicalAddress) =
        LogicalAddress.unregistered ↔ destination frame = 15 := by
      simp [CECBytes.ofByte, LogicalAddress.unregistered]
    have hsource : CECBytes.ofByte (destination frame) = connection.busFrameFilter ↔
        connection.busFrameFilter = CECBytes.ofByte (destination frame) := eq_comm
    simp [hunregistered, hheader, hbroadcast, hsource]

/-- A connection without an address of its own passes every frame on, and does
not look at its header. -/
theorem notify_unregistered (frameListeners : List (CECFrame → Result Unit))
    (frame : CECFrame) :
    (ofSource LogicalAddress.unregistered).notify frameListeners frame =
      Bus.notifyAll frameListeners frame := by
  simp [notify, isFiltered, ofSource]

end Connection

end HdmiCec
