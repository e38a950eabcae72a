import HdmiCec.Bus.Addressing
import HdmiCec.Bus.Retries
import HdmiCec.Core.Appending

/-!
# The six ways to send

`Connection` sends a frame that has its header (`send`, with and without `Throw_e`, and
`sendAsync`) or puts the header in front itself (`sendTo`, with and without `Throw_e`, and
`sendToAsync`).  The functions are modelled here with what they hand on: the synchronous
ones with the frames of their calls of `Driver::write`, the asynchronous ones with the write
queue.  An asynchronous call also gives the caller's frame back, which `matchSource` writes
to although it is `const`.
-/

namespace HdmiCec

/-- What a synchronous call comes to: the frames that `Driver::write` was called with, and
how the call ends. -/
structure SyncCall where
  written : List CECFrame
  outcome : Result Unit

/-- What an asynchronous call comes to: the frame of the caller behind it, the write queue,
and how the call ends. -/
structure AsyncCall where
  frame : CECFrame
  wQueue : BoundedFifo (Option CECFrame)
  outcome : Result Unit

namespace Bus

/-- `Bus::send(const CECFrame &frame, int timeout)`, when attempt `i` of `Driver::write`
comes to `write i`. -/
def syncSend (started : Bool) (write : Nat → CECFrame → Result Unit) (timeout : Int)
    (frame : CECFrame) : SyncCall :=
  let (events, outcome) := sendTrace started (fun i => write i frame) timeout
  { written := (writesOf events).map fun _ => frame, outcome := outcome }

/-- `Bus::sendAsync(const CECFrame &frame)`: the queue is offered a copy. -/
def asyncSend (started : Bool) (wQueue : BoundedFifo (Option CECFrame)) (frame : CECFrame) :
    AsyncCall :=
  if started then
    { frame := frame, wQueue := wQueue.offer (some frame), outcome := .ok () }
  else
    { frame := frame, wQueue := wQueue, outcome := throwing .invalidStateException }

end Bus

namespace SendPaths

/-! ## The entry points -/

/-- `send(const CECFrame &frame, int timeout, const Throw_e &doThrow)`. -/
def sendThrow (connection : Connection) (driver : DriverImpl) (busSend : CECFrame → SyncCall)
    (frame : CECFrame) : SyncCall :=
  match connection.matchSource driver frame with
  | .error r => { written := [], outcome := .error r }
  | .ok frame =>
      let call := busSend frame
      { call with outcome := catching Exception.isCCEC call.outcome throwing }

/-- `send(const CECFrame &frame, int timeout)`, which keeps the exceptions of the library to
itself. -/
def send (connection : Connection) (driver : DriverImpl) (busSend : CECFrame → SyncCall)
    (frame : CECFrame) : SyncCall :=
  match connection.matchSource driver frame with
  | .error r => { written := [], outcome := .error r }
  | .ok frame =>
      let call := busSend frame
      { call with outcome := catching Exception.isCCEC call.outcome fun _ => .ok () }

/-- `sendTo(const LogicalAddress &to, const CECFrame &frame, int timeout,
const Throw_e &doThrow)`. -/
def sendToThrow (connection : Connection) (driver : DriverImpl)
    (busSend : CECFrame → SyncCall) (to_ : LogicalAddress) (frame : CECFrame) : SyncCall :=
  match connection.fullFrame to_ frame with
  | .error r => { written := [], outcome := .error r }
  | .ok fullFrame =>
      let call := sendThrow connection driver busSend fullFrame
      { call with outcome := catching Exception.isCCEC call.outcome throwing }

/-- `sendTo(const LogicalAddress &to, const CECFrame &frame, int timeout)`. -/
def sendTo (connection : Connection) (driver : DriverImpl) (busSend : CECFrame → SyncCall)
    (to_ : LogicalAddress) (frame : CECFrame) : SyncCall :=
  match connection.fullFrame to_ frame with
  | .error r => { written := [], outcome := .error r }
  | .ok fullFrame => send connection driver busSend fullFrame

/-- `sendAsync(const CECFrame &frame)`. -/
def sendAsync (connection : Connection) (driver : DriverImpl) (started : Bool)
    (wQueue : BoundedFifo (Option CECFrame)) (frame : CECFrame) : AsyncCall :=
  match connection.matchSource driver frame with
  | .error r => { frame := frame, wQueue := wQueue, outcome := .error r }
  | .ok frame => Bus.asyncSend started wQueue frame

/-- `sendToAsync(const LogicalAddress &to, const CECFrame &frame)`.  What `matchSource` may
write to is the local `fullFrame`. -/
def sendToAsync (connection : Connection) (driver : DriverImpl) (started : Bool)
    (wQueue : BoundedFifo (Option CECFrame)) (to_ : LogicalAddress) (frame : CECFrame) :
    AsyncCall :=
  match connection.fullFrame to_ frame with
  | .error r => { frame := frame, wQueue := wQueue, outcome := .error r }
  | .ok fullFrame =>
      { sendAsync connection driver started wQueue fullFrame with frame := frame }

/-! ## The same calls without what they hand on -/

theorem syncSend_outcome (started : Bool) (write : Nat → CECFrame → Result Unit)
    (timeout : Int) (frame : CECFrame) :
    (Bus.syncSend started write timeout frame).outcome =
      (Bus.send started (fun i => write i frame) timeout).2 := by
  rw [Bus.send_eq_trace]
  rfl

theorem sendThrow_outcome (connection : Connection) (driver : DriverImpl)
    (busSend : CECFrame → SyncCall) (frame : CECFrame) :
    (sendThrow connection driver busSend frame).outcome =
      connection.send driver (fun frame => (busSend frame).outcome) frame := by
  unfold sendThrow Connection.send
  cases connection.matchSource driver frame with
  | ok frame' => rfl
  | error r => rfl

theorem sendToThrow_outcome (connection : Connection) (driver : DriverImpl)
    (busSend : CECFrame → SyncCall) (to_ : LogicalAddress) (frame : CECFrame) :
    (sendToThrow connection driver busSend to_ frame).outcome =
      connection.sendTo driver (fun frame => (busSend frame).outcome) to_ frame := by
  unfold sendToThrow Connection.sendTo
  cases connection.fullFrame to_ frame with
  | ok fullFrame => simp [sendThrow_outcome]
  | error r => rfl

theorem sendAsync_outcome (connection : Connection) (driver : DriverImpl) (started : Bool)
    (wQueue : BoundedFifo (Option CECFrame)) (frame : CECFrame) :
    (sendAsync connection driver started wQueue frame).outcome =
      connection.sendAsync driver (fun frame => (Bus.asyncSend started wQueue frame).outcome)
        frame := by
  unfold sendAsync Connection.sendAsync
  cases connection.matchSource driver frame with
  | ok frame' => rfl
  | error r => rfl

/-! ## The header byte -/

theorem pack_initiator : ∀ i j : Fin 16,
    Header.pack (UInt8.ofNat i) (UInt8.ofNat j) >>> 4 = UInt8.ofNat i := by
  decide

theorem pack_follower : ∀ i j : Fin 16,
    Header.pack (UInt8.ofNat i) (UInt8.ofNat j) &&& 0x0F = UInt8.ofNat j := by
  decide

theorem nibble_masked : ∀ i : Fin 16, UInt8.ofNat i &&& 0x0F = UInt8.ofNat i := by decide

/-- A byte is its two halves. -/
theorem eq_of_halves {x y : UInt8} (hupper : x >>> 4 = y >>> 4)
    (hlower : x &&& 0x0F = y &&& 0x0F) : x = y := by
  have hjoin : ∀ b : UInt8, b = (b >>> 4) <<< 4 ||| (b &&& 0x0F) := by
    intro b
    apply UInt8.eq_of_bits
    simp [Fin.forall_fin_succ]
  rw [hjoin x, hupper, hlower, ← hjoin y]

section Paths

variable {connection : Connection} {s t : UInt8}

/-- `matchSource` on a frame with a header: a connection whose address the driver owns puts
it in as the initiator. -/
theorem matchSource_owned (hs : s ≤ 15) (ht : t ≤ 15)
    (hsource : connection.source = CECBytes.ofByte s) {driver : DriverImpl}
    (howned : driver.isValidLogicalAddress connection.source = true) {s' : UInt8}
    (hs' : s' ≤ 15) {frame : CECFrame} {rest : List UInt8}
    (hbytes : frame.bytes = Header.pack s' t :: rest) :
    ∃ frame', connection.matchSource driver frame = .ok frame' ∧
      frame'.bytes = Header.pack s t :: rest := by
  obtain ⟨i, rfl⟩ := UInt8.eq_ofNat_fin16 hs
  obtain ⟨i', rfl⟩ := UInt8.eq_ofNat_fin16 hs'
  obtain ⟨j, rfl⟩ := UInt8.eq_ofNat_fin16 ht
  obtain ⟨frame', first, hmatch, hfirst, hupper⟩ :=
    Connection.matchSource_initiator howned hsource hbytes
  obtain ⟨frame'', first', hmatch', hfirst', hlower⟩ :=
    Connection.matchSource_bytes connection driver (by rw [hsource]; rfl) hbytes
  have hsame : frame'' = frame' := by
    rw [hmatch] at hmatch'
    exact (Except.ok.inj hmatch').symm
  have hone : first' = first := by
    rw [hsame, hfirst] at hfirst'
    exact (List.cons.inj hfirst').1.symm
  have hpacked : first = Header.pack (UInt8.ofNat i) (UInt8.ofNat j) := by
    apply eq_of_halves
    · rw [hupper, nibble_masked, pack_initiator]
    · rw [← hone, hlower, pack_follower, pack_follower]
  exact ⟨frame', hmatch, by rw [hfirst, hpacked]⟩

/-- A frame that has the connection's own address in it is left as it is, whatever the driver
owns. -/
theorem matchSource_own (hs : s ≤ 15) (ht : t ≤ 15)
    (hsource : connection.source = CECBytes.ofByte s) (driver : DriverImpl)
    {frame : CECFrame} {rest : List UInt8} (hbytes : frame.bytes = Header.pack s t :: rest) :
    ∃ frame', connection.matchSource driver frame = .ok frame' ∧
      frame'.bytes = Header.pack s t :: rest := by
  by_cases howned : driver.isValidLogicalAddress connection.source = true
  · exact matchSource_owned hs ht hsource howned hs hbytes
  · refine ⟨frame, ?_, hbytes⟩
    rw [Connection.matchSource, if_neg howned]
    rfl

/-! ## What is handed on -/

/-- `Driver::write` is called at least once, with frames of these bytes. -/
def Writes (call : SyncCall) (bytes : List UInt8) : Prop :=
  call.written ≠ [] ∧ ∀ frame ∈ call.written, frame.bytes = bytes

/-- The write queue is offered one frame, which has these bytes. -/
def Offers (call : AsyncCall) (wQueue : BoundedFifo (Option CECFrame))
    (bytes : List UInt8) : Prop :=
  ∃ copyFrame : CECFrame, copyFrame.bytes = bytes ∧ call.wQueue = wQueue.offer (some copyFrame) ∧
    call.outcome = .ok ()

/-- A started bus writes at least once. -/
theorem writesOf_ne_nil (write : Nat → Result Unit) (timeout : Int) :
    Bus.writesOf (Bus.sendTrace true write timeout).1 ≠ [] := by
  have hnow : Bus.writesOf (Bus.sendNowTrace true write 0).1 ≠ [] := by
    simp [Bus.sendNowTrace]
  unfold Bus.sendTrace
  split
  · exact hnow
  · cases (timeout / 250).toNat with
    | zero => exact hnow
    | succ retry =>
        rw [Bus.sendLoopTrace, Bus.sendNowTrace_started]
        cases write 0 with
        | ok _ => simp
        | error r =>
            cases r with
            | assertFails | unexpected | undefined => simp
            | throws e => by_cases hccec : e.isCCEC = true <;> simp [hccec]

theorem syncSend_writes (write : Nat → CECFrame → Result Unit) (timeout : Int)
    (frame : CECFrame) : Writes (Bus.syncSend true write timeout frame) frame.bytes := by
  constructor
  · have hne := writesOf_ne_nil (fun i => write i frame) timeout
    simpa [Bus.syncSend] using hne
  · intro written hmem
    simp only [Bus.syncSend, List.mem_map] at hmem
    obtain ⟨_, _, rfl⟩ := hmem
    rfl

section Handing

variable {driver : DriverImpl} {frame frame' : CECFrame}

/-- Whatever `matchSource` makes of the frame is what the three functions hand on. -/
theorem send_writes (hmatch : connection.matchSource driver frame = .ok frame')
    (write : Nat → CECFrame → Result Unit) (timeout : Int) :
    Writes (send connection driver (Bus.syncSend true write timeout) frame)
      frame'.bytes := by
  rw [send, hmatch]
  exact syncSend_writes write timeout frame'

theorem sendThrow_writes (hmatch : connection.matchSource driver frame = .ok frame')
    (write : Nat → CECFrame → Result Unit) (timeout : Int) :
    Writes (sendThrow connection driver (Bus.syncSend true write timeout) frame)
      frame'.bytes := by
  rw [sendThrow, hmatch]
  exact syncSend_writes write timeout frame'

theorem sendAsync_offers (hmatch : connection.matchSource driver frame = .ok frame')
    (wQueue : BoundedFifo (Option CECFrame)) :
    Offers (sendAsync connection driver true wQueue frame) wQueue frame'.bytes := by
  rw [sendAsync, hmatch]
  exact ⟨frame', rfl, rfl, rfl⟩

end Handing

/-! ## The sends that keep exceptions to themselves -/

/-- A send on the bus returns, or throws an exception of the library. -/
theorem syncSend_ccecOutcome (started : Bool) {write : Nat → CECFrame → Result Unit}
    {frame : CECFrame} (hwrite : ∀ i, Bus.CCECOutcome (write i frame)) (timeout : Int) :
    Bus.CCECOutcome (Bus.syncSend started write timeout frame).outcome := by
  show Bus.CCECOutcome (Bus.sendTrace started (fun i => write i frame) timeout).2
  cases started with
  | true =>
      obtain ⟨failures, -, -, -, htrace⟩ := Bus.sendTrace_started hwrite timeout
      rw [htrace]
      exact hwrite failures
  | false => exact .inr ⟨.invalidStateException, rfl, (Bus.sendTrace_notStarted _ timeout).2⟩

/-- A frame that has room for the header: `sendTo` without `Throw_e` returns, whatever the
native driver answers. -/
theorem sendTo_returns (hsource : connection.source = CECBytes.ofByte s) (driver : DriverImpl)
    (started : Bool) (answers : Nat → HdmiCecTx) (timeout : Int) {frame : CECFrame}
    (hroom : frame.length < 128) :
    (sendTo connection driver
      (Bus.syncSend started (fun i frame => driver.write (answers i) frame) timeout)
      (CECBytes.ofByte t) frame).outcome = .ok () := by
  obtain ⟨full, hfull, hbytes⟩ := @Connection.fullFrame_initiator connection s t hsource frame hroom
  obtain ⟨sent, first, hmatch, hsent, -⟩ :=
    Connection.matchSource_bytes connection driver (by rw [hsource]; rfl) hbytes
  have hlength : 1 ≤ sent.length := by
    rw [← CECFrame.bytes_length, hsent, List.length_cons]
    omega
  have houtcome := syncSend_ccecOutcome started
    (fun i => Bus.driverWrite_ccecOutcome driver (answers i) hlength) timeout
  rw [sendTo, hfull]
  dsimp only
  rw [send, hmatch]
  dsimp only
  obtain hok | ⟨e, hccec, hthrows⟩ := houtcome
  · rw [hok, catching_ok]
  · rw [hthrows, catching_of_caught hccec]

/-- `sendToAsync` catches nothing, and returns on a started bus. -/
theorem sendToAsync_returns (hsource : connection.source = CECBytes.ofByte s)
    (driver : DriverImpl) (wQueue : BoundedFifo (Option CECFrame)) {frame : CECFrame}
    (hroom : frame.length < 128) :
    (sendToAsync connection driver true wQueue (CECBytes.ofByte t) frame).outcome = .ok () := by
  obtain ⟨full, hfull, hbytes⟩ := @Connection.fullFrame_initiator connection s t hsource frame hroom
  obtain ⟨sent, first, hmatch, -⟩ :=
    Connection.matchSource_bytes connection driver (by rw [hsource]; rfl) hbytes
  rw [sendToAsync, hfull]
  dsimp only
  rw [sendAsync, hmatch]
  rfl

/-- A frame of 128 bytes has no room for a header. -/
theorem fullFrame_overflows (hsource : connection.source = CECBytes.ofByte s)
    {frame : CECFrame} (hlong : 128 < 1 + frame.length) :
    connection.fullFrame (CECBytes.ofByte t) frame = throwing .outOfRange := by
  obtain ⟨headed, hheader, hheaded⟩ := Header.serialize_empty s t
  have hlength : headed.length = 1 := by
    rw [← CECFrame.bytes_length, hheaded]
    rfl
  have hserialize : Header.serialize
      { from_ := connection.source, to_ := CECBytes.ofByte t } CECFrame.empty = .ok headed := by
    rw [hsource]
    exact hheader
  rw [Connection.fullFrame, hserialize, Result.ok_bind]
  apply CECFrame.appendAll_overflows
  rw [hlength, CECFrame.bytes_length]
  exact hlong

/-- The six ways to send put the bytes of `encode(Header(s, t), m)` on the bus. -/
theorem sends_agree (hs : s ≤ 15) (ht : t ≤ 15)
    (hsource : connection.source = CECBytes.ofByte s) (driver : DriverImpl)
    (write : Nat → CECFrame → Result Unit) (timeout : Int)
    (wQueue : BoundedFifo (Option CECFrame)) :
    let busSend := Bus.syncSend true write timeout
    let to_ : LogicalAddress := CECBytes.ofByte t
    (∀ (m : Message) (full : CECFrame),
      MessageEncoder.encode (Header.ofNibbles s t) m = .ok full →
      ∃ block, MessageEncoder.encodeBlock m CECFrame.empty = .ok block ∧
        full.bytes = (s <<< 4 ||| t) :: block.bytes ∧
        Writes (sendTo connection driver busSend to_ block) full.bytes ∧
        Writes (sendToThrow connection driver busSend to_ block) full.bytes ∧
        Offers (sendToAsync connection driver true wQueue to_ block) wQueue
          full.bytes ∧
        (driver.isValidLogicalAddress connection.source = true → ∀ s' : UInt8, s' ≤ 15 →
          ∃ frame, MessageEncoder.encode (Header.ofNibbles s' t) m = .ok frame ∧
            Writes (send connection driver busSend frame) full.bytes ∧
            Writes (sendThrow connection driver busSend frame) full.bytes ∧
            Offers (sendAsync connection driver true wQueue frame) wQueue
              full.bytes)) ∧
      ∀ frame : CECFrame, 128 < 1 + frame.length →
        sendTo connection driver busSend to_ frame =
            { written := [], outcome := throwing .outOfRange } ∧
          sendToThrow connection driver busSend to_ frame =
            { written := [], outcome := throwing .outOfRange } ∧
          sendToAsync connection driver true wQueue to_ frame =
            { frame := frame, wQueue := wQueue, outcome := throwing .outOfRange } := by
  dsimp only
  constructor
  · intro m full hencode
    obtain ⟨block, hblock, hfull⟩ := MessageEncoder.encode_block hencode
    have hroom : block.length < 128 := by
      have hle := full.length_le
      rw [← CECFrame.bytes_length, hfull, List.length_cons, CECFrame.bytes_length] at hle
      omega
    obtain ⟨fullFrame, hfullFrame, hbytes⟩ :=
      @Connection.fullFrame_initiator connection s t hsource block hroom
    obtain ⟨sent, hmatch, hsent⟩ := matchSource_own hs ht hsource driver hbytes
    have hsame : sent.bytes = full.bytes := by rw [hsent, hfull]
    refine ⟨block, hblock, hfull, ?_, ?_, ?_, ?_⟩
    · rw [sendTo, hfullFrame, ← hsame]
      exact send_writes hmatch write timeout
    · rw [sendToThrow, hfullFrame, ← hsame]
      exact sendThrow_writes hmatch write timeout
    · rw [sendToAsync, hfullFrame, ← hsame]
      exact sendAsync_offers hmatch wQueue
    · intro howned s' hs'
      obtain ⟨frame, hframe, hframeBytes⟩ := MessageEncoder.encode_of_block hblock hroom s' t
      obtain ⟨sent', hmatch', hsent'⟩ :=
        matchSource_owned hs ht hsource howned hs' hframeBytes
      have hsame' : sent'.bytes = full.bytes := by rw [hsent', hfull]
      refine ⟨frame, hframe, ?_⟩
      rw [← hsame']
      exact ⟨send_writes hmatch' write timeout, sendThrow_writes hmatch' write timeout,
        sendAsync_offers hmatch' wQueue⟩
  · intro frame hlong
    have hoverflow := fullFrame_overflows (t := t) hsource hlong
    refine ⟨?_, ?_, ?_⟩
    · rw [sendTo, hoverflow]
      rfl
    · rw [sendToThrow, hoverflow]
      rfl
    · rw [sendToAsync, hoverflow]
      rfl

/-- A standby message from playback device 4, sent to the television by a connection that
finds the address of another device in the frame. -/
theorem sends_agree_standby :
    let connection := Connection.ofSource (CECBytes.ofByte 4)
    let driver : DriverImpl :=
      { status := .opened, rQueue := .empty 32, logicalAddresses := [CECBytes.ofByte 4] }
    ∃ full, MessageEncoder.encode (Header.ofNibbles 4 0) .standby = .ok full ∧
      full.bytes = [0x40, 0x36] ∧
      ∃ frame, MessageEncoder.encode (Header.ofNibbles 8 0) .standby = .ok frame ∧
        Offers (sendAsync connection driver true (.empty 32) frame) (.empty 32) full.bytes := by
  obtain ⟨full, hencode, hbytes⟩ := MessageEncoder.encode_bytes 4 0 (m := .standby) trivial
  obtain ⟨block, -, -, -, -, -, hheaders⟩ :=
    (@sends_agree (Connection.ofSource (CECBytes.ofByte 4)) 4 0 (by decide) (by decide) rfl
      { status := .opened, rQueue := .empty 32, logicalAddresses := [CECBytes.ofByte 4] }
      (fun _ _ => .ok ()) 0 (.empty 32)).1 .standby full hencode
  obtain ⟨frame, hframe, -, -, hoffers⟩ := hheaders (by decide) 8 (by decide)
  exact ⟨full, hencode, hbytes, frame, hframe, hoffers⟩

end Paths

end SendPaths

end HdmiCec
