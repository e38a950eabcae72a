import HdmiCec.Core.PrintedFrames
import HdmiCec.DevMgr.PowerCallback

/-!
# How the device manager answers

`DevMgrProcessor` answers six messages.  An answer goes through `Connection::sendTo`, which
keeps the exceptions of the library to itself, either to the initiator of the message or to
everyone.  The other messages are passed over, or printed by the base class.

The turn of the bus reader that dispatches a frame is modelled with everything it runs
through: the filter of the connection, the frame listener, the decoder, the processor, and
the sends on the bus.  `readerTurn_answers` says for every frame what the turn writes;
`replies_decode` follows an answer to the device that has asked.
-/

namespace HdmiCec

namespace DeviceManager

open PowerCallback (tuner1 encodeBlock_fits)

/-! ## The processor and the connection -/

/-- What `conn` sends through. -/
structure Outlet where
  driver : DriverImpl
  started : Bool
  answers : Nat → HdmiCecTx

/-- `Bus::send(frame, 0)`. -/
def Outlet.busSend (outlet : Outlet) : CECFrame → SyncCall :=
  Bus.syncSend outlet.started (fun i frame => outlet.driver.write (outlet.answers i) frame) 0

/-- `conn.sendTo(to, MessageEncoder().encode(m))`. -/
def Outlet.sendTo (outlet : Outlet) (to_ : LogicalAddress) (m : Message) : SyncCall :=
  match MessageEncoder.encodeBlock m CECFrame.empty with
  | .error r => { written := [], outcome := .error r }
  | .ok frame =>
      SendPaths.sendTo (Connection.ofSource tuner1) outlet.driver outlet.busSend to_ frame

/-- The sends of a `process`, one after the other. -/
def Outlet.sendAll (outlet : Outlet) : List (LogicalAddress × Message) → SyncCall
  | [] => { written := [], outcome := .ok () }
  | (to_, m) :: rest =>
      let call := outlet.sendTo to_ m
      match call.outcome with
      | .error _ => call
      | .ok () =>
          { written := call.written ++ (outlet.sendAll rest).written
            outcome := (outlet.sendAll rest).outcome }

/-- The message classes with a `process` of their own in `DevMgrProcessor`. -/
def overridden : Message → Bool
  | .requestActiveSource | .giveOSDName | .giveDeviceVendorID | .giveDevicePowerStatus
  | .getCECVersion | .givePhysicalAddress | .standby | .setMenuLanguage _ | .getMenuLanguage
  | .reportPowerStatus _ | .setOSDName _ => true
  | _ => false

section

variable (outside : Result UInt8) (cec_log_level : Int) (outlet : Outlet) (devMgr : DevMgr)
  (isActive : Answer Int)

/-- `DevMgrProcessor::process` with its sends; the other classes are printed. -/
def processCall (m : Message) (header : Header) : SyncCall :=
  if overridden m then
    outlet.sendAll (process devMgr isActive m header)
  else
    { written := [], outcome := MessageProcessor.processAt outside cec_log_level m header }

/-- `DevMgrFrameListener::notify`. -/
def notifyCall (frame : CECFrame) : SyncCall :=
  let traced := MessageDecoder.decode
    (fun m header =>
      (processCall outside cec_log_level outlet devMgr isActive m header).outcome) frame
  { written := traced.calls.flatMap fun call =>
      (processCall outside cec_log_level outlet devMgr isActive call.1 call.2).written
    outcome := traced.outcome }

/-- The turn of `Bus::Reader::run` for a frame, with `conn` as the only listener of the bus
and the device manager's listener as the only one of `conn`. -/
def readerTurn (frame : CECFrame) : SyncCall :=
  let conn := Connection.ofSource tuner1
  let notified := notifyCall outside cec_log_level outlet devMgr isActive frame
  { written :=
      match conn.isFiltered frame with
      | .ok false => notified.written
      | _ => []
    outcome := Bus.readerTurn [conn.notify [fun _ => notified.outcome]] frame }

end

/-! ## What an answer says -/

/-- The answer to an opcode of an initiator: the follower, and the bytes behind the header. -/
def answer (devMgr : DevMgr) (isActive : Answer Int) (initiator opcode : UInt8) :
    Option (UInt8 × List UInt8) :=
  if initiator = 15 then none
  -- <Set OSD Name> "STBSTB"
  else if opcode = 0x46 then some (initiator, [0x47, 0x53, 0x54, 0x42, 0x53, 0x54, 0x42])
  -- <Device Vendor ID>
  else if opcode = 0x8C then some (15, [0x87, 0x0F, 0x0A, 0x0B])
  -- <Report Power Status>
  else if opcode = 0x8F then
    some (initiator, [0x90, UInt8.ofNat (devMgr.powerState % 256).toNat])
  -- <CEC Version> 1.3a
  else if opcode = 0x9F then some (initiator, [0x9E, 0x04])
  -- <Report Physical Address> of a tuner
  else if opcode = 0x83 then some (15, 0x84 :: (devMgr.phy.str ++ [0x03]))
  -- <Active Source>
  else if opcode = 0x85 ∧ isActiveSimple isActive ≠ 0 ∧ devMgr.isConnected = hdmiConnected then
    some (15, 0x82 :: devMgr.phy.str)
  else none

/-- The opcodes of the six messages. -/
def requests : List UInt8 := [0x46, 0x8C, 0x8F, 0x9F, 0x83, 0x85]

theorem answer_of_not_request {devMgr : DevMgr} {isActive : Answer Int}
    {initiator opcode : UInt8} (h : opcode ∉ requests) :
    answer devMgr isActive initiator opcode = none := by
  simp only [requests, List.mem_cons, List.not_mem_nil, or_false, not_or] at h
  simp [answer, h]

/-- The answer to a frame. -/
def reply (devMgr : DevMgr) (isActive : Answer Int) : List UInt8 → Option (UInt8 × List UInt8)
  | first :: opcode :: _ => answer devMgr isActive ((first &&& 0xF0) >>> 4) opcode
  | _ => none

theorem reply_of_bytes {devMgr : DevMgr} {isActive : Answer Int} {bytes : List UInt8}
    {first opcode : UInt8} (hfirst : bytes[0]? = some first) (hopcode : bytes[1]? = some opcode) :
    reply devMgr isActive bytes = answer devMgr isActive ((first &&& 0xF0) >>> 4) opcode := by
  match bytes, hfirst, hopcode with
  | _ :: _ :: _, rfl, rfl => rfl

/-- Nothing but a request is answered. -/
theorem request_of_reply {devMgr : DevMgr} {isActive : Answer Int} {bytes : List UInt8}
    {a : UInt8 × List UInt8} (h : reply devMgr isActive bytes = some a) :
    ∃ opcode, bytes[1]? = some opcode ∧ opcode ∈ requests := by
  match bytes, h with
  | first :: opcode :: _, h =>
      refine ⟨opcode, rfl, ?_⟩
      by_contra hnot
      have hnone : answer devMgr isActive ((first &&& 0xF0) >>> 4) opcode = none :=
        answer_of_not_request hnot
      rw [reply, hnone] at h
      cases h

theorem initiator_le (first : UInt8) : (first &&& 0xF0) >>> 4 ≤ 15 := by
  have hlt := (first &&& 0xF0).toNat_lt
  rw [UInt8.le_iff_toNat_le, UInt8.toNat_shiftRight]
  show (first &&& 0xF0).toNat >>> 4 ≤ 15
  rw [Nat.shiftRight_eq_div_pow]
  omega

/-- The messages that are sent for an answer. -/
inductive Replies : Option (UInt8 × List UInt8) → List (LogicalAddress × Message) → Prop where
  | nothing : Replies none []
  | reply (follower : UInt8) (m : Message) (complete : m.WellFormed) :
      Replies (some (follower, m.wire)) [(CECBytes.ofByte follower, m)]

section Processor

variable {devMgr : DevMgr} {isActive : Answer Int} {header : Header} {initiator : UInt8}

theorem process_unregistered (m : Message) (hfrom : header.from_ = LogicalAddress.unregistered) :
    process devMgr isActive m header = [] := if_pos hfrom

theorem answer_requestActiveSource (hinitiator : initiator ≠ 15) :
    answer devMgr isActive initiator 0x85 =
      if isActiveSimple isActive ≠ 0 ∧ hdmiConnected = devMgr.isConnected then
        some (15, 0x82 :: devMgr.phy.str)
      else none := by
  rw [answer, if_neg hinitiator]
  simp [eq_comm]

/-- What `process` sends for a message of an opcode is the answer to the opcode. -/
theorem process_replies (hphy : devMgr.phy.str.length = 2) (isActive : Answer Int) {m : Message}
    {opcode : UInt8} (hm : m.opCode = opcode.toUInt32)
    (hfrom : header.from_ = CECBytes.ofByte initiator) :
    Replies (answer devMgr isActive initiator opcode) (process devMgr isActive m header) := by
  have hunregistered : header.from_ = LogicalAddress.unregistered ↔ initiator = 15 := by
    rw [hfrom, LogicalAddress.unregistered]
    simp [CECBytes.ofByte]
  obtain rfl : opcode = m.opCode.toUInt8 := by rw [hm, UInt8.toUInt8_toUInt32]
  by_cases hfifteen : initiator = 15
  · rw [answer, if_pos hfifteen, process_unregistered m (hunregistered.mpr hfifteen)]
    exact .nothing
  · have hnot : ¬ header.from_ = LogicalAddress.unregistered := fun h =>
      hfifteen (hunregistered.mp h)
    unfold process
    rw [if_neg hnot]
    cases m with
    | giveOSDName =>
        rw [hfrom, answer, if_neg hfifteen]
        exact .reply initiator (.setOSDName ⟨[0x53, 0x54, 0x42, 0x53, 0x54, 0x42]⟩)
          ⟨by decide, by decide⟩
    | giveDevicePowerStatus =>
        rw [hfrom, answer, if_neg hfifteen]
        have hcomplete : (Message.reportPowerStatus
            (CECBytes.ofByte (UInt8.ofNat (devMgr.powerState % 256).toNat))).WellFormed := rfl
        exact .reply initiator _ hcomplete
    | getCECVersion =>
        rw [hfrom, answer, if_neg hfifteen]
        have hcomplete : (Message.cecVersion (CECBytes.ofByte 4)).WellFormed := rfl
        exact .reply initiator _ hcomplete
    | giveDeviceVendorID =>
        rw [answer, if_neg hfifteen]
        have hcomplete : (Message.deviceVendorID ⟨[0x0F, 0x0A, 0x0B]⟩).WellFormed := rfl
        exact .reply 15 _ hcomplete
    | givePhysicalAddress =>
        rw [answer, if_neg hfifteen]
        have hcomplete : (Message.reportPhysicalAddress devMgr.phy
            (CECBytes.ofByte 3)).WellFormed := ⟨hphy, rfl⟩
        exact .reply 15 _ hcomplete
    | requestActiveSource =>
        show Replies (answer devMgr isActive initiator 0x85) _
        rw [answer_requestActiveSource hfifteen]
        dsimp only
        split
        · have hcomplete : (Message.activeSource devMgr.phy).WellFormed := hphy
          exact .reply 15 _ hcomplete
        · exact .nothing
    | _ =>
        rw [answer_of_not_request (by dsimp only [Message.opCode]; decide)]
        exact .nothing

/-- An answer goes to the initiator or to everyone. -/
theorem answer_follower {opcode follower : UInt8} {payload : List UInt8}
    (h : answer devMgr isActive initiator opcode = some (follower, payload)) :
    follower = initiator ∨ follower = 15 := by
  unfold answer at h
  grind

/-- An answer is no request. -/
theorem answer_payload {opcode follower : UInt8} {payload : List UInt8}
    (h : answer devMgr isActive initiator opcode = some (follower, payload)) :
    ∃ answered operands, payload = answered :: operands ∧ answered ∉ requests := by
  unfold answer at h
  split at h
  · cases h
  all_goals
    repeat' split at h
    all_goals cases h
    all_goals exact ⟨_, _, rfl, by decide⟩

/-- An answer is short. -/
theorem answer_length (hphy : devMgr.phy.str.length = 2) {opcode follower : UInt8}
    {payload : List UInt8} (h : answer devMgr isActive initiator opcode = some (follower, payload)) :
    payload.length ≤ 7 := by
  unfold answer at h
  split at h
  · cases h
  all_goals
    repeat' split at h
    all_goals cases h
    all_goals simp [hphy]

theorem reply_payload {bytes : List UInt8} {a : UInt8 × List UInt8}
    (h : reply devMgr isActive bytes = some a) :
    ∃ answered operands, a.2 = answered :: operands ∧ answered ∉ requests := by
  match bytes, h with
  | _ :: _ :: _, h => exact @answer_payload _ _ _ _ a.1 a.2 h

end Processor

/-! ## The sends -/

/-- The frame that was written is the one of the answer. -/
def Wrote (written : List CECFrame) : Option (UInt8 × List UInt8) → Prop
  | none => written = []
  | some (follower, payload) =>
      ∃ frame : CECFrame, written = [frame] ∧ frame.bytes = Header.pack 3 follower :: payload

theorem Wrote.ne_nil {written : List CECFrame} {follower : UInt8} {payload : List UInt8}
    (h : Wrote written (some (follower, payload))) : written ≠ [] := by
  obtain ⟨frame, rfl, -⟩ := h
  exact List.cons_ne_nil frame []

theorem Wrote.bytes_eq {written : List CECFrame} {follower : UInt8} {payload : List UInt8}
    (h : Wrote written (some (follower, payload))) :
    ∀ frame ∈ written, frame.bytes = Header.pack 3 follower :: payload := by
  obtain ⟨frame, rfl, hbytes⟩ := h
  exact List.forall_mem_singleton.mpr hbytes

/-- Without a timeout a started bus writes once. -/
theorem syncSend_once (write : Nat → CECFrame → Result Unit) (frame : CECFrame) :
    (Bus.syncSend true write 0 frame).written = [frame] := rfl

section Outlet

variable (outlet : Outlet)

/-- A send returns, whatever the native driver answers. -/
theorem Outlet.sendTo_returns (follower : UInt8) {m : Message} (hm : m.WellFormed) :
    (outlet.sendTo (CECBytes.ofByte follower) m).outcome = .ok () := by
  obtain ⟨frame, hframe, hroom⟩ := encodeBlock_fits hm
  rw [Outlet.sendTo, hframe]
  exact SendPaths.sendTo_returns rfl outlet.driver outlet.started outlet.answers 0 hroom

theorem Outlet.sendTo_wrote (hstarted : outlet.started = true) {follower : UInt8}
    (hfollower : follower ≤ 15) {m : Message} (hm : m.WellFormed) :
    Wrote (outlet.sendTo (CECBytes.ofByte follower) m).written (some (follower, m.wire)) := by
  obtain ⟨full, hencode, hbytes⟩ := MessageEncoder.encode_bytes 3 follower hm
  obtain ⟨block, hblock, hfull⟩ := MessageEncoder.encode_block hencode
  have hwire : block.bytes = m.wire := by
    rw [hbytes] at hfull
    exact (List.cons.inj hfull).2.symm
  have hroom : block.length < 128 := by
    have hle := full.length_le
    rw [← CECFrame.bytes_length, hfull, List.length_cons, CECFrame.bytes_length] at hle
    omega
  have hsource : (Connection.ofSource tuner1).source = CECBytes.ofByte 3 := rfl
  obtain ⟨headed, hheaded, hheadedBytes⟩ :=
    @Connection.fullFrame_initiator _ 3 follower hsource block hroom
  obtain ⟨sent, hmatch, hsent⟩ :=
    SendPaths.matchSource_own (by decide) hfollower hsource outlet.driver hheadedBytes
  refine ⟨sent, ?_, by rw [hsent, hwire]⟩
  rw [Outlet.sendTo, hblock]
  dsimp only
  rw [SendPaths.sendTo, hheaded]
  dsimp only
  rw [SendPaths.send, hmatch]
  show (outlet.busSend sent).written = [sent]
  rw [Outlet.busSend, hstarted, syncSend_once]

variable {outlet} {a : Option (UInt8 × List UInt8)} {sent : List (LogicalAddress × Message)}

theorem Outlet.sendAll_returns (h : Replies a sent) : (outlet.sendAll sent).outcome = .ok () := by
  cases h with
  | nothing => rfl
  | reply follower m hm =>
      rw [Outlet.sendAll, outlet.sendTo_returns follower hm]
      rfl

theorem Outlet.sendAll_wrote (hstarted : outlet.started = true)
    (hfollower : ∀ follower payload, a = some (follower, payload) → follower ≤ 15)
    (h : Replies a sent) : Wrote (outlet.sendAll sent).written a := by
  cases h with
  | nothing => rfl
  | reply follower m hm =>
      have hwrote := outlet.sendTo_wrote hstarted (hfollower follower _ rfl) hm
      rw [Outlet.sendAll, outlet.sendTo_returns follower hm]
      dsimp only [Outlet.sendAll]
      rw [List.append_nil]
      exact hwrote

end Outlet

/-! ## A frame that is dispatched -/

section Dispatch

variable {outlet : Outlet} {devMgr : DevMgr} {isActive : Answer Int} {header : Header}
  {initiator : UInt8} {m : Message}

theorem process_of_not_overridden (h : overridden m = false) :
    process devMgr isActive m header = [] := by
  unfold process
  split
  · rfl
  · cases m <;> first | rfl | cases h

/-- A `process` of the class itself returns. -/
theorem processCall_overridden (outside : Result UInt8) (cec_log_level : Int)
    (hphy : devMgr.phy.str.length = 2) (hown : overridden m = true)
    (hfrom : header.from_ = CECBytes.ofByte initiator) :
    (processCall outside cec_log_level outlet devMgr isActive m header).outcome = .ok () := by
  have hop : m.opCode = m.opCode.toUInt8.toUInt32 := by
    cases m <;> first | rfl | cases hown
  rw [processCall, if_pos hown]
  exact Outlet.sendAll_returns (process_replies hphy isActive hop hfrom)

/-- The base class would have printed such a message without a read outside. -/
theorem processAt_overridden (outside : Result UInt8) (cec_log_level : Int) {frame : CECFrame}
    {process : Message → Header → Result Unit}
    (hcall : (m, header) ∈ (MessageDecoder.decode process frame).calls)
    (hown : overridden m = true) :
    MessageProcessor.processAt outside cec_log_level m header = .ok () := by
  have hcounted := MessageDecoder.calls_counted hcall
  have hhands : m.handsString = false := by cases m <;> first | rfl | cases hown
  have hnoAddress : MessageDecoder.lastAddress.lookup m.opCode = none := by
    cases m <;> first | rfl | cases hown
  obtain ⟨first, -, rfl, -⟩ | ⟨first, opcode, block, build, -, rfl, hcase, hbuild⟩ :=
    MessageDecoder.calls_cases hcall
  · cases hown
  · have hop := (MessageDecoder.switchCases_putsBack _ hcase block m hbuild).1
    have hinside : m.ReadsInside := by
      refine MessageDecoder.switchCases_readsInside_of_not_cut _ hcase block m hbuild ?_
      rintro ⟨startPos, hlookup, -⟩
      dsimp only at hop hlookup
      rw [← hop, hnoAddress] at hlookup
      cases hlookup
    rw [MessageProcessor.processAt, MessageProcessor.processFormatting_inside outside hinside
      hcounted, hhands]
    rfl

/-- A message of an opcode is answered with the answer to the opcode. -/
theorem processCall_wrote (outside : Result UInt8) (cec_log_level : Int)
    (hstarted : outlet.started = true)
    (hphy : devMgr.phy.str.length = 2) {opcode : UInt8} (hm : m.opCode = opcode.toUInt32)
    (hinitiator : initiator ≤ 15) (hfrom : header.from_ = CECBytes.ofByte initiator) :
    Wrote (processCall outside cec_log_level outlet devMgr isActive m header).written
      (answer devMgr isActive initiator opcode) := by
  have hreplies := process_replies hphy isActive hm hfrom
  by_cases hown : overridden m = true
  · rw [processCall, if_pos hown]
    refine Outlet.sendAll_wrote hstarted ?_ hreplies
    intro follower payload hanswer
    rcases answer_follower hanswer with rfl | rfl
    · exact hinitiator
    · decide
  · rw [process_of_not_overridden (by simpa using hown)] at hreplies
    rw [processCall, if_neg hown]
    cases hanswer : answer devMgr isActive initiator opcode with
    | none => rfl
    | some a =>
        rw [hanswer] at hreplies
        cases hreplies

variable {frame : CECFrame}

/-- The listener ends like the default processing. -/
theorem notifyCall_outcome (outside : Result UInt8) (cec_log_level : Int)
    (hphy : devMgr.phy.str.length = 2) (hne : 1 ≤ frame.length) :
    (notifyCall outside cec_log_level outlet devMgr isActive frame).outcome =
      (MessageDecoder.decode (MessageProcessor.processAt outside cec_log_level) frame).outcome := by
  apply MessageDecoder.decode_congr hne
  intro m header hcall
  by_cases hown : overridden m = true
  · have hfrom : ∃ initiator, header.from_ = CECBytes.ofByte initiator := by
      obtain ⟨first, -, -, rfl⟩ | ⟨first, -, -, -, -, rfl, -, -⟩ :=
        MessageDecoder.calls_cases hcall <;> exact ⟨_, rfl⟩
    obtain ⟨initiator, hfrom⟩ := hfrom
    rw [processCall_overridden outside cec_log_level hphy hown hfrom,
      processAt_overridden outside cec_log_level hcall hown]
  · rw [processCall, if_neg hown]

/-- A frame with one of the six opcodes is handed over. -/
theorem calls_of_request {opcode : UInt8} (hopcode : frame.bytes[1]? = some opcode)
    (hrequest : opcode ∈ requests) (process : Message → Header → Result Unit) :
    ∃ m first, (MessageDecoder.decode process frame).calls =
      [(m, MessageDecoder.unpack first)] ∧ frame.bytes[0]? = some first ∧
        m.opCode = opcode.toUInt32 := by
  have hbuild : ∃ m : Message, m.opCode = opcode.toUInt32 ∧ ∃ build,
      MessageDecoder.switchCases.lookup opcode.toUInt32 = some build ∧
        ∀ block, build block = .ok m := by
    simp only [requests, List.mem_cons, List.not_mem_nil, or_false] at hrequest
    rcases hrequest with rfl | rfl | rfl | rfl | rfl | rfl
    · exact ⟨.giveOSDName, rfl, _, rfl, fun _ => rfl⟩
    · exact ⟨.giveDeviceVendorID, rfl, _, rfl, fun _ => rfl⟩
    · exact ⟨.giveDevicePowerStatus, rfl, _, rfl, fun _ => rfl⟩
    · exact ⟨.getCECVersion, rfl, _, rfl, fun _ => rfl⟩
    · exact ⟨.givePhysicalAddress, rfl, _, rfl, fun _ => rfl⟩
    · exact ⟨.requestActiveSource, rfl, _, rfl, fun _ => rfl⟩
  obtain ⟨m, hm, build, hlookup, hok⟩ := hbuild
  obtain ⟨first, block, hbytes, hcalls⟩ := MessageDecoder.decode_calls_eq hopcode hlookup
  exact ⟨m, first, (hcalls process).1 m (hok block), by rw [hbytes]; rfl, hm⟩

/-- The listener writes the answer to the opcode of the frame, and nothing else. -/
theorem notifyCall_wrote (outside : Result UInt8) (cec_log_level : Int)
    (hstarted : outlet.started = true)
    (hphy : devMgr.phy.str.length = 2) (isActive : Answer Int) (frame : CECFrame) :
    Wrote (notifyCall outside cec_log_level outlet devMgr isActive frame).written
      (reply devMgr isActive frame.bytes) := by
  have hwrote : ∀ {m : Message} {first opcode : UInt8}, m.opCode = opcode.toUInt32 →
      Wrote (processCall outside cec_log_level outlet devMgr isActive m
        (MessageDecoder.unpack first)).written
        (answer devMgr isActive ((first &&& 0xF0) >>> 4) opcode) := by
    intro m first opcode hm
    exact processCall_wrote outside cec_log_level hstarted hphy hm (initiator_le first) rfl
  rw [notifyCall]
  dsimp only
  by_cases hrequest : ∃ opcode, frame.bytes[1]? = some opcode ∧ opcode ∈ requests
  · obtain ⟨opcode, hopcode, hrequest⟩ := hrequest
    obtain ⟨m, first, hcalls, hfirst, hm⟩ := calls_of_request hopcode hrequest
      fun m header => (processCall outside cec_log_level outlet devMgr isActive m header).outcome
    rw [hcalls, List.flatMap_singleton, reply_of_bytes hfirst hopcode]
    exact hwrote hm
  · have hnone : reply devMgr isActive frame.bytes = none := by
      cases hreply : reply devMgr isActive frame.bytes with
      | none => rfl
      | some a =>
          obtain ⟨opcode, hopcode, hmem⟩ := request_of_reply hreply
          exact absurd ⟨opcode, hopcode, hmem⟩ hrequest
    rw [hnone]
    refine List.flatMap_eq_nil_iff.mpr ?_
    rintro ⟨m, header⟩ hcall
    obtain ⟨first, -, rfl, rfl⟩ | ⟨first, opcode, block, build, hbytes, rfl, hcase, hbuild⟩ :=
      MessageDecoder.calls_cases hcall
    · rfl
    · have hm := (MessageDecoder.switchCases_putsBack _ hcase block m hbuild).1
      have hnothing := @hwrote m first opcode hm
      rwa [answer_of_not_request] at hnothing
      intro hmem
      exact hrequest ⟨opcode, by rw [hbytes]; rfl, hmem⟩

/-- The turn ends like the default processing of a frame that the filter lets through. -/
theorem readerTurn_outcome (outside : Result UInt8) (cec_log_level : Int)
    (hphy : devMgr.phy.str.length = 2) (hne : 1 ≤ frame.length) :
    (readerTurn outside cec_log_level outlet devMgr isActive frame).outcome =
      if Connection.Receives tuner1 frame then
        catching (· == .invalidStateException)
          (MessageDecoder.decode (MessageProcessor.processAt outside cec_log_level)
            frame).outcome fun _ => .ok ()
      else .ok () := by
  obtain ⟨header, hheader⟩ :=
    (Header.ofFrame_returns hne : ∃ header, Header.ofFrame frame 0 = .ok header)
  have hfilter : (Connection.ofSource tuner1).isFiltered frame =
      .ok (decide (¬ Connection.Receives tuner1 frame)) := Connection.isFiltered_eq _ hne
  rw [← @notifyCall_outcome outlet devMgr isActive frame outside cec_log_level hphy hne]
  show Bus.readerTurn _ frame = _
  rw [Bus.readerTurn, Bus.notifyAll_singleton, Connection.notify, hfilter, Result.ok_bind]
  by_cases hreceives : Connection.Receives tuner1 frame
  · rw [if_pos hreceives, decide_eq_false (not_not_intro hreceives), if_neg Bool.false_ne_true,
      Bus.notifyAll_singleton]
  · rw [if_neg hreceives, decide_eq_true hreceives, if_pos rfl, hheader]
    rfl

/-- The turn returns, whatever a read outside of a vector comes to, if and only if the frame
is for another device or can be printed. -/
theorem readerTurn_returns_iff (cec_log_level : Int) (hphy : devMgr.phy.str.length = 2)
    (hne : 1 ≤ frame.length) :
    (∀ outside, (readerTurn outside cec_log_level outlet devMgr isActive frame).outcome =
        .ok ()) ↔
      (Connection.Receives tuner1 frame →
        MessageDecoder.Printable cec_log_level frame.bytes) := by
  constructor
  · intro hreturns hreceives
    by_contra hprintable
    have hundefined := hreturns (.error .undefined)
    rw [readerTurn_outcome _ _ hphy hne, if_pos hreceives,
      MessageDecoder.decode_unprintable hprintable] at hundefined
    cases hundefined
  · intro hprintable outside
    rw [readerTurn_outcome _ _ hphy hne]
    split
    · next hreceives =>
      rw [MessageDecoder.decode_printable outside hne (hprintable hreceives)]
      rfl
    · rfl

/-- A frame for another device is not answered, and the others are answered as
`reply` says. -/
theorem readerTurn_wrote (outside : Result UInt8) (cec_log_level : Int)
    (hstarted : outlet.started = true) (hphy : devMgr.phy.str.length = 2)
    (isActive : Answer Int) (hne : 1 ≤ frame.length) :
    Wrote (readerTurn outside cec_log_level outlet devMgr isActive frame).written
      (if Connection.Receives tuner1 frame then reply devMgr isActive frame.bytes else none) := by
  have hfilter : (Connection.ofSource tuner1).isFiltered frame =
      .ok (decide (¬ Connection.Receives tuner1 frame)) := Connection.isFiltered_eq _ hne
  rw [readerTurn, hfilter]
  by_cases hreceives : Connection.Receives tuner1 frame
  · rw [if_pos hreceives, decide_eq_false (not_not_intro hreceives)]
    exact notifyCall_wrote outside cec_log_level hstarted hphy isActive frame
  · rw [if_neg hreceives, decide_eq_true hreceives]
    rfl

end Dispatch

/-! ## In every run -/

/-- What the connection of the running process sends through. -/
def outletOf (s : PowerCallback.State) (answers : Nat → HdmiCecTx) : Outlet where
  driver := s.driver
  started := s.started
  answers := answers

section Runs

variable {ok : PowerCallback.State → PowerCallback.Action → Prop} {s : PowerCallback.State}
  {frame : CECFrame}

/-- The bus of a process that listens is started, and its address has two bytes. -/
theorem listening_wrote (h : PowerCallback.system.Reachable ok s)
    (hlistening : s.main = .heartbeat) (answers : Nat → HdmiCecTx) (outside : Result UInt8)
    (cec_log_level : Int) (isActive : Answer Int) (hne : 1 ≤ frame.length) :
    Wrote (readerTurn outside cec_log_level (outletOf s answers) s.devMgr isActive
        frame).written
      (if Connection.Receives tuner1 frame then reply s.devMgr isActive frame.bytes else none) := by
  have hmain := PowerCallback.reachable_mainInv h
  have hstarted : (outletOf s answers).started = true :=
    hmain.started (by rw [hlistening]; rfl)
  exact readerTurn_wrote outside cec_log_level hstarted hmain.phy isActive hne

/-- In every run, whatever power events there have been: once the listener is added, the
reader's turn for a frame writes the answer to the frame, once and whatever the native driver
answers, if the frame is for the device manager or for everyone and there is one.  It returns
if and only if the frame is for another device or can be printed. -/
theorem readerTurn_answers (h : PowerCallback.system.Reachable ok s)
    (hlistening : s.main = .heartbeat) (answers : Nat → HdmiCecTx) (cec_log_level : Int)
    (isActive : Answer Int) (hne : 1 ≤ frame.length) :
    let call := fun outside =>
      readerTurn outside cec_log_level (outletOf s answers) s.devMgr isActive frame
    (∀ outside, Wrote (call outside).written
      (if Connection.Receives tuner1 frame then reply s.devMgr isActive frame.bytes
        else none)) ∧
      ((∀ outside, (call outside).outcome = .ok ()) ↔
        (Connection.Receives tuner1 frame →
          MessageDecoder.Printable cec_log_level frame.bytes)) :=
  ⟨fun outside => listening_wrote h hlistening answers outside cec_log_level isActive hne,
    readerTurn_returns_iff cec_log_level (PowerCallback.reachable_mainInv h).phy hne⟩

/-- <Give Device Power Status> from the television, after the device was switched on. -/
theorem readerTurn_answers_powerStatus :
    ∃ (s : PowerCallback.State) (frame : CECFrame),
      PowerCallback.system.Reachable StepSystem.unguarded s ∧ s.devMgr.powerState = 0 ∧
      frame.bytes = [0x03, 0x8F] ∧
      let call := fun outside => readerTurn outside LogLines.logInfo
        (outletOf s PowerCallback.acknowledges) s.devMgr (.ok 1) frame
      (∀ outside, Wrote (call outside).written
        (if Connection.Receives tuner1 frame then reply s.devMgr (.ok 1) frame.bytes
          else none)) ∧
        ((∀ outside, (call outside).outcome = .ok ()) ↔
          (Connection.Receives tuner1 frame →
            MessageDecoder.Printable LogLines.logInfo frame.bytes)) := by
  obtain ⟨s, hreach, hlistening, hon⟩ :=
    PowerCallback.system.exists_reachable_of_run StepSystem.unguarded PowerCallback.new
      (PowerCallback.startUp ++ PowerCallback.switchedOn ++
        [.main .connectionOpen, .main .addFrameListener])
      (fun s => s.main = .heartbeat ∧ s.devMgr.powerState = 0) rfl (by decide +kernel)
  exact ⟨s, CECFrame.ofBytes [0x03, 0x8F] (by decide), hreach, hon, by decide +kernel,
    readerTurn_answers hreach hlistening _ LogLines.logInfo (.ok 1) (by decide +kernel)⟩

/-- The connection of the follower takes a frame, and every connection one for everyone. -/
theorem receives_follower {initiator follower : UInt8} (hi : initiator ≤ 15)
    (hf : follower ≤ 15) {payload : List UInt8} (hbytes : frame.bytes =
      Header.pack initiator follower :: payload) {address : UInt8}
    (h : follower = address ∨ follower = 15) :
    Connection.Receives (CECBytes.ofByte address) frame := by
  obtain ⟨i, rfl⟩ := UInt8.eq_ofNat_fin16 hi
  obtain ⟨j, rfl⟩ := UInt8.eq_ofNat_fin16 hf
  have hdestination : Connection.destination frame = UInt8.ofNat j := by
    rw [Connection.destination, hbytes, List.headD_cons, SendPaths.pack_follower]
  rw [Connection.Receives, hdestination]
  rcases h with haddress | hfifteen
  · rw [haddress]
    exact .inr (.inr rfl)
  · exact .inr (.inl hfifteen)

/-- What is written for a message to the device manager, or to everyone, are the bytes of
what the processor means: nothing, or one short message for the initiator or for everyone. -/
theorem replies_of_bytes (h : PowerCallback.system.Reachable ok s)
    (hlistening : s.main = .heartbeat) (answers : Nat → HdmiCecTx) (outside : Result UInt8)
    (cec_log_level : Int) (isActive : Answer Int) {m : Message} (hm : m.WellFormed)
    {initiator follower : UInt8}
    (hinitiator : initiator ≤ 15) (hfollower : follower = 3 ∨ follower = 15)
    (hbytes : frame.bytes = Header.pack initiator follower :: m.wire) :
    let written :=
      (readerTurn outside cec_log_level (outletOf s answers) s.devMgr isActive frame).written
    let sent := process s.devMgr isActive m (Header.ofNibbles initiator follower)
    sent = [] ∧ written = [] ∨
      ∃ to_ answered, sent = [(CECBytes.ofByte to_, answered)] ∧ (to_ = initiator ∨ to_ = 15) ∧
        answered.WellFormed ∧ answered.wire.length ≤ 7 ∧ written ≠ [] ∧
        ∀ out ∈ written, out.bytes = Header.pack 3 to_ :: answered.wire := by
  have hto : follower ≤ 15 := by rcases hfollower with rfl | rfl <;> decide
  have hne : 1 ≤ frame.length := by
    rw [← CECFrame.bytes_length, hbytes, List.length_cons]
    omega
  have hreceives : Connection.Receives tuner1 frame :=
    receives_follower hinitiator hto hbytes hfollower
  obtain ⟨i, rfl⟩ := UInt8.eq_ofNat_fin16 hinitiator
  obtain ⟨j, rfl⟩ := UInt8.eq_ofNat_fin16 hto
  have hphy := (PowerCallback.reachable_mainInv h).phy
  have hwrote := listening_wrote h hlistening answers outside cec_log_level isActive hne
  rw [if_pos hreceives, hbytes] at hwrote
  by_cases hpolling : m = .polling
  · subst hpolling
    refine .inl ⟨?_, hwrote⟩
    exact process_of_not_overridden rfl
  · have hop := (Message.opCode_toUInt8 hm hpolling).symm
    rw [Message.wire, if_neg hpolling, reply, Header.upper_pack] at hwrote
    have hreplies : Replies (answer s.devMgr isActive (UInt8.ofNat i) m.opCode.toUInt8)
        (process s.devMgr isActive m (Header.ofNibbles (UInt8.ofNat i) (UInt8.ofNat j))) :=
      process_replies hphy isActive hop rfl
    have hanswer : ∀ to_ payload, answer s.devMgr isActive (UInt8.ofNat i) m.opCode.toUInt8 =
        some (to_, payload) → (to_ = UInt8.ofNat i ∨ to_ = 15) ∧ payload.length ≤ 7 := by
      intro to_ payload hanswer
      exact ⟨answer_follower hanswer, answer_length hphy hanswer⟩
    generalize answer s.devMgr isActive (UInt8.ofNat i) m.opCode.toUInt8 = a
      at hreplies hwrote hanswer
    generalize process s.devMgr isActive m _ = sent at hreplies
    cases hreplies with
    | nothing => exact .inl ⟨rfl, hwrote⟩
    | reply to_ answered hanswered =>
        obtain ⟨hfollower', hlength⟩ := hanswer to_ _ rfl
        exact .inr ⟨to_, answered, rfl, hfollower', hanswered, hlength, hwrote.ne_nil,
          hwrote.bytes_eq⟩

/-- The same between two devices of the library: what a device sends to the device manager
is answered with the messages that the processor means, and the device's own decoder hands
over exactly these, with the device manager as the initiator. -/
theorem replies_decode (h : PowerCallback.system.Reachable ok s)
    (hlistening : s.main = .heartbeat) (answers : Nat → HdmiCecTx) (outside : Result UInt8)
    (cec_log_level : Int) (isActive : Answer Int) {m : Message} (hm : m.WellFormed)
    {initiator follower : UInt8}
    (hinitiator : initiator ≤ 15) (hfollower : follower = 3 ∨ follower = 15)
    (hencode : MessageEncoder.encode (Header.ofNibbles initiator follower) m = .ok frame) :
    let written :=
      (readerTurn outside cec_log_level (outletOf s answers) s.devMgr isActive frame).written
    let sent := process s.devMgr isActive m (Header.ofNibbles initiator follower)
    sent = [] ∧ written = [] ∨
      ∃ to_ answered, sent = [(to_, answered)] ∧ written ≠ [] ∧
        ∀ out ∈ written, ∀ process, (MessageDecoder.decode process out).calls =
          [(answered, { from_ := tuner1, to_ := to_ })] := by
  obtain ⟨frame', hframe', hbytes⟩ := MessageEncoder.encode_bytes initiator follower hm
  rw [hencode] at hframe'
  cases hframe'
  obtain hnothing | ⟨to_, answered, hsent, hto, hanswered, -, hwritten, hout⟩ :=
    replies_of_bytes h hlistening answers outside cec_log_level isActive hm hinitiator hfollower
      hbytes
  · exact .inl hnothing
  · refine .inr ⟨CECBytes.ofByte to_, answered, hsent, hwritten, ?_⟩
    intro out hmem process
    have hnibble : to_ ≤ 15 := by
      rcases hto with rfl | rfl
      · exact hinitiator
      · decide
    exact MessageDecoder.decode_wire process (by decide) hnibble hanswered (hout out hmem)

/-- The television asks for the OSD name. -/
theorem replies_decode_giveOSDName :
    ∃ (s : PowerCallback.State) (frame : CECFrame),
      PowerCallback.system.Reachable StepSystem.unguarded s ∧ frame.bytes = [0x03, 0x46] ∧
      let written := (readerTurn (.ok 0) LogLines.logInfo
        (outletOf s PowerCallback.acknowledges) s.devMgr (.ok 1) frame).written
      let sent := process s.devMgr (.ok 1) .giveOSDName (Header.ofNibbles 0 3)
      sent = [] ∧ written = [] ∨
        ∃ to_ answered, sent = [(to_, answered)] ∧ written ≠ [] ∧
          ∀ out ∈ written, ∀ process, (MessageDecoder.decode process out).calls =
            [(answered, { from_ := tuner1, to_ := to_ })] := by
  obtain ⟨s, hreach, hlistening⟩ :=
    PowerCallback.system.exists_reachable_of_run StepSystem.unguarded PowerCallback.new
      (PowerCallback.startUp ++ [.main .connectionOpen, .main .addFrameListener])
      (fun s => s.main = .heartbeat) rfl (by decide +kernel)
  obtain ⟨frame, hencode, hbytes⟩ := MessageEncoder.encode_bytes 0 3 (m := .giveOSDName) trivial
  exact ⟨s, frame, hreach, hbytes, replies_decode hreach hlistening PowerCallback.acknowledges
    (.ok 0) LogLines.logInfo (.ok 1) (m := .giveOSDName) trivial (by decide) (.inl rfl) hencode⟩

/-- A frame without a header is not read far enough to be answered. -/
theorem readerTurn_empty (outside : Result UInt8) (cec_log_level : Int) (outlet : Outlet)
    (devMgr : DevMgr) (isActive : Answer Int) (hempty : frame.length = 0) :
    (readerTurn outside cec_log_level outlet devMgr isActive frame).written = [] := by
  have hfilter : (Connection.ofSource tuner1).isFiltered frame = throwing .outOfRange := by
    rw [Connection.isFiltered, if_neg (by decide), Header.ofFrame_empty hempty]
    rfl
  rw [readerTurn, hfilter]
  rfl

/-- No answer is answered: a device manager writes nothing for a frame that a device
manager, the same one or another, has written in a turn of its reader. -/
theorem replies_unanswered {s' : PowerCallback.State}
    (h : PowerCallback.system.Reachable ok s) (hlistening : s.main = .heartbeat)
    (h' : PowerCallback.system.Reachable ok s') (hlistening' : s'.main = .heartbeat)
    (answers answers' : Nat → HdmiCecTx) (outside outside' : Result UInt8)
    (cec_log_level cec_log_level' : Int) (isActive isActive' : Answer Int) {out : CECFrame}
    (hout : out ∈ (readerTurn outside cec_log_level (outletOf s answers) s.devMgr isActive
      frame).written) :
    (readerTurn outside' cec_log_level' (outletOf s' answers') s'.devMgr isActive'
      out).written = [] := by
  have hne : 1 ≤ frame.length := by
    by_contra hempty
    rw [readerTurn_empty _ _ _ _ _ (by omega)] at hout
    cases hout
  have hwrote := listening_wrote h hlistening answers outside cec_log_level isActive hne
  obtain ⟨follower, answered, operands, hbytes, hnot⟩ : ∃ follower answered operands,
      out.bytes = Header.pack 3 follower :: answered :: operands ∧ answered ∉ requests := by
    split at hwrote
    · cases hreply : reply s.devMgr isActive frame.bytes with
      | none =>
          rw [hreply] at hwrote
          rw [show _ = [] from hwrote] at hout
          cases hout
      | some a =>
          rw [hreply] at hwrote
          obtain ⟨answered, operands, hpayload, hnot⟩ := reply_payload hreply
          exact ⟨a.1, answered, operands, by rw [hwrote.bytes_eq out hout, hpayload], hnot⟩
    · rw [show _ = [] from hwrote] at hout
      cases hout
  have hnone : reply s'.devMgr isActive' out.bytes = none := by
    rw [hbytes]
    exact answer_of_not_request hnot
  have hheaded : 1 ≤ out.length := by
    rw [← CECFrame.bytes_length, hbytes, List.length_cons]
    omega
  have hsilent :=
    listening_wrote h' hlistening' answers' outside' cec_log_level' isActive' hheaded
  rw [hnone, ite_self] at hsilent
  exact hsilent

/-- The answer to <Get CEC Version> comes back. -/
theorem replies_unanswered_getCECVersion :
    ∃ (s : PowerCallback.State) (frame out : CECFrame),
      PowerCallback.system.Reachable StepSystem.unguarded s ∧ frame.bytes = [0x03, 0x9F] ∧
      out.bytes = [0x30, 0x9E, 0x04] ∧
      (readerTurn (.ok 0) LogLines.logInfo (outletOf s PowerCallback.acknowledges) s.devMgr
        (.ok 1) out).written = [] := by
  obtain ⟨s, hreach, hlistening⟩ :=
    PowerCallback.system.exists_reachable_of_run StepSystem.unguarded PowerCallback.new
      (PowerCallback.startUp ++ [.main .connectionOpen, .main .addFrameListener])
      (fun s => s.main = .heartbeat) rfl (by decide +kernel)
  let frame : CECFrame := CECFrame.ofBytes [0x03, 0x9F] (by decide)
  have hbytes : frame.bytes = [0x03, 0x9F] := by decide +kernel
  have hwrote := listening_wrote hreach hlistening PowerCallback.acknowledges (.ok 0)
    LogLines.logInfo (.ok 1) (show 1 ≤ frame.length by decide +kernel)
  rw [if_pos (by decide +kernel), hbytes] at hwrote
  obtain ⟨out, hout, hanswer⟩ := hwrote
  refine ⟨s, frame, out, hreach, hbytes, hanswer, ?_⟩
  exact replies_unanswered hreach hlistening hreach hlistening _ _ (.ok 0) (.ok 0)
    LogLines.logInfo LogLines.logInfo (.ok 1) (.ok 1)
    (by rw [hout]; exact List.mem_singleton.mpr rfl)

end Runs

end DeviceManager

end HdmiCec
