import HdmiCec.Daemon.EndToEnd
import HdmiCec.DevMgr.Answers

/-!
# A question and its answer

A client of one daemon asks the device manager, which is a client of another one.  The
question goes through the `_Send` of the first daemon, and the answer through that of the
second.  Each of them may put the address 15 in the place of the initiator.

This does not matter for the answer, which is for the initiator of the question or for
everyone.  It does for the question: a message from the address 15 has nobody to answer to.
-/

namespace HdmiCec

namespace Dialogue

open Collection (Fits handsOver handsOver_initiated)
open DeviceManager (Answer outletOf process readerTurn receives_follower)

/-- The initiator that is left of `initiator` behind the `_Send` of a daemon. -/
def initiatorBehind (daemon : Daemon) (initiator : UInt8) : UInt8 :=
  if daemon.library.driver.isValidLogicalAddress LogicalAddress.unregistered then 15
  else initiator

section Relay

variable {memcpyS : MemcpyS} {daemon : Daemon} {initiator follower : UInt8}

theorem initiatorBehind_le (daemon : Daemon) (h : initiator ≤ 15) :
    initiatorBehind daemon initiator ≤ 15 := by
  rw [initiatorBehind]
  split
  · decide
  · exact h

theorem initiated_pack (daemon : Daemon) (hi : initiator ≤ 15) (hf : follower ≤ 15) :
    daemon.initiated (Header.pack initiator follower) =
      Header.pack (initiatorBehind daemon initiator) follower := by
  rw [Daemon.initiated, initiatorBehind]
  split
  · exact EndToEnd.pack_unregistered hi hf
  · rfl

/-- A started daemon passes a message on, with another initiator at most. -/
theorem relayed (hcopies : memcpyS.Copies) (hstarted : daemon.IsStarted) {frame : CECFrame}
    {payload : List UInt8} (hi : initiator ≤ 15) (hf : follower ≤ 15)
    (hbytes : frame.bytes = Header.pack initiator follower :: payload)
    (hroom : frame.length ≤ 63) :
    handsOver (IarmDriver.dataToSend memcpyS frame.bytes) daemon =
      some (Header.pack (initiatorBehind daemon initiator) follower :: payload) := by
  have hfits : Fits frame := by
    refine ⟨?_, hroom⟩
    rw [← CECFrame.bytes_length, hbytes, List.length_cons]
    omega
  rw [← initiated_pack daemon hi hf]
  exact (handsOver_initiated hcopies hfits (.inr hstarted.connection) hbytes).1 hstarted

end Relay

/-! ## Over two daemons -/

variable {ok : PowerCallback.State → PowerCallback.Action → Prop} {s : PowerCallback.State}
  {memcpyS : MemcpyS} {asking answering : Daemon} {frame : CECFrame}

/-- In every run of the device manager that listens, whatever the two started daemons own: a
message that a client has encoded for the device manager or for everyone is handed over by
the first daemon.  If this one owns the address 15, nothing is written for what has been
handed over.  If not, what is written are the messages that the processor means; the second
daemon hands each of them over, the connection of the asking client takes it, and the
decoder there hands it over as it was meant, from the device manager or from the
address 15. -/
theorem reply_twoDaemons (hcopies : memcpyS.Copies) (hasking : asking.IsStarted)
    (hanswering : answering.IsStarted) (h : PowerCallback.system.Reachable ok s)
    (hlistening : s.main = .heartbeat) (answers : Nat → HdmiCecTx) (outside : Result UInt8)
    (cec_log_level : Int) (isActive : Answer Int) {m : Message} (hm : m.WellFormed)
    {initiator follower : UInt8} (hinitiator : initiator ≤ 15)
    (hfollower : follower = 3 ∨ follower = 15)
    (hencode : MessageEncoder.encode (Header.ofNibbles initiator follower) m = .ok frame) :
    ∃ received, handsOver (IarmDriver.dataToSend memcpyS frame.bytes) asking = some received ∧
      ∀ taken : CECFrame, taken.bytes = received →
        let written := (readerTurn outside cec_log_level (outletOf s answers) s.devMgr isActive
          taken).written
        let meant := process s.devMgr isActive m (Header.ofNibbles initiator follower)
        if asking.library.driver.isValidLogicalAddress LogicalAddress.unregistered then
          written = []
        else
          meant = [] ∧ written = [] ∨
            ∃ to_ reply, meant = [(to_, reply)] ∧ written ≠ [] ∧
              ∀ out ∈ written, ∃ returned,
                handsOver (IarmDriver.dataToSend memcpyS out.bytes) answering = some returned ∧
                ∀ heard : CECFrame, heard.bytes = returned →
                  Connection.Receives (CECBytes.ofByte initiator) heard ∧
                  ∀ process, (MessageDecoder.decode process heard).calls =
                    [(reply, { from_ := CECBytes.ofByte (initiatorBehind answering 3)
                               to_ := to_ })] := by
  have hto : follower ≤ 15 := by rcases hfollower with rfl | rfl <;> decide
  obtain ⟨frame', hframe', hbytes⟩ := MessageEncoder.encode_bytes initiator follower hm
  rw [hencode] at hframe'
  cases hframe'
  have hroom : frame.length ≤ 63 := by
    have hshort := Message.wire_length_le hm
    rw [← CECFrame.bytes_length, hbytes, List.length_cons]
    omega
  refine ⟨_, relayed hcopies hasking hinitiator hto hbytes hroom, ?_⟩
  intro taken htaken
  have hreplies := DeviceManager.replies_of_bytes h hlistening answers outside cec_log_level
    isActive hm (initiatorBehind_le asking hinitiator) hfollower htaken
  dsimp only at hreplies ⊢
  split
  · next howns =>
    -- the message arrives from the address 15, and is passed over
    have hunregistered : initiatorBehind asking initiator = 15 := if_pos howns
    rw [hunregistered] at hreplies
    have hnothing : process s.devMgr isActive m (Header.ofNibbles 15 follower) = [] :=
      DeviceManager.process_unregistered m rfl
    obtain ⟨-, hwritten⟩ | ⟨to_, reply, hmeant, -⟩ := hreplies
    · exact hwritten
    · rw [hnothing] at hmeant
      cases hmeant
  · next hfree =>
    have hsame : initiatorBehind asking initiator = initiator := if_neg hfree
    rw [hsame] at hreplies
    obtain hnothing | ⟨to_, reply, hmeant, hreturns, hreply, hshort, hwritten, hout⟩ := hreplies
    · exact .inl hnothing
    · refine .inr ⟨CECBytes.ofByte to_, reply, hmeant, hwritten, ?_⟩
      intro out hmem
      have hto' : to_ ≤ 15 := by
        rcases hreturns with rfl | rfl
        · exact hinitiator
        · decide
      -- an answer is short enough for a block
      have hroom' : out.length ≤ 63 := by
        rw [← CECFrame.bytes_length, hout out hmem, List.length_cons]
        omega
      have hbehind : initiatorBehind answering 3 ≤ 15 := initiatorBehind_le answering (by decide)
      refine ⟨_, relayed hcopies hanswering (by decide) hto' (hout out hmem) hroom', ?_⟩
      intro heard hheard
      exact ⟨receives_follower hbehind hto' hheard hreturns,
        fun process => MessageDecoder.decode_wire process hbehind hto' hreply hheard⟩

/-- The television asks for the OSD name; no daemon owns the address 15. -/
theorem reply_twoDaemons_giveOSDName :
    ∃ (s : PowerCallback.State) (frame : CECFrame),
      PowerCallback.system.Reachable StepSystem.unguarded s ∧ frame.bytes = [0x03, 0x46] ∧
      ∃ received,
        handsOver (IarmDriver.dataToSend MemcpyS.checked frame.bytes) (Daemon.started []) =
          some received ∧
        ∀ taken : CECFrame, taken.bytes = received →
          let written := (readerTurn (.ok 0) LogLines.logInfo
            (outletOf s PowerCallback.acknowledges) s.devMgr (.ok 1) taken).written
          let meant := process s.devMgr (.ok 1) .giveOSDName (Header.ofNibbles 0 3)
          if (Daemon.started []).library.driver.isValidLogicalAddress
              LogicalAddress.unregistered then
            written = []
          else
            meant = [] ∧ written = [] ∨
              ∃ to_ reply, meant = [(to_, reply)] ∧ written ≠ [] ∧
                ∀ out ∈ written, ∃ returned,
                  handsOver (IarmDriver.dataToSend MemcpyS.checked out.bytes)
                    (Daemon.started []) = some returned ∧
                  ∀ heard : CECFrame, heard.bytes = returned →
                    Connection.Receives (CECBytes.ofByte 0) heard ∧
                    ∀ process, (MessageDecoder.decode process heard).calls =
                      [(reply,
                        { from_ := CECBytes.ofByte (initiatorBehind (Daemon.started []) 3)
                          to_ := to_ })] := by
  obtain ⟨s, hreach, hlistening⟩ :=
    PowerCallback.system.exists_reachable_of_run StepSystem.unguarded PowerCallback.new
      (PowerCallback.startUp ++ [.main .connectionOpen, .main .addFrameListener])
      (fun s => s.main = .heartbeat) rfl (by decide +kernel)
  obtain ⟨frame, hencode, hbytes⟩ := MessageEncoder.encode_bytes 0 3 (m := .giveOSDName) trivial
  exact ⟨s, frame, hreach, hbytes, reply_twoDaemons MemcpyS.checked_copies
    (Daemon.started_isStarted []) (Daemon.started_isStarted []) hreach hlistening
    PowerCallback.acknowledges (.ok 0) LogLines.logInfo (.ok 1) (m := .giveOSDName) trivial
    (by decide) (.inl rfl) hencode⟩

end Dialogue

end HdmiCec
