import HdmiCec.Core.PrintedFrames
import HdmiCec.Daemon.CecIARMBusMgr
import HdmiCec.Library.StepSystem

/-!
# A received packet in the daemon

The driver calls `DriverReceiveCallback` with a packet, which becomes a frame in
the queue; the reader thread takes the frame out and passes it over the bus and
the daemon's connection to the frame listener, which decodes it and broadcasts it.

The stages differ in the lengths they stand.  A frame holds 128 bytes, and the
callback fills it outside its `try` block; the decoder and the listener read a
header outside any, and print the message in between; the event block of the
listener holds 62 bytes, and an assertion says that a frame is not longer.
`Handled` puts the reader's side into one condition.
-/

namespace HdmiCec

namespace CecIARMMgrFrameListener

variable {cec_log_level : Int} {frame : CECFrame}

/-- The listener broadcasts a frame that can be printed, unless the frame is too long for
the event block: then the assertion fails. -/
theorem notify_printable (outside : Result UInt8) (hne : 1 ≤ frame.length)
    (hprintable : MessageDecoder.Printable cec_log_level frame.bytes) :
    notify (MessageProcessor.processAt outside cec_log_level) frame =
      if frame.length ≤ 62 then .ok (dataRcvd frame) else .error .assertFails := by
  obtain ⟨header, hheader⟩ :=
    (Header.ofFrame_returns hne : ∃ header, Header.ofFrame frame 0 = .ok header)
  rw [notify, MessageDecoder.decode_printable outside hne hprintable, Result.ok_bind, hheader,
    Result.ok_bind, CECMgr.maxDataLength]
  by_cases hfits : frame.length ≤ 62
  · rw [if_pos hfits, if_pos hfits]
    dsimp only
    rw [OpCode.ofFrame_logged]
    rfl
  · rw [if_neg hfits, if_neg hfits]
    rfl

/-- Printing comes first, and is undefined for every other frame. -/
theorem notify_unprintable (hprintable : ¬ MessageDecoder.Printable cec_log_level frame.bytes) :
    notify (MessageProcessor.processAt (.error .undefined) cec_log_level) frame =
      .error .undefined := by
  rw [notify, MessageDecoder.decode_unprintable hprintable]
  rfl

/-- A frame without a header leaves the decoder as an exception. -/
theorem notify_empty (process : Message → Header → Result Unit) (hempty : frame.length = 0) :
    notify process frame = throwing .outOfRange := by
  rw [notify, MessageDecoder.decode_empty process hempty]
  rfl

end CecIARMMgrFrameListener

namespace Daemon

/-- The listeners of the daemon's bus: its one connection, with one listener. -/
def listeners (process : Message → Header → Result Unit) : List (CECFrame → Result Unit) :=
  [(Connection.ofSource LogicalAddress.unregistered).notify
    [fun frame => (CecIARMMgrFrameListener.notify process frame).map fun _ => ()]]

/-- A turn of the reader's loop is a call of the frame listener. -/
theorem readerTurn_listeners (process : Message → Header → Result Unit) (frame : CECFrame) :
    Bus.readerTurn (listeners process) frame =
      catching (· == .invalidStateException)
        ((CecIARMMgrFrameListener.notify process frame).map fun _ => ()) fun _ => .ok () := by
  rw [Bus.readerTurn, listeners, Bus.notifyAll_singleton, Connection.notify_unregistered,
    Bus.notifyAll_singleton]

/-- The packets that the listener of the daemon stands: they have a header, fit the event
block and can be printed. -/
structure Handled (cec_log_level : Int) (buf : List UInt8) : Prop where
  headed : 1 ≤ buf.length
  fits : buf.length ≤ 62
  printable : MessageDecoder.Printable cec_log_level buf

instance (cec_log_level : Int) (buf : List UInt8) : Decidable (Handled cec_log_level buf) :=
  decidable_of_iff (1 ≤ buf.length ∧ buf.length ≤ 62 ∧
    MessageDecoder.Printable cec_log_level buf)
    ⟨fun ⟨headed, fits, printable⟩ => ⟨headed, fits, printable⟩,
      fun h => ⟨h.headed, h.fits, h.printable⟩⟩

/-- A turn of the reader's loop returns for a frame that is handled, whatever a read outside
of a vector comes to. -/
theorem readerTurn_handled (outside : Result UInt8) {cec_log_level : Int} {frame : CECFrame}
    (h : Handled cec_log_level frame.bytes) :
    Bus.readerTurn (listeners (MessageProcessor.processAt outside cec_log_level)) frame =
      .ok () := by
  have hheaded := h.headed
  have hfits := h.fits
  rw [CECFrame.bytes_length] at hheaded hfits
  rw [readerTurn_listeners,
    CecIARMMgrFrameListener.notify_printable outside hheaded h.printable, if_pos hfits]
  rfl

/-- It does not return for the others, where a read outside is undefined. -/
theorem not_readerTurn_returns {cec_log_level : Int} {frame : CECFrame}
    (h : ¬ Handled cec_log_level frame.bytes) :
    Bus.readerTurn (listeners (MessageProcessor.processAt (.error .undefined) cec_log_level))
      frame ≠ .ok () := by
  rw [readerTurn_listeners]
  by_cases hempty : frame.length = 0
  · rw [CecIARMMgrFrameListener.notify_empty _ hempty]
    exact fun hreturns => by cases hreturns
  · by_cases hprintable : MessageDecoder.Printable cec_log_level frame.bytes
    · have hlong : ¬ frame.length ≤ 62 := fun hfits =>
        h ⟨by rw [CECFrame.bytes_length]; omega, by rwa [CECFrame.bytes_length], hprintable⟩
      rw [CecIARMMgrFrameListener.notify_printable _ (by omega) hprintable, if_neg hlong]
      exact fun hreturns => by cases hreturns
    · rw [CecIARMMgrFrameListener.notify_unprintable hprintable]
      exact fun hreturns => by cases hreturns

/-- The packet takes nothing down: the callback returns, and so does the turn of
the reader's loop for every entry that the callback has added to the queue. -/
structure Survives (process : Message → Header → Result Unit) (driver : DriverImpl)
    (buf : List UInt8) : Prop where
  callback : (driver.driverReceiveCallback buf).2 = .ok ()
  reader : ∀ added frame,
    (driver.driverReceiveCallback buf).1.rQueue.items = driver.rQueue.items ++ added →
      some frame ∈ added → Bus.readerTurn (listeners process) frame = .ok ()

/-- A packet is survived, whatever a read outside of a vector comes to, exactly when it fits
a frame and, unless the queue is full and drops it, the listener stands it. -/
theorem survives_iff (cec_log_level : Int) {driver : DriverImpl}
    (hopened : driver.status = .opened) (buf : List UInt8) :
    (∀ outside, Survives (MessageProcessor.processAt outside cec_log_level) driver buf) ↔
      buf.length ≤ 128 ∧
        (driver.rQueue.cap ≤ driver.rQueue.items.length ∨ Handled cec_log_level buf) := by
  by_cases hframe : buf.length ≤ 128
  · obtain ⟨frame, hbytes, hcallback⟩ := DriverImpl.driverReceiveCallback_fits hopened hframe
    by_cases hfull : driver.rQueue.cap ≤ driver.rQueue.items.length
    · -- the frame is dropped, and the reader never sees it
      refine ⟨fun _ => ⟨hframe, .inl hfull⟩, fun _ outside => ⟨by rw [hcallback], ?_⟩⟩
      intro added received hadded hmem
      rw [hcallback, BoundedFifo.offer_full _ hfull] at hadded
      rw [List.self_eq_append_right.mp hadded] at hmem
      cases hmem
    · have hitems := BoundedFifo.offer_room (some frame) (Nat.not_le.mp hfull)
      constructor
      · intro hsurvives
        refine ⟨hframe, .inr ?_⟩
        by_contra hnot
        rw [← hbytes] at hnot
        refine not_readerTurn_returns hnot ?_
        exact (hsurvives (.error .undefined)).reader [some frame] frame
          (by rw [hcallback, hitems]) List.mem_cons_self
      · rintro ⟨-, hdropped | hhandled⟩ outside
        · exact absurd hdropped hfull
        · refine ⟨by rw [hcallback], ?_⟩
          intro added received hadded hmem
          rw [hcallback, hitems] at hadded
          rw [← List.append_cancel_left hadded, List.mem_singleton, Option.some_inj] at hmem
          rw [hmem]
          exact readerTurn_handled outside (by rwa [hbytes])
  · refine ⟨fun hsurvives => ?_, fun h => absurd h.1 hframe⟩
    -- the frame is filled outside the `try` block
    have hcallback := (hsurvives (.error .undefined)).callback
    rw [DriverImpl.driverReceiveCallback_overflows driver (Nat.not_le.mp hframe)] at hcallback
    cases hcallback

/-- A broadcast <Standby>, received by a daemon that has just been started. -/
theorem survives_standby :
    ∃ driver : DriverImpl, driver = (started []).library.driver ∧ ∀ outside,
      Survives (MessageProcessor.processAt outside LogLines.logInfo) driver [0x0F, 0x36] :=
  ⟨_, rfl, (survives_iff LogLines.logInfo rfl [0x0F, 0x36]).mpr
    ⟨by decide, .inr (by decide)⟩⟩

/-- A packet of no bytes ends the reader thread with `std::out_of_range`. -/
theorem not_survives_empty :
    ¬ Survives (MessageProcessor.processAt (.ok 0) LogLines.logInfo) (started []).library.driver
      [] := by
  intro hsurvives
  have hreturns := hsurvives.reader [some CECFrame.empty] CECFrame.empty rfl List.mem_cons_self
  cases hreturns

/-! ## Packets one after the other

The driver delivers packets while the reader thread takes the frames out of the
queue, in any order of the two. -/

/-- The open driver, and whether the process is up with its reader thread in the
loop. -/
structure Receiver where
  driver : DriverImpl
  looping : Bool

/-- The driver delivers a packet, or the reader makes a turn. -/
inductive ReceiverStep where
  | packet (buf : List UInt8)
  | turn

namespace Receiver

/-- An outcome other than a return takes the process down. -/
def after (receiver : Receiver) (outcome : Result Unit) : Receiver :=
  match outcome with
  | .ok () => receiver
  | .error _ => { receiver with looping := false }

/-- A turn takes a frame off the queue; on an empty queue the reader waits. -/
def step (process : Message → Header → Result Unit) (receiver : Receiver) :
    ReceiverStep → Option Receiver
  | .packet buf =>
      let (driver, outcome) := receiver.driver.driverReceiveCallback buf
      some ({ receiver with driver := driver }.after outcome)
  | .turn =>
      match receiver.driver.rQueue.poll with
      | some (some frame, rQueue) =>
          some ({ receiver with driver := { receiver.driver with rQueue := rQueue } }.after
            (Bus.readerTurn (listeners process) frame))
      | _ => none

/-- An open driver with an empty queue, and a reader in its loop. -/
def system (process : Message → Header → Result Unit) : StepSystem Receiver ReceiverStep where
  initial receiver := receiver.driver.status = .opened ∧ receiver.driver.rQueue.items = [] ∧
    receiver.looping = true
  step := step process

/-- The packets that the daemon stands. -/
def Stands (cec_log_level : Int) (_ : Receiver) : ReceiverStep → Prop
  | .packet buf => Handled cec_log_level buf
  | .turn => True

/-- The invariant: whatever waits in the queue can be handled. -/
structure Healthy (cec_log_level : Int) (receiver : Receiver) : Prop where
  opened : receiver.driver.status = .opened
  looping : receiver.looping = true
  queue : ∀ entry ∈ receiver.driver.rQueue.items,
    ∃ frame : CECFrame, entry = some frame ∧ Handled cec_log_level frame.bytes

section

variable {cec_log_level : Int} {receiver receiver' : Receiver}

theorem packet_healthy (h : receiver.Healthy cec_log_level) {buf : List UInt8}
    (hhandled : Handled cec_log_level buf) (process : Message → Header → Result Unit)
    (hstep : step process receiver (.packet buf) = some receiver') :
    receiver'.Healthy cec_log_level := by
  have hfits := hhandled.fits
  obtain ⟨frame, hbytes, hcallback⟩ :=
    DriverImpl.driverReceiveCallback_fits h.opened (show buf.length ≤ 128 by omega)
  rw [step, hcallback] at hstep
  cases hstep
  refine ⟨h.opened, h.looping, ?_⟩
  show ∀ entry ∈ (receiver.driver.rQueue.offer (some frame)).items, _
  by_cases hfull : receiver.driver.rQueue.cap ≤ receiver.driver.rQueue.items.length
  · rw [BoundedFifo.offer_full _ hfull]
    exact h.queue
  · rw [BoundedFifo.offer_room _ (Nat.not_le.mp hfull)]
    intro entry hmem
    obtain hold | hnew := List.mem_append.mp hmem
    · exact h.queue entry hold
    · exact ⟨frame, List.mem_singleton.mp hnew, by rwa [hbytes]⟩

theorem turn_healthy (h : receiver.Healthy cec_log_level) (outside : Result UInt8)
    (hstep : step (MessageProcessor.processAt outside cec_log_level) receiver .turn =
      some receiver') : receiver'.Healthy cec_log_level := by
  rw [step, BoundedFifo.poll] at hstep
  cases hitems : receiver.driver.rQueue.items with
  | nil =>
      rw [hitems] at hstep
      cases hstep
  | cons entry rest =>
      obtain ⟨frame, rfl, hhandled⟩ := h.queue entry (by rw [hitems]; exact List.mem_cons_self)
      rw [hitems] at hstep
      dsimp only at hstep
      rw [readerTurn_handled outside hhandled] at hstep
      cases hstep
      refine ⟨h.opened, h.looping, fun entry hmem => h.queue entry ?_⟩
      rw [hitems]
      exact List.mem_cons_of_mem _ hmem

/-- Any number of packets that the listener stands, in any order with the turns of the
reader, leave the reader looping. -/
theorem reachable_healthy (outside : Result UInt8)
    (h : (system (MessageProcessor.processAt outside cec_log_level)).Reachable
      (Stands cec_log_level) receiver) : receiver.Healthy cec_log_level := by
  refine h.invariant ?_ ?_
  · rintro receiver ⟨hopened, hempty, hlooping⟩
    refine ⟨hopened, hlooping, fun entry hmem => ?_⟩
    rw [hempty] at hmem
    cases hmem
  · intro receiver label receiver' _ hhealthy hstands hstep
    cases label with
    | packet buf =>
        exact packet_healthy hhealthy hstands
          (MessageProcessor.processAt outside cec_log_level) hstep
    | turn => exact turn_healthy hhealthy outside hstep

end

end Receiver

end Daemon

end HdmiCec
