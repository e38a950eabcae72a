import HdmiCec.Bus.SendPaths

/-!
# What an asynchronous send that returns has done

`EventQueue::offer` says in its documentation that it throws when the queue is full, and
returns without a word in the code.  So `Bus::sendAsync`, which passes on what `offer` does,
returns as if it had queued the frame.  The file shows for its three callers when a return
means what it says.
-/

namespace HdmiCec

namespace SendPaths

/-- There is room for one more entry. -/
def HasRoom (wQueue : BoundedFifo (Option CECFrame)) : Prop := wQueue.items.length < wQueue.cap

instance (wQueue : BoundedFifo (Option CECFrame)) : Decidable (HasRoom wQueue) :=
  inferInstanceAs (Decidable (_ < _))

/-- What the caller of an asynchronous send goes by: a return means that the queue has the
frame that was made of his, and with a full queue he gets an exception and nothing is
changed. -/
structure Queues (call : AsyncCall) (wQueue : BoundedFifo (Option CECFrame))
    (frame : CECFrame) (sent : Result CECFrame) : Prop where
  returned : call.outcome = .ok () → ∃ copyFrame, sent = .ok copyFrame ∧
    call.wQueue.items = wQueue.items ++ [some copyFrame]
  full : ¬ HasRoom wQueue → (∃ e, call.outcome = throwing e) ∧
    call.wQueue = wQueue ∧ call.frame = frame

/-- A call that throws and changes nothing is in order. -/
theorem Queues.of_throws {call : AsyncCall} {wQueue : BoundedFifo (Option CECFrame)}
    {frame : CECFrame} (sent : Result CECFrame) {e : Exception}
    (hthrows : call.outcome = throwing e) (hqueue : call.wQueue = wQueue)
    (hframe : call.frame = frame) : Queues call wQueue frame sent := by
  constructor
  · intro hreturns
    rw [hthrows] at hreturns
    cases hreturns
  · intro _
    exact ⟨⟨e, hthrows⟩, hqueue, hframe⟩

/-- The call of `Bus::sendAsync` in a function that leaves its caller with `left`. -/
theorem asyncSend_queues_iff (started : Bool) (wQueue : BoundedFifo (Option CECFrame))
    (frame left sent : CECFrame) :
    Queues { Bus.asyncSend started wQueue sent with frame := left } wQueue frame (.ok sent) ↔
      HasRoom wQueue ∨ (started = false ∧ left = frame) := by
  constructor
  · intro h
    by_cases hroom : HasRoom wQueue
    · exact .inl hroom
    · obtain ⟨⟨e, hthrows⟩, -, hframe⟩ := h.full hroom
      refine .inr ⟨?_, hframe⟩
      cases started with
      | false => rfl
      | true => cases hthrows
  · rintro (hroom | ⟨rfl, rfl⟩)
    · refine ⟨?_, fun hfull => absurd hroom hfull⟩
      intro hreturns
      cases started with
      | false => cases hreturns
      | true => exact ⟨sent, rfl, BoundedFifo.offer_room (some sent) hroom⟩
    · exact Queues.of_throws _ rfl rfl rfl

/-- The bus hands the frame of its caller back as it is. -/
theorem asyncSend_frame (started : Bool) (wQueue : BoundedFifo (Option CECFrame))
    (frame : CECFrame) :
    { Bus.asyncSend started wQueue frame with frame := frame } =
      Bus.asyncSend started wQueue frame := by
  cases started <;> rfl

/-! ## When `matchSource` leaves the frame of the caller alone -/

/-- The frame has the initiator that `matchSource` would put in. -/
def HasInitiator (frame : CECFrame) (s : UInt8) : Prop :=
  (frame.buf_.getD 0 0 >>> (4 : UInt8)) &&& 0x0F = s &&& 0x0F

theorem storeFirst_getD (frame : CECFrame) (byte : UInt8) :
    (frame.storeFirst byte).buf_.getD 0 0 = byte := by
  have hpos : 0 < frame.buf_.length := by
    rw [frame.buf_length]
    decide
  show (frame.buf_.set 0 byte).getD 0 0 = byte
  rw [List.getD_eq_getElem?_getD, List.getElem?_set_self hpos]
  rfl

/-- The two ways through `matchSource`: the frame is left as it is, or it gets another first
byte. -/
theorem matchSource_cases {connection : Connection} {s : UInt8}
    (hsource : connection.source = CECBytes.ofByte s) (driver : DriverImpl)
    (frame : CECFrame) :
    ((driver.isValidLogicalAddress connection.source = true → HasInitiator frame s) ∧
      connection.matchSource driver frame = .ok frame) ∨
    ((driver.isValidLogicalAddress connection.source = true ∧ ¬ HasInitiator frame s) ∧
      ∃ byte, byte ≠ frame.buf_.getD 0 0 ∧
        connection.matchSource driver frame = .ok (frame.storeFirst byte)) := by
  by_cases howned : driver.isValidLogicalAddress connection.source = true
  · rw [Connection.matchSource, if_pos howned, hsource, LogicalAddress.toInt_ofByte]
    simp only [Result.ok_bind, Result.pure_eq]
    rw [hsource] at howned
    by_cases hsame : HasInitiator frame s
    · exact .inl ⟨fun _ => hsame, if_neg fun hother => hother hsame⟩
    · refine .inr ⟨⟨howned, hsame⟩, _, ?_, if_pos hsame⟩
      intro heq
      apply hsame
      rw [HasInitiator, ← heq, Connection.initiator_of_newInitiator, UInt8.and_assoc,
        UInt8.and_self]
  · rw [Connection.matchSource, if_neg howned]
    exact .inl ⟨fun h => absurd h howned, rfl⟩

theorem matchSource_returns {connection : Connection} {s : UInt8}
    (hsource : connection.source = CECBytes.ofByte s) (driver : DriverImpl)
    (frame : CECFrame) :
    ∃ sent, connection.matchSource driver frame = .ok sent ∧
      (sent = frame ↔
        (driver.isValidLogicalAddress connection.source = true → HasInitiator frame s)) := by
  rcases matchSource_cases hsource driver frame with
    ⟨hkept, hmatch⟩ | ⟨⟨howned, hother⟩, byte, hne, hmatch⟩
  · exact ⟨frame, hmatch, iff_of_true rfl hkept⟩
  · refine ⟨_, hmatch, iff_of_false ?_ fun hkept => hother (hkept howned)⟩
    intro heq
    have hfirst := storeFirst_getD frame byte
    rw [heq] at hfirst
    exact hne hfirst.symm

/-! ## The three callers -/

section Callers

variable {connection : Connection} {s t : UInt8}

/-- When a return of an asynchronous send means that the frame is queued. -/
theorem async_queues_iff (hsource : connection.source = CECBytes.ofByte s)
    (driver : DriverImpl) (started : Bool) (wQueue : BoundedFifo (Option CECFrame))
    (frame : CECFrame) :
    (Queues (Bus.asyncSend started wQueue frame) wQueue frame (.ok frame) ↔
        HasRoom wQueue ∨ started = false) ∧
      (Queues (sendAsync connection driver started wQueue frame) wQueue frame
          (connection.matchSource driver frame) ↔
        HasRoom wQueue ∨ (started = false ∧
          (driver.isValidLogicalAddress connection.source = true →
            HasInitiator frame s))) ∧
      (Queues (sendToAsync connection driver started wQueue (CECBytes.ofByte t) frame) wQueue
          frame (connection.fullFrame (CECBytes.ofByte t) frame >>=
            connection.matchSource driver) ↔
        HasRoom wQueue ∨ started = false ∨ 128 < 1 + frame.length) := by
  refine ⟨?_, ?_, ?_⟩
  · have hbus := asyncSend_queues_iff started wQueue frame frame frame
    rw [asyncSend_frame] at hbus
    simpa using hbus
  · obtain ⟨sent, hmatch, hsame⟩ := matchSource_returns hsource driver frame
    rw [sendAsync, hmatch, ← hsame]
    have hbus := asyncSend_queues_iff started wQueue frame sent sent
    rw [asyncSend_frame] at hbus
    exact hbus
  · by_cases hlong : 128 < 1 + frame.length
    · rw [sendToAsync, fullFrame_overflows hsource hlong]
      refine iff_of_true ?_ (.inr (.inr hlong))
      exact Queues.of_throws _ rfl rfl rfl
    · obtain ⟨full, hfull, -⟩ :=
        @Connection.fullFrame_initiator connection s t hsource frame (by omega)
      obtain ⟨sent, hmatch, -⟩ := matchSource_returns hsource driver full
      rw [sendToAsync, hfull, Result.ok_bind, hmatch]
      simp only [sendAsync, hmatch]
      rw [asyncSend_queues_iff]
      simp [hlong]

end Callers

/-- On a bus with room, the standby message of connection 4 is queued, with the initiator
that `matchSource` puts in. -/
theorem async_queues_iff_standby :
    let connection := Connection.ofSource (CECBytes.ofByte 4)
    let driver : DriverImpl :=
      { status := .opened, rQueue := .empty 32, logicalAddresses := [CECBytes.ofByte 4] }
    let frame := CECFrame.ofBytes [0x80, 0x36] (by decide)
    Queues (sendAsync connection driver true (.empty 32) frame) (.empty 32) frame
      (connection.matchSource driver frame) :=
  (@async_queues_iff (Connection.ofSource (CECBytes.ofByte 4)) 4 0 rfl
    { status := .opened, rQueue := .empty 32, logicalAddresses := [CECBytes.ofByte 4] }
    true (.empty 32) (CECFrame.ofBytes [0x80, 0x36] (by decide))).2.1.mpr (.inl (by decide))

/-! ## A burst of sends -/

/-- The queue behind `n` calls of `Bus::sendAsync` in a row, which the writer does not get
in between of. -/
def afterBurst (frame : CECFrame) : Nat → BoundedFifo (Option CECFrame)
  | 0 => .empty 32
  | n + 1 => (Bus.asyncSend true (afterBurst frame n) frame).wQueue

theorem afterBurst_cap (frame : CECFrame) (n : Nat) : (afterBurst frame n).cap = 32 := by
  induction n with
  | zero => rfl
  | succ n ih => exact (BoundedFifo.offer_cap _ _).trans ih

/-- Every fill level of the queue is reached. -/
theorem afterBurst_items (frame : CECFrame) {n : Nat} (hn : n ≤ 32) :
    (afterBurst frame n).items.length = n := by
  induction n with
  | zero => rfl
  | succ n ih =>
      have hroom : (afterBurst frame n).items.length < (afterBurst frame n).cap := by
        rw [ih (by omega), afterBurst_cap]
        omega
      show ((afterBurst frame n).offer (some frame)).items.length = n + 1
      rw [BoundedFifo.offer_room _ hroom, List.length_append, ih (by omega)]
      rfl

theorem afterBurst_full (frame : CECFrame) : ¬ HasRoom (afterBurst frame 32) := by
  rw [HasRoom, afterBurst_items frame (Nat.le_refl 32), afterBurst_cap]
  omega

/-- A frame that the full queue does not take: `Bus::sendAsync` returns all the same. -/
theorem asyncSend_drops {wQueue : BoundedFifo (Option CECFrame)} (hfull : ¬ HasRoom wQueue)
    (frame : CECFrame) :
    (Bus.asyncSend true wQueue frame).outcome = .ok () ∧
      (Bus.asyncSend true wQueue frame).wQueue = wQueue ∧
      ¬ Queues (Bus.asyncSend true wQueue frame) wQueue frame (.ok frame) := by
  refine ⟨rfl, BoundedFifo.offer_full _ (Nat.not_lt.mp hfull), ?_⟩
  intro hqueues
  obtain ⟨⟨e, hthrows⟩, -⟩ := hqueues.full hfull
  cases hthrows

/-- The 33rd frame of a burst: `Bus::sendAsync` returns, and the frame is nowhere. -/
theorem not_async_queues :
    let frame := CECFrame.ofBytes [0x40, 0x36] (by decide)
    let wQueue := afterBurst frame 32
    (Bus.asyncSend true wQueue frame).outcome = .ok () ∧
      (Bus.asyncSend true wQueue frame).wQueue = wQueue ∧
      ¬ Queues (Bus.asyncSend true wQueue frame) wQueue frame (.ok frame) :=
  asyncSend_drops (afterBurst_full _) _

end SendPaths

end HdmiCec
