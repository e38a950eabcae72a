import HdmiCec.Bus.AsyncSends
import HdmiCec.Driver.Arrivals
import HdmiCec.Library.Ledger

/-!
# Who owns a frame

`DriverReceiveCallback` and `sendAsync` allocate a `CECFrame` each and give the pointer
away: to `rQueue`, from where `DriverImpl::read` takes it, and to `wQueue`, from where
`Bus::Writer::run` takes it.  Whoever has polled a pointer deletes it.

The two sides run next to each other, and each side keeps the numbers of the frames that
were deleted.  A pointer that `offer` does not take is held by nobody: the callback and
`sendAsync` return as if it had been taken.
-/

universe u

namespace HdmiCec

namespace Ownership

open Sessions (Receipt ReadPc inCallbacks queued)

/-! ## The reading side -/

/-- The driver, and the frames that `DriverImpl::read` has deleted. -/
structure Reading where
  driver : Sessions.State CECFrame
  deleted : List Nat

/-- A `DriverReceiveCallback` begins, or somebody takes another step in the driver. -/
inductive ReadingAction where
  | callback (packet : List UInt8)
  | driver (a : Sessions.Action CECFrame)
  deriving DecidableEq

section

variable {F : Type u}

/-- What the reading thread has polled and not deleted. -/
def inHand : ReadPc F → List (Receipt F)
  | .polled inFrame | .copy inFrame | .flushCopy inFrame => inFrame.toList
  | _ => []

/-- `delete inFrame` follows `frame = *inFrame`, outside the flush and in it. -/
def deletedBy (pc : ReadPc F) : Sessions.Action F → List (Receipt F)
  | .reader =>
      match pc with
      | .copy inFrame | .flushCopy inFrame => inFrame.toList
      | _ => []
  | _ => []

/-- The steps of a `DriverReceiveCallback`. -/
def ofCallback : Sessions.Action F → Bool
  | .receive _ | .test _ | .deliver _ => true
  | _ => false

def numbers (receipts : List (Receipt F)) : List Nat := receipts.map Receipt.number

end

def readingStep (s : Reading) : ReadingAction → Option Reading
  | .callback packet =>
      match CECFrame.empty.appendAll packet with
      | .ok frame =>
          (Sessions.step s.driver (.receive frame)).map fun driver => { s with driver := driver }
      -- `append` throws in front of the `try` block, and nobody deletes the frame
      | .error _ =>
          some { s with driver := { s.driver with received := s.driver.received + 1 } }
  | .driver (.receive _) => none
  | .driver a =>
      (Sessions.step s.driver a).map fun driver =>
        { driver := driver, deleted := s.deleted ++ numbers (deletedBy s.driver.reader a) }

def reading : StepSystem Reading ReadingAction where
  initial s := s = ⟨Sessions.new CECFrame, []⟩
  step := readingStep

/-- The frames of the reading side: in the hands of callbacks, in `rQueue`, in the hands
of the reading thread, deleted. -/
def Reading.ledger (s : Reading) : Ledger where
  made := s.driver.received
  entries := numbers (inCallbacks s.driver.callbacks) ++ numbers (queued s.driver.rQueue) ++
    numbers (inHand s.driver.reader) ++ s.deleted

/-- The packet fits into a `CECFrame`, the status test of `getIncomingQueue` finds an open
driver, and the queue has room. -/
def ReadingKeeps (s : Reading) : ReadingAction → Prop
  | .callback packet => packet.length ≤ CECFrame.maxLength
  | .driver (.test _) => s.driver.status = .opened
  | .driver (.deliver _) => s.driver.rQueue.items.length < s.driver.rQueue.cap
  | _ => True

instance (s : Reading) (a : ReadingAction) : Decidable (ReadingKeeps s a) :=
  match a with
  | .callback packet => inferInstanceAs (Decidable (packet.length ≤ _))
  | .driver (.test _) => inferInstanceAs (Decidable (s.driver.status = .opened))
  | .driver (.deliver _) => inferInstanceAs (Decidable (s.driver.rQueue.items.length < _))
  | .driver (.driverOpen _) | .driver .driverClose | .driver (.closeStep _) | .driver .read
  | .driver .reader | .driver .readerWakes | .driver (.receive _) => .isTrue trivial

/-! ### Steps that drop nothing -/

variable {s s' : Reading}

/-- The reading thread takes from the queue, or deletes; nobody else moves. -/
theorem Reading.hands {driver' : Sessions.State CECFrame} {freed : List (Receipt CECFrame)}
    (hmade : driver'.received = s.driver.received)
    (hcallbacks : inCallbacks driver'.callbacks = inCallbacks s.driver.callbacks)
    (hrest : (queued driver'.rQueue ++ inHand driver'.reader ++ freed).Perm
      (queued s.driver.rQueue ++ inHand s.driver.reader)) :
    s.ledger.Keeps (Reading.ledger ⟨driver', s.deleted ++ numbers freed⟩) := by
  refine .hands hmade ?_
  have hnumbers := hrest.map Receipt.number
  refine List.perm_iff_count.mpr fun n => ?_
  have hcount := hnumbers.count_eq n
  simp only [List.map_append, List.count_append] at hcount
  simp only [Reading.ledger, numbers, List.count_append, hcallbacks]
  omega

theorem test_step {driver driver' : Sessions.State CECFrame} {i : Nat}
    (h : Sessions.step driver (.test i) = some driver') :
    ∃ receipt, driver.callbacks[i]? = some ⟨receipt, false⟩ ∧
      driver' = { driver with
        callbacks := if driver.status = .opened then
            driver.callbacks.set i ⟨receipt, true⟩
          else
            driver.callbacks.eraseIdx i } := by
  simp only [Sessions.step] at h
  split at h
  · next receipt hcallback =>
    refine ⟨receipt, hcallback, ?_⟩
    split at h
    · next hopened =>
      cases h
      rw [if_pos hopened]
    · next hshut =>
      cases h
      rw [if_neg hshut]
  · cases h

theorem deliver_step {driver driver' : Sessions.State CECFrame} {i : Nat}
    (h : Sessions.step driver (.deliver i) = some driver') :
    ∃ receipt, driver.callbacks[i]? = some ⟨receipt, true⟩ ∧
      driver' = { driver with
        callbacks := driver.callbacks.eraseIdx i
        rQueue := driver.rQueue.offer (some receipt)
        arrived := driver.arrived ++ [receipt] } := by
  simp only [Sessions.step] at h
  split at h
  · next receipt hcallback =>
    cases h
    exact ⟨receipt, hcallback, rfl⟩
  · cases h

/-- A callback with a packet that fits has its frame in its hands. -/
theorem callback_keeps {packet : List UInt8} (hfits : packet.length ≤ CECFrame.maxLength)
    (hstep : readingStep s (.callback packet) = some s') : s.ledger.Keeps s'.ledger := by
  have hroom : CECFrame.empty.length + packet.length ≤ 128 := by
    rw [CECFrame.length_empty, Nat.zero_add]
    exact hfits
  obtain ⟨frame, happend, -⟩ := CECFrame.appendAll_extends CECFrame.empty packet hroom
  simp only [readingStep, happend, Sessions.step, Option.map_some, Option.some.injEq] at hstep
  subst hstep
  refine .makes rfl ?_
  refine List.perm_iff_count.mpr fun n => ?_
  simp only [Reading.ledger, numbers, inCallbacks, List.map_append, List.map_cons, List.map_nil,
    List.count_append, List.count_cons, List.count_nil]
  omega

/-- Offering the frame of a callback to a queue with room. -/
theorem deliver_keeps {driver' : Sessions.State CECFrame} {i : Nat}
    (hroom : s.driver.rQueue.items.length < s.driver.rQueue.cap)
    (hstep : Sessions.step s.driver (.deliver i) = some driver') :
    s.ledger.Keeps (Reading.ledger ⟨driver', s.deleted⟩) := by
  obtain ⟨receipt, hcallback, rfl⟩ := deliver_step hstep
  have hcallbacks := (Sessions.inCallbacks_eraseIdx_perm hcallback).map Receipt.number
  have hqueued : queued (s.driver.rQueue.offer (some receipt)) =
      queued s.driver.rQueue ++ [receipt] := by
    rw [queued, BoundedFifo.offer_room _ hroom, List.filterMap_append]
    rfl
  refine .hands rfl ?_
  refine List.perm_iff_count.mpr fun n => ?_
  have hcount := hcallbacks.count_eq n
  simp only [List.map_cons, List.count_cons] at hcount
  simp only [Reading.ledger, numbers, hqueued, List.map_append, List.map_cons, List.map_nil,
    List.count_append, List.count_cons, List.count_nil]
  omega

/-- All frames stay where they are. -/
theorem stays_keeps {driver' : Sessions.State CECFrame}
    (hmade : driver'.received = s.driver.received)
    (hcallbacks : driver'.callbacks = s.driver.callbacks)
    (hqueue : queued driver'.rQueue = queued s.driver.rQueue)
    (hhand : inHand driver'.reader = inHand s.driver.reader) :
    s.ledger.Keeps (Reading.ledger ⟨driver', s.deleted⟩) := by
  refine .hands hmade ?_
  simp only [Reading.ledger, hcallbacks, hqueue, hhand]
  exact List.Perm.refl _

/-- The reading thread takes the front entry of the queue into its hands. -/
theorem takes_keeps {inFrame : Option (Receipt CECFrame)}
    {queue : BoundedFifo (Option (Receipt CECFrame))} {reader' : ReadPc CECFrame}
    (htake : Sessions.Takes s.driver.rQueue queue inFrame)
    (hbefore : inHand s.driver.reader = []) (hafter : inHand reader' = inFrame.toList) :
    s.ledger.Keeps
      (Reading.ledger ⟨{ s.driver with reader := reader', rQueue := queue }, s.deleted⟩) := by
  have hrest : (queued queue ++ inHand reader' ++ []).Perm
      (queued s.driver.rQueue ++ inHand s.driver.reader) := by
    rw [Sessions.queued_of_takes htake, hbefore, hafter, List.append_nil, List.append_nil]
    exact List.perm_append_comm
  have hkeeps := @Reading.hands s { s.driver with reader := reader', rQueue := queue } []
    rfl rfl hrest
  rwa [numbers, List.map_nil, List.append_nil] at hkeeps

/-- The steps that are neither a callback's nor a deletion. -/
theorem moves_keeps {driver' : Sessions.State CECFrame} {a : Sessions.Action CECFrame}
    (hother : ofCallback a = false) (hfreed : deletedBy s.driver.reader a = [])
    (hmove : Sessions.Moves s.driver a driver') :
    s.ledger.Keeps (Reading.ledger ⟨driver', s.deleted⟩) := by
  cases hmove with
  | receives | admits | discards | delivers => cases hother
  | copies receipt hpc | flushCopies receipt hpc => simp [deletedBy, hpc] at hfreed
  | polls inFrame queue hpc htake | flushPolls inFrame queue hpc htake =>
      exact takes_keeps htake (by rw [hpc]; rfl) rfl
  | offersSentinel nativeOk hholds => exact stays_keeps rfl rfl (Sessions.queued_offer_none _) rfl
  | stays | opens | closes | closeEnds => exact stays_keeps rfl rfl rfl rfl
  | admitted hpc | copiesNull hpc =>
      refine stays_keeps rfl rfl rfl ?_
      rcases hpc with hpc | hpc <;> rw [hpc] <;> rfl
  | calls hpc | refused hpc | wakes hpc | tests receipt hpc | returns receipt hpc | flushes hpc
  | flushGoesOn hpc | flushEnds hpc | flushWakes hpc =>
      exact stays_keeps rfl rfl rfl (by rw [hpc]; rfl)

/-- `read` copies the frame and deletes it. -/
theorem copy_keeps {driver' : Sessions.State CECFrame} {receipt : Receipt CECFrame}
    (hpc : s.driver.reader = .copy (some receipt) ∨ s.driver.reader = .flushCopy (some receipt))
    (hstep : Sessions.step s.driver .reader = some driver') :
    s.ledger.Keeps (Reading.ledger ⟨driver', s.deleted ++ numbers [receipt]⟩) := by
  rcases hpc with hpc | hpc <;>
    simp only [Sessions.step, Sessions.readerStep, hpc, Option.some.injEq] at hstep <;>
    subst hstep
  · refine Reading.hands rfl rfl ?_
    rw [hpc]
    exact List.Perm.of_eq (by simp [inHand])
  · refine Reading.hands rfl rfl ?_
    rw [hpc]
    exact List.Perm.of_eq (by simp [inHand])

theorem reader_keeps {driver' : Sessions.State CECFrame}
    (hstep : Sessions.step s.driver .reader = some driver') :
    s.ledger.Keeps
      (Reading.ledger ⟨driver', s.deleted ++ numbers (deletedBy s.driver.reader .reader)⟩) := by
  have hmove := Sessions.step_moves hstep
  have hnothing : deletedBy s.driver.reader .reader = [] → s.ledger.Keeps
      (Reading.ledger ⟨driver', s.deleted ++ numbers (deletedBy s.driver.reader .reader)⟩) := by
    intro hfreed
    rw [hfreed, numbers, List.map_nil, List.append_nil]
    exact moves_keeps rfl hfreed hmove
  cases hpc : s.driver.reader with
  | copy inFrame =>
      cases inFrame with
      | some receipt => exact copy_keeps (.inl hpc) hstep
      | none => rw [← hpc]; exact hnothing (by rw [hpc]; rfl)
  | flushCopy inFrame =>
      cases inFrame with
      | some receipt => exact copy_keeps (.inr hpc) hstep
      | none => rw [← hpc]; exact hnothing (by rw [hpc]; rfl)
  | _ => rw [← hpc]; exact hnothing (by rw [hpc]; rfl)

/-- A step of the reading side that meets the condition drops nothing. -/
theorem reading_keeps {a : ReadingAction} (hok : ReadingKeeps s a)
    (hstep : readingStep s a = some s') : s.ledger.Keeps s'.ledger := by
  cases a with
  | callback packet => exact callback_keeps hok hstep
  | driver a =>
      cases a with
      | receive frame => cases hstep
      | test i =>
          obtain ⟨driver', hdriver, rfl⟩ := Option.map_eq_some_iff.mp hstep
          obtain ⟨receipt, hcallback, rfl⟩ := test_step hdriver
          have hopened : s.driver.status = .opened := hok
          refine Reading.hands rfl ?_ (List.Perm.of_eq (List.append_nil _))
          show inCallbacks (if s.driver.status = .opened then _ else _) = _
          rw [if_pos hopened]
          exact Sessions.inCallbacks_set hcallback
      | deliver i =>
          obtain ⟨driver', hdriver, rfl⟩ := Option.map_eq_some_iff.mp hstep
          show s.ledger.Keeps (Reading.ledger ⟨driver', s.deleted ++ []⟩)
          rw [List.append_nil]
          exact deliver_keeps hok hdriver
      | reader =>
          obtain ⟨driver', hdriver, rfl⟩ := Option.map_eq_some_iff.mp hstep
          exact reader_keeps hdriver
      | driverOpen | driverClose | closeStep | read | readerWakes =>
          obtain ⟨driver', hdriver, rfl⟩ := Option.map_eq_some_iff.mp hstep
          show s.ledger.Keeps (Reading.ledger ⟨driver', s.deleted ++ []⟩)
          rw [List.append_nil]
          exact moves_keeps rfl rfl (Sessions.step_moves hdriver)

/-- A callback leaves with its frame, and nothing else changes. -/
theorem leaves_drops {driver' : Sessions.State CECFrame} {i : Nat} {receipt : Receipt CECFrame}
    {tested : Bool} (hcallback : s.driver.callbacks[i]? = some ⟨receipt, tested⟩)
    (hmade : driver'.received = s.driver.received)
    (hcallbacks : driver'.callbacks = s.driver.callbacks.eraseIdx i)
    (hqueue : driver'.rQueue = s.driver.rQueue) (hreader : driver'.reader = s.driver.reader) :
    s.ledger.Drops (Reading.ledger ⟨driver', s.deleted ++ []⟩) := by
  have hperm := (Sessions.inCallbacks_eraseIdx_perm hcallback).map Receipt.number
  refine .listed hmade receipt.number (List.perm_iff_count.mpr fun n => ?_)
  have hcount := hperm.count_eq n
  simp only [List.map_cons, List.count_cons] at hcount
  simp only [Reading.ledger, numbers, hcallbacks, hqueue, hreader, List.append_nil,
    List.count_append, List.count_cons]
  omega

/-- A step of the reading side that does not meet the condition drops a frame. -/
theorem reading_drops {a : ReadingAction} (hnot : ¬ ReadingKeeps s a)
    (hstep : readingStep s a = some s') : s.ledger.Drops s'.ledger := by
  cases a with
  | callback packet =>
      have hlong : 128 < CECFrame.empty.length + packet.length := by
        rw [CECFrame.length_empty, Nat.zero_add]
        exact Nat.lt_of_not_le hnot
      have hthrows := CECFrame.appendAll_overflows CECFrame.empty packet hlong
      simp only [readingStep, hthrows, throwing, Option.some.injEq] at hstep
      subst hstep
      exact .new rfl (List.Perm.refl _)
  | driver a =>
      cases a with
      | test i =>
          obtain ⟨driver', hdriver, rfl⟩ := Option.map_eq_some_iff.mp hstep
          obtain ⟨receipt, hcallback, rfl⟩ := test_step hdriver
          have hshut : s.driver.status ≠ .opened := hnot
          exact leaves_drops hcallback rfl (if_neg hshut) rfl rfl
      | deliver i =>
          obtain ⟨driver', hdriver, rfl⟩ := Option.map_eq_some_iff.mp hstep
          obtain ⟨receipt, hcallback, rfl⟩ := deliver_step hdriver
          have hfull : s.driver.rQueue.cap ≤ s.driver.rQueue.items.length := Nat.le_of_not_lt hnot
          exact leaves_drops hcallback rfl rfl (BoundedFifo.offer_full _ hfull) rfl
      | _ => exact absurd trivial hnot

/-! ## The writing side -/

section

open AsyncSends (Copy Holder frames step_moves openDriver)

variable {F : Type u} {t t' : AsyncSends.State F}

/-- What `sendAsync` has allocated and not offered yet. -/
def beingSent : Option (Holder F) → List (Copy F)
  | some (.sendOffer copyFrame) => [copyFrame]
  | _ => []

/-- The frames of the writing side: in the hands of `sendAsync`, in `wQueue`, in the hands
of the writer, deleted. -/
def sendingLedger (t : AsyncSends.State F) : Ledger where
  made := t.allocated
  entries := (beingSent t.wMutex ++ frames t.wQueue.items ++ t.writer.hand).map Copy.number ++
    t.deleted

/-- When `sendAsync` offers its copy, the queue has room. -/
def SendingKeeps (t : AsyncSends.State F) : AsyncSends.Action F → Prop
  | .holder _ => beingSent t.wMutex = [] ∨ t.wQueue.items.length < t.wQueue.cap
  | _ => True

instance (t : AsyncSends.State F) (a : AsyncSends.Action F) : Decidable (SendingKeeps t a) :=
  match a with
  | .holder _ => inferInstanceAs (Decidable (_ = [] ∨ _))
  | .sendAsync _ | .start _ | .stop | .writer _ | .writerWakes => .isTrue trivial

/-- Steps of the writer that change its place only leave its hands as they are. -/
theorem follows_hand {state : Stoppable} {pc pc' : AsyncSends.WriterPc F}
    (h : AsyncSends.Follows state pc pc') : pc'.hand = pc.hand := by
  cases h <;> rfl

theorem openDriver_ledger (t : AsyncSends.State F) (ok : Bool) :
    sendingLedger (openDriver t ok) = sendingLedger t := by
  simp [sendingLedger]

/-- Frames pass from hand to hand. -/
theorem sending_hands (hmade : t'.allocated = t.allocated)
    (hdeleted : t'.deleted = t.deleted)
    (hcopies : (beingSent t'.wMutex ++ frames t'.wQueue.items ++ t'.writer.hand).Perm
      (beingSent t.wMutex ++ frames t.wQueue.items ++ t.writer.hand)) :
    (sendingLedger t).Keeps (sendingLedger t') := by
  refine .hands hmade ?_
  show (_ ++ t'.deleted).Perm (_ ++ t.deleted)
  rw [hdeleted]
  exact (hcopies.map Copy.number).append_right t.deleted

/-- The writer takes the front entry of the queue into its hands. -/
theorem sending_takes {queue : BoundedFifo (Option (Copy F))} {outFrame : Option (Copy F)}
    {pc : AsyncSends.WriterPc F} (htakes : AsyncSends.Takes t.wQueue queue outFrame)
    (hbefore : t.writer.hand = []) (hafter : pc.hand = outFrame.toList) :
    (sendingLedger t).Keeps (sendingLedger { t with writer := pc, wQueue := queue }) := by
  refine sending_hands rfl rfl ?_
  show (beingSent t.wMutex ++ frames queue.items ++ pc.hand).Perm _
  rw [htakes.1, AsyncSends.frames_cons, hbefore, hafter, List.append_nil, List.append_assoc]
  exact List.perm_append_comm.append_left _

/-- A step of the writing side that meets the condition drops nothing. -/
theorem sending_keeps {a : AsyncSends.Action F} (hok : SendingKeeps t a)
    (hstep : AsyncSends.step t a = some t') : (sendingLedger t).Keeps (sendingLedger t') := by
  cases step_moves hstep with
  | calls frame hfree | stops hfree =>
      refine sending_hands rfl rfl ?_
      rw [hfree]
      exact List.Perm.refl _
  | refused ok frame hholds | admitted ok frame hholds =>
      refine sending_hands rfl rfl ?_
      rw [hholds]
      exact List.Perm.refl _
  | stopGoes ok pc next hholds =>
      refine sending_hands rfl rfl ?_
      rw [hholds]
      cases next <;> exact List.Perm.refl _
  | marks ok hholds =>
      refine sending_hands rfl rfl ?_
      rw [hholds]
      exact List.Perm.refl _
  | offersSentinel ok hholds =>
      refine sending_hands rfl rfl ?_
      have hframes : frames (t.wQueue.offer none).items = frames t.wQueue.items := by
        obtain hkeeps | hputs := BoundedFifo.offer_items t.wQueue none
        · rw [hkeeps]
        · rw [hputs, AsyncSends.frames_append]
          exact List.append_nil _
      rw [hholds, hframes]
      exact List.Perm.refl _
  | allocates ok frame hholds =>
      refine .makes rfl ?_
      simp only [sendingLedger, hholds, beingSent, List.nil_append]
      exact List.Perm.refl _
  | accepts ok copyFrame hholds hroom =>
      refine sending_hands rfl rfl ?_
      rw [hholds, BoundedFifo.offer_room _ hroom, AsyncSends.frames_append]
      exact (@List.perm_append_comm _ (frames t.wQueue.items) [copyFrame]).append_right _
  | drops ok copyFrame hholds hfull =>
      rcases hok with hnone | hroom
      · rw [hholds] at hnone
        cases hnone
      · omega
  | starts ok pc hfree hcreates =>
      rw [openDriver_ledger]
      refine sending_hands rfl rfl ?_
      rcases hcreates with ⟨-, rfl⟩ | ⟨-, hdone, rfl⟩
      · exact List.Perm.refl _
      · rw [hdone]
        exact List.Perm.refl _
  | follows a pc hedge =>
      refine sending_hands rfl rfl ?_
      rw [← follows_hand hedge]
  | runs thrown hpc | completes thrown hpc =>
      refine sending_hands rfl rfl ?_
      rw [hpc]
      exact List.Perm.refl _
  | polls thrown outFrame queue hpolling htakes
  | flushPolls thrown outFrame queue hpolling htakes =>
      exact sending_takes htakes (by rw [hpolling]; rfl) rfl
  | hands thrown outFrame hpolled =>
      refine sending_hands rfl rfl ?_
      rw [hpolled]
      exact List.Perm.refl _
  | deletes thrown outFrame pc hplace =>
      refine .hands rfl ?_
      have hbefore : t.writer.hand = outFrame.toList := by
        rcases hplace with ⟨hpc, -⟩ | ⟨hpc, -⟩ <;> rw [hpc] <;> rfl
      have hafter : pc.hand = [] := by
        rcases hplace with ⟨-, rfl⟩ | ⟨-, rfl⟩ <;> rfl
      refine List.perm_iff_count.mpr fun n => ?_
      simp only [sendingLedger, AsyncSends.deleteStep, hbefore, hafter, List.map_append,
        List.map_nil, List.count_append, List.count_nil, Option.toList_map]
      omega

/-- A step of the writing side that does not meet the condition drops a frame. -/
theorem sending_drops {a : AsyncSends.Action F} (hnot : ¬ SendingKeeps t a)
    (hstep : AsyncSends.step t a = some t') : (sendingLedger t).Drops (sendingLedger t') := by
  cases a with
  | holder ok =>
      cases hholds : t.wMutex with
      | none => exact absurd (.inl (by rw [hholds]; rfl)) hnot
      | some holder =>
          cases holder with
          | sendOffer copyFrame =>
              have hfull : t.wQueue.cap ≤ t.wQueue.items.length :=
                Nat.le_of_not_lt fun hroom => hnot (.inr hroom)
              simp only [AsyncSends.step, AsyncSends.holderStep, hholds,
                BoundedFifo.offer_full _ hfull, Option.some.injEq] at hstep
              subst hstep
              refine .listed rfl copyFrame.number ?_
              simp only [sendingLedger, hholds, beingSent, List.nil_append]
              exact List.Perm.refl _
          | _ => exact absurd (.inl (by rw [hholds]; rfl)) hnot
  | _ => exact absurd trivial hnot

end

/-! ## Both sides -/

/-- The two sides next to each other. -/
def system : StepSystem (Reading × AsyncSends.State CECFrame)
    (ReadingAction ⊕ AsyncSends.Action CECFrame) :=
  reading.par (AsyncSends.system CECFrame) fun _ _ _ => true

/-- The step hands no pointer to an `offer` or to a status test that turns it down. -/
def NothingDropped (p : Reading × AsyncSends.State CECFrame) :
    ReadingAction ⊕ AsyncSends.Action CECFrame → Prop
  | .inl a => ReadingKeeps p.1 a
  | .inr a => SendingKeeps p.2 a

/-- Every frame that `DriverReceiveCallback` or `sendAsync` has allocated is in one place,
and there once. -/
def Owned (p : Reading × AsyncSends.State CECFrame) : Prop :=
  p.1.ledger.Balanced ∧ (sendingLedger p.2).Balanced

instance (p : Reading × AsyncSends.State CECFrame)
    (a : ReadingAction ⊕ AsyncSends.Action CECFrame) : Decidable (NothingDropped p a) :=
  match a with
  | .inl a => inferInstanceAs (Decidable (ReadingKeeps p.1 a))
  | .inr a => inferInstanceAs (Decidable (SendingKeeps p.2 a))

theorem step_owned {p p' : Reading × AsyncSends.State CECFrame}
    {a : ReadingAction ⊕ AsyncSends.Action CECFrame} (h : Owned p) (hok : NothingDropped p a)
    (hstep : system.step p a = some p') : Owned p' := by
  obtain ⟨hreading, hsending⟩ := h
  cases a with
  | inl a =>
      obtain ⟨hleft, hright⟩ := StepSystem.par_step_inl hstep
      refine ⟨(reading_keeps hok hleft).balanced hreading, ?_⟩
      rw [hright]
      exact hsending
  | inr a =>
      obtain ⟨hright, hleft⟩ := StepSystem.par_step_inr hstep
      refine ⟨?_, (sending_keeps hok hright).balanced hsending⟩
      rw [hleft]
      exact hreading

theorem reachable_owned {p : Reading × AsyncSends.State CECFrame}
    (h : system.Reachable NothingDropped p) : Owned p := by
  refine h.invariant ?_ ?_
  · rintro p ⟨hreading, hsending⟩
    rw [Owned, hreading, hsending]
    exact ⟨Ledger.balanced_empty, Ledger.balanced_empty⟩
  · intro p a p' _ hp hok hstep
    exact step_owned hp hok hstep

/-- As long as nothing is dropped, every frame that was allocated is in the hands of one
thread or in one queue, and there once, or it was deleted, and that once. -/
theorem frames_owned_once {p : Reading × AsyncSends.State CECFrame}
    (h : system.Reachable NothingDropped p) :
    (∀ n < p.1.driver.received,
      (numbers (inCallbacks p.1.driver.callbacks)).count n +
        (numbers (queued p.1.driver.rQueue)).count n +
        (numbers (inHand p.1.driver.reader)).count n + p.1.deleted.count n = 1) ∧
    ∀ n < p.2.allocated,
      ((beingSent p.2.wMutex).map AsyncSends.Copy.number).count n +
        ((AsyncSends.frames p.2.wQueue.items).map AsyncSends.Copy.number).count n +
        (p.2.writer.hand.map AsyncSends.Copy.number).count n + p.2.deleted.count n = 1 := by
  obtain ⟨hreading, hsending⟩ := reachable_owned h
  constructor
  · intro n hn
    have hcount := hreading.count hn
    simpa only [Reading.ledger, List.count_append] using hcount
  · intro n hn
    have hcount := hsending.count hn
    simpa only [sendingLedger, List.map_append, List.count_append] using hcount

/-- A `DriverReceiveCallback` from its beginning to its end. -/
def arrives (packet : List UInt8) : List (ReadingAction ⊕ AsyncSends.Action CECFrame) :=
  [.inl (.callback packet), .inl (.driver (.test 0)), .inl (.driver (.deliver 0))]

def readingSteps (labels : List (Sessions.Action CECFrame)) :
    List (ReadingAction ⊕ AsyncSends.Action CECFrame) :=
  labels.map fun a => .inl (.driver a)

def sendingSteps (labels : List (AsyncSends.Action CECFrame)) :
    List (ReadingAction ⊕ AsyncSends.Action CECFrame) :=
  labels.map .inr

/-- One packet is read, and one is in the queue; of two frames sent the writer has written
one and deleted it, and the other is in its hands. -/
theorem frames_owned_once_both :
    ∃ p : Reading × AsyncSends.State CECFrame, system.Reachable NothingDropped p ∧
      p.1.deleted = [0] ∧
      numbers (queued p.1.driver.rQueue) = [1] ∧ p.2.deleted = [0] ∧
      p.2.writer.hand.map AsyncSends.Copy.number = [1] ∧
      (∀ n < 2, (numbers (inCallbacks p.1.driver.callbacks)).count n +
        (numbers (queued p.1.driver.rQueue)).count n +
        (numbers (inHand p.1.driver.reader)).count n + p.1.deleted.count n = 1) := by
  obtain ⟨p, hreach, hmade, hdeleted, hqueued, hwriter, hhand⟩ :=
    system.exists_reachable_of_run NothingDropped
      (⟨Sessions.new CECFrame, []⟩, AsyncSends.new CECFrame)
      (readingSteps Sessions.openCall ++ sendingSteps [.start true, .writer none] ++
        arrives [0x40, 0x04] ++ readingSteps (Sessions.readCall 5) ++ arrives [0x0F, 0x36] ++
        sendingSteps (AsyncSends.sendCall CECFrame.empty ++ AsyncSends.sendCall CECFrame.empty ++
          List.replicate 6 (.writer none)))
      (fun p => p.1.driver.received = 2 ∧ p.1.deleted = [0] ∧
        numbers (queued p.1.driver.rQueue) = [1] ∧ p.2.deleted = [0] ∧
        p.2.writer.hand.map AsyncSends.Copy.number = [1])
      ⟨rfl, rfl⟩ (by decide +kernel)
  refine ⟨p, hreach, hdeleted, hqueued, hwriter, hhand, fun n hn => ?_⟩
  exact (frames_owned_once hreach).1 n (by omega)

/-- A packet arrives while the driver is being closed.  The status test turns it down, and
when the call of `close` and the callback have returned, the frame is nowhere. -/
theorem not_frames_owned_once :
    ¬ ∀ p : Reading × AsyncSends.State CECFrame, system.Reachable StepSystem.unguarded p →
      p.1.driver.callbacks = [] → ∀ n < p.1.driver.received,
        (numbers (queued p.1.driver.rQueue)).count n +
          (numbers (inHand p.1.driver.reader)).count n + p.1.deleted.count n = 1 := by
  intro hall
  obtain ⟨p, hreach, hmade, hcallbacks, hqueued, hhand, hdeleted⟩ :=
    system.exists_reachable_of_run StepSystem.unguarded
      (⟨Sessions.new CECFrame, []⟩, AsyncSends.new CECFrame)
      (readingSteps Sessions.openCall ++ [.inl (.callback [0x40, 0x04])] ++
        readingSteps [.driverClose, .test 0, .closeStep true, .closeStep true])
      (fun p => p.1.driver.received = 1 ∧ p.1.driver.callbacks = [] ∧
        numbers (queued p.1.driver.rQueue) = [] ∧ numbers (inHand p.1.driver.reader) = [] ∧
        p.1.deleted = [])
      ⟨rfl, rfl⟩ (by decide +kernel)
  have hcount := hall p hreach hcallbacks 0 (by omega)
  rw [hqueued, hhand, hdeleted] at hcount
  cases hcount

/-! ## What is dropped stays lost -/

/-- How many frames of the two sides nobody answers for. -/
def lost (p : Reading × AsyncSends.State CECFrame) : Int :=
  p.1.ledger.missing + (sendingLedger p.2).missing

theorem Owned.lost {p : Reading × AsyncSends.State CECFrame} (h : Owned p) :
    Ownership.lost p = 0 := by
  rw [Ownership.lost, h.1.missing, h.2.missing]
  rfl

/-- A step loses a frame exactly if it does not meet the condition. -/
theorem step_lost {p p' : Reading × AsyncSends.State CECFrame}
    {a : ReadingAction ⊕ AsyncSends.Action CECFrame} (hstep : system.step p a = some p') :
    lost p' = if NothingDropped p a then lost p else lost p + 1 := by
  cases a with
  | inl a =>
      obtain ⟨hleft, hright⟩ := StepSystem.par_step_inl hstep
      unfold lost
      rw [hright]
      split
      · next hok => rw [(reading_keeps hok hleft).missing]
      · next hnot =>
        have hmissing := (reading_drops hnot hleft).missing
        omega
  | inr a =>
      obtain ⟨hright, hleft⟩ := StepSystem.par_step_inr hstep
      unfold lost
      rw [hleft]
      split
      · next hok => rw [(sending_keeps hok hright).missing]
      · next hnot =>
        have hmissing := (sending_drops hnot hright).missing
        omega

theorem leads_lost {p p' : Reading × AsyncSends.State CECFrame}
    (h : system.Leads StepSystem.unguarded p p') : lost p ≤ lost p' := by
  refine h.invariant (I := fun q => lost p ≤ lost q) ?_ (Int.le_refl _)
  intro q a q' _ hq _ hstep
  have hlost := step_lost hstep
  split at hlost <;> omega

/-- Behind a step that does not meet the condition, some frame is always lost. -/
theorem dropped_for_good {p p' p'' : Reading × AsyncSends.State CECFrame}
    {a : ReadingAction ⊕ AsyncSends.Action CECFrame}
    (h : system.Reachable StepSystem.unguarded p) (hnot : ¬ NothingDropped p a)
    (hstep : system.step p a = some p') (hlead : system.Leads StepSystem.unguarded p' p'') :
    ¬ Owned p'' := by
  intro howned
  obtain ⟨p₀, ⟨hreading, hsending⟩, hrun⟩ := h
  have hnone : lost p₀ = 0 := by
    rw [lost, hreading, hsending]
    rfl
  have hbefore := leads_lost hrun
  have hdrop := step_lost hstep
  rw [if_neg hnot] at hdrop
  have hbehind := leads_lost hlead
  have hlost := howned.lost
  omega

end Ownership

end HdmiCec
