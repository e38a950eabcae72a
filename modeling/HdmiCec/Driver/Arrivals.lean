import HdmiCec.Driver.Sessions
import Mathlib.Data.List.Perm.Basic

/-!
# Frames and sessions

A frame is on its way from the callback that has received it: in the hands of the
callback, in the queue, or in the hands of `read`.  `open` looks at none of these, so
what is on its way when a driver is opened again is returned in the new session.  The
flush of `read` is meant to prevent that, but it runs only in a thread that meets the
sentinel after the close.

If nothing is on its way whenever the driver is opened, then every frame is returned
in its own session, at most once and in the order of arrival.
-/

universe u

namespace HdmiCec

namespace Sessions

variable {F : Type u}

/-! ## What is on its way -/

/-- The receipt that `read` has polled and not yet returned. -/
def ReadPc.held : ReadPc F → List (Receipt F)
  | .polled (some receipt) | .copy (some receipt) | .returning receipt => [receipt]
  | _ => []

/-- The receipts in the queue. -/
def queued (queue : BoundedFifo (Option (Receipt F))) : List (Receipt F) :=
  queue.items.filterMap id

/-- The receipts in the hands of callbacks. -/
def inCallbacks (callbacks : List (Callback F)) : List (Receipt F) :=
  callbacks.map Callback.receipt

/-- Nothing is on its way. -/
def State.Settled (s : State F) : Prop :=
  s.callbacks = [] ∧ queued s.rQueue = [] ∧ s.reader.held = []

instance [DecidableEq F] (s : State F) : Decidable s.Settled :=
  inferInstanceAs (Decidable (_ ∧ _))

/-- A closed driver is opened only when nothing is on its way. -/
def OpensSettled (s : State F) (a : Action F) : Prop :=
  a = .driverOpen true → s.status = .closed → s.Settled

instance [DecidableEq F] (s : State F) (a : Action F) : Decidable (OpensSettled s a) :=
  inferInstanceAs (Decidable (_ → _))

/-! ### The queue -/

theorem queued_of_takes {queue queue' : BoundedFifo (Option (Receipt F))}
    {inFrame : Option (Receipt F)} (h : Takes queue queue' inFrame) :
    queued queue = inFrame.toList ++ queued queue' := by
  rw [queued, h.1]
  cases inFrame <;> rfl

theorem queued_offer_none (queue : BoundedFifo (Option (Receipt F))) :
    queued (queue.offer none) = queued queue := by
  obtain hkeeps | hputs := BoundedFifo.offer_items queue none
  · rw [queued, hkeeps, queued]
  · rw [queued, hputs, List.filterMap_append]
    simp [queued]

theorem queued_offer_some (queue : BoundedFifo (Option (Receipt F))) (receipt : Receipt F) :
    (queued (queue.offer (some receipt))).Sublist (queued queue ++ [receipt]) := by
  obtain hkeeps | hputs := BoundedFifo.offer_items queue (some receipt)
  · rw [queued, hkeeps]
    exact List.sublist_append_left _ _
  · rw [queued, hputs, List.filterMap_append]
    exact List.Sublist.refl _

/-! ### The callbacks -/

theorem inCallbacks_eraseIdx_perm {callbacks : List (Callback F)} {i : Nat}
    {receipt : Receipt F} {tested : Bool} (h : callbacks[i]? = some ⟨receipt, tested⟩) :
    (receipt :: inCallbacks (callbacks.eraseIdx i)).Perm (inCallbacks callbacks) := by
  obtain ⟨hlt, hget⟩ := List.getElem?_eq_some_iff.mp h
  have hperm := (List.getElem_cons_eraseIdx_perm hlt).map Callback.receipt
  rw [hget] at hperm
  exact hperm

theorem inCallbacks_set {callbacks : List (Callback F)} {i : Nat} {receipt : Receipt F}
    {tested tested' : Bool} (h : callbacks[i]? = some ⟨receipt, tested⟩) :
    inCallbacks (callbacks.set i ⟨receipt, tested'⟩) = inCallbacks callbacks := by
  obtain ⟨hlt, hget⟩ := List.getElem?_eq_some_iff.mp h
  have hsame : (inCallbacks callbacks)[i]? = some receipt := by
    rw [inCallbacks, List.getElem?_map, h]
    rfl
  obtain ⟨hlt', hget'⟩ := List.getElem?_eq_some_iff.mp hsame
  rw [inCallbacks, List.map_set]
  show (inCallbacks callbacks).set i receipt = inCallbacks callbacks
  rw [← hget', List.set_getElem_self]

/-! ## What holds in guarded runs -/

/-- Every receipt on its way or returned belongs to the session; those that have
arrived and are not lost are, in order, those returned, the one in the hands of `read`
and those in the queue. -/
structure InSession (s : State F) : Prop where
  begun : s.opened ≤ s.received
  current : ∀ r ∈ inCallbacks s.callbacks ++ s.arrived, s.opened ≤ r.number
  numbered : ∀ r ∈ inCallbacks s.callbacks ++ s.arrived, r.number < s.received
  distinct : (inCallbacks s.callbacks ++ s.arrived).Nodup
  order : (s.returned ++ s.reader.held ++ queued s.rQueue).Sublist s.arrived

theorem new_inSession : InSession (new F) := by
  constructor <;> simp [new, inCallbacks, queued, ReadPc.held, BoundedFifo.empty]

/-- A new session begins with nothing. -/
theorem State.Settled.opens {s : State F} (h : s.Settled) :
    InSession { s with
      status := .opened, opened := s.received, arrived := [], returned := [] } := by
  obtain ⟨hcallbacks, hqueued, hheld⟩ := h
  constructor <;> simp [hcallbacks, hqueued, hheld, inCallbacks]

/-- Moves that only lose receipts, or hand them on in order. -/
theorem InSession.carries {s s' : State F} (h : InSession s) (hopened : s'.opened = s.opened)
    (hreceived : s'.received = s.received) (harrived : s'.arrived = s.arrived)
    (hcallbacks : inCallbacks s'.callbacks = inCallbacks s.callbacks)
    (horder : (s'.returned ++ s'.reader.held ++ queued s'.rQueue).Sublist
      (s.returned ++ s.reader.held ++ queued s.rQueue)) : InSession s' := by
  constructor
  · rw [hopened, hreceived]
    exact h.begun
  · rw [hcallbacks, harrived, hopened]
    exact h.current
  · rw [hcallbacks, harrived, hreceived]
    exact h.numbered
  · rw [hcallbacks, harrived]
    exact h.distinct
  · rw [harrived]
    exact horder.trans h.order

/-- The reading thread moves on and gives its receipt up at most. -/
theorem InSession.goes {s s' : State F} (h : InSession s) (hopened : s'.opened = s.opened)
    (hreceived : s'.received = s.received) (harrived : s'.arrived = s.arrived)
    (hcallbacks : s'.callbacks = s.callbacks) (hreturned : s'.returned = s.returned)
    (hqueue : queued s'.rQueue = queued s.rQueue)
    (hheld : s'.reader.held.Sublist s.reader.held) : InSession s' := by
  refine h.carries hopened hreceived harrived (by rw [hcallbacks]) ?_
  rw [hreturned, hqueue]
  exact (hheld.append_left _).append_right _

/-- A callback begins. -/
theorem InSession.receives {s : State F} (h : InSession s) (frame : F) :
    InSession { s with
      received := s.received + 1
      callbacks := s.callbacks ++ [⟨⟨s.received, frame⟩, false⟩] } := by
  let callback : Callback F := ⟨⟨s.received, frame⟩, false⟩
  have hperm : (inCallbacks (s.callbacks ++ [callback]) ++ s.arrived).Perm
      (callback.receipt :: (inCallbacks s.callbacks ++ s.arrived)) := by
    rw [inCallbacks, List.map_append, List.append_assoc]
    exact List.perm_middle
  have hbegun := h.begun
  constructor
  · show s.opened ≤ s.received + 1
    omega
  · intro r hr
    obtain rfl | hold := List.mem_cons.mp (hperm.subset hr)
    · exact hbegun
    · exact h.current r hold
  · intro r hr
    show r.number < s.received + 1
    obtain rfl | hold := List.mem_cons.mp (hperm.subset hr)
    · exact Nat.lt_succ_self _
    · have hlt := h.numbered r hold
      omega
  · refine hperm.nodup_iff.mpr (List.nodup_cons.mpr ⟨fun hmem => ?_, h.distinct⟩)
    exact Nat.lt_irrefl _ (h.numbered _ hmem)
  · exact h.order

/-- A callback ends without having offered its frame. -/
theorem InSession.discards {s : State F} (h : InSession s) {i : Nat} {receipt : Receipt F}
    {tested : Bool} (hcallback : s.callbacks[i]? = some ⟨receipt, tested⟩) :
    InSession { s with callbacks := s.callbacks.eraseIdx i } := by
  have hperm := (inCallbacks_eraseIdx_perm hcallback).append_right s.arrived
  have hsub : ∀ r ∈ inCallbacks (s.callbacks.eraseIdx i) ++ s.arrived,
      r ∈ inCallbacks s.callbacks ++ s.arrived :=
    fun r hr => hperm.subset (List.mem_cons_of_mem _ hr)
  exact ⟨h.begun, fun r hr => h.current r (hsub r hr), fun r hr => h.numbered r (hsub r hr),
    (List.nodup_cons.mp (hperm.nodup_iff.mpr h.distinct)).2, h.order⟩

/-- A callback offers its frame. -/
theorem InSession.delivers {s : State F} (h : InSession s) {i : Nat} {receipt : Receipt F}
    {tested : Bool} (hcallback : s.callbacks[i]? = some ⟨receipt, tested⟩) :
    InSession { s with
      callbacks := s.callbacks.eraseIdx i
      rQueue := s.rQueue.offer (some receipt)
      arrived := s.arrived ++ [receipt] } := by
  have hperm : (inCallbacks (s.callbacks.eraseIdx i) ++ (s.arrived ++ [receipt])).Perm
      (inCallbacks s.callbacks ++ s.arrived) := by
    rw [← List.append_assoc]
    refine (List.perm_append_singleton receipt _).trans ?_
    exact (inCallbacks_eraseIdx_perm hcallback).append_right s.arrived
  constructor
  · exact h.begun
  · exact fun r hr => h.current r (hperm.subset hr)
  · exact fun r hr => h.numbered r (hperm.subset hr)
  · exact hperm.nodup_iff.mpr h.distinct
  · show (s.returned ++ s.reader.held ++ queued (s.rQueue.offer (some receipt))).Sublist
      (s.arrived ++ [receipt])
    refine ((queued_offer_some s.rQueue receipt).append_left _).trans ?_
    rw [← List.append_assoc]
    exact h.order.append_right [receipt]

theorem step_inSession {s s' : State F} {a : Action F} (hs : InSession s)
    (hok : OpensSettled s a) (hstep : step s a = some s') : InSession s' := by
  cases step_moves hstep with
  | stays => exact hs
  | opens hfree hclosed => exact (hok rfl hclosed).opens
  | offersSentinel nativeOk hholds =>
      exact hs.goes rfl rfl rfl rfl rfl (queued_offer_none _) (List.Sublist.refl _)
  | polls inFrame queue hpc htakes =>
      refine hs.carries rfl rfl rfl rfl ?_
      rw [queued_of_takes htakes, hpc]
      cases inFrame <;> simp [ReadPc.held]
  | flushPolls inFrame queue hpc htakes =>
      refine hs.carries rfl rfl rfl rfl ?_
      rw [queued_of_takes htakes, hpc]
      simp [ReadPc.held]
  | returns receipt hpc =>
      refine hs.carries rfl rfl rfl rfl ?_
      simp [hpc, ReadPc.held]
  | receives frame => exact hs.receives frame
  | admits i receipt hcallback hopened =>
      exact hs.carries rfl rfl rfl (inCallbacks_set hcallback) (List.Sublist.refl _)
  | discards i receipt hcallback => exact hs.discards hcallback
  | delivers i receipt hcallback => exact hs.delivers hcallback
  | closes | closeEnds => exact hs.goes rfl rfl rfl rfl rfl rfl (List.Sublist.refl _)
  | tests receipt hpc | copies receipt hpc =>
      exact hs.goes rfl rfl rfl rfl rfl rfl (by rw [hpc]; exact List.Sublist.refl _)
  | _ => exact hs.goes rfl rfl rfl rfl rfl rfl (List.nil_sublist _)

theorem reachable_inSession {s : State F} (h : (system F).Reachable OpensSettled s) :
    InSession s := by
  refine h.invariant ?_ ?_
  · rintro s rfl
    exact new_inSession
  · intro s a s' _ hs hok hstep
    exact step_inSession hs hok hstep

/-- What `read` returns in a session has been received in that session; it is returned
once, and in the order in which it arrived in the queue. -/
theorem returned_in_session {s : State F} (h : (system F).Reachable OpensSettled s) :
    (∀ r ∈ s.returned, s.opened ≤ r.number) ∧ s.returned.Sublist s.arrived ∧
      s.arrived.Nodup := by
  have hs := reachable_inSession h
  have hsub : s.returned.Sublist s.arrived := by
    refine List.Sublist.trans ?_ hs.order
    rw [List.append_assoc]
    exact List.sublist_append_left _ _
  refine ⟨fun r hr => ?_, hsub, (List.nodup_append.mp hs.distinct).2.1⟩
  exact hs.current r (List.mem_append_right _ (hsub.subset hr))

/-- A call of `DriverReceiveCallback` from its beginning to its end. -/
def receiveCall (frame : F) : List (Action F) := [.receive frame, .test 0, .deliver 0]

/-- A call of `DriverImpl::open` in which `HdmiCecOpen` succeeds. -/
def openCall : List (Action F) := [.driverOpen true]

/-- A call of `DriverImpl::read` of `n` steps. -/
def readCall (n : Nat) : List (Action F) := .read :: List.replicate n .reader

/-- A call of `DriverImpl::close` in which `HdmiCecClose` succeeds. -/
def closeCall : List (Action F) := [.driverClose, .closeStep true, .closeStep true]

/-- One frame is returned in the first session.  In the second one `read` skips the
sentinel of the first and returns another frame. -/
theorem returned_in_session_twice :
    ∃ s : State CECFrame, (system CECFrame).Reachable OpensSettled s ∧
      s.returned = [⟨1, CECFrame.empty⟩] ∧ ∀ r ∈ s.returned, s.opened ≤ r.number := by
  obtain ⟨s, hreach, hreturned⟩ :=
    StepSystem.exists_reachable_of_run (system CECFrame) OpensSettled (new CECFrame)
      (openCall ++ receiveCall CECFrame.empty ++ readCall 5 ++ closeCall ++
        openCall ++ receiveCall CECFrame.empty ++ readCall 7)
      (fun s => s.returned = [⟨1, CECFrame.empty⟩]) rfl (by decide)
  exact ⟨s, hreach, hreturned, (returned_in_session hreach).1⟩

/-- A frame that nobody has read stays in the queue when the driver is closed, and is
returned after it has been opened again. -/
theorem not_returned_in_session :
    ¬ ∀ s : State CECFrame, (system CECFrame).Reachable StepSystem.unguarded s →
      (∀ r ∈ s.returned, s.opened ≤ r.number) ∧ s.returned.Sublist s.arrived ∧
        s.arrived.Nodup := by
  intro hall
  obtain ⟨s, hreach, hreturned, hopened⟩ :=
    StepSystem.exists_reachable_of_run (system CECFrame) StepSystem.unguarded (new CECFrame)
      (openCall ++ receiveCall CECFrame.empty ++ closeCall ++ openCall ++ readCall 5)
      (fun s => s.returned = [⟨0, CECFrame.empty⟩] ∧ s.opened = 1) rfl (by decide)
  have hcurrent := (hall s hreach).1 ⟨0, CECFrame.empty⟩ (by simp [hreturned])
  rw [hopened] at hcurrent
  exact Nat.not_succ_le_zero 0 hcurrent

/-! ## Callbacks one at a time -/

/-- A callback begins only when the last one has ended. -/
def OneCallback (s : State F) : Action F → Prop
  | .receive _ => s.callbacks = []
  | _ => True

/-- The order of arrival is the order of reception, so far. -/
structure InOrder (s : State F) : Prop where
  one : s.callbacks.length ≤ 1
  numbered : ∀ r ∈ s.arrived ++ inCallbacks s.callbacks, r.number < s.received
  increasing : (s.arrived ++ inCallbacks s.callbacks).Pairwise (·.number < ·.number)

theorem step_inOrder {s s' : State F} {a : Action F} (hs : InOrder s) (hok : OneCallback s a)
    (hstep : step s a = some s') : InOrder s' := by
  obtain ⟨hone, hnumbered, hincreasing⟩ := hs
  cases step_moves hstep with
  | opens hfree hclosed =>
      refine ⟨hone, fun r hr => hnumbered r (List.mem_append_right _ hr), ?_⟩
      exact (List.pairwise_append.mp hincreasing).2.1
  | receives frame =>
      have hnone : s.callbacks = [] := hok
      simp only [hnone, inCallbacks, List.map_nil, List.append_nil] at hnumbered hincreasing
      constructor
      · simp [hnone]
      · intro r hr
        show r.number < s.received + 1
        simp only [hnone, List.nil_append, inCallbacks, List.map_cons, List.map_nil,
          List.mem_append, List.mem_singleton] at hr
        obtain hold | rfl := hr
        · exact Nat.lt_succ_of_lt (hnumbered r hold)
        · exact Nat.lt_succ_self _
      · simp only [hnone, List.nil_append, inCallbacks, List.map_cons, List.map_nil]
        exact List.pairwise_append.mpr ⟨hincreasing, List.pairwise_singleton _ _,
          fun r hr r' hr' => List.eq_of_mem_singleton hr' ▸ hnumbered r hr⟩
  | admits i receipt hcallback hopened =>
      have hset : inCallbacks (s.callbacks.set i ⟨receipt, true⟩) = inCallbacks s.callbacks :=
        inCallbacks_set hcallback
      rw [← hset] at hnumbered hincreasing
      exact ⟨by simpa using hone, hnumbered, hincreasing⟩
  | discards i receipt hcallback =>
      have hsub := ((List.eraseIdx_sublist s.callbacks i).map Callback.receipt).append_left
        s.arrived
      refine ⟨?_, fun r hr => hnumbered r (hsub.subset hr), hincreasing.sublist hsub⟩
      exact Nat.le_trans (List.eraseIdx_sublist s.callbacks i).length_le hone
  | delivers i receipt hcallback =>
      -- the callback is the only one
      obtain ⟨callback, hcallbacks⟩ : ∃ callback, s.callbacks = [callback] := by
        rw [← List.length_eq_one_iff]
        have hlt := (List.getElem?_eq_some_iff.mp hcallback).1
        omega
      rw [hcallbacks] at hcallback hnumbered hincreasing
      obtain ⟨rfl, rfl⟩ : i = 0 ∧ callback = ⟨receipt, true⟩ := by
        cases i with
        | zero => exact ⟨rfl, Option.some.inj hcallback⟩
        | succ i => cases hcallback
      rw [hcallbacks]
      constructor
      · exact Nat.zero_le _
      · simpa [inCallbacks] using hnumbered
      · simpa [inCallbacks] using hincreasing
  | _ => exact ⟨hone, hnumbered, hincreasing⟩

/-- If callbacks do not overlap, the order of arrival is the order in which the frames
were received. -/
theorem arrived_increasing {s : State F} (h : (system F).Reachable OneCallback s) :
    s.arrived.Pairwise (·.number < ·.number) := by
  have hs : InOrder s := by
    refine h.invariant ?_ ?_
    · rintro s rfl
      exact ⟨Nat.zero_le _, nofun, List.Pairwise.nil⟩
    · intro s a s' _ hs hok hstep
      exact step_inOrder hs hok hstep
  exact (List.pairwise_append.mp hs.increasing).1

end Sessions

end HdmiCec
