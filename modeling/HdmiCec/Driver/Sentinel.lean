import HdmiCec.Driver.Sessions

/-!
# The sentinel of `close`

`DriverImpl::close` offers a null pointer to the incoming queue, so that a `read`
that waits there comes back.  `read` looks at what it has polled outside its flush,
and does not look at it inside.  The file shows what the sentinel achieves and where
it does harm:

* in a closed driver no `read` is left waiting at an empty queue
  (`Inv.not_asleep`), also when the queue was full and the sentinel was dropped;
* `read` copies a null pointer exactly when it enters its flush while another
  sentinel is still in the queue (`copies_frames`, `flush_crashes`).
-/

universe u

namespace HdmiCec

namespace Sessions

variable {F : Type u}

/-! ## What holds in every run -/

/-- The program points of the flush, at which the thread holds the mutex. -/
def ReadPc.flushing : ReadPc F → Bool
  | .flushTest | .flushPoll | .flushCopy _ => true
  | _ => false

/-- The invariant of every run.  `served` is about a thread that is about to poll:
unless the driver is open or a sentinel is about to come, there is an entry for it. -/
structure Inv (s : State F) : Prop where
  capacity : 0 < s.rQueue.cap
  shut : s.mutex ≠ none → s.status ≠ .opened
  closing : s.mutex = some .closeOffer → s.status = .closing
  holder : s.reader.flushing = true → s.mutex = some .reader
  tested : s.reader ≠ .copy none
  drains : s.reader = .flushPoll → s.rQueue.items ≠ []
  served : s.reader = .poll → s.status ≠ .opened → s.mutex ≠ some .closeOffer →
    s.rQueue.items ≠ []

theorem new_inv : Inv (new F) := by
  constructor <;> simp [new, BoundedFifo.empty, ReadPc.flushing]

/-- Every step leaves the capacity of the queue alone. -/
theorem step_cap {s s' : State F} {a : Action F} (hstep : step s a = some s') :
    s'.rQueue.cap = s.rQueue.cap := by
  cases step_moves hstep with
  | offersSentinel => exact BoundedFifo.offer_cap _ _
  | delivers => exact BoundedFifo.offer_cap _ _
  | polls inFrame queue hpc htakes => exact htakes.2
  | flushPolls inFrame queue hpc htakes => exact htakes.2
  | _ => rfl

theorem step_inv {s s' : State F} {a : Action F} (h : Inv s) (hstep : step s a = some s') :
    Inv s' := by
  have hcap : 0 < s'.rQueue.cap := by
    rw [step_cap hstep]
    exact h.capacity
  obtain ⟨hroom, hshut, hclosing, hholder, htested, hdrains, hserved⟩ := h
  -- with the capacity out of the way nothing below is about numbers
  cases step_moves hstep with
  | stays => exact ⟨hcap, hshut, hclosing, hholder, htested, hdrains, hserved⟩
  | receives | admits | discards =>
      exact ⟨hcap, hshut, hclosing, hholder, htested, hdrains, hserved⟩
  | offersSentinel nativeOk hholds =>
      have hfilled := BoundedFifo.offer_ne_nil (none : Option (Receipt F)) hroom
      refine ⟨hcap, ?_, ?_, ?_, htested, ?_, ?_⟩ <;> grind -ring -linarith
  | delivers i receipt hcallback =>
      have hfilled := BoundedFifo.offer_ne_nil (some receipt) hroom
      refine ⟨hcap, hshut, hclosing, hholder, htested, ?_, ?_⟩ <;> grind -ring -linarith
  | polls inFrame queue hpc htakes =>
      refine ⟨hcap, hshut, hclosing, ?_, ?_, ?_, ?_⟩ <;>
        grind -ring -linarith [ReadPc.flushing, Takes]
  | flushPolls inFrame queue hpc htakes =>
      refine ⟨hcap, hshut, hclosing, ?_, ?_, ?_, ?_⟩ <;>
        grind -ring -linarith [ReadPc.flushing, Takes]
  | _ =>
      refine ⟨hcap, ?_, ?_, ?_, ?_, ?_, ?_⟩ <;> grind -ring -linarith [ReadPc.flushing]

theorem reachable_inv {ok : State F → Action F → Prop} {s : State F}
    (h : (system F).Reachable ok s) : Inv s := by
  refine h.invariant ?_ ?_
  · rintro s rfl
    exact new_inv
  · intro s a s' _ hs _ hstep
    exact step_inv hs hstep

/-! ## What the sentinel is for -/

/-- The thread is inside `rQueue.poll`, where it sleeps or is about to, and there is
nothing to take. -/
def State.AsleepOnEmpty (s : State F) : Prop :=
  (s.reader = .poll ∨ s.reader = .flushPoll) ∧ s.rQueue.items = []

/-- No `read` is left waiting in a closed driver. -/
theorem Inv.not_asleep {s : State F} (h : Inv s) (hclosed : s.status = .closed) :
    ¬ s.AsleepOnEmpty := by
  rintro ⟨hpoll | hflush, hempty⟩
  · refine h.served hpoll (by simp [hclosed]) (fun hoffer => ?_) hempty
    have hclosing := h.closing hoffer
    rw [hclosed] at hclosing
    cases hclosing
  · exact h.drains hflush hempty

/-! ## What `read` copies -/

/-- `read` is about to execute `frame = *inFrame`, in its flush or outside. -/
def State.Copies (s : State F) (inFrame : Option (Receipt F)) : Prop :=
  s.reader = .copy inFrame ∨ s.reader = .flushCopy inFrame

/-- The thread has polled a null pointer and finds the driver not open, with another
sentinel in the queue. -/
def State.FlushesSentinel (s : State F) : Prop :=
  s.reader = .polled none ∧ s.mutex = none ∧ s.status ≠ .opened ∧ none ∈ s.rQueue.items

instance [DecidableEq F] (s : State F) : Decidable s.FlushesSentinel :=
  inferInstanceAs (Decidable (_ ∧ _))

instance [DecidableEq F] (s : State F) (inFrame : Option (Receipt F)) :
    Decidable (s.Copies inFrame) :=
  inferInstanceAs (Decidable (_ ∨ _))

/-- The flush is entered only when no sentinel is left for it to meet. -/
def FlushesFrames (s : State F) (a : Action F) : Prop := a = .reader → ¬ s.FlushesSentinel

instance [DecidableEq F] (s : State F) (a : Action F) : Decidable (FlushesFrames s a) :=
  inferInstanceAs (Decidable (_ → _))

/-- The invariant of the runs in which every flush meets frames only. -/
structure Flushed (s : State F) : Prop where
  clean : s.reader.flushing = true → none ∉ s.rQueue.items
  frames : s.reader ≠ .flushCopy none

theorem step_flushed {s s' : State F} {a : Action F} (h : Inv s) (hs : Flushed s)
    (hok : FlushesFrames s a) (hstep : step s a = some s') : Flushed s' := by
  obtain ⟨-, -, -, hholder, -, hdrains, -⟩ := h
  obtain ⟨hclean, hframes⟩ := hs
  cases step_moves hstep with
  | stays => exact ⟨hclean, hframes⟩
  | offersSentinel nativeOk hholds =>
      -- a flushing thread has the mutex that `close` holds
      have hnot : s.reader.flushing ≠ true := by
        intro hflushing
        rw [hholder hflushing] at hholds
        cases hholds
      exact ⟨fun hflushing => absurd hflushing hnot, hframes⟩
  | delivers i receipt hcallback =>
      refine ⟨fun hflushing => ?_, hframes⟩
      obtain hkeeps | hputs := BoundedFifo.offer_items s.rQueue (some receipt)
      · show none ∉ (s.rQueue.offer (some receipt)).items
        rw [hkeeps]
        exact hclean hflushing
      · show none ∉ (s.rQueue.offer (some receipt)).items
        rw [hputs]
        simpa using hclean hflushing
  | flushes hpc hfree hshut =>
      exact ⟨fun _ hmem => hok rfl ⟨hpc, hfree, hshut, hmem⟩, nofun⟩
  | flushPolls inFrame queue hpc htakes =>
      have hnone := hclean (by rw [hpc]; rfl)
      rw [htakes.1, List.mem_cons, not_or] at hnone
      refine ⟨fun _ => hnone.2, fun hcopies => hnone.1 ?_⟩
      cases hcopies
      rfl
  | flushWakes hpc hdrained => exact absurd hdrained (hdrains hpc)
  | _ => constructor <;> grind -ring -linarith [ReadPc.flushing]

theorem reachable_flushed {s : State F} (h : (system F).Reachable FlushesFrames s) :
    Flushed s := by
  refine h.invariant ?_ ?_
  · rintro s rfl
    exact ⟨nofun, nofun⟩
  · intro s a s' hreach hs hok hstep
    exact step_flushed (reachable_inv hreach) hs hok hstep

/-- What `read` copies is a frame, in every run that enters the flush without a
sentinel in the queue. -/
theorem copies_frames {s : State F} (h : (system F).Reachable FlushesFrames s)
    {inFrame : Option (Receipt F)} (hcopies : s.Copies inFrame) :
    ∃ receipt, inFrame = some receipt := by
  refine Option.ne_none_iff_exists'.mp ?_
  rintro rfl
  obtain hcopy | hflushCopy := hcopies
  · exact (reachable_inv h).tested hcopy
  · exact (reachable_flushed h).frames hflushCopy

/-- A callback offers its frame behind the sentinel, and the flush copies it. -/
theorem copies_frames_flushing :
    ∃ s : State CECFrame, (system CECFrame).Reachable FlushesFrames s ∧
      s.Copies (some ⟨0, CECFrame.empty⟩) ∧
      ∃ receipt, some (Receipt.mk 0 CECFrame.empty) = some receipt := by
  obtain ⟨s, hreach, hcopies⟩ :=
    StepSystem.exists_reachable_of_run (system CECFrame) FlushesFrames (new CECFrame)
      [.driverOpen true, .receive CECFrame.empty, .test 0, .read, .reader, .driverClose,
        .closeStep true, .closeStep true, .deliver 0, .reader, .reader, .reader, .reader]
      (fun s => s.Copies (some ⟨0, CECFrame.empty⟩)) rfl (by decide)
  exact ⟨s, hreach, hcopies, copies_frames hreach hcopies⟩

/-- A sentinel is left by a session whose reader did not poll any more.  The next
session's `read` takes it, and before it looks at the status the driver is closed
again: the flush meets the second sentinel. -/
theorem not_copies_frames :
    ¬ ∀ s : State CECFrame, (system CECFrame).Reachable StepSystem.unguarded s →
      ∀ inFrame, s.Copies inFrame → ∃ receipt, inFrame = some receipt := by
  intro hall
  obtain ⟨s, hreach, hcopies⟩ :=
    StepSystem.exists_reachable_of_run (system CECFrame) StepSystem.unguarded (new CECFrame)
      [.driverOpen true, .driverClose, .closeStep true, .closeStep true, .driverOpen true,
        .read, .reader, .reader, .driverClose, .closeStep true, .closeStep true,
        .reader, .reader, .reader]
      (fun s => s.Copies none) rfl (by decide)
  obtain ⟨receipt, hreceipt⟩ := hall s hreach none hcopies
  cases hreceipt

/-! ### The guard cannot be spared -/

/-- Steps of the reading thread. -/
def ByReader (_ : State F) (a : Action F) : Prop := a = .reader

theorem leads_of_readerStep {s s' : State F} (h : readerStep s = some s') :
    (system F).Leads ByReader s s' := by
  have hby : ByReader s .reader := rfl
  exact .single hby h

/-- The flush goes on to the first sentinel in the queue and copies it. -/
theorem flush_meets_sentinel (items : List (Option (Receipt F))) :
    ∀ s : State F, s.reader = .flushTest → s.rQueue.items = items → none ∈ items →
      ∃ s', (system F).Leads ByReader s s' ∧ s'.Copies none := by
  induction items with
  | nil => intro s _ _ hmem; cases hmem
  | cons entry rest ih =>
      intro s hpc hitems hmem
      have htest : readerStep s = some { s with reader := .flushPoll } := by
        simp [readerStep, hpc, hitems]
      let queue := { s.rQueue with items := rest, popped := s.rQueue.popped ++ [entry] }
      have hpoll : readerStep { s with reader := .flushPoll } =
          some { s with reader := .flushCopy entry, rQueue := queue } := by
        simp [readerStep, pollStep, BoundedFifo.poll, hitems, queue]
      have hlead := (leads_of_readerStep htest).trans (leads_of_readerStep hpoll)
      cases entry with
      | none => exact ⟨_, hlead, .inr rfl⟩
      | some receipt =>
          have hcopy : readerStep
              { s with reader := .flushCopy (some receipt), rQueue := queue } =
              some { s with reader := .flushTest, rQueue := queue } := rfl
          have hrest : none ∈ rest := by simpa using hmem
          obtain ⟨s', hleads, hcopies⟩ :=
            ih { s with reader := .flushTest, rQueue := queue } rfl rfl hrest
          exact ⟨s', (hlead.trans (leads_of_readerStep hcopy)).trans hleads, hcopies⟩

/-- A step against the guard ends in the dereference of a null pointer, by the
thread's own next steps. -/
theorem flush_crashes {s : State F} (h : s.FlushesSentinel) :
    ∃ s', (system F).Leads ByReader s s' ∧ s'.Copies none := by
  obtain ⟨hpc, hfree, hshut, hmem⟩ := h
  have hstep : readerStep s = some { s with reader := .flushTest, mutex := some .reader } := by
    simp [readerStep, hpc, hfree, hshut]
  obtain ⟨s', hleads, hcopies⟩ :=
    flush_meets_sentinel s.rQueue.items
      { s with reader := .flushTest, mutex := some .reader } rfl rfl hmem
  exact ⟨s', (leads_of_readerStep hstep).trans hleads, hcopies⟩

end Sessions

end HdmiCec
