import HdmiCec.Bus.AsyncSends

/-!
# The writing side of the bus as a stretch of a conveyor

A copy that `wQueue` has accepted is in the queue or in the hands of the writer, until the
call of `Driver::write` for it returns.  Put one behind the other these are the copies on
their way: `sendAsync` adds one behind the last, the return of `Driver::write` takes the
first away, and of the other steps only a poll of the flush loses one.

While something is on its way in a bus that is not stopped, the writer can go on.
-/

universe u

namespace HdmiCec

namespace AsyncSends

variable {F : Type u}

/-- The copy that the writer has polled, until `Driver::write` returns. -/
def WriterPc.holding : WriterPc F → List (Copy F)
  | .polled (some outFrame) => [outFrame]
  | .write outFrame => [outFrame]
  | _ => []

/-- The copies on their way, the one that is written next in front. -/
def State.onWay (s : State F) : List (Copy F) := s.writer.holding ++ frames s.wQueue.items

/-- The copy for which `Driver::write` returns in this step. -/
def State.writing (s : State F) : Action F → Option (Copy F)
  | .writer _ =>
      match s.writer with
      | .write outFrame => some outFrame
      | _ => none
  | _ => none

/-- The copy that the queue takes in this step. -/
def State.accepting (s : State F) : Action F → Option (Copy F)
  | .holder _ =>
      match s.wMutex with
      | some (.sendOffer copyFrame) =>
          if s.wQueue.items.length < s.wQueue.cap then some copyFrame else none
      | _ => none
  | _ => none

section Step

variable {s s' : State F} {a : Action F}

/-- The holder of `wMutex` leaves the writer alone, and adds at the end of the queue. -/
theorem holderStep_onWay {ok : Bool} (hstep : holderStep s ok = some s') :
    s'.onWay = s.onWay ++ (s.accepting (.holder ok)).toList := by
  cases hholds : s.wMutex with
  | none => simp [holderStep, hholds] at hstep
  | some holder =>
      cases holder with
      | sendTest frame | sendAllocate frame =>
          simp only [holderStep, hholds, Option.some.injEq] at hstep
          subst hstep
          simp [State.onWay, State.accepting, hholds]
      | sendOffer copyFrame =>
          simp only [holderStep, hholds, Option.some.injEq] at hstep
          subst hstep
          by_cases hroom : s.wQueue.items.length < s.wQueue.cap
          · simp [State.onWay, State.accepting, hholds, hroom, BoundedFifo.offer_room _ hroom,
              frames]
          · have hfull := Nat.le_of_not_lt hroom
            simp [State.onWay, State.accepting, hholds, hroom, BoundedFifo.offer_full _ hfull]
      | stop pc =>
          -- a sentinel is no copy
          have hsentinel : frames (s.wQueue.offer none).items = frames s.wQueue.items := by
            by_cases hroom : s.wQueue.items.length < s.wQueue.cap
            · simp [BoundedFifo.offer_room _ hroom, frames]
            · rw [BoundedFifo.offer_full _ (Nat.le_of_not_lt hroom)]
          cases pc with
          | wait =>
              simp only [holderStep, hholds] at hstep
              split at hstep
              · cases hstep
                simp [State.onWay, State.accepting, hholds]
              · cases hstep
          | _ =>
              simp only [holderStep, hholds, Option.some.injEq] at hstep
              subst hstep
              simp [State.onWay, State.accepting, hholds, hsentinel]

/-- The places of the writer on both sides of a step that changes nothing else. -/
theorem Follows.holding {thrown : Option Exception} {pc : WriterPc F}
    (h : Follows s.state s.writer pc) :
    s.writer.holding = (s.writing (.writer thrown)).toList ++ pc.holding := by
  generalize hwriter : s.writer = writer at h
  cases h <;> simp [State.writing, hwriter, WriterPc.holding]

/-- What the writer does: it returns from a call, or loses a copy in its flush. -/
theorem writerStep_onWay {thrown : Option Exception} (hstep : writerStep s thrown = some s') :
    ∃ rest, s.onWay = (s.writing (.writer thrown)).toList ++ rest ∧ s'.onWay.Sublist rest ∧
      (s.writer ≠ .flushPoll → s'.onWay = rest) := by
  cases writerStep_moves hstep with
  | follows _ pc hedge =>
      refine ⟨pc.holding ++ frames s.wQueue.items, ?_, List.Sublist.refl _, fun _ => rfl⟩
      rw [State.onWay, hedge.holding, List.append_assoc]
  | runs _ hstarting =>
      refine ⟨s.onWay, by simp [State.writing, hstarting], ?_⟩
      simp [State.onWay, hstarting, WriterPc.holding]
  | polls _ outFrame queue hpolling htakes =>
      have hsame : State.onWay { s with writer := .polled outFrame, wQueue := queue } =
          s.onWay := by
        cases outFrame <;>
          simp [State.onWay, hpolling, htakes.1, frames_cons, WriterPc.holding]
      exact ⟨s.onWay, by simp [State.writing, hpolling], by simp [hsame], fun _ => hsame⟩
  | flushPolls _ outFrame queue hpolling htakes =>
      -- the copy that the flush takes is deleted without a call
      refine ⟨s.onWay, by simp [State.writing, hpolling], ?_, fun hnot => absurd hpolling hnot⟩
      have hway : s.onWay = frames [outFrame] ++ frames queue.items := by
        rw [State.onWay, hpolling, htakes.1, frames_cons]
        rfl
      rw [hway]
      exact List.sublist_append_right _ _
  | hands _ outFrame hpolled =>
      refine ⟨s.onWay, by simp [State.writing, hpolled], ?_⟩
      simp [State.onWay, hpolled, WriterPc.holding]
  | deletes _ outFrame pc hplace =>
      refine ⟨s.onWay, ?_⟩
      rcases hplace with ⟨hdelete, rfl⟩ | ⟨hdelete, rfl⟩ <;>
        simp [State.onWay, State.writing, deleteStep, hdelete, WriterPc.holding]
  | completes _ hcompleting =>
      refine ⟨s.onWay, by simp [State.writing, hcompleting], ?_⟩
      simp [State.onWay, hcompleting, WriterPc.holding]

@[simp] theorem openDriver_onWay (s : State F) (ok : Bool) :
    (openDriver s ok).onWay = s.onWay := by
  simp [State.onWay]

/-- What leaves the bus, what of the rest stays, and what enters it. -/
theorem step_onWay (hstep : step s a = some s') :
    ∃ rest kept, s.onWay = (s.writing a).toList ++ rest ∧
      s'.onWay = kept ++ (s.accepting a).toList ∧ kept.Sublist rest ∧
      (s.writer ≠ .flushPoll → kept = rest) := by
  have hall : ∀ {t : State F}, t.onWay = s.onWay → ∃ kept, t.onWay = kept ++ [] ∧
      kept.Sublist s.onWay ∧ (s.writer ≠ .flushPoll → kept = s.onWay) :=
    fun hsame => ⟨s.onWay, by rw [hsame, List.append_nil], List.Sublist.refl _, fun _ => rfl⟩
  cases a with
  | sendAsync frame =>
      refine ⟨s.onWay, ?_⟩
      simp only [step] at hstep
      split at hstep
      · cases hstep
      · cases hstep
        obtain ⟨kept, h⟩ := hall (show State.onWay { s with wMutex := _ } = s.onWay from rfl)
        exact ⟨kept, rfl, h⟩
  | stop =>
      refine ⟨s.onWay, ?_⟩
      simp only [step] at hstep
      split at hstep
      · cases hstep
      · cases hstep
        obtain ⟨kept, h⟩ := hall (show State.onWay
          { s with wMutex := _, started := _, stopped := _ } = s.onWay from rfl)
        exact ⟨kept, rfl, h⟩
  | start ok =>
      have hsame : s'.onWay = s.onWay := by
        simp only [step, startStep] at hstep
        split at hstep
        · cases hstep
        · split at hstep
          · split at hstep
            · next hdone =>
              cases hstep
              simp [State.onWay, hdone, WriterPc.holding]
            · cases hstep
          · cases hstep
            exact openDriver_onWay s ok
      obtain ⟨kept, h⟩ := hall hsame
      exact ⟨s.onWay, kept, rfl, h⟩
  | holder ok =>
      exact ⟨s.onWay, s.onWay, rfl, holderStep_onWay hstep, List.Sublist.refl _, fun _ => rfl⟩
  | writer thrown =>
      obtain ⟨rest, hfront, hsub, hkept⟩ := writerStep_onWay hstep
      exact ⟨rest, s'.onWay, hfront, (List.append_nil _).symm, hsub, hkept⟩
  | writerWakes =>
      have hsame : s'.onWay = s.onWay := by
        simp only [step, writerWakes] at hstep
        split at hstep
        · cases hstep
        · split at hstep
          · next hpoll =>
            cases hstep
            simp [State.onWay, hpoll, WriterPc.holding]
          · next hpoll =>
            cases hstep
            simp [State.onWay, hpoll, WriterPc.holding]
          · cases hstep
      obtain ⟨kept, h⟩ := hall hsame
      exact ⟨s.onWay, kept, rfl, h⟩

/-! ## What all frames have -/

/-- The frame of a call of `sendAsync` that is under way. -/
def Holder.frame : Holder F → Option F
  | .sendTest frame => some frame
  | .sendAllocate frame => some frame
  | .sendOffer copyFrame => some copyFrame.frame
  | .stop _ => none

/-- The frame of every call, and every copy on its way, has the property. -/
structure State.Every (P : F → Prop) (s : State F) : Prop where
  holder : ∀ holder frame, s.wMutex = some holder → holder.frame = some frame → P frame
  onWay : ∀ copyFrame ∈ s.onWay, P copyFrame.frame

theorem new_every (P : F → Prop) : (new F).Every P := ⟨nofun, nofun⟩

/-- The copy that the queue takes is the one of the call. -/
theorem accepting_holder {copyFrame : Copy F} (h : s.accepting a = some copyFrame) :
    s.wMutex = some (.sendOffer copyFrame) := by
  cases a with
  | holder ok =>
      simp only [State.accepting] at h
      split at h
      · next hholds =>
        split at h
        · cases h
          exact hholds
        · cases h
      · cases h
  | _ => cases h

/-- A step keeps it if the frame of a new call has it. -/
theorem step_every {P : F → Prop} (h : s.Every P)
    (hsent : ∀ frame, a = .sendAsync frame → P frame) (hstep : step s a = some s') :
    s'.Every P := by
  obtain ⟨hholder, honWay⟩ := h
  constructor
  · intro holder frame hholds hframe
    cases step_moves hstep with
    | calls frame' =>
        cases hholds
        cases hframe
        exact hsent _ rfl
    | admitted ok frame' hbefore | allocates ok frame' hbefore =>
        cases hholds
        cases hframe
        exact hholder _ _ hbefore rfl
    | refused | accepts | drops => cases hholds
    | stops | marks | offersSentinel =>
        cases hholds
        cases hframe
    | stopGoes ok pc next =>
        cases next with
        | none => cases hholds
        | some pc' =>
            cases hholds
            cases hframe
    | starts ok pc hfree =>
        rw [openDriver_wMutex] at hholds
        exact hholder holder frame hholds hframe
    | _ => exact hholder holder frame hholds hframe
  · intro copyFrame hmem
    obtain ⟨rest, kept, hfront, hafter, hsub, -⟩ := step_onWay hstep
    rw [hafter] at hmem
    rcases List.mem_append.mp hmem with hold | hnew
    · refine honWay copyFrame ?_
      rw [hfront]
      exact List.mem_append_right _ (hsub.subset hold)
    · have haccepting := accepting_holder (Option.mem_toList.mp hnew)
      exact hholder _ _ haccepting rfl

/-! ## Without a stop -/

/-- Nobody has stopped the bus in this session. -/
structure State.Serving (s : State F) : Prop where
  control : Control s
  live : s.stopped = false

/-- Then the writer is not in its flush. -/
theorem State.Serving.notFlushing (h : s.Serving) : s.writer ≠ .flushPoll := by
  intro hflushing
  have hfits := h.control.fits
  rw [hflushing] at hfits
  have hstopped := h.control.flushing hfits
  rw [h.live] at hstopped
  cases hstopped

/-- It stays so until `Bus::stop` is called. -/
theorem step_serving (h : s.Serving) (hstop : a ≠ .stop) (hstep : step s a = some s') :
    s'.Serving := by
  have hmove := step_moves hstep
  refine ⟨step_control h.control hmove, ?_⟩
  cases hmove with
  | stops => exact absurd rfl hstop
  | starts ok pc => exact openDriver_live _ ok h.live
  | _ => exact h.live

/-! ## The writer goes on -/

/-- The writer has not returned unless the bus was stopped, and no exception has left it. -/
structure State.Upright (s : State F) : Prop where
  returned : s.writer = .done → s.stopped = true
  escaped : ∀ outFrame, s.writer ≠ .terminated outFrame

theorem new_upright : (new F).Upright := ⟨nofun, nofun⟩

/-- No step that changes nothing but the place of the writer is its return. -/
theorem Follows.ne_done {state : Stoppable} {pc pc' : WriterPc F} (h : Follows state pc pc') :
    pc' ≠ .done := by
  cases h <;> nofun

/-- While the writer is in `Driver::write` it is only given exceptions of the library. -/
def OfLibrary (s : State F) (a : Action F) : Prop :=
  ∀ outFrame e, s.writer = .write outFrame → a = .writer (some e) → e.isCCEC = true

theorem writerStep_not_terminated {thrown : Option Exception}
    (hthrown : OfLibrary s (.writer thrown)) (hstep : writerStep s thrown = some s')
    (outFrame : Copy F) : s'.writer ≠ .terminated outFrame := by
  intro hterminated
  cases hwriter : s.writer with
  | write copyFrame =>
      cases thrown with
      | none =>
          simp only [writerStep, hwriter, Option.some.injEq] at hstep
          subst hstep
          cases hterminated
      | some e =>
          have hcaught := hthrown copyFrame e hwriter rfl
          simp only [writerStep, hwriter, hcaught, if_true] at hstep
          split at hstep <;> cases hstep <;> cases hterminated
  | poll | flushPoll =>
      simp only [writerStep, hwriter] at hstep
      obtain ⟨entry, queue, -, rfl⟩ := pollStep_takes hstep
      cases hterminated
  | polled entry =>
      cases entry <;> simp only [writerStep, hwriter, Option.some.injEq] at hstep <;>
        subst hstep <;> cases hterminated
  | done | terminated => simp [writerStep, hwriter] at hstep
  | _ =>
      simp only [writerStep, hwriter, Option.some.injEq] at hstep
      subst hstep
      simp only [deleteStep] at hterminated
      first
        | cases hterminated
        | split at hterminated <;> cases hterminated

theorem writerStep_done {thrown : Option Exception} (hcontrol : Control s)
    (hstep : writerStep s thrown = some s') (hdone : s'.writer = .done) : s'.stopped = true := by
  cases writerStep_moves hstep with
  | follows _ pc hedge => exact absurd hdone hedge.ne_done
  | completes _ hcompleting =>
      -- the writer returns behind its flush
      have hfits := hcontrol.fits
      rw [hcompleting] at hfits
      exact hcontrol.flushing hfits
  | deletes _ outFrame pc hplace =>
      have hpc : pc = .done := hdone
      rw [hpc] at hplace
      rcases hplace with ⟨-, heq⟩ | ⟨-, heq⟩ <;> cases heq
  | runs | polls | flushPolls | hands => cases hdone

theorem holderStep_writer {ok : Bool} (hstep : holderStep s ok = some s') :
    s'.writer = s.writer ∧ s'.stopped = s.stopped := by
  unfold holderStep at hstep
  split at hstep
  case h_1 => cases hstep
  case h_10 =>
    split at hstep
    · cases hstep
      exact ⟨rfl, rfl⟩
    · cases hstep
  all_goals
    cases hstep
    exact ⟨rfl, rfl⟩

theorem step_upright (h : s.Upright) (hcontrol : Control s) (hthrown : OfLibrary s a)
    (hstep : step s a = some s') : s'.Upright := by
  obtain ⟨hreturned, hescaped⟩ := h
  cases a with
  | writer thrown =>
      exact ⟨writerStep_done hcontrol hstep, writerStep_not_terminated hthrown hstep⟩
  | writerWakes =>
      simp only [step, writerWakes] at hstep
      split at hstep
      · cases hstep
      · split at hstep <;> cases hstep <;>
          exact ⟨fun hdone => (by cases hdone), fun outFrame hlost => (by cases hlost)⟩
  | start ok =>
      simp only [step, startStep] at hstep
      split at hstep
      · cases hstep
      · split at hstep
        · split at hstep
          · cases hstep
            constructor
            · rw [openDriver_writer]
              intro hdone
              cases hdone
            · rw [openDriver_writer]
              intro outFrame hlost
              cases hlost
          · cases hstep
        · next hnot =>
          cases hstep
          rw [Stoppable.isStopped_iff] at hnot
          constructor
          · rw [openDriver_writer]
            intro hdone
            have hfits := hcontrol.fits
            rw [hdone] at hfits
            exact absurd hfits hnot
          · rw [openDriver_writer]
            exact hescaped
  | sendAsync frame =>
      simp only [step] at hstep
      split at hstep <;> cases hstep
      exact ⟨hreturned, hescaped⟩
  | stop =>
      simp only [step] at hstep
      split at hstep <;> cases hstep
      exact ⟨fun _ => rfl, hescaped⟩
  | holder ok =>
      obtain ⟨hwriter, hstopped⟩ := holderStep_writer hstep
      constructor
      · rw [hwriter, hstopped]
        exact hreturned
      · rw [hwriter]
        exact hescaped

/-! ### How far it is from an empty queue -/

def WriterPc.rank : WriterPc F → Nat
  | .polled _ => 6
  | .write _ => 5
  | .delete _ => 4
  | .entry | .test => 3
  | .starting => 2
  | .poll => 1
  | _ => 0

def State.rank (s : State F) : Nat := 8 * s.wQueue.items.length + s.writer.rank

/-- As long as something is on its way, the writer of a bus that is not stopped can take a
step, and the step brings it nearer to an empty queue. -/
theorem State.Serving.writer_goes_on (h : s.Serving) (hupright : s.Upright) (hway : s.onWay ≠ [])
    {thrown : Option Exception} (hthrown : OfLibrary s (.writer thrown)) :
    ∃ s', step s (.writer thrown) = some s' ∧ s'.rank < s.rank := by
  have hfits := h.control.fits
  have hnotStopping : s.state ≠ .stopping :=
    h.control.not_stopping (h.control.live h.live)
  show ∃ s', writerStep s thrown = some s' ∧ _
  cases hwriter : s.writer with
  | entry =>
      simp only [writerStep, hwriter]
      refine ⟨_, rfl, ?_⟩
      simp only [State.rank, hwriter]
      split <;> simp only [WriterPc.rank] <;> omega
  | starting =>
      refine ⟨{ s with writer := .poll, state := .runStarted }, by simp [writerStep, hwriter], ?_⟩
      simp only [State.rank, hwriter, WriterPc.rank]
      omega
  | poll =>
      cases hitems : s.wQueue.items with
      | nil => simp [State.onWay, hwriter, WriterPc.holding, hitems, frames] at hway
      | cons entry rest =>
          have hpoll : s.wQueue.poll = some (entry,
              { s.wQueue with items := rest, popped := s.wQueue.popped ++ [entry] }) := by
            simp [BoundedFifo.poll, hitems]
          refine ⟨{ s with
              writer := .polled entry
              wQueue := { s.wQueue with items := rest, popped := s.wQueue.popped ++ [entry] } },
            by simp [writerStep, hwriter, pollStep, hpoll], ?_⟩
          simp only [State.rank, hwriter, hitems, List.length_cons, WriterPc.rank]
          omega
  | polled entry =>
      cases entry with
      | none =>
          refine ⟨{ s with writer := .delete none }, by simp [writerStep, hwriter], ?_⟩
          simp only [State.rank, hwriter, WriterPc.rank]
          omega
      | some outFrame =>
          refine ⟨{ s with writer := .write outFrame, written := s.written ++ [outFrame] },
            by simp [writerStep, hwriter], ?_⟩
          simp only [State.rank, hwriter, WriterPc.rank]
          omega
  | write outFrame =>
      -- an exception is caught, and the copy is deleted all the same
      have hreturns : writerStep s thrown = some { s with writer := .delete (some outFrame) } := by
        cases thrown with
        | none => simp [writerStep, hwriter]
        | some e => simp [writerStep, hwriter, hthrown outFrame e hwriter rfl]
      refine ⟨_, hreturns, ?_⟩
      simp only [State.rank, hwriter, WriterPc.rank]
      omega
  | delete outFrame =>
      refine ⟨deleteStep s outFrame .test, by simp [writerStep, hwriter], ?_⟩
      simp only [State.rank, deleteStep, hwriter, WriterPc.rank]
      omega
  | test =>
      have hrunning : s.state.isRunning = true := by
        rw [hwriter] at hfits
        rw [Stoppable.isRunning_iff]
        cases hstate : s.state with
        | running => rfl
        | stopping => exact absurd hstate hnotStopping
        | stopped => exact absurd hstate hfits
      refine ⟨{ s with writer := .poll }, by simp [writerStep, hwriter, hrunning], ?_⟩
      simp only [State.rank, hwriter, WriterPc.rank]
      omega
  | retest | flushTest | flushPoll | flushDelete | completing =>
      -- all of these are behind a `stop`
      rw [hwriter] at hfits
      exact absurd hfits hnotStopping
  | done =>
      have hstopped := hupright.returned hwriter
      rw [h.live] at hstopped
      cases hstopped
  | terminated outFrame => exact absurd hwriter (hupright.escaped outFrame)

end Step

end AsyncSends

end HdmiCec
