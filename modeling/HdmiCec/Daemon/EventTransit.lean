import HdmiCec.Daemon.PseudoDriver
import HdmiCec.Daemon.CecIARMBusMgr

/-!
# The pseudo-driver as a stretch of a conveyor

An event that has been delivered is in the hands of the handler until that calls
`DriverReceiveCallback`, and then its frame is on its way through the driver.  Put one behind
the other these are the byte strings on their way in a client process.

If events are delivered one after the other, the handler loses no more than it turns away, and
it makes nothing up.  Without a `close`, and with events only while there is a callback in the
context, the process stays alive; and once `open` has returned, nothing is lost and nothing
stays on its way.
-/

namespace HdmiCec

namespace PseudoDriver

open ReceiveHandler (Control Handler Safe)

/-! ## What an event carries -/

/-- The frame's bytes in an event block. -/
def eventBytes (event : CECMgr.EventData) : List UInt8 :=
  event.data.toList.take event.length.toNat

theorem eventBytes_dataRcvd {frame : CECFrame} (hfits : frame.length ≤ 62) :
    (CecIARMMgrFrameListener.dataRcvd frame).length.toNat = frame.length ∧
      eventBytes (CecIARMMgrFrameListener.dataRcvd frame) = frame.bytes := by
  have hlength : (CecIARMMgrFrameListener.dataRcvd frame).length.toNat = frame.length := by
    show (UInt8.ofNat frame.length).toNat = frame.length
    rw [UInt8.toNat_ofNat']
    exact Nat.mod_eq_of_lt (by omega)
  refine ⟨hlength, ?_⟩
  have hdata : (CecIARMMgrFrameListener.dataRcvd frame).data.toList =
      List.ofFn fun i : Fin (CECMgr.maxDataLength + 1) => frame.bytes.getD i 0 :=
    Vector.toList_ofFn
  rw [eventBytes, hlength, hdata]
  apply List.ext_getElem
  · rw [List.length_take, List.length_ofFn, CECFrame.bytes_length, CECMgr.maxDataLength]
    omega
  · intro i _ hi
    rw [List.getElem_take, List.getElem_ofFn, List.getD_eq_getElem?_getD,
      List.getElem?_eq_getElem hi]
    rfl

/-- `DriverReceiveCallback` rebuilds the frame. -/
theorem rebuild_eventBytes {event : CECMgr.EventData} (hfits : event.length.toNat ≤ 62) :
    ∃ frame, Daemon.rebuild event.length event.data = .ok frame ∧
      frame.bytes = eventBytes event := by
  have hlength : event.length.toNat = (eventBytes event).length := by
    rw [eventBytes, List.length_take, Vector.length_toList, CECMgr.maxDataLength]
    omega
  apply Daemon.carries_of_fits hlength
  · rw [← hlength, CECMgr.maxDataLength]
    omega
  · rw [← hlength]
    rfl

/-! ## One event after the other -/

/-- An event is delivered when no callback is under way any more, and fits its block. -/
def Sequential (p : State) : Action → Prop
  | .deliver event => p.driver.callbacks = [] ∧ event.length.toNat ≤ 62
  | _ => True

/-- No exception has left a callback; the handler is busy while it has an event, and then it
is the only one to call back. -/
structure Sound (p : State) : Prop where
  up : p.up = true
  inOrder : Sessions.InOrder p.driver
  busy : p.event = none ↔ p.native.handler () = .out
  alone : p.event ≠ none → p.driver.callbacks = []
  fits : ∀ event, p.event = some event → event.length.toNat ≤ 62

theorem new_inOrder : Sessions.InOrder (Sessions.new CECFrame) :=
  ⟨Nat.zero_le _, fun _ hr => absurd hr List.not_mem_nil, List.Pairwise.nil⟩

theorem new_sound : Sound new :=
  ⟨rfl, new_inOrder, iff_of_true rfl rfl, fun hnot => absurd rfl hnot,
    fun _ hnone => by cases hnone⟩

section Sound

variable {p p' : State} {a : Action}

/-- A callback begins with `DriverReceiveCallback` only. -/
theorem callbacks_nil {F : Type} {s s' : Sessions.State F} {a : Sessions.Action F}
    (hreceiving : s.receiving a = none) (hnone : s.callbacks = [])
    (hstep : Sessions.step s a = some s') : s'.callbacks = [] := by
  cases Sessions.step_moves hstep with
  | receives frame => cases hreceiving
  | admits i receipt hcallback | discards i receipt hcallback | delivers i receipt hcallback =>
      rw [hnone] at hcallback
      cases hcallback
  | _ => exact hnone

theorem oneCallback_of_receiving {F : Type} {s : Sessions.State F} {a : Sessions.Action F}
    (hreceiving : s.receiving a = none) : Sessions.OneCallback s a := by
  cases a with
  | receive frame => cases hreceiving
  | _ => trivial

theorem receiving_of_thread {s : Sessions.State CECFrame} {a : Sessions.Action CECFrame}
    (hthread : ofThread a = true) : s.receiving a = none := by
  cases a with
  | receive frame => cases hthread
  | _ => rfl

theorem returning_of_seen {s : Sessions.State CECFrame} {a : Sessions.Action CECFrame}
    {native : ReceiveHandler.State Unit} (hseen : seen native = some a) : s.returning a = none := by
  unfold seen at hseen
  split at hseen
  · cases hseen
    rfl
  · cases hseen
    rfl
  · split at hseen <;> cases hseen
    rfl
  · cases hseen
    rfl
  · cases hseen

theorem receiving_of_seen {s : Sessions.State CECFrame} {a : Sessions.Action CECFrame}
    {native : ReceiveHandler.State Unit} (hseen : seen native = some a) : s.receiving a = none := by
  unfold seen at hseen
  split at hseen
  · cases hseen
    rfl
  · cases hseen
    rfl
  · split at hseen <;> cases hseen
    rfl
  · cases hseen
    rfl
  · cases hseen

/-- A step of the driver that begins no callback. -/
theorem Sound.steps (h : Sound p) {driver : Sessions.State CECFrame}
    {a : Sessions.Action CECFrame} (hreceiving : p.driver.receiving a = none)
    (hstep : Sessions.step p.driver a = some driver) : Sound { p with driver := driver } where
  up := h.up
  inOrder := Sessions.step_inOrder h.inOrder (oneCallback_of_receiving hreceiving) hstep
  busy := h.busy
  alone := fun hevent => callbacks_nil hreceiving (h.alone hevent) hstep
  fits := h.fits

/-- A step of `open` or `close`. -/
theorem Sound.controls (h : Sound p) {native : ReceiveHandler.State Unit}
    (hhandler : native.handler = p.native.handler) : Sound { p with native := native } where
  up := h.up
  inOrder := h.inOrder
  busy := by
    show p.event = none ↔ native.handler () = .out
    rw [hhandler]
    exact h.busy
  alone := h.alone
  fits := h.fits

theorem step_sound (h : Sound p) (hok : Sequential p a) (hstep : step p a = some p') :
    Sound p' := by
  cases step_moves hstep with
  | begins a control hcalls hfree hidle => exact h.controls rfl
  | offersSentinel memory driver hholds hdriver => exact h.steps rfl hdriver
  | goesOn memory driver hbehind hcalling hdriver =>
      have hcontrols : Sound { p with native := ReceiveHandler.controlStep p.native memory } :=
        h.controls (ReceiveHandler.controlStep_handler _ _)
      cases hseen : seen p.native with
      | none =>
          rw [hseen] at hdriver
          cases hdriver
          exact hcontrols
      | some a =>
          rw [hseen] at hdriver
          exact hcontrols.steps (receiving_of_seen hseen) hdriver
  | threads a driver hthread henters hdriver =>
      exact h.steps (receiving_of_thread hthread) hdriver
  | delivers event hplace hregistered =>
      refine ⟨h.up, h.inOrder, ?_, fun _ => hok.1, ?_⟩
      · simp
      · rintro event' ⟨⟩
        exact hok.2
  | drops => exact h
  | handles native hbusy hplace hnative =>
      have hevent : p.event ≠ none := fun hnone => hbusy (h.busy.mp hnone)
      refine ⟨h.up, h.inOrder, ?_, fun _ => h.alone hevent, ?_⟩
      · show (if native.handler () = .out then none else p.event) = none ↔ _
        split
        · next hout => exact iff_of_true rfl hout
        · next hout => exact iff_of_false hevent hout
      · intro event hsome
        simp only [State.handles] at hsome
        split at hsome
        · cases hsome
        · exact h.fits event hsome
  | receives event frame driver hplace hhands hrebuilds hdriver =>
      have hcallbacks := h.alone (by rw [hhands]; exact Option.some_ne_none _)
      have hinOrder : Sessions.InOrder driver :=
        Sessions.step_inOrder (a := .receive frame) h.inOrder hcallbacks hdriver
      refine ⟨h.up, hinOrder, ?_, ?_, ?_⟩
      · simp
      · exact fun hnot => absurd rfl hnot
      · exact fun _ hnot => by cases hnot
  | escapes event reason hhands hrebuilds =>
      obtain ⟨frame, hok, -⟩ := rebuild_eventBytes (h.fits event hhands)
      rw [hok] at hrebuilds
      cases hrebuilds

end Sound

/-! ## Without a `close` -/

/-- Nobody calls `close`, and `malloc` succeeds; the driver loses no frame; and events are
delivered only while there is a callback for them, or a null in its place. -/
def Lossless (p : State) : Action → Prop
  | .driverOpen | .handler => True
  | .driverClose => False
  | .control memory => p.native.control = .malloc → memory ≠ none
  | .thread a => Sessions.Lossless p.driver a
  | .deliver _ => Safe p.native.current

instance (p : State) (a : Action) : Decidable (Lossless p a) :=
  match a with
  | .driverOpen | .handler => inferInstanceAs (Decidable True)
  | .driverClose => inferInstanceAs (Decidable False)
  | .control _ => inferInstanceAs (Decidable (_ → _))
  | .thread _ => inferInstanceAs (Decidable (Sessions.Lossless _ _))
  | .deliver _ => inferInstanceAs (Decidable (Safe _))

/-- The handler is registered, and its callback is in the context. -/
def Hears {T : Type} (native : ReceiveHandler.State T) : Prop :=
  native.registered = true ∧ native.current = some .set

/-- What `open` has done so far. -/
def Opening {T : Type} (native : ReceiveHandler.State T) : Prop :=
  match native.control with
  | .idle | .openStatus => native.status = .opened → Hears native
  | .openTest | .register => True
  | .malloc => native.registered = true
  | .setRxCB => native.registered = true ∧ native.current ≠ none
  | .setRxCBdata | .setTxCB | .setTxCBdata | .setOpened => Hears native
  | .closeStatus | .setClosing | .closeTest | .unregister | .free | .clear | .setClosed => False

/-- The process is alive and can only be opening the driver. -/
structure Serving (p : State) : Prop where
  fault : p.native.fault = none
  agrees : Agrees p
  contexts : ReceiveHandler.Contexts p.native
  inv : ReceiveHandler.Inv p.native
  opening : Opening p.native
  steady : p.driver.Steady

theorem new_serving : Serving new where
  fault := rfl
  agrees := new_agrees
  contexts := ReceiveHandler.new_contexts
  inv := ReceiveHandler.new_inv
  opening := fun hopened => by cases hopened
  steady := Sessions.new_steady

section Serving

variable {p p' : State} {a : Action}

/-- What a store finds behind `driverCtx`. -/
theorem stores_current {T : Type} {native : ReceiveHandler.State T}
    (hcurrent : native.current ≠ none) :
    ∃ o, native.driverCtx = some o ∧ native.freed o = false := by
  obtain ⟨field, hfield⟩ := Option.ne_none_iff_exists'.mp hcurrent
  obtain ⟨o, hctx, hlive, -⟩ := ReceiveHandler.current_eq_some hfield
  exact ⟨o, hctx, hlive⟩

/-- The next statement of `open`. -/
theorem Serving.goesOn (h : Serving p) {memory : Option Nat}
    (hmemory : p.native.control = .malloc → memory ≠ none) :
    (ReceiveHandler.controlStep p.native memory).fault = none ∧
      Opening (ReceiveHandler.controlStep p.native memory) := by
  have hfault := h.fault
  have hopening := h.opening
  have hplace := h.agrees.place
  cases hcontrol : p.native.control with
  | idle =>
      simp only [ReceiveHandler.controlStep, hcontrol]
      exact ⟨hfault, hopening⟩
  | openStatus =>
      rw [Opening, hcontrol] at hopening
      simp only [ReceiveHandler.controlStep, hcontrol]
      refine ⟨hfault, ?_⟩
      split
      · exact hopening
      · trivial
  | openTest =>
      rw [hcontrol] at hplace
      simp only [ReceiveHandler.controlStep, hcontrol]
      refine ⟨hfault, ?_⟩
      split
      · trivial
      · -- `open` throws with the driver closed
        intro hopened
        cases hplace.1.symm.trans hopened
  | register =>
      simp only [ReceiveHandler.controlStep, hcontrol]
      exact ⟨hfault, rfl⟩
  | malloc =>
      obtain ⟨value, rfl⟩ := Option.ne_none_iff_exists'.mp (hmemory hcontrol)
      have hfresh := h.contexts.fresh p.native.allocated (Nat.le_refl _)
      rw [Opening, hcontrol] at hopening
      simp only [ReceiveHandler.controlStep, hcontrol]
      refine ⟨hfault, hopening, ?_⟩
      simp [ReceiveHandler.State.current, hfresh]
  | setRxCB =>
      rw [Opening, hcontrol] at hopening
      obtain ⟨hregistered, hcurrent⟩ := hopening
      obtain ⟨o, hctx, hlive⟩ := stores_current hcurrent
      simp only [ReceiveHandler.controlStep, hcontrol, ReceiveHandler.storeStep, hctx]
      refine ⟨hfault, hregistered, ?_⟩
      simp [ReceiveHandler.State.current, hlive]
  | setRxCBdata | setTxCB | setTxCBdata =>
      rw [Opening, hcontrol] at hopening
      have hcurrent : p.native.current ≠ none := by
        rw [hopening.2]
        exact Option.some_ne_none _
      obtain ⟨o, hctx, -⟩ := stores_current hcurrent
      simp only [ReceiveHandler.controlStep, hcontrol, ReceiveHandler.storeStep, hctx]
      refine ⟨hfault, ?_⟩
      show Hears _
      rw [Hears, ReceiveHandler.State.current, ← hctx]
      exact hopening
  | setOpened =>
      rw [Opening, hcontrol] at hopening
      simp only [ReceiveHandler.controlStep, hcontrol]
      exact ⟨hfault, fun _ => hopening⟩
  | closeStatus | setClosing | closeTest | unregister | free | clear | setClosed =>
      rw [Opening, hcontrol] at hopening
      exact hopening.elim

/-- What the other threads see of `open` is that it has ended. -/
theorem Opening.seen {native : ReceiveHandler.State Unit} (h : Opening native)
    {a : Sessions.Action CECFrame} (hseen : PseudoDriver.seen native = some a) :
    a = .driverOpen true ∧ native.control = .setOpened := by
  unfold PseudoDriver.seen at hseen
  unfold Opening at h
  cases hcontrol : native.control <;> simp_all

/-- A step of the driver as the other threads see it. -/
theorem Serving.seen_steady (h : Serving p) {driver : Sessions.State CECFrame}
    (hstep : seenStep p.driver (seen p.native) = some driver) : driver.Steady := by
  cases hseen : seen p.native with
  | none =>
      rw [hseen] at hstep
      cases hstep
      exact h.steady
  | some a =>
      rw [hseen] at hstep
      obtain ⟨rfl, -⟩ := h.opening.seen hseen
      exact Sessions.step_steady (a := .driverOpen true) h.steady trivial hstep

/-- What a step of the handler leaves. -/
theorem Opening.frame {T : Type} {native native' : ReceiveHandler.State T} (h : Opening native)
    (hframe : native'.status = native.status ∧ native'.control = native.control ∧
      native'.registered = native.registered ∧ native'.current = native.current) :
    Opening native' := by
  obtain ⟨hstatus, hcontrol, hregistered, hcurrent⟩ := hframe
  unfold Opening Hears at *
  rw [hstatus, hcontrol, hregistered, hcurrent]
  exact h

/-- A step of the handler, without a fault. -/
theorem Serving.handles (h : Serving p) (hok : ReceiveHandler.Orderly p.native (.handler ()))
    {native : ReceiveHandler.State Unit}
    (hstep : ReceiveHandler.handlerStep p.native () = some native) :
    native.fault = none ∧ ReceiveHandler.Contexts native ∧ ReceiveHandler.Inv native ∧
      Opening native := by
  have hinv := ReceiveHandler.handlerStep_inv h.inv hok hstep
  refine ⟨?_, ReceiveHandler.handlerStep_contexts h.contexts hstep, hinv,
    h.opening.frame (ReceiveHandler.handlerStep_frame hstep)⟩
  rw [ReceiveHandler.handlerStep_fault hstep hinv.noFault]
  exact h.fault

theorem step_serving (h : Serving p) (hok : Lossless p a) (hstep : step p a = some p') :
    Serving p' := by
  have hagrees := step_agrees h.agrees hstep
  cases step_moves hstep with
  | begins a control hcalls hfree hidle =>
      rcases hcalls with ⟨rfl, rfl⟩ | ⟨rfl, -⟩
      · have hopening := h.opening
        rw [Opening, hidle] at hopening
        exact ⟨h.fault, hagrees, h.contexts.begins hidle (.inl rfl),
          h.inv.quiet rfl rfl rfl rfl (.inl rfl), hopening, h.steady⟩
      · exact hok.elim
  | offersSentinel memory driver hholds hdriver =>
      rw [h.steady.free] at hholds
      cases hholds
  | goesOn memory driver hbehind hcalling hdriver =>
      obtain ⟨hfault, hopening⟩ := h.goesOn hok
      have horderly : ReceiveHandler.Orderly p.native (.control memory) := by
        intro hfree
        have hnot := h.opening
        rw [Opening, hfree] at hnot
        exact hnot.elim
      exact ⟨hfault, hagrees, ReceiveHandler.controlStep_contexts h.contexts memory,
        ReceiveHandler.controlStep_inv h.contexts h.inv horderly, hopening, h.seen_steady hdriver⟩
  | threads a driver hthread henters hdriver =>
      exact ⟨h.fault, hagrees, h.contexts, h.inv, h.opening,
        Sessions.step_steady h.steady hok hdriver⟩
  | delivers event hplace hregistered =>
      have hgoes : ReceiveHandler.handlerStep p.native () = some (p.native.goes () .loadTest) := by
        simp only [ReceiveHandler.handlerStep, hplace, hregistered, if_true]
      obtain ⟨hfault, hcontexts, hinv, hopening⟩ := h.handles (fun _ => hok) hgoes
      exact ⟨hfault, hagrees, hcontexts, hinv, hopening, h.steady⟩
  | drops => exact h
  | handles native hbusy hplace hnative =>
      obtain ⟨hfault, hcontexts, hinv, hopening⟩ :=
        h.handles (fun hout => absurd hout hbusy) hnative
      exact ⟨hfault, hagrees, hcontexts, hinv, hopening, h.steady⟩
  | receives event frame driver hplace hhands hrebuilds hdriver =>
      have hgoes : ReceiveHandler.handlerStep p.native () = some (p.native.goes () .out) := by
        simp only [ReceiveHandler.handlerStep, hplace, if_true]
      obtain ⟨hfault, hcontexts, hinv, hopening⟩ :=
        h.handles (fun hout => by rw [hplace] at hout; cases hout) hgoes
      exact ⟨hfault, hagrees, hcontexts, hinv, hopening,
        Sessions.step_steady (a := .receive frame) h.steady trivial hdriver⟩
  | escapes event reason hhands hrebuilds =>
      exact ⟨h.fault, hagrees, h.contexts, h.inv, h.opening, h.steady⟩

/-- Once `open` has returned, the driver stays open. -/
theorem step_opened (h : Serving p) (hok : Lossless p a) (hopened : p.driver.status = .opened)
    (hstep : step p a = some p') : p'.driver.status = .opened := by
  cases step_moves hstep with
  | goesOn memory driver hbehind hcalling hdriver =>
      cases hseen : seen p.native with
      | none =>
          rw [hseen] at hdriver
          cases hdriver
          exact hopened
      | some a =>
          rw [hseen] at hdriver
          obtain ⟨rfl, -⟩ := h.opening.seen hseen
          exact Sessions.step_opened (a := .driverOpen true) h.steady trivial hopened hdriver
  | offersSentinel memory driver hholds hdriver =>
      rw [h.steady.free] at hholds
      cases hholds
  | threads a driver hthread henters hdriver =>
      exact Sessions.step_opened h.steady hok hopened hdriver
  | receives event frame driver hplace hhands hrebuilds hdriver =>
      exact Sessions.step_opened (a := .receive frame) h.steady trivial hopened hdriver
  | begins | delivers | drops | handles | escapes => exact hopened

/-- While the driver is open, its handler has a callback to call. -/
theorem Serving.hears (h : Serving p) (hopened : p.driver.status = .opened) : Hears p.native := by
  have hopening := h.opening
  have hplace := h.agrees.place
  rw [← h.agrees.status, hopened] at hplace
  unfold Opening at hopening
  split at hopening
  · exact hopening (h.agrees.status ▸ hopened)
  · exact hopening (h.agrees.status ▸ hopened)
  all_goals grind [Place]

end Serving

/-! ## The frames on their way -/

/-- The frames of receipts, as bytes. -/
def carried (receipts : List (Sessions.Receipt CECFrame)) : List (List UInt8) :=
  receipts.map fun receipt => receipt.frame.bytes

@[simp] theorem carried_append (receipts more : List (Sessions.Receipt CECFrame)) :
    carried (receipts ++ more) = carried receipts ++ carried more := List.map_append

/-- What is on its way, in the driver and in the hands of the handler. -/
def State.onWay (p : State) : List (List UInt8) :=
  carried p.driver.onWay ++ p.event.toList.map eventBytes

/-- What `read` returns in this step. -/
def State.returning (p : State) : Action → Option (Sessions.Receipt CECFrame)
  | .thread a => p.driver.returning a
  | _ => none

section OnWay

variable {p p' : State} {a : Action}

/-- An event that is delivered comes behind the others, or nothing becomes of it. -/
theorem deliver_onWay {event : CECMgr.EventData} (h : Sound p)
    (hstep : step p (.deliver event) = some p') :
    p.native.registered = true ∧ p'.onWay = p.onWay ++ [eventBytes event] ∨
      p.native.registered = false ∧ p' = p := by
  cases step_moves hstep with
  | begins _ control hcalls => rcases hcalls with ⟨hnot, -⟩ | ⟨hnot, -⟩ <;> cases hnot
  | delivers _ hplace hregistered =>
      refine .inl ⟨hregistered, ?_⟩
      simp [State.onWay, h.busy.mpr hplace]
  | drops _ hplace hunregistered => exact .inr ⟨hunregistered, rfl⟩

/-- A step of the driver in which no callback begins and `read` does not return. -/
theorem seen_onWay {driver driver' : Sessions.State CECFrame} {a : Sessions.Action CECFrame}
    (hone : driver.callbacks.length ≤ 1) (hreturning : driver.returning a = none)
    (hreceiving : driver.receiving a = none) (hstep : Sessions.step driver a = some driver') :
    driver'.onWay.Sublist driver.onWay ∧
      (driver.Steady → Sessions.Lossless driver a → driver'.onWay = driver.onWay) := by
  obtain ⟨rest, kept, hfront, hafter, hkept, hall⟩ := Sessions.step_onWay hone hstep
  rw [hreturning] at hfront
  rw [hreceiving] at hafter
  simp only [Option.toList_none, List.nil_append, List.append_nil] at hfront hafter
  rw [hfront, hafter]
  exact ⟨hkept, hall⟩

/-- How far a handler is from the end of `DriverReceiveCallback`. -/
def handlerRank : Handler → Nat
  | .loadTest => 17
  | .test _ => 16
  | .loadCall => 15
  | .readRxCB _ => 14
  | .loadData _ => 13
  | .readRxCBdata _ _ => 12
  | .call _ => 11
  | .out => 0

/-- A thread reads a field of the context of the session. -/
theorem reads_current {native : ReceiveHandler.State Unit} {loaded : Option ReceiveHandler.Context}
    {place : ReceiveHandler.Context → Handler} {next : Handler} (hloaded : loaded = native.driverCtx)
    (hset : native.current = some .set) (hnext : ∀ o, native.rxCB o = .set → place o = next) :
    native.reads () loaded place = native.goes () next := by
  obtain ⟨o, hctx, hlive, hrxCB⟩ := ReceiveHandler.current_eq_some hset
  simp only [ReceiveHandler.State.reads, hloaded, hctx, hlive, Bool.false_eq_true, if_false,
    hnext o hrxCB]

/-- While there is a callback in the context, the handler comes to call it. -/
theorem handler_goes_on {native : ReceiveHandler.State Unit} (hinv : ReceiveHandler.Inv native)
    (hset : native.current = some .set) (hbusy : native.handler () ≠ .out)
    (hplace : native.handler () ≠ .call .set) :
    ∃ place, ReceiveHandler.handlerStep native () = some (native.goes () place) ∧
      place ≠ .out ∧ handlerRank place < handlerRank (native.handler ()) := by
  have hfits := hinv.fits ()
  cases hhandler : native.handler () with
  | out => exact absurd hhandler hbusy
  | loadTest =>
      refine ⟨.test native.driverCtx, ?_, by simp, by simp [handlerRank]⟩
      simp only [ReceiveHandler.handlerStep, hhandler]
  | loadCall =>
      refine ⟨.readRxCB native.driverCtx, ?_, by simp, by simp [handlerRank]⟩
      simp only [ReceiveHandler.handlerStep, hhandler]
  | loadData rxCB =>
      refine ⟨.readRxCBdata rxCB native.driverCtx, ?_, by simp, by simp [handlerRank]⟩
      simp only [ReceiveHandler.handlerStep, hhandler]
  | test loaded =>
      rw [hhandler] at hfits
      have hread : native.reads () loaded
          (fun o => if (native.rxCB o).nonNull then .loadCall else .out) =
            native.goes () .loadCall :=
        reads_current hfits.1 hset fun o hrxCB => by rw [hrxCB]; rfl
      refine ⟨.loadCall, ?_, by simp, by simp [handlerRank]⟩
      simp only [ReceiveHandler.handlerStep, hhandler, hread]
  | readRxCB loaded =>
      rw [hhandler] at hfits
      have hread : native.reads () loaded (fun o => .loadData (native.rxCB o)) =
          native.goes () (.loadData .set) :=
        reads_current hfits.1 hset fun o hrxCB => by rw [hrxCB]
      refine ⟨.loadData .set, ?_, by simp, by simp [handlerRank]⟩
      simp only [ReceiveHandler.handlerStep, hhandler, hread]
  | readRxCBdata rxCB loaded =>
      rw [hhandler] at hfits
      have hread : native.reads () loaded (fun _ => .call rxCB) = native.goes () (.call rxCB) :=
        reads_current hfits.1 hset fun _ _ => rfl
      refine ⟨.call rxCB, ?_, by simp, by simp [handlerRank]⟩
      simp only [ReceiveHandler.handlerStep, hhandler, hread]
  | call rxCB =>
      rw [hhandler] at hfits hplace
      have hrxCB : rxCB = .set := hfits
      exact absurd (by rw [hrxCB]) hplace

/-- In the driver the frame of the callback takes the place of the event. -/
theorem receives_onWay (h : Sound p) {event : CECMgr.EventData} {frame : CECFrame}
    {driver : Sessions.State CECFrame} (hhands : p.event = some event)
    (hrebuilds : Daemon.rebuild event.length event.data = .ok frame)
    (hdriver : Sessions.step p.driver (.receive frame) = some driver) :
    carried driver.onWay = p.onWay := by
  have hcallbacks := h.alone (by rw [hhands]; exact Option.some_ne_none _)
  have hbytes : frame.bytes = eventBytes event := by
    obtain ⟨frame', hrebuild, hbytes⟩ := rebuild_eventBytes (h.fits event hhands)
    cases hrebuild.symm.trans hrebuilds
    exact hbytes
  cases hdriver
  rw [State.onWay, hhands]
  simp [Sessions.State.onWay, Sessions.inCallbacks, carried, hcallbacks, hbytes]

/-- The rest of what is on its way goes on in its order, without a `close` all of it. -/
theorem step_onWay (h : Sound p) (hother : ∀ event, a ≠ .deliver event)
    (hstep : step p a = some p') :
    ∃ rest, p.onWay = carried (p.returning a).toList ++ rest ∧ p'.onWay.Sublist rest ∧
      (Serving p → Lossless p a → p.driver.status = .opened → p'.onWay = rest) := by
  cases step_moves hstep with
  | begins a control hcalls =>
      refine ⟨p.onWay, ?_, List.Sublist.refl _, fun _ _ _ => rfl⟩
      rcases hcalls with ⟨rfl, -⟩ | ⟨rfl, -⟩ <;> rfl
  | offersSentinel memory driver hholds hdriver =>
      obtain ⟨hsublist, -⟩ := seen_onWay h.inOrder.one rfl rfl hdriver
      refine ⟨p.onWay, rfl, (hsublist.map _).append_right _, ?_⟩
      intro hserving
      rw [hserving.steady.free] at hholds
      cases hholds
  | goesOn memory driver hbehind hcalling hdriver =>
      cases hseen : seen p.native with
      | none =>
          rw [hseen] at hdriver
          cases hdriver
          exact ⟨p.onWay, rfl, List.Sublist.refl _, fun _ _ _ => rfl⟩
      | some a =>
          rw [hseen] at hdriver
          obtain ⟨hsublist, hall⟩ :=
            seen_onWay h.inOrder.one (returning_of_seen hseen) (receiving_of_seen hseen) hdriver
          refine ⟨p.onWay, rfl, (hsublist.map _).append_right _, ?_⟩
          intro hserving _ _
          obtain ⟨rfl, -⟩ := hserving.opening.seen hseen
          show carried driver.onWay ++ _ = _
          rw [hall hserving.steady trivial]
          rfl
  | threads a driver hthread henters hdriver =>
      obtain ⟨rest, kept, hfront, hafter, hkept, hall⟩ :=
        Sessions.step_onWay h.inOrder.one hdriver
      rw [receiving_of_thread hthread] at hafter
      simp only [Option.toList_none, List.append_nil] at hafter
      refine ⟨carried rest ++ p.event.toList.map eventBytes, ?_, ?_, ?_⟩
      · simp [State.onWay, State.returning, hfront]
      · simp only [State.onWay, hafter]
        exact (hkept.map _).append_right _
      · intro hserving hok _
        simp only [State.onWay, hafter]
        rw [hall hserving.steady hok]
  | delivers event => exact absurd rfl (hother event)
  | drops event => exact absurd rfl (hother event)
  | handles native hbusy hplace hnative =>
      refine ⟨p.onWay, rfl, ?_, ?_⟩
      · -- the handler keeps its event, or turns it away
        show (carried p.driver.onWay ++ _).Sublist _
        simp only [State.handles]
        split
        · simp [State.onWay]
        · exact List.Sublist.refl _
      · intro hserving _ hopened
        obtain ⟨-, hset⟩ := hserving.hears hopened
        obtain ⟨place, hgoes, hout, -⟩ := handler_goes_on hserving.inv hset hbusy hplace
        cases hgoes.symm.trans hnative
        simp [State.onWay, State.handles, hout]
  | receives event frame driver hplace hhands hrebuilds hdriver =>
      have hway := receives_onWay h hhands hrebuilds hdriver
      refine ⟨p.onWay, rfl, ?_, fun _ _ _ => ?_⟩
      · show (carried driver.onWay ++ []).Sublist p.onWay
        rw [List.append_nil, hway]
      · show carried driver.onWay ++ [] = p.onWay
        rw [List.append_nil, hway]
  | escapes event reason hhands hrebuilds =>
      exact ⟨p.onWay, rfl, List.Sublist.refl _, fun _ _ _ => rfl⟩

end OnWay

/-! ## The threads alone -/

/-- The steps of the reading thread, of the callbacks and of the handler, and a call of `open`
that has begun. -/
def ByThreads (p : State) : Action → Prop
  | .thread a => Sessions.Delivering p.driver a
  | .handler => True
  | .control memory => Lossless p (.control memory)
  | .driverOpen | .driverClose | .deliver _ => False

instance (p : State) (a : Action) : Decidable (ByThreads p a) :=
  match a with
  | .thread _ => inferInstanceAs (Decidable (Sessions.Delivering _ _))
  | .handler => inferInstanceAs (Decidable True)
  | .control memory => inferInstanceAs (Decidable (Lossless p (.control memory)))
  | .driverOpen | .driverClose | .deliver _ => inferInstanceAs (Decidable False)

/-- How far the frames are from the return of `read`, with a step for a call under way. -/
def State.rank (p : State) : Nat :=
  p.driver.rank + handlerRank (p.native.handler ()) + if p.native.control = .idle then 0 else 1

section Threads

variable {p p' : State} {a : Action}

/-- How far they are at most. -/
theorem rank_le (h : Sound p) : p.rank ≤ 8 * p.driver.rQueue.items.length + 35 := by
  have hdriver := Sessions.rank_le h.inOrder.one
  have hhandler : handlerRank (p.native.handler ()) ≤ 17 := by
    cases p.native.handler () <;> simp [handlerRank]
  rw [State.rank]
  split <;> omega

theorem ByThreads.lossless (h : ByThreads p a) : Lossless p a := by
  cases a with
  | thread a => exact Sessions.Delivering.lossless h
  | handler => trivial
  | control memory => exact h
  | _ => exact h.elim

theorem ByThreads.sequential (h : ByThreads p a) : Sequential p a := by
  cases a with
  | deliver event => exact h.elim
  | _ => trivial

/-- The reading thread does not crash without a `close`. -/
theorem step_awake (h : Serving p) (hawake : p.driver.Awake) (hstep : step p a = some p') :
    p'.driver.Awake := by
  rcases step_driver hstep with hsame | ⟨a', hdriver⟩
  · rw [hsame]
    exact hawake
  · exact Sessions.step_awake hawake h.steady hdriver

theorem ofThread_of_delivering {s : Sessions.State CECFrame} {a : Sessions.Action CECFrame}
    (h : Sessions.Delivering s a) : ofThread a = true := by
  cases a with
  | read | reader | test | deliver => rfl
  | _ => exact h.elim

/-- Of an open driver, `open` can only be called once more. -/
theorem Serving.control_opened (h : Serving p) (hopened : p.driver.status = .opened) :
    p.native.control = .idle ∨ p.native.control = .openStatus := by
  have hopening := h.opening
  have hplace := h.agrees.place
  rw [← h.agrees.status, hopened] at hplace
  cases hcontrol : p.native.control with
  | idle => exact .inl rfl
  | openStatus => exact .inr rfl
  | openTest | register | malloc | setRxCB | setRxCBdata | setTxCB | setTxCBdata | setOpened =>
      rw [hcontrol] at hplace
      cases hplace.1
  | closeStatus | setClosing | closeTest | unregister | free | clear | setClosed =>
      rw [Opening, hcontrol] at hopening
      exact hopening.elim

/-- The call returns, as the driver is open. -/
theorem Serving.open_goes_on (h : Serving p) (hup : p.up = true)
    (hopened : p.driver.status = .opened) (hcontrol : p.native.control = .openStatus) :
    ∃ p', step p (.control none) = some p' ∧ p'.rank < p.rank := by
  have halive : p.Alive := ⟨hup, h.fault⟩
  have hstatus : p.native.status = .opened := h.agrees.status ▸ hopened
  refine ⟨{ p with native := { p.native with control := .idle } }, ?_, ?_⟩
  · simp [step, halive, controlStep, h.steady.free, ReceiveHandler.step, h.fault, hcontrol,
      ReceiveHandler.controlStep, hstatus, seen, seenStep]
  · simp [State.rank, hcontrol]

/-- A frame in the driver goes on between two calls. -/
theorem Serving.driver_goes_on (h : Serving p) (hup : p.up = true) (hawake : p.driver.Awake)
    (hopened : p.driver.status = .opened) (hidle : p.native.control = .idle)
    (hway : p.driver.onWay ≠ []) :
    ∃ a p', ByThreads p a ∧ step p a = some p' ∧ p'.rank < p.rank := by
  have halive : p.Alive := ⟨hup, h.fault⟩
  obtain ⟨a, driver, hdelivering, hdriver, hrank⟩ := hawake.goes_on h.steady hopened hway
  refine ⟨.thread a, { p with driver := driver }, hdelivering, ?_, ?_⟩
  · simp [step, halive, threadStep, ofThread_of_delivering hdelivering, hidle, hdriver]
  · simp only [State.rank]
    omega

/-- The handler goes on to the callback, and through it. -/
theorem Serving.handler_goes_on (h : Serving p) (hsound : Sound p)
    (hopened : p.driver.status = .opened) (hevent : p.event ≠ none) :
    ∃ p', step p .handler = some p' ∧ p'.rank < p.rank := by
  have halive : p.Alive := ⟨hsound.up, h.fault⟩
  have hbusy : p.native.handler () ≠ .out := fun hout => hevent (hsound.busy.mpr hout)
  by_cases hplace : p.native.handler () = .call .set
  · obtain ⟨event, hsome⟩ := Option.ne_none_iff_exists'.mp hevent
    obtain ⟨frame, hrebuild, -⟩ := rebuild_eventBytes (hsound.fits event hsome)
    have hcallbacks := hsound.alone hevent
    refine ⟨{ p with
      driver :=
        { p.driver with
          received := p.driver.received + 1
          callbacks := p.driver.callbacks ++ [⟨⟨p.driver.received, frame⟩, false⟩] }
      native := p.native.goes () .out
      event := none }, ?_, ?_⟩
    · simp [step, halive, handlerStep, hplace, callbackStep, hsome, ReceiveHandler.step, h.fault,
        ReceiveHandler.handlerStep, hrebuild, Sessions.step, State.handles]
    · have hdriverRank : Sessions.State.rank { p.driver with
          received := p.driver.received + 1
          callbacks := p.driver.callbacks ++ [⟨⟨p.driver.received, frame⟩, false⟩] } =
            p.driver.rank + 10 := by
        simp [Sessions.State.rank, hcallbacks, Sessions.callbacksRank, Sessions.Callback.rank]
        omega
      have hcontrol : (p.native.goes () .out).control = p.native.control := rfl
      simp only [State.rank, hdriverRank, hplace, handlerRank, ReceiveHandler.State.goes_handler,
        hcontrol]
      omega
  · obtain ⟨-, hset⟩ := h.hears hopened
    obtain ⟨place, hgoes, -, hrank⟩ := PseudoDriver.handler_goes_on h.inv hset hbusy hplace
    refine ⟨p.handles (p.native.goes () place), ?_, ?_⟩
    · simp [step, halive, handlerStep, ReceiveHandler.step, h.fault, hgoes]
    · have hcontrol : (p.native.goes () place).control = p.native.control := rfl
      simp only [State.rank, State.handles, ReceiveHandler.State.goes_handler, hcontrol]
      omega

/-- As long as something is on its way, the threads can take a step that brings it nearer to
the return of `read`. -/
theorem Serving.goes_on (h : Serving p) (hsound : Sound p) (hawake : p.driver.Awake)
    (hopened : p.driver.status = .opened) (hway : p.onWay ≠ []) :
    ∃ a p', ByThreads p a ∧ step p a = some p' ∧ p'.rank < p.rank := by
  rcases h.control_opened hopened with hidle | hcontrol
  · by_cases hdriver : p.driver.onWay = []
    · have hevent : p.event ≠ none := by
        intro hnone
        exact hway (by simp [State.onWay, hdriver, hnone, carried])
      obtain ⟨p', hstep, hrank⟩ := h.handler_goes_on hsound hopened hevent
      exact ⟨.handler, p', trivial, hstep, hrank⟩
    · exact h.driver_goes_on hsound.up hawake hopened hidle hdriver
  · obtain ⟨p', hstep, hrank⟩ := h.open_goes_on hsound.up hopened hcontrol
    refine ⟨.control none, p', ?_, hstep, hrank⟩
    intro hmalloc
    cases hcontrol.symm.trans hmalloc

end Threads

end PseudoDriver

end HdmiCec
