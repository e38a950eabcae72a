import HdmiCec.Bus.Registry
import HdmiCec.Library.Walk
import Mathlib.Data.List.Basic

/-!
# Who is notified of a received frame

The two loops of a dispatch, over `Bus::listeners` and over the `frameListeners` of
each connection, with a record of the notifications they make.  A connection is a
listener of the bus through its `DefaultFrameListener`, whose filter has three cases.

The file shows that the notifications are those of `fanOut`, in its order, unless a
listener throws: then they end with that listener.  What is in the two lists after any
history of calls is told by the history itself (`opened`, `added`).
-/

namespace HdmiCec

namespace Registry

variable {C L : Type}

/-! ## The dispatch -/

section Dispatch

-- `source` is the address that each connection was constructed with.  `outcome` is what
-- a listener does with the frame, behind the notifications made before; no listener
-- changes the lists.
variable (source : C → LogicalAddress)
  (outcome : List (C × L) → L → CECFrame → Result Unit) (frame : CECFrame)

/-- The loop of `DefaultFrameListener::notify`.  The notifications made so far are
passed along. -/
def notifyListeners (c : C) : List L → List (C × L) → List (C × L) × Result Unit
  | [], notified => (notified, .ok ())
  | listener :: left, notified =>
      match outcome notified listener frame with
      | .ok () => notifyListeners c left (notified ++ [(c, listener)])
      | .error e => (notified ++ [(c, listener)], .error e)

/-- `DefaultFrameListener::notify` of a connection. -/
def notifyConnection (r : Registry C L) (c : C) (notified : List (C × L)) :
    List (C × L) × Result Unit :=
  match (Connection.ofSource (source c)).isFiltered frame with
  | .error e => (notified, .error e)
  | .ok false => notifyListeners outcome frame c (r.frameListeners c) notified
  | .ok true => (notified, (Header.ofFrame frame 0).map fun _ => ())

/-- The loop of `Bus::Reader::run` over the listeners of the bus. -/
def notifyConnections (r : Registry C L) :
    List C → List (C × L) → List (C × L) × Result Unit
  | [], notified => (notified, .ok ())
  | c :: rest, notified =>
      match r.notifyConnection source outcome frame c notified with
      | (notified', .ok ()) => notifyConnections r rest notified'
      | (notified', .error e) => (notified', .error e)

/-- One turn of `Bus::Reader::run`, after `Driver::read` has returned the frame: the
notifications, and how the turn ends. -/
def dispatch (r : Registry C L) : List (C × L) × Result Unit :=
  let answer := r.notifyConnections source outcome frame r.listeners []
  (answer.1, catching (· == .invalidStateException) answer.2 fun _ => .ok ())

end Dispatch

/-! ## The notifications that are due -/

/-- Each listener of each connection that is to have the frame, in the order of the
two lists. -/
def fanOut (source : C → LogicalAddress) (frame : CECFrame) (listeners : List C)
    (frameListeners : C → List L) : List (C × L) :=
  listeners.flatMap fun c =>
    if Connection.Receives (source c) frame then (frameListeners c).map fun l => (c, l) else []

section Dispatch

variable {source : C → LogicalAddress} {outcome : List (C × L) → L → CECFrame → Result Unit}
  {frame : CECFrame}

/-- What the visit of an entry of the two nested loops does. -/
def visit (outcome : List (C × L) → L → CECFrame → Result Unit) (frame : CECFrame)
    (notified : List (C × L)) (entry : C × L) : Result Unit :=
  outcome notified entry.2 frame

theorem notifyListeners_eq (c : C) (left : List L) :
    ∀ notified, notifyListeners outcome frame c left notified =
      Walk.walk (visit outcome frame) (left.map fun l => (c, l)) notified := by
  induction left with
  | nil => intro notified; rfl
  | cons listener left ih =>
      intro notified
      have hvisit : visit outcome frame notified (c, listener) =
          outcome notified listener frame := rfl
      rw [List.map_cons, notifyListeners, Walk.walk, hvisit]
      cases outcome notified listener frame with
      | ok => exact ih _
      | error e => rfl

theorem notifyConnection_eq (r : Registry C L) (c : C) (h : 1 ≤ frame.length)
    (notified : List (C × L)) :
    r.notifyConnection source outcome frame c notified =
      Walk.walk (visit outcome frame)
        (if Connection.Receives (source c) frame then (r.frameListeners c).map fun l => (c, l) else [])
        notified := by
  rw [notifyConnection, Connection.isFiltered_eq _ h, Connection.ofSource]
  by_cases hreceives : Connection.Receives (source c) frame
  · simpa [hreceives] using notifyListeners_eq c (r.frameListeners c) notified
  · obtain ⟨header, hheader⟩ :=
      (Header.ofFrame_returns h : ∃ header, Header.ofFrame frame 0 = .ok header)
    simp [hreceives, hheader, Walk.walk, Except.map]

/-- The two loops are one loop over the notifications that are due. -/
theorem notifyConnections_eq (r : Registry C L) (h : 1 ≤ frame.length) (rest : List C) :
    ∀ notified, r.notifyConnections source outcome frame rest notified =
      Walk.walk (visit outcome frame) (fanOut source frame rest r.frameListeners) notified := by
  induction rest with
  | nil => intro notified; rfl
  | cons c rest ih =>
      intro notified
      rw [notifyConnections, notifyConnection_eq r c h, fanOut, List.flatMap_cons,
        Walk.walk_append]
      split
      · next notified' hwalk => rw [hwalk]; exact ih notified'
      · next notified' e hwalk => rw [hwalk]

/-- The notifications of a dispatch are those that are due, or a leading part of them
that ends with the first listener to throw. -/
theorem dispatch_cases (r : Registry C L) (h : 1 ≤ frame.length) :
    let due := fanOut source frame r.listeners r.frameListeners
    let notified := (r.dispatch source outcome frame).1
    (notified = due ∧ Walk.Returns (visit outcome frame) due []) ∨
      ∃ before entry after e, due = before ++ entry :: after ∧
        Walk.Returns (visit outcome frame) before [] ∧
        visit outcome frame before entry = .error e ∧ notified = before ++ [entry] := by
  simp only [dispatch, notifyConnections_eq r h]
  rcases Walk.walk_cases (visit outcome frame)
    (fanOut source frame r.listeners r.frameListeners) [] with
    ⟨hall, hreturns⟩ | ⟨before, entry, after, e, hdue, hreturns, hthrows, hends⟩
  · exact .inl ⟨by rw [hall]; rfl, hreturns⟩
  · exact .inr ⟨before, entry, after, e, hdue, hreturns, hthrows, by rw [hends]; rfl⟩

/-! ### Listeners that answer by the frame alone -/

variable {respond : L → CECFrame → Result Unit}

theorem notifyListeners_result (c : C) (left : List L) :
    ∀ notified, (notifyListeners (fun _ => respond) frame c left notified).2 =
      Bus.notifyAll (left.map respond) frame := by
  induction left with
  | nil => intro notified; rfl
  | cons listener left ih =>
      intro notified
      rw [notifyListeners, List.map_cons, Bus.notifyAll]
      cases respond listener frame with
      | ok => exact ih _
      | error e => rfl

theorem notifyConnection_result (r : Registry C L) (c : C) (notified : List (C × L)) :
    (r.notifyConnection source (fun _ => respond) frame c notified).2 =
      (Connection.ofSource (source c)).notify ((r.frameListeners c).map respond) frame := by
  rw [notifyConnection, Connection.notify]
  cases (Connection.ofSource (source c)).isFiltered frame with
  | error e => rfl
  | ok filtered =>
      cases filtered with
      | false => exact notifyListeners_result c (r.frameListeners c) notified
      | true => cases Header.ofFrame frame 0 <;> rfl

theorem notifyConnections_result (r : Registry C L) (rest : List C) :
    ∀ notified, (r.notifyConnections source (fun _ => respond) frame rest notified).2 =
      Bus.notifyAll (rest.map fun c =>
        (Connection.ofSource (source c)).notify ((r.frameListeners c).map respond)) frame := by
  induction rest with
  | nil => intro notified; rfl
  | cons c rest ih =>
      intro notified
      have hfirst := @notifyConnection_result C L source frame respond r c notified
      rw [notifyConnections, List.map_cons, Bus.notifyAll, ← hfirst]
      split
      · next notified' hnotify => rw [hnotify]; exact ih notified'
      · next notified' e hnotify => rw [hnotify]; rfl

/-- Without its record the dispatch is the body of the reader's loop over the
connections of the bus. -/
theorem dispatch_readerTurn (r : Registry C L) :
    (r.dispatch source (fun _ => respond) frame).2 =
      Bus.readerTurn (r.listeners.map fun c =>
        (Connection.ofSource (source c)).notify ((r.frameListeners c).map respond)) frame := by
  rw [dispatch, Bus.readerTurn, notifyConnections_result]

end Dispatch

/-! ## The lists after a history of calls -/

section History

variable [DecidableEq C] [DecidableEq L]

/-- The registry after the calls, each with nobody in between. -/
def after (r : Registry C L) (calls : List (Call C L)) : Registry C L :=
  calls.foldl (fun r call => (r.call call.blocks).1) r

/-- The opens that no `close` of the same connection follows, in their order. -/
def opened : List (Call C L) → List C
  | [] => []
  | .connectionOpen c :: later =>
      if .connectionClose c ∈ later then opened later else c :: opened later
  | _ :: later => opened later

/-- The listeners added to the connection that are not removed later, by their own
`removeFrameListener` or by a `close` of the connection, in their order. -/
def added (c : C) : List (Call C L) → List L
  | [] => []
  | .addFrameListener c' listener :: later =>
      if c' = c ∧ .removeFrameListener c listener ∉ later ∧ .connectionClose c ∉ later then
        listener :: added c later
      else
        added c later
  | _ :: later => added c later

/-- What a call on a started bus makes of the list of the bus. -/
def Call.onListeners (listeners : List C) : Call C L → List C
  | .connectionOpen c => listeners ++ [c]
  | .connectionClose c => listeners.filter (· ≠ c)
  | _ => listeners

/-- What a call on a started bus makes of the list of the connection. -/
def Call.onFrameListeners (c : C) (frameListeners : List L) : Call C L → List L
  | .connectionClose c' => if c' = c then [] else frameListeners
  | .addFrameListener c' listener =>
      if c' = c then frameListeners ++ [listener] else frameListeners
  | .removeFrameListener c' listener =>
      if c' = c then frameListeners.filter (· ≠ listener) else frameListeners
  | _ => frameListeners

/-- On a started bus no call throws, and the bus stays started. -/
theorem call_started {r : Registry C L} (hstarted : r.started = true) {call : Call C L}
    (hcall : ∀ value, call ≠ .busStarted value) :
    (r.call call.blocks).1.started = true ∧
      (r.call call.blocks).1.listeners = call.onListeners r.listeners ∧
      ∀ c, (r.call call.blocks).1.frameListeners c =
        call.onFrameListeners c (r.frameListeners c) := by
  cases call with
  | busStarted value => exact absurd rfl (hcall value)
  | connectionOpen c =>
      rw [Call.blocks, call_connectionOpen hstarted]
      exact ⟨hstarted, rfl, fun _ => rfl⟩
  | connectionClose c =>
      rw [Call.blocks, call_connectionClose hstarted]
      exact ⟨hstarted, rfl, fun c' => by grind [Call.onFrameListeners]⟩
  | addFrameListener c listener =>
      rw [Call.blocks, call_addFrameListener]
      exact ⟨hstarted, rfl, fun c' => by grind [Call.onFrameListeners]⟩
  | removeFrameListener c listener =>
      rw [Call.blocks, call_removeFrameListener]
      exact ⟨hstarted, rfl, fun c' => by grind [Call.onFrameListeners]⟩

/-- What is in the list of the bus was there before and has not been closed, or has been
opened. -/
theorem after_listeners (calls : List (Call C L)) :
    ∀ r : Registry C L, r.started = true → (∀ value, .busStarted value ∉ calls) →
      (r.after calls).listeners =
        r.listeners.filter (fun c => .connectionClose c ∉ calls) ++ opened calls := by
  induction calls with
  | nil => intro r _ _; simp [after, opened]
  | cons call later ih =>
      intro r hstarted hcalls
      have hcall : ∀ value, call ≠ .busStarted value := by
        rintro value rfl
        exact hcalls value (List.mem_cons_self ..)
      rcases call_started hstarted hcall with ⟨hstarted', hlisteners, -⟩
      have hlater := ih _ hstarted' fun value hmem => hcalls value (List.mem_cons_of_mem _ hmem)
      rw [after, List.foldl_cons, ← after, hlater, hlisteners]
      cases call with
      | busStarted value => exact absurd rfl (hcall value)
      | connectionOpen c =>
          by_cases hclosed : .connectionClose c ∈ later <;>
            simp [Call.onListeners, opened, hclosed]
      | connectionClose c =>
          simp [Call.onListeners, opened, List.filter_filter, Bool.and_comm]
      | addFrameListener c listener => simp [Call.onListeners, opened]
      | removeFrameListener c listener => simp [Call.onListeners, opened]

/-- What is in the list of a connection was there before and has not been removed, or
has been added. -/
theorem after_frameListeners (c : C) (calls : List (Call C L)) :
    ∀ r : Registry C L, r.started = true → (∀ value, .busStarted value ∉ calls) →
      (r.after calls).frameListeners c =
        (r.frameListeners c).filter (fun listener =>
          .removeFrameListener c listener ∉ calls ∧ .connectionClose c ∉ calls) ++
        added c calls := by
  induction calls with
  | nil => intro r _ _; simp [after, added]
  | cons call later ih =>
      intro r hstarted hcalls
      have hcall : ∀ value, call ≠ .busStarted value := by
        rintro value rfl
        exact hcalls value (List.mem_cons_self ..)
      rcases call_started hstarted hcall with ⟨hstarted', -, hframeListeners⟩
      have hlater := ih _ hstarted' fun value hmem => hcalls value (List.mem_cons_of_mem _ hmem)
      rw [after, List.foldl_cons, ← after, hlater, hframeListeners]
      cases call with
      | busStarted value => exact absurd rfl (hcall value)
      | connectionOpen c' => simp [Call.onFrameListeners, added]
      | connectionClose c' =>
          by_cases hc : c' = c
          · simp [Call.onFrameListeners, added, hc]
          · simp [Call.onFrameListeners, added, hc, Ne.symm hc]
      | addFrameListener c' listener =>
          by_cases hc : c' = c
          · by_cases hgone : .removeFrameListener c listener ∉ later ∧ .connectionClose c ∉ later
            · simp [Call.onFrameListeners, added, hc, hgone]
            · simp [Call.onFrameListeners, added, hc, hgone]
          · simp [Call.onFrameListeners, added, hc]
      | removeFrameListener c' listener =>
          by_cases hc : c' = c
          · simp [Call.onFrameListeners, added, hc, List.filter_filter, Bool.and_comm,
              Bool.and_left_comm]
          · simp [Call.onFrameListeners, added, hc, Ne.symm hc]

variable {source : C → LogicalAddress} {outcome : List (C × L) → L → CECFrame → Result Unit}
  {frame : CECFrame}

/-- Behind any history of calls on a started bus, a dispatch notifies exactly the
listeners added and not removed of the connections opened and not closed that are to
have the frame, once for each registration and in the order of the registrations, as
long as none of them throws.  If one throws, the notifications end with it. -/
theorem notified_exactly (calls : List (Call C L)) (hcalls : ∀ value, .busStarted value ∉ calls)
    (hframe : 1 ≤ frame.length) :
    let due := fanOut source frame (opened calls) fun c => added c calls
    let notified := (((empty true).after calls).dispatch source outcome frame).1
    (notified = due ∧ Walk.Returns (visit outcome frame) due []) ∨
      ∃ before entry after e, due = before ++ entry :: after ∧
        Walk.Returns (visit outcome frame) before [] ∧
        visit outcome frame before entry = .error e ∧ notified = before ++ [entry] := by
  have hlisteners : ((empty true : Registry C L).after calls).listeners = opened calls := by
    rw [after_listeners calls _ rfl hcalls]
    rfl
  have hframeListeners : ((empty true : Registry C L).after calls).frameListeners =
      fun c => added c calls := by
    funext c
    rw [after_frameListeners c calls _ rfl hcalls]
    rfl
  have hcases := @dispatch_cases C L source outcome frame ((empty true).after calls) hframe
  rw [hlisteners, hframeListeners] at hcases
  exact hcases

end History

/-- Two opened connections, with two listeners and one, and a listener that has left. -/
def twoConnections : List (Call Bool Bool) :=
  [.connectionOpen false, .addFrameListener false false, .connectionOpen true,
    .addFrameListener true false, .addFrameListener false true, .addFrameListener true true,
    .removeFrameListener true true]

/-- A frame to everyone reaches the listeners in the order of the two lists. -/
theorem notified_exactly_broadcast :
    (((empty true).after twoConnections).dispatch (fun _ => CECBytes.ofByte 4)
      (fun _ _ _ => .ok ()) (CECFrame.ofBytes [0x0F, 0x36] (by decide))).1 =
        [(false, false), (false, true), (true, false)] := by
  rcases @notified_exactly Bool Bool _ _ (fun _ => CECBytes.ofByte 4)
      (fun _ _ _ => .ok ()) (CECFrame.ofBytes [0x0F, 0x36] (by decide))
      twoConnections (by decide) (by decide) with
    ⟨hall, -⟩ | ⟨before, entry, after, e, -, -, hthrows, -⟩
  · rw [hall]
    decide
  · cases hthrows

/-- A listener that throws keeps the frame from those behind it, also if the reader
stops the exception. -/
theorem not_notified_exactly :
    ¬ ∀ (calls : List (Call Bool Bool)) (source : Bool → LogicalAddress)
        (outcome : List (Bool × Bool) → Bool → CECFrame → Result Unit) (frame : CECFrame),
      (∀ value, .busStarted value ∉ calls) → 1 ≤ frame.length →
        (((empty true).after calls).dispatch source outcome frame).1 =
          fanOut source frame (opened calls) fun c => added c calls := by
  intro hall
  have hthrows := hall twoConnections (fun _ => CECBytes.ofByte 4)
    (fun _ _ _ => throwing .invalidStateException)
    (CECFrame.ofBytes [0x0F, 0x36] (by decide)) (by decide) (by decide)
  revert hthrows
  decide

end Registry

end HdmiCec
