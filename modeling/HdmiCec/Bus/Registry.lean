import HdmiCec.Bus.Connection
import Mathlib.Logic.Function.Basic

/-!
# The lists of listeners

A received frame passes two lists: `Bus::listeners`, which holds the
`busFrameListener` of every connection that has been opened, and the
`frameListeners` of each connection.  The first is changed under the `rMutex` of
the bus and the second under the mutex of the connection.

`C` are the `Connection` objects and `L` the `FrameListener`s of the applications,
each by its address.  A function that changes the lists is a sequence of locked
blocks (`Block`), so that threads can be interleaved at the mutexes; `Registry.call`
executes it with nobody in between.
-/

namespace HdmiCec

/-- The flag `started` of the bus, its list, and the list of each connection. -/
structure Registry (C L : Type) where
  started : Bool
  listeners : List C
  frameListeners : C → List L

/-- The mutexes around the lists. -/
inductive ListMutex (C : Type) where
  | rMutex
  | connection (c : C)
  deriving DecidableEq

/-- The blocks `{AutoLock lock_(mutex); …}` of the functions below. -/
inductive Block (C L : Type) where
  /-- `Bus::addFrameListener(&c.busFrameListener)` -/
  | busAdd (c : C)
  /-- `Bus::removeFrameListener(&c.busFrameListener)` -/
  | busRemove (c : C)
  /-- `frameListeners.clear()` -/
  | clear (c : C)
  /-- `frameListeners.push_back(listener)` -/
  | pushBack (c : C) (listener : L)
  /-- `frameListeners.remove(listener)` -/
  | remove (c : C) (listener : L)
  /-- `started = value` in `Bus::start` and `Bus::stop` -/
  | setStarted (value : Bool)
  deriving DecidableEq

namespace Block

variable {C L : Type}

/-- The mutex that the block holds. -/
def mutex : Block C L → ListMutex C
  | .busAdd _ | .busRemove _ | .setStarted _ => .rMutex
  | .clear c | .pushBack c _ | .remove c _ => .connection c

variable [DecidableEq C] [DecidableEq L]

/-- What the block does with its mutex held.  `std::list::remove` removes every
occurrence. -/
def body (r : Registry C L) : Block C L → Result (Registry C L)
  | .busAdd c =>
      if r.started then
        return { r with listeners := r.listeners ++ [c] }
      else
        throwing .invalidStateException
  | .busRemove c =>
      if r.started then
        return { r with listeners := r.listeners.filter (· ≠ c) }
      else
        throwing .invalidStateException
  | .clear c => return { r with frameListeners := Function.update r.frameListeners c [] }
  | .pushBack c listener =>
      return { r with
        frameListeners :=
          Function.update r.frameListeners c (r.frameListeners c ++ [listener]) }
  | .remove c listener =>
      return { r with
        frameListeners :=
          Function.update r.frameListeners c
            ((r.frameListeners c).filter (· ≠ listener)) }
  | .setStarted value => return { r with started := value }

end Block

namespace Registry

variable {C L : Type}

/-- A bus that has just been constructed, or started: nobody listens. -/
def empty (started : Bool) : Registry C L where
  started := started
  listeners := []
  frameListeners _ := []

/-! ## The functions of `Connection` -/

/-- `Connection::open()`. -/
def connectionOpen (c : C) : List (Block C L) := [.busAdd c]

/-- `Connection::close()`. -/
def connectionClose (c : C) : List (Block C L) := [.clear c, .busRemove c]

/-- `Connection::addFrameListener(FrameListener *listener)`. -/
def addFrameListener (c : C) (listener : L) : List (Block C L) := [.pushBack c listener]

/-- `Connection::removeFrameListener(FrameListener *listener)`. -/
def removeFrameListener (c : C) (listener : L) : List (Block C L) := [.remove c listener]

/-- `Bus::start()` and `Bus::stop()`, as far as they concern the lists. -/
def busStarted (value : Bool) : List (Block C L) := [.setStarted value]

/-- The calls that change the lists. -/
inductive Call (C L : Type) where
  | connectionOpen (c : C)
  | connectionClose (c : C)
  | addFrameListener (c : C) (listener : L)
  | removeFrameListener (c : C) (listener : L)
  | busStarted (value : Bool)
  deriving DecidableEq

/-- The blocks of a call. -/
def Call.blocks : Call C L → List (Block C L)
  | .connectionOpen c => Registry.connectionOpen c
  | .connectionClose c => Registry.connectionClose c
  | .addFrameListener c listener => Registry.addFrameListener c listener
  | .removeFrameListener c listener => Registry.removeFrameListener c listener
  | .busStarted value => Registry.busStarted value

variable [DecidableEq C] [DecidableEq L]

/-- The blocks one after the other.  An exception ends the call, and what the blocks
before it have done stays. -/
def call (r : Registry C L) : List (Block C L) → Registry C L × Result Unit
  | [] => (r, .ok ())
  | block :: rest =>
      match block.body r with
      | .ok r' => r'.call rest
      | .error e => (r, .error e)

/-! ### What each call does -/

section Calls

variable {r : Registry C L}

theorem call_connectionOpen (hstarted : r.started = true) (c : C) :
    r.call (connectionOpen c) = ({ r with listeners := r.listeners ++ [c] }, .ok ()) := by
  simp [connectionOpen, call, Block.body, hstarted]

/-- On a stopped bus `open` throws, and nothing changes. -/
theorem call_connectionOpen_stopped (hstopped : r.started = false) (c : C) :
    r.call (connectionOpen c) = (r, throwing .invalidStateException) := by
  simp [connectionOpen, call, Block.body, hstopped, throwing]

theorem call_connectionClose (hstarted : r.started = true) (c : C) :
    r.call (connectionClose c) =
      ({ r with
          listeners := r.listeners.filter (· ≠ c)
          frameListeners := Function.update r.frameListeners c [] }, .ok ()) := by
  simp [connectionClose, call, Block.body, hstarted]

/-- On a stopped bus `close` throws with its own list cleared and the connection still
in the list of the bus. -/
theorem call_connectionClose_stopped (hstopped : r.started = false) (c : C) :
    r.call (connectionClose c) =
      ({ r with frameListeners := Function.update r.frameListeners c [] },
        throwing .invalidStateException) := by
  simp [connectionClose, call, Block.body, hstopped, throwing]

theorem call_addFrameListener (c : C) (listener : L) :
    r.call (addFrameListener c listener) =
      ({ r with
          frameListeners :=
            Function.update r.frameListeners c (r.frameListeners c ++ [listener]) },
        .ok ()) := rfl

theorem call_removeFrameListener (c : C) (listener : L) :
    r.call (removeFrameListener c listener) =
      ({ r with
          frameListeners :=
            Function.update r.frameListeners c
              ((r.frameListeners c).filter (· ≠ listener)) },
        .ok ()) := rfl

end Calls

/-! ### What a block changes -/

section Body

variable {r r' : Registry C L}

/-- A block leaves the lists alone whose mutexes it does not hold. -/
theorem body_frame {block : Block C L} (h : block.body r = .ok r') :
    (block.mutex ≠ .rMutex → r'.listeners = r.listeners) ∧
      ∀ c, block.mutex ≠ .connection c → r'.frameListeners c = r.frameListeners c := by
  cases block with
  | busAdd c | busRemove c =>
      simp only [Block.body] at h
      split at h <;> cases h
      exact ⟨fun hmutex => absurd rfl hmutex, fun _ _ => rfl⟩
  | setStarted value =>
      cases h
      exact ⟨fun _ => rfl, fun _ _ => rfl⟩
  | clear c | pushBack c listener | remove c listener =>
      cases h
      refine ⟨fun _ => rfl, fun c' hmutex => Function.update_of_ne ?_ _ _⟩
      rintro rfl
      exact hmutex rfl

/-- A listener comes into the list of a connection by `push_back` only. -/
theorem body_frameListeners {block : Block C L} (h : block.body r = .ok r') {c : C}
    {listener : L} (hmem : listener ∈ r'.frameListeners c) :
    listener ∈ r.frameListeners c ∨ block = .pushBack c listener := by
  cases block with
  | busAdd c' | busRemove c' =>
      simp only [Block.body] at h
      split at h <;> cases h
      exact .inl hmem
  | setStarted value =>
      cases h
      exact .inl hmem
  | clear c' | pushBack c' listener' | remove c' listener' =>
      cases h
      simp only [Function.update_apply] at hmem
      split at hmem
      · next hc => grind
      · exact .inl hmem

/-- Behind `clear`, and behind the `remove` of a listener, it is not in the list. -/
theorem not_mem_of_body {block : Block C L} (h : block.body r = .ok r') {c : C} {listener : L}
    (hblock : block = .clear c ∨ block = .remove c listener) :
    listener ∉ r'.frameListeners c := by
  obtain rfl | rfl := hblock
  · cases h
    simp
  · cases h
    simp

/-- Behind the `remove` of a connection it is not in the list of the bus. -/
theorem not_mem_of_busRemove {c : C} (h : (Block.busRemove c).body r = .ok r') :
    c ∉ r'.listeners := by
  simp only [Block.body] at h
  split at h <;> cases h
  simp

/-- A connection comes into the list of the bus by `push_back` only. -/
theorem mem_listeners_of_body {block : Block C L} (h : block.body r = .ok r') {c : C}
    (hmem : c ∈ r'.listeners) : c ∈ r.listeners ∨ block = .busAdd c := by
  cases block with
  | busAdd c' =>
      simp only [Block.body] at h
      split at h <;> cases h
      simpa [eq_comm] using hmem
  | busRemove c' =>
      simp only [Block.body] at h
      split at h <;> cases h
      exact .inl (List.mem_filter.mp hmem).1
  | clear | pushBack | remove | setStarted =>
      cases h
      exact .inl hmem

end Body

end Registry

end HdmiCec
