import HdmiCec.Library.LockOrder
import Mathlib.Data.Nat.Basic

/-!
# The mutexes of the library

Every function that takes a mutex is written out here as the scopes that it opens, the calls
that it makes inside them and the places where it may throw.  The tests that it makes on data
are left open, so whatever holds of these programs holds for all contents of the queues, all
states of the bus and the driver, and all answers of the native driver.

Reader and writer threads are threads that run `Reader.run` and `Writer.run`; the application's
listeners, which the reader calls in the scopes of `rMutex` and of a connection's mutex, send
through connections.
-/

namespace HdmiCec

namespace Mutexes

open LockOrder

/-- The two event queues: the driver's for incoming frames, the bus' for outgoing ones. -/
inductive Queue where
  | rQueue
  | wQueue
deriving DecidableEq, Repr

/-- The mutexes, those of the connections and of the queues each for its owner. -/
inductive Mutex where
  | libCCEC
  | rMutex
  | wMutex
  | connection (c : Nat)
  | driver
  | queue (q : Queue)
  | condition (q : Queue)
deriving DecidableEq, Repr

/-- The order in which the library takes its mutexes. -/
def rank : Mutex → Nat
  | .libCCEC => 0
  | .rMutex => 1
  | .connection _ => 2
  | .wMutex => 3
  | .driver => 4
  | .queue _ => 5
  | .condition _ => 6

abbrev Code := Prog Mutex

/-! ## Event queues -/

namespace ConditionVariable

def set (q : Queue) : Code := .lock (.condition q) .skip

def reset (q : Queue) : Code := .lock (.condition q) .skip

def isSet (q : Queue) : Code := .lock (.condition q) .skip

def notifyAll (q : Queue) : Code := .lock (.condition q) .skip

/-- `pthread_cond_wait` gives the mutex back and takes it again when it returns. -/
def wait (q : Queue) : Code :=
  .choice (.lock (.condition q) .skip)
    (.seq (.lock (.condition q) .skip) (.lock (.condition q) .skip))

end ConditionVariable

namespace EventQueue

def poll (q : Queue) : Code :=
  .seq (ConditionVariable.wait q)
    (.lock (.queue q)
      (.seq (ConditionVariable.isSet q)
        (.choice .skip
          (.seq (ConditionVariable.isSet q)
            (.choice
              (.choice (.choice (ConditionVariable.reset q) .skip) (ConditionVariable.reset q))
              .skip)))))

def size (q : Queue) : Code := .lock (.queue q) .skip

def offer (q : Queue) : Code :=
  .lock (.queue q)
    (.choice .skip (.seq (ConditionVariable.set q) (ConditionVariable.notifyAll q)))

end EventQueue

/-! ## The driver -/

namespace DriverImpl

def «open» : Code := .lock .driver (.choice .skip .mayThrow)

def close : Code :=
  .lock .driver (.choice .skip (.seq (EventQueue.offer .rQueue) .mayThrow))

/-- Flush and return: the queue is polled in the scope of the driver's mutex. -/
def flush : Code :=
  .seq (.whileDo (EventQueue.size .rQueue) (EventQueue.poll .rQueue)) .throws

def read : Code :=
  .seq (.lock .driver .mayThrow)
    (.doWhile
      (.seq (EventQueue.poll .rQueue)
        (.choice .skip (.lock .driver (.choice flush .skip)))))

/-- A function that throws unless the driver is opened, or if the native driver fails. -/
def native : Code := .lock .driver .mayThrow

def writeAsync : Code := native

def write : Code := native

def getLogicalAddress : Code := .lock .driver .skip

def getPhysicalAddress : Code := .lock .driver .skip

def removeLogicalAddress : Code := native

def addLogicalAddress : Code := native

def poll : Code := write

/-- Called on a thread of the native driver for each frame that comes in. -/
def DriverReceiveCallback : Code :=
  .attempt (.seq .mayThrow (EventQueue.offer .rQueue)) .skip

end DriverImpl

/-! ## The bus -/

namespace Bus

/-- `AutoLock rlock_(rMutex), wlock_(wMutex)`. -/
def locked (body : Code) : Code := .lock .rMutex (.lock .wMutex body)

/-- Wait for a worker with `usleep`, outside all mutexes of its own. -/
def untilStopped : Code := .loop .skip

def Reader.stop : Code :=
  .seq (.lock .rMutex .skip) (.seq DriverImpl.close untilStopped)

def Writer.stop : Code :=
  .seq (.lock .wMutex (.choice (EventQueue.offer .wQueue) .skip)) untilStopped

/-- The workers that it starts are other threads. -/
def start : Code := locked DriverImpl.open

def stop : Code := locked (.seq Reader.stop (.seq Writer.stop DriverImpl.close))

def addFrameListener : Code := .lock .rMutex .mayThrow

def removeFrameListener : Code := .lock .rMutex .mayThrow

/-- `send` with a timeout of at most 0. -/
def sendOnce : Code :=
  .seq (locked (.seq .mayThrow (.attempt DriverImpl.write .throws))) (locked .skip)

/-- The loop of `send` with so many retries left: a failed attempt is caught, and thrown
again if it was the last one. -/
def retrying : Nat → Code
  | 0 => .attempt (.seq .mayThrow sendOnce) .throws
  | retry + 1 => .attempt (.seq .mayThrow sendOnce) (retrying retry)

def send (timeout : Int) : Code :=
  if timeout ≤ 0 then sendOnce
  else .seq (locked .skip) (locked (retrying (timeout / 250).toNat))

def sendAsync : Code := .lock .wMutex (.seq .mayThrow (EventQueue.offer .wQueue))

def poll : Code := locked (.seq .mayThrow (.attempt DriverImpl.poll .throws))

def ping : Code := locked (.seq .mayThrow (.attempt DriverImpl.poll .throws))

end Bus

/-! ## Connections -/

namespace Connection

def «open» : Code := Bus.addFrameListener

def close (c : Nat) : Code := .seq (.lock (.connection c) .skip) Bus.removeFrameListener

def addFrameListener (c : Nat) : Code := .lock (.connection c) .skip

def removeFrameListener (c : Nat) : Code := .lock (.connection c) .skip

/-- The variant without `doThrow` drops the exception, the other one passes it on. -/
def send (timeout : Int) (doThrow : Bool) : Code :=
  .attempt (Bus.send timeout) (if doThrow then .throws else .skip)

/-- The header and the frame may not fit into the full frame. -/
def sendTo (timeout : Int) (doThrow : Bool) : Code :=
  if doThrow then .seq .mayThrow (.attempt (send timeout doThrow) .throws)
  else .seq .mayThrow (send timeout doThrow)

def sendAsync : Code := Bus.sendAsync

def sendToAsync : Code := .seq .mayThrow sendAsync

def poll : Code := .attempt Bus.poll .throws

def ping : Code := .attempt Bus.ping .throws

/-- The operations that send, with any timeout. -/
def anySend : Code :=
  .choose fun
    | 0 => .choose fun p => .choose fun n => send ((p : Int) - n) false
    | 1 => .choose fun p => .choose fun n => send ((p : Int) - n) true
    | 2 => .choose fun p => .choose fun n => sendTo ((p : Int) - n) false
    | 3 => .choose fun p => .choose fun n => sendTo ((p : Int) - n) true
    | 4 => sendAsync
    | 5 => sendToAsync
    | 6 => poll
    | _ => ping

/-- A listener of the application: it sends through connections as often as it likes, it may
catch what they throw, and it may throw itself. -/
def listener : Code := .seq (.loop (.attempt anySend .skip)) .mayThrow

/-- `DefaultFrameListener::notify`; the header of a short frame throws. -/
def notify (c : Nat) : Code :=
  .lock (.connection c) (.seq .mayThrow (.choice (.loop listener) .mayThrow))

end Connection

/-! ## The workers and the library -/

namespace Bus

/-- The listeners of the bus are those of the connections. -/
def Reader.run : Code :=
  .loop
    (.attempt (.seq DriverImpl.read (.lock .rMutex (.loop (.choose Connection.notify)))) .skip)

def Writer.run : Code :=
  .seq
    (.doWhile
      (.attempt (.seq (EventQueue.poll .wQueue) (.choice DriverImpl.write .throws)) .skip))
    (.choice (.whileDo (EventQueue.size .wQueue) (EventQueue.poll .wQueue)) .skip)

end Bus

namespace LibCCEC

def init : Code := .lock .libCCEC (.seq .mayThrow (.seq DriverImpl.open Bus.start))

def term : Code := .lock .libCCEC (.seq .mayThrow (.seq Bus.stop DriverImpl.close))

def addLogicalAddress : Code := .seq .mayThrow DriverImpl.addLogicalAddress

def getLogicalAddress : Code := .seq .mayThrow (.seq DriverImpl.getLogicalAddress .mayThrow)

def getPhysicalAddress : Code := .seq .mayThrow DriverImpl.getPhysicalAddress

end LibCCEC

/-! ## The order is respected -/

variable {held : List Mutex} {q : Queue} {c : Nat}

section Queues

theorem ConditionVariable.wait_ordered (h : Below rank held (.condition q)) :
    (ConditionVariable.wait q).Ordered rank held :=
  Prog.choice_ordered ⟨h.admits, trivial⟩ ⟨⟨h.admits, trivial⟩, ⟨h.admits, trivial⟩⟩

/-- The condition's mutex may be taken wherever the queue's may, and inside its scope. -/
theorem condition_below (h : Below rank held (.queue q)) :
    Below rank held (.condition q) ∧ Below rank (.queue q :: held) (.condition q) := by
  have hrank : rank (.queue q) < rank (.condition q) := by
    show 5 < 6
    omega
  exact ⟨h.mono hrank, h.above hrank⟩

theorem EventQueue.poll_ordered (h : Below rank held (.queue q)) :
    (EventQueue.poll q).Ordered rank held := by
  obtain ⟨houter, hinner⟩ := condition_below h
  have htest : (ConditionVariable.isSet q).Ordered rank (.queue q :: held) :=
    ⟨hinner.admits, trivial⟩
  have hreset : (ConditionVariable.reset q).Ordered rank (.queue q :: held) :=
    ⟨hinner.admits, trivial⟩
  refine ⟨ConditionVariable.wait_ordered houter, h.admits, htest, ?_⟩
  refine Prog.choice_ordered trivial ⟨htest, Prog.choice_ordered ?_ trivial⟩
  exact Prog.choice_ordered (Prog.choice_ordered hreset trivial) hreset

theorem EventQueue.size_ordered (h : Below rank held (.queue q)) :
    (EventQueue.size q).Ordered rank held :=
  ⟨h.admits, trivial⟩

theorem EventQueue.offer_ordered (h : Below rank held (.queue q)) :
    (EventQueue.offer q).Ordered rank held := by
  have hinner := (condition_below h).2
  refine ⟨h.admits, Prog.choice_ordered trivial ⟨?_, ?_⟩⟩
  · exact ⟨hinner.admits, trivial⟩
  · exact ⟨hinner.admits, trivial⟩

end Queues

section Driver

/-- The queues may be used wherever the driver may, and inside its scope. -/
theorem queue_below (h : Below rank held .driver) (q : Queue) :
    Below rank held (.queue q) ∧ Below rank (.driver :: held) (.queue q) := by
  have hrank : rank .driver < rank (.queue q) := by
    show 4 < 5
    omega
  exact ⟨h.mono hrank, h.above hrank⟩

theorem DriverImpl.open_ordered (h : Below rank held .driver) :
    DriverImpl.open.Ordered rank held :=
  ⟨h.admits, Prog.choice_ordered trivial Prog.mayThrow_ordered⟩

theorem DriverImpl.close_ordered (h : Below rank held .driver) :
    DriverImpl.close.Ordered rank held := by
  have hoffer := EventQueue.offer_ordered (queue_below h .rQueue).2
  exact ⟨h.admits, Prog.choice_ordered trivial ⟨hoffer, Prog.mayThrow_ordered⟩⟩

theorem DriverImpl.native_ordered (h : Below rank held .driver) :
    DriverImpl.native.Ordered rank held :=
  ⟨h.admits, Prog.mayThrow_ordered⟩

/-- The poll of the flush happens in the scope of the driver's mutex, the other one outside. -/
theorem DriverImpl.read_ordered (h : Below rank held .driver) :
    DriverImpl.read.Ordered rank held := by
  obtain ⟨houter, hinner⟩ := queue_below h .rQueue
  have hsize := EventQueue.size_ordered hinner
  have hpoll := EventQueue.poll_ordered hinner
  have hflush : DriverImpl.flush.Ordered rank (.driver :: held) :=
    ⟨Prog.whileDo_ordered hsize hpoll, trivial⟩
  refine ⟨DriverImpl.native_ordered h, Prog.doWhile_ordered ⟨EventQueue.poll_ordered houter, ?_⟩⟩
  exact Prog.choice_ordered trivial ⟨h.admits, Prog.choice_ordered hflush trivial⟩

theorem DriverImpl.receiveCallback_ordered (h : Below rank held .driver) :
    DriverImpl.DriverReceiveCallback.Ordered rank held :=
  ⟨⟨Prog.mayThrow_ordered, EventQueue.offer_ordered (queue_below h .rQueue).1⟩, trivial⟩

end Driver

section BusOperations

/-- What a caller of the bus may hold: the mutexes of the bus itself, or mutexes below them. -/
structure AtBus (held : List Mutex) : Prop where
  rMutex : Admits rank held .rMutex
  wMutex : Admits rank held .wMutex
  driver : Below rank held .driver

theorem AtBus.nil : AtBus [] :=
  ⟨(Below.nil _).admits, (Below.nil _).admits, Below.nil _⟩

/-- Inside the scopes of both mutexes the bus may be called again. -/
theorem AtBus.both (h : AtBus held) : AtBus (.wMutex :: .rMutex :: held) where
  rMutex := .inl (List.mem_cons_of_mem _ List.mem_cons_self)
  wMutex := Admits.again _ _
  driver := (h.driver.cons (by decide)).cons (by decide)

/-- A listener is called in the scopes of `rMutex` and of its connection's mutex. -/
theorem AtBus.dispatch (c : Nat) : AtBus [.connection c, .rMutex] := by
  have hbelow (l : Mutex) (hl : 2 < rank l) : Below rank [.connection c, .rMutex] l := by
    have hread : Below rank [.rMutex] l := (Below.nil l).cons (Nat.lt_trans (Nat.lt_add_one 1) hl)
    exact hread.cons hl
  refine ⟨.inl (List.mem_cons_of_mem _ List.mem_cons_self), ?_, ?_⟩
  · exact (hbelow .wMutex (by decide)).admits
  · exact hbelow .driver (by decide)

namespace Bus

theorem locked_ordered (h : AtBus held) {body : Code}
    (hbody : body.Ordered rank (.wMutex :: .rMutex :: held)) :
    (locked body).Ordered rank held :=
  ⟨h.rMutex, h.wMutex.cons (by decide), hbody⟩

theorem Reader.stop_ordered (h : AtBus held) : Reader.stop.Ordered rank held :=
  ⟨⟨h.rMutex, trivial⟩, DriverImpl.close_ordered h.driver, trivial⟩

theorem wQueue_offer_ordered (h : Below rank held .driver) :
    (EventQueue.offer .wQueue).Ordered rank (.wMutex :: held) := by
  have hdriver : Below rank (.wMutex :: held) .driver := h.cons (by decide)
  exact EventQueue.offer_ordered (queue_below hdriver .wQueue).1

theorem Writer.stop_ordered (h : AtBus held) : Writer.stop.Ordered rank held :=
  ⟨⟨h.wMutex, Prog.choice_ordered (wQueue_offer_ordered h.driver) trivial⟩, trivial⟩

theorem start_ordered (h : AtBus held) : start.Ordered rank held :=
  locked_ordered h (DriverImpl.open_ordered h.both.driver)

theorem stop_ordered (h : AtBus held) : stop.Ordered rank held := by
  have hboth := h.both
  refine locked_ordered h ⟨Reader.stop_ordered hboth, Writer.stop_ordered hboth, ?_⟩
  exact DriverImpl.close_ordered hboth.driver

theorem addFrameListener_ordered (h : Admits rank held .rMutex) :
    addFrameListener.Ordered rank held :=
  ⟨h, Prog.mayThrow_ordered⟩

theorem sendOnce_ordered (h : AtBus held) : sendOnce.Ordered rank held := by
  have hwrite := DriverImpl.native_ordered h.both.driver
  refine ⟨locked_ordered h ⟨Prog.mayThrow_ordered, hwrite, trivial⟩, ?_⟩
  exact locked_ordered h trivial

theorem retrying_ordered (h : AtBus held) (retry : Nat) : (retrying retry).Ordered rank held := by
  have hsend : (Prog.seq .mayThrow sendOnce).Ordered rank held :=
    ⟨Prog.mayThrow_ordered, sendOnce_ordered h⟩
  induction retry with
  | zero => exact ⟨hsend, trivial⟩
  | succ retry ih => exact ⟨hsend, ih⟩

/-- A retry takes both mutexes again in their own scopes. -/
theorem send_ordered (h : AtBus held) (timeout : Int) : (send timeout).Ordered rank held := by
  unfold send
  split
  · exact sendOnce_ordered h
  · exact ⟨locked_ordered h trivial, locked_ordered h (retrying_ordered h.both _)⟩

theorem sendAsync_ordered (h : AtBus held) : sendAsync.Ordered rank held :=
  ⟨h.wMutex, Prog.mayThrow_ordered, wQueue_offer_ordered h.driver⟩

theorem poll_ordered (h : AtBus held) : poll.Ordered rank held := by
  have hwrite := DriverImpl.native_ordered h.both.driver
  exact locked_ordered h ⟨Prog.mayThrow_ordered, hwrite, trivial⟩

end Bus

end BusOperations

section Connections

namespace Connection

theorem close_ordered : (close c).Ordered rank [] :=
  ⟨⟨(Below.nil _).admits, trivial⟩, Bus.addFrameListener_ordered (Below.nil _).admits⟩

theorem scope_ordered : (addFrameListener c).Ordered rank [] :=
  ⟨(Below.nil _).admits, trivial⟩

theorem send_ordered (h : AtBus held) (timeout : Int) (doThrow : Bool) :
    (send timeout doThrow).Ordered rank held := by
  refine ⟨Bus.send_ordered h timeout, ?_⟩
  cases doThrow with
  | false => trivial
  | true => trivial

theorem sendTo_ordered (h : AtBus held) (timeout : Int) (doThrow : Bool) :
    (sendTo timeout doThrow).Ordered rank held := by
  cases doThrow with
  | false => exact ⟨Prog.mayThrow_ordered, send_ordered h timeout false⟩
  | true => exact ⟨Prog.mayThrow_ordered, send_ordered h timeout true, trivial⟩

theorem sendToAsync_ordered (h : AtBus held) : sendToAsync.Ordered rank held :=
  ⟨Prog.mayThrow_ordered, Bus.sendAsync_ordered h⟩

theorem poll_ordered (h : AtBus held) : poll.Ordered rank held :=
  ⟨Bus.poll_ordered h, trivial⟩

theorem anySend_ordered (h : AtBus held) : anySend.Ordered rank held := by
  intro op
  match op with
  | 0 => exact fun p n => send_ordered h _ false
  | 1 => exact fun p n => send_ordered h _ true
  | 2 => exact fun p n => sendTo_ordered h _ false
  | 3 => exact fun p n => sendTo_ordered h _ true
  | 4 => exact Bus.sendAsync_ordered h
  | 5 => exact sendToAsync_ordered h
  | 6 => exact poll_ordered h
  | _ + 7 => exact poll_ordered h

/-- The dispatch of a frame in the scope of `rMutex`. -/
theorem notify_ordered (c : Nat) : (notify c).Ordered rank [.rMutex] := by
  have hconnection : Below rank [.rMutex] (.connection c) := by
    refine (Below.nil _).cons ?_
    show 1 < 2
    omega
  have hlistener : listener.Ordered rank [.connection c, .rMutex] :=
    ⟨⟨anySend_ordered (AtBus.dispatch c), trivial⟩, Prog.mayThrow_ordered⟩
  refine ⟨hconnection.admits, Prog.mayThrow_ordered, ?_⟩
  exact Prog.choice_ordered hlistener Prog.mayThrow_ordered

end Connection

end Connections

section Workers

theorem Bus.Reader.run_ordered : Bus.Reader.run.Ordered rank [] := by
  have hread := DriverImpl.read_ordered (Below.nil _)
  have hlock : Admits rank [] .rMutex := (Below.nil _).admits
  exact ⟨⟨hread, hlock, Connection.notify_ordered⟩, trivial⟩

theorem Bus.Writer.run_ordered : Bus.Writer.run.Ordered rank [] := by
  have hpoll : (EventQueue.poll .wQueue).Ordered rank [] := EventQueue.poll_ordered (Below.nil _)
  have hwrite : DriverImpl.write.Ordered rank [] := DriverImpl.native_ordered (Below.nil _)
  refine ⟨Prog.doWhile_ordered ⟨⟨hpoll, Prog.choice_ordered hwrite trivial⟩, trivial⟩, ?_⟩
  have hsize : (EventQueue.size .wQueue).Ordered rank [] := EventQueue.size_ordered (Below.nil _)
  exact Prog.choice_ordered (Prog.whileDo_ordered hsize hpoll) trivial

theorem AtBus.library : AtBus [.libCCEC] := by
  have hbelow (l : Mutex) (hl : 0 < rank l) : Below rank [.libCCEC] l := (Below.nil l).cons hl
  refine ⟨(hbelow .rMutex ?_).admits, (hbelow .wMutex ?_).admits, hbelow .driver ?_⟩
  · decide
  · decide
  · decide

theorem LibCCEC.init_ordered : LibCCEC.init.Ordered rank [] := by
  have hopen := DriverImpl.open_ordered AtBus.library.driver
  exact ⟨(Below.nil _).admits, Prog.mayThrow_ordered, hopen, Bus.start_ordered AtBus.library⟩

theorem LibCCEC.term_ordered : LibCCEC.term.Ordered rank [] := by
  have hclose := DriverImpl.close_ordered AtBus.library.driver
  exact ⟨(Below.nil _).admits, Prog.mayThrow_ordered, Bus.stop_ordered AtBus.library, hclose⟩

end Workers

/-! ## Threads -/

/-- What a thread may run: the operations of the library, of the bus, of each connection and
of the driver, the workers, and the native driver's callback. -/
inductive Op where
  | init
  | term
  | libAddLogicalAddress
  | libGetLogicalAddress
  | libGetPhysicalAddress
  | busStart
  | busStop
  | busAddFrameListener
  | busRemoveFrameListener
  | busSend (timeout : Int)
  | busSendAsync
  | busPoll
  | busPing
  | connectionOpen
  | connectionClose (c : Nat)
  | addFrameListener (c : Nat)
  | removeFrameListener (c : Nat)
  | send (timeout : Int) (doThrow : Bool)
  | sendTo (timeout : Int) (doThrow : Bool)
  | sendAsync
  | sendToAsync
  | poll
  | ping
  | driverOpen
  | driverClose
  | read
  | write
  | writeAsync
  | driverPoll
  | driverAddLogicalAddress
  | driverRemoveLogicalAddress
  | driverGetLogicalAddress
  | driverGetPhysicalAddress
  | driverReceiveCallback
  | reader
  | writer

def code : Op → Code
  | .init => LibCCEC.init
  | .term => LibCCEC.term
  | .libAddLogicalAddress => LibCCEC.addLogicalAddress
  | .libGetLogicalAddress => LibCCEC.getLogicalAddress
  | .libGetPhysicalAddress => LibCCEC.getPhysicalAddress
  | .busStart => Bus.start
  | .busStop => Bus.stop
  | .busAddFrameListener => Bus.addFrameListener
  | .busRemoveFrameListener => Bus.removeFrameListener
  | .busSend timeout => Bus.send timeout
  | .busSendAsync => Bus.sendAsync
  | .busPoll => Bus.poll
  | .busPing => Bus.ping
  | .connectionOpen => Connection.open
  | .connectionClose c => Connection.close c
  | .addFrameListener c => Connection.addFrameListener c
  | .removeFrameListener c => Connection.removeFrameListener c
  | .send timeout doThrow => Connection.send timeout doThrow
  | .sendTo timeout doThrow => Connection.sendTo timeout doThrow
  | .sendAsync => Connection.sendAsync
  | .sendToAsync => Connection.sendToAsync
  | .poll => Connection.poll
  | .ping => Connection.ping
  | .driverOpen => DriverImpl.open
  | .driverClose => DriverImpl.close
  | .read => DriverImpl.read
  | .write => DriverImpl.write
  | .writeAsync => DriverImpl.writeAsync
  | .driverPoll => DriverImpl.poll
  | .driverAddLogicalAddress => DriverImpl.addLogicalAddress
  | .driverRemoveLogicalAddress => DriverImpl.removeLogicalAddress
  | .driverGetLogicalAddress => DriverImpl.getLogicalAddress
  | .driverGetPhysicalAddress => DriverImpl.getPhysicalAddress
  | .driverReceiveCallback => DriverImpl.DriverReceiveCallback
  | .reader => Bus.Reader.run
  | .writer => Bus.Writer.run

/-- Every operation respects the order of the mutexes. -/
theorem code_ordered (op : Op) : (code op).Ordered rank [] := by
  have hbus := AtBus.nil
  have hdriver := DriverImpl.native_ordered hbus.driver
  cases op with
  | init => exact LibCCEC.init_ordered
  | term => exact LibCCEC.term_ordered
  | libAddLogicalAddress => exact ⟨Prog.mayThrow_ordered, hdriver⟩
  | libGetLogicalAddress =>
      exact ⟨Prog.mayThrow_ordered, ⟨hdriver.1, trivial⟩, Prog.mayThrow_ordered⟩
  | libGetPhysicalAddress => exact ⟨Prog.mayThrow_ordered, hdriver.1, trivial⟩
  | busStart => exact Bus.start_ordered hbus
  | busStop => exact Bus.stop_ordered hbus
  | busAddFrameListener | busRemoveFrameListener | connectionOpen =>
      exact Bus.addFrameListener_ordered hbus.rMutex
  | busSend timeout => exact Bus.send_ordered hbus timeout
  | busSendAsync | sendAsync => exact Bus.sendAsync_ordered hbus
  | busPoll | busPing => exact Bus.poll_ordered hbus
  | connectionClose c => exact Connection.close_ordered
  | addFrameListener c | removeFrameListener c => exact Connection.scope_ordered (c := c)
  | send timeout doThrow => exact Connection.send_ordered hbus timeout doThrow
  | sendTo timeout doThrow => exact Connection.sendTo_ordered hbus timeout doThrow
  | sendToAsync => exact Connection.sendToAsync_ordered hbus
  | poll | ping => exact Connection.poll_ordered hbus
  | driverOpen => exact DriverImpl.open_ordered hbus.driver
  | driverClose => exact DriverImpl.close_ordered hbus.driver
  | read => exact DriverImpl.read_ordered hbus.driver
  | write | writeAsync | driverPoll | driverAddLogicalAddress | driverRemoveLogicalAddress =>
      exact hdriver
  | driverGetLogicalAddress | driverGetPhysicalAddress => exact ⟨hdriver.1, trivial⟩
  | driverReceiveCallback => exact DriverImpl.receiveCallback_ordered hbus.driver
  | reader => exact Bus.Reader.run_ordered
  | writer => exact Bus.Writer.run_ordered

/-- Any number of threads that call the operations in any order and interleaving. -/
abbrev threads (T : Type) [DecidableEq T] : StepSystem (State Mutex T) (Action T Op) :=
  system code

theorem rank_rises : WellFounded fun k l : Mutex => rank l < rank k := by
  have hbound (l : Mutex) : rank l ≤ 6 := by
    cases l <;> simp only [rank] <;> omega
  refine Subrelation.wf ?_ (measure fun l => 6 - rank l).wf
  intro k l hlt
  have hk := hbound k
  show 6 - rank k < 6 - rank l
  omega

/-- As long as a thread is in an operation, some thread can go on. -/
theorem some_thread_moves {T : Type} [DecidableEq T] {s : State Mutex T} {t : T}
    (h : (threads T).Reachable StepSystem.unguarded s) (hwork : (s.thread t).stack ≠ []) :
    ∃ u, ∀ n, ∃ s', (threads T).step s (.next u n) = some s' :=
  exists_step_of_ordered code_ordered rank_rises h hwork

/-- The mutexes alone never deadlock: no thread waits for itself. -/
theorem waits_acyclic {T : Type} [DecidableEq T] {s : State Mutex T}
    (h : (threads T).Reachable StepSystem.unguarded s) (t : T) :
    ¬ Relation.TransGen (WaitsFor s) t t :=
  acyclic_of_ordered code_ordered h t

/-- A thread that adds a listener waits for one that sends, and that one for the driver. -/
def chain : List (Action Nat Op) :=
  [.call 0 .write, .next 0 0, .call 1 (.busSend 0)] ++ List.replicate 7 (.next 1 0) ++
    [.call 2 .busAddFrameListener]

theorem waits_acyclic_chain :
    ∃ s : State Mutex Nat, (threads Nat).Reachable StepSystem.unguarded s ∧
      WaitsFor s 2 1 ∧ WaitsFor s 1 0 ∧
      ∀ t, ¬ Relation.TransGen (WaitsFor s) t t := by
  obtain ⟨s, hreach, ⟨hlistener, hread⟩, hsend, hdriver⟩ :=
    StepSystem.exists_reachable_of_run (threads Nat) StepSystem.unguarded
      ⟨fun _ => ⟨[], false⟩, fun _ => none⟩ chain
      (fun s => ((s.thread 2).wants = some .rMutex ∧ s.owner .rMutex = some (1, 0)) ∧
        (s.thread 1).wants = some .driver ∧ s.owner .driver = some (0, 0))
      ⟨fun _ => rfl, fun _ => rfl⟩ (by decide)
  refine ⟨s, hreach, ⟨_, _, hlistener, hread, by decide⟩, ⟨_, _, hsend, hdriver, by decide⟩, ?_⟩
  exact fun t => waits_acyclic hreach t

end Mutexes

end HdmiCec
