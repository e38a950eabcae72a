import HdmiCec.Bus.Connection
import HdmiCec.Core.RoundTrip

/-!
# The two addresses of a connection

A `Connection` keeps its address in `source`, which `sendTo` writes as the initiator
and `matchSource` enforces.  Its `DefaultFilter` takes the address by reference and
stores a copy, which `isFiltered` compares destinations with.  `setSource` writes to the
first only.  The file shows in which runs the two agree.
-/

namespace HdmiCec

namespace Connection

/-! ## The operations -/

/-- `setSource(LogicalAddress &from)`. -/
def setSource (connection : Connection) (from_ : LogicalAddress) : Connection :=
  { connection with source := from_ }

/-- The frame that `sendTo(to, frame)` hands to `send`. -/
def fullFrame (connection : Connection) (to_ : LogicalAddress) (frame : CECFrame) :
    Result CECFrame := do
  let full ← Header.serialize { from_ := connection.source, to_ := to_ } CECFrame.empty
  full.appendAll frame.bytes

/-- `sendTo(const LogicalAddress &to, const CECFrame &frame, int timeout,
const Throw_e &doThrow)`, on a bus that sends by `busSend`. -/
def sendTo (connection : Connection) (driver : DriverImpl)
    (busSend : CECFrame → Result Unit) (to_ : LogicalAddress) (frame : CECFrame) :
    Result Unit := do
  let full ← connection.fullFrame to_ frame
  catching Exception.isCCEC (connection.send driver busSend full) throwing

/-- What happens to a connection in a run. -/
inductive Event where
  | setSource (from_ : LogicalAddress)
  | connectionOpen
  | connectionClose
  | send (frame : CECFrame)
  | sendTo (to_ : LogicalAddress) (frame : CECFrame)
  | receive (frame : CECFrame)
  deriving DecidableEq

/-- The addresses behind an event: sending and receiving only read them, and `open` and
`close` do not look at them. -/
def handle (connection : Connection) : Event → Connection
  | .setSource from_ => connection.setSource from_
  | .connectionOpen | .connectionClose | .send _ | .sendTo _ _ | .receive _ => connection

/-- The connection after the events of a run. -/
def after (connection : Connection) (events : List Event) : Connection :=
  events.foldl handle connection

/-! ## What each address is used for -/

/-- `sendTo` writes `source` as the initiator. -/
theorem fullFrame_initiator {connection : Connection} {initiator follower : UInt8}
    (hsource : connection.source = CECBytes.ofByte initiator) {frame : CECFrame}
    (hframe : frame.length < 128) :
    ∃ full, connection.fullFrame (CECBytes.ofByte follower) frame = .ok full ∧
      full.bytes = Header.pack initiator follower :: frame.bytes := by
  have hextends : CECFrame.Extends CECFrame.empty
      ([Header.pack initiator follower] ++ frame.bytes)
      ((Header.ofNibbles initiator follower).serialize CECFrame.empty >>=
        fun full => full.appendAll frame.bytes) := by
    refine CECFrame.Extends.bind (Header.serialize_empty initiator follower) ?_
    intro headed hheaded
    rw [CECFrame.length_empty, List.length_singleton] at hheaded
    refine CECFrame.appendAll_extends headed frame.bytes ?_
    rw [CECFrame.bytes_length]
    omega
  obtain ⟨full, hfull, hbytes⟩ := hextends
  refine ⟨full, ?_, by simpa using hbytes⟩
  rw [fullFrame, hsource]
  exact hfull

/-- The upper half of the byte that `matchSource` stores. -/
theorem initiator_of_newInitiator (first source : UInt8) :
    ((first &&& 0x0F) ||| ((source &&& 0x0F) <<< (4 : UInt8))) >>> (4 : UInt8) =
      source &&& 0x0F := by
  apply UInt8.eq_of_bits
  simp [Fin.forall_fin_succ]

/-- The upper half of a byte is a nibble. -/
theorem initiator_masked (first : UInt8) :
    (first >>> (4 : UInt8)) &&& 0x0F = first >>> (4 : UInt8) := by
  apply UInt8.eq_of_bits
  simp [Fin.forall_fin_succ]

/-- `matchSource` enforces `source` as the initiator, if the driver has the address. -/
theorem matchSource_initiator {connection : Connection} {driver : DriverImpl}
    (hvalid : driver.isValidLogicalAddress connection.source = true) {source first : UInt8}
    (hsource : connection.source = CECBytes.ofByte source) {frame : CECFrame}
    {rest : List UInt8} (hbytes : frame.bytes = first :: rest) :
    ∃ frame' first', connection.matchSource driver frame = .ok frame' ∧
      frame'.bytes = first' :: rest ∧ first' >>> (4 : UInt8) = source &&& 0x0F := by
  unfold matchSource
  rw [if_pos hvalid, hsource, LogicalAddress.toInt_ofByte, getD_of_bytes hbytes]
  simp only [Result.ok_bind, Result.pure_eq]
  split
  · exact ⟨_, _, rfl, storeFirst_bytes hbytes _, initiator_of_newInitiator first source⟩
  · next hsame =>
    refine ⟨frame, first, rfl, hbytes, ?_⟩
    rw [← initiator_masked]
    exact Decidable.not_not.mp hsame

/-! ## When they agree -/

/-- The filter compares with the address that the connection sends under. -/
def Agrees (connection : Connection) : Prop := connection.busFrameFilter = connection.source

instance (connection : Connection) : Decidable connection.Agrees :=
  inferInstanceAs (Decidable (_ = _))

/-- No event writes to the copy in the filter. -/
theorem after_busFrameFilter (events : List Event) :
    ∀ connection : Connection, (connection.after events).busFrameFilter =
      connection.busFrameFilter := by
  induction events with
  | nil => intro connection; rfl
  | cons event later ih =>
      intro connection
      have hlater := ih (connection.handle event)
      rw [after, List.foldl_cons, ← after, hlater]
      cases event <;> rfl

/-- The address that the connection sends under is one it was given: by the constructor
or by a `setSource`. -/
theorem after_source (events : List Event) :
    ∀ connection : Connection, (connection.after events).source = connection.source ∨
      .setSource (connection.after events).source ∈ events := by
  induction events with
  | nil => intro connection; exact .inl rfl
  | cons event later ih =>
      intro connection
      have hlater := ih (connection.handle event)
      rw [after, List.foldl_cons, ← after]
      rcases hlater with hsame | hset
      · cases event with
        | setSource from_ =>
            refine .inr ?_
            rw [hsame]
            exact List.mem_cons_self ..
        | _ => exact .inl hsame
      · exact .inr (List.mem_cons_of_mem _ hset)

/-- The two addresses of a connection agree at every point of a run exactly if every
`setSource` of the run gives it the address that it was constructed with. -/
theorem agrees_iff (source : LogicalAddress) (events : List Event) :
    (∀ past, past <+: events → ((ofSource source).after past).Agrees) ↔
      ∀ from_, .setSource from_ ∈ events → from_ = source := by
  constructor
  · intro hagrees from_ hmem
    obtain ⟨past, later, rfl⟩ := List.append_of_mem hmem
    have hpoint := hagrees (past ++ [.setSource from_]) ⟨later, by simp⟩
    rw [Agrees, after_busFrameFilter, after, List.foldl_append] at hpoint
    exact hpoint.symm
  · intro hsets past hpast
    rw [Agrees, after_busFrameFilter]
    rcases after_source past (ofSource source) with hsame | hset
    · exact hsame.symm
    · exact (hsets _ (hpast.subset hset)).symm

/-- A connection for address 4 is given address 5: a frame to 5 is filtered out from
then on, and one to 4 delivered. -/
theorem not_agrees_setSource :
    let connection :=
      (ofSource (CECBytes.ofByte 4)).after [.setSource (CECBytes.ofByte 5)]
    ¬ connection.Agrees ∧
      connection.isFiltered (CECFrame.ofBytes [0x05, 0x36] (by decide)) = .ok true ∧
      connection.isFiltered (CECFrame.ofBytes [0x04, 0x36] (by decide)) = .ok false := by
  refine ⟨by decide, ?_, ?_⟩
  · rw [isFiltered_eq _ (by decide)]
    rfl
  · rw [isFiltered_eq _ (by decide)]
    rfl

end Connection

end HdmiCec
