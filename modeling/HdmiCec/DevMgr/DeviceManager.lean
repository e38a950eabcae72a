import HdmiCec.Core.Completeness
import HdmiCec.Library.StepSystem

/-!
# The device manager and the HDMI connection

The device manager keeps whether the HDMI output is connected in `isConnected`.  `main`
sets it from a query of the host plugin, and hands the plugin a table of callbacks; the
plugin calls the hot-plug callback of that table, if there is one, on every hot-plug event.
`DevMgrProcessor` reads `isConnected` when it answers <Request Active Source>.

The host plugin is asked over `CECHost_*` functions, each of which gives a value or an
error.  What it answers is an input of the steps and of the processor.
-/

namespace HdmiCec

namespace DeviceManager

/-- `CECHost_HDMI_CONNECTED`. -/
def hdmiConnected : Int := 0

/-- `CECHost_HDMI_DISCONNECTED`. -/
def hdmiDisconnected : Int := 1

/-- `CECHost_Err_t`, but for `CECHost_ERR_NONE`. -/
inductive HostError where
  | general
  | invalid
  | symbol
  | host
  | state
  deriving DecidableEq

/-- How a `CECHost_*` function returns: what it has stored, or an error. -/
abbrev Answer (α : Type) := Except HostError α

/-- The four bytes of `CECHost_GetHdmiOuputPhysicalAddress`. -/
structure AddressBytes where
  byte0 : UInt8
  byte1 : UInt8
  byte2 : UInt8
  byte3 : UInt8
  deriving DecidableEq

/-- `PhysicalAddress(byte0, byte1, byte2, byte3)`. -/
def AddressBytes.physicalAddress (bytes : AddressBytes) : PhysicalAddress :=
  ⟨[((bytes.byte0 &&& 0x0F) <<< 4) ||| (bytes.byte1 &&& 0x0F),
    ((bytes.byte2 &&& 0x0F) <<< 4) ||| (bytes.byte3 &&& 0x0F)]⟩

/-- The variables of the device manager. -/
structure DevMgr where
  isConnected : Int
  phy : PhysicalAddress
  powerState : Int
  deriving DecidableEq

/-! ## The processor -/

/-- `CECHost_IsActive_Simple`. -/
def isActiveSimple : Answer Int → Int
  | .ok active => if active ≠ 0 then 1 else 0
  | .error _ => 0

/-- `DevMgrProcessor::process` of every message class: to whom it sends what.  `isActive`
is what `CECHost_IsActive` answers. -/
def process (devMgr : DevMgr) (isActive : Answer Int) (m : Message) (header : Header) :
    List (LogicalAddress × Message) :=
  if header.from_ = LogicalAddress.unregistered then
    []
  else
    match m with
    | .requestActiveSource =>
        if isActiveSimple isActive ≠ 0 ∧ hdmiConnected = devMgr.isConnected then
          [(LogicalAddress.unregistered, .activeSource devMgr.phy)]
        else
          []
    -- "STBSTB"
    | .giveOSDName => [(header.from_, .setOSDName ⟨[0x53, 0x54, 0x42, 0x53, 0x54, 0x42]⟩)]
    | .giveDeviceVendorID =>
        [(LogicalAddress.unregistered, .deviceVendorID ⟨[0x0F, 0x0A, 0x0B]⟩)]
    | .giveDevicePowerStatus =>
        [(header.from_, .reportPowerStatus
          (CECBytes.ofByte (UInt8.ofNat (devMgr.powerState % 256).toNat)))]
    -- `V_1_3a`
    | .getCECVersion => [(header.from_, .cecVersion (CECBytes.ofByte 4))]
    -- `TUNER`
    | .givePhysicalAddress =>
        [(LogicalAddress.unregistered, .reportPhysicalAddress devMgr.phy (CECBytes.ofByte 3))]
    | _ => []

/-- `DevMgrFrameListener::notify`: what the processor sends when the decoder has handed it
the frame. -/
def notify (devMgr : DevMgr) (isActive : Answer Int) (frame : CECFrame) :
    List (LogicalAddress × Message) :=
  (MessageDecoder.decode (fun _ _ => .ok ()) frame).calls.flatMap fun call =>
    process devMgr isActive call.1 call.2

/-! ## The host plugin and `main` -/

/-- The hot-plug events of the device settings manager. -/
inductive HotplugEvent where
  | connected
  | disconnected
  deriving DecidableEq

/-- `hotplugCb(connect)`; the address is what `CECHost_GetHdmiOuputPhysicalAddress` answers
if it is asked. -/
abbrev HotplugCallback := Int → Answer AddressBytes → DevMgr → DevMgr

/-- `CECHost_HDMI_HotplugCallback_`, which no table refers to. -/
def hotplugCallback : HotplugCallback := fun connect address devMgr =>
  if hdmiConnected = connect then
    match address with
    | .ok bytes => { devMgr with phy := bytes.physicalAddress, isConnected := 1 }
    | .error _ => { devMgr with isConnected := 1 }
  else
    { devMgr with isConnected := 0 }

/-- `_hdmiEventHandler` of the plugin, as far as it concerns the device manager. -/
def hdmiEventHandler (hotplugCb : Option HotplugCallback) (event : HotplugEvent)
    (address : Answer AddressBytes) (devMgr : DevMgr) : DevMgr :=
  match hotplugCb with
  | none => devMgr
  | some callback =>
      callback (if event = .connected then hdmiConnected else hdmiDisconnected) address devMgr

/-- The first entry of the table that `main` hands to `CECHost_SetCallback`. -/
def mainHotplugCb : Option HotplugCallback := none

/-- Where `main` is. -/
inductive MainPc where
  | setCallback
  | isHdmiOutputConnected
  | physicalAddress
  | getPowerState
  /-- The listener is added, and frames are answered. -/
  | listening
  deriving DecidableEq

/-- The device manager with the first entry of the plugin's `hostCb`.  `startUp` is how the
query of `main` was answered.  `latest` is the most recent information about the output:
the last event or, if it came later, the answer of that query. -/
structure State where
  pc : MainPc
  devMgr : DevMgr
  hotplugCb : Option HotplugCallback
  startUp : Option (Answer Int)
  latest : Option Bool

/-- The next call of `main`, with what the plugin answers, or a hot-plug event. -/
inductive Action where
  | setCallback
  | isHdmiOutputConnected (connected : Answer Int)
  | getHdmiOuputPhysicalAddress (address : Answer AddressBytes)
  | getPowerState (state : Answer Int)
  | hotplug (event : HotplugEvent) (address : Answer AddressBytes)
  deriving DecidableEq

/-- `main` behind the query of the connection. -/
def queried (s : State) : Answer Int → State
  | .ok connected =>
      { s with
        pc := .physicalAddress
        devMgr := { s.devMgr with
          isConnected := if connected ≠ 0 then hdmiConnected else hdmiDisconnected }
        startUp := some (.ok connected)
        latest := some (connected ≠ 0) }
  | .error e => { s with pc := .getPowerState, startUp := some (.error e) }

def step (s : State) : Action → Option State
  | .setCallback =>
      match s.pc with
      | .setCallback => some { s with pc := .isHdmiOutputConnected, hotplugCb := mainHotplugCb }
      | _ => none
  | .isHdmiOutputConnected connected =>
      match s.pc with
      | .isHdmiOutputConnected => some (queried s connected)
      | _ => none
  | .getHdmiOuputPhysicalAddress address =>
      match s.pc with
      | .physicalAddress =>
          some { s with
            pc := .getPowerState
            devMgr := match address with
              | .ok bytes => { s.devMgr with phy := bytes.physicalAddress }
              | .error _ => s.devMgr }
      | _ => none
  | .getPowerState state =>
      match s.pc with
      | .getPowerState =>
          some { s with
            pc := .listening
            devMgr := match state with
              | .ok state => { s.devMgr with powerState := state }
              | .error _ => s.devMgr }
      | _ => none
  | .hotplug event address =>
      some { s with
        devMgr := hdmiEventHandler s.hotplugCb event address s.devMgr
        latest := some (event = .connected) }

/-- `main` behind `CECHost_Init`, with the initial values of the variables. -/
def new : State where
  pc := .setCallback
  devMgr := { isConnected := 0, phy := ⟨[0x00, 0x00]⟩, powerState := 1 }
  hotplugCb := none
  startUp := none
  latest := none

def system : StepSystem State Action where
  initial s := s = new
  step := step

/-! ## The answer to <Request Active Source> -/

/-- <Request Active Source> from the initiator. -/
def IsRequest (frame : CECFrame) (initiator : UInt8) : Prop :=
  ∃ first rest, frame.bytes = first :: 0x85 :: rest ∧ initiator = (first &&& 0xF0) >>> 4

/-- The plugin says that the host is active. -/
def HostActive (isActive : Answer Int) : Prop := ∃ active, active ≠ 0 ∧ isActive = .ok active

/-- <Active Source> is among what is sent. -/
def SendsActiveSource (sent : List (LogicalAddress × Message)) : Prop :=
  ∃ phy, (LogicalAddress.unregistered, Message.activeSource phy) ∈ sent

theorem isActiveSimple_iff (isActive : Answer Int) :
    isActiveSimple isActive ≠ 0 ↔ HostActive isActive := by
  cases isActive with
  | error e =>
      constructor
      · intro hactive
        exact absurd rfl hactive
      · rintro ⟨active, -, heq⟩
        cases heq
  | ok active =>
      simp only [isActiveSimple]
      constructor
      · intro hactive
        refine ⟨active, ?_, rfl⟩
        rintro rfl
        exact hactive rfl
      · rintro ⟨active', hne, heq⟩
        cases heq
        rw [if_pos hne]
        decide

/-- The decoder hands the request over, and nothing else. -/
theorem mem_notify_request {devMgr : DevMgr} {isActive : Answer Int} {frame : CECFrame}
    {initiator : UInt8} (hrequest : IsRequest frame initiator)
    {sent : LogicalAddress × Message} :
    sent ∈ notify devMgr isActive frame ↔ ∃ header : Header,
      header.from_ = CECBytes.ofByte initiator ∧
        sent ∈ process devMgr isActive .requestActiveSource header := by
  obtain ⟨first, rest, hbytes, hinitiator⟩ := hrequest
  have hopcode : frame.bytes[1]? = some 0x85 := by rw [hbytes]; rfl
  obtain ⟨first', block, hparts, hcalls⟩ :=
    @MessageDecoder.decode_calls frame 0x85 hopcode (fun _ => .ok .requestActiveSource) rfl
  obtain rfl : first' = first := by
    rw [hbytes] at hparts
    exact (List.cons.inj hparts).1.symm
  rw [notify, List.mem_flatMap]
  constructor
  · rintro ⟨⟨m, header⟩, hmem, hsent⟩
    obtain ⟨hbuild, rfl⟩ := (hcalls _ m header).mp hmem
    cases hbuild
    exact ⟨_, by rw [hinitiator]; rfl, hsent⟩
  · rintro ⟨header, hfrom, hsent⟩
    refine ⟨(.requestActiveSource, MessageDecoder.unpack first'),
      (hcalls _ _ _).mpr ⟨rfl, rfl⟩, ?_⟩
    have hsame : (MessageDecoder.unpack first').from_ = header.from_ := by
      rw [hfrom, hinitiator]
      rfl
    simp only [process, hsame] at hsent ⊢
    exact hsent

theorem process_request {devMgr : DevMgr} {isActive : Answer Int} {header : Header}
    (hfrom : header.from_ ≠ LogicalAddress.unregistered) :
    process devMgr isActive .requestActiveSource header =
      if isActiveSimple isActive ≠ 0 ∧ hdmiConnected = devMgr.isConnected then
        [(LogicalAddress.unregistered, .activeSource devMgr.phy)]
      else
        [] := by
  rw [process, if_neg hfrom]

theorem notify_request {devMgr : DevMgr} {isActive : Answer Int} {frame : CECFrame}
    {initiator : UInt8} (hrequest : IsRequest frame initiator) (hinitiator : initiator ≠ 15) :
    SendsActiveSource (notify devMgr isActive frame) ↔
      HostActive isActive ∧ devMgr.isConnected = hdmiConnected := by
  have hnot : CECBytes.ofByte initiator ≠ LogicalAddress.unregistered := by
    intro heq
    cases heq
    exact hinitiator rfl
  rw [← isActiveSimple_iff]
  constructor
  · rintro ⟨phy, hmem⟩
    obtain ⟨header, hfrom, hsent⟩ := (mem_notify_request hrequest).mp hmem
    rw [process_request (by rw [hfrom]; exact hnot)] at hsent
    split at hsent
    · next hboth => exact ⟨hboth.1, hboth.2.symm⟩
    · cases hsent
  · rintro ⟨hactive, hconnected⟩
    refine ⟨devMgr.phy, (mem_notify_request hrequest).mpr
      ⟨Header.ofNibbles initiator 15, rfl, ?_⟩⟩
    have hfrom : (Header.ofNibbles initiator 15).from_ ≠ LogicalAddress.unregistered := hnot
    rw [process_request hfrom, if_pos ⟨hactive, hconnected.symm⟩]
    exact List.mem_singleton.mpr rfl

/-- What `isConnected` holds, in every run: the answer of the query, or its initial value,
which is the one of a connected output. -/
structure Inv (s : State) : Prop where
  hotplugCb : s.hotplugCb = none
  isConnected : s.devMgr.isConnected = hdmiConnected ↔ s.startUp ≠ some (.ok 0)
  asked : s.pc = .setCallback ∨ s.pc = .isHdmiOutputConnected → s.startUp = none

theorem new_inv : Inv new := ⟨rfl, ⟨fun _ => nofun, fun _ => rfl⟩, fun _ => rfl⟩

theorem queried_inv {s : State} (h : Inv s) (hpc : s.pc = .isHdmiOutputConnected)
    (connected : Answer Int) : Inv (queried s connected) := by
  cases connected with
  | error e =>
      -- nothing is stored when the query fails
      have hnone := h.asked (.inr hpc)
      have hinitial : s.devMgr.isConnected = hdmiConnected :=
        h.isConnected.mpr (by rw [hnone]; nofun)
      refine ⟨h.hotplugCb, ⟨fun _ => nofun, fun _ => hinitial⟩, ?_⟩
      intro hto
      rcases hto with hto | hto <;> cases hto
  | ok connected =>
      refine ⟨h.hotplugCb, ?_, ?_⟩
      · show (if connected ≠ 0 then hdmiConnected else hdmiDisconnected) = hdmiConnected ↔
          some (.ok connected) ≠ (some (.ok 0) : Option (Answer Int))
        by_cases hzero : connected = 0
        · subst hzero
          decide
        · rw [if_pos hzero]
          simp [hzero]
      · intro hto
        rcases hto with hto | hto <;> cases hto

theorem step_inv {s s' : State} {a : Action} (h : Inv s) (hstep : step s a = some s') : Inv s' := by
  have hbehind : ∀ {pc : MainPc}, pc = .getPowerState ∨ pc = .listening →
      pc = .setCallback ∨ pc = .isHdmiOutputConnected → s.startUp = none := by
    intro pc hpc hto
    rcases hpc with rfl | rfl <;> rcases hto with hto | hto <;> cases hto
  cases a with
  | setCallback =>
      simp only [step] at hstep
      split at hstep
      · next hpc =>
        cases hstep
        exact ⟨rfl, h.isConnected, fun _ => h.asked (.inl hpc)⟩
      · cases hstep
  | isHdmiOutputConnected connected =>
      simp only [step] at hstep
      split at hstep
      · next hpc =>
        cases hstep
        exact queried_inv h hpc connected
      · cases hstep
  | getHdmiOuputPhysicalAddress address =>
      simp only [step] at hstep
      split at hstep
      · cases hstep
        cases address <;> exact ⟨h.hotplugCb, h.isConnected, hbehind (.inl rfl)⟩
      · cases hstep
  | getPowerState state =>
      simp only [step] at hstep
      split at hstep
      · cases hstep
        cases state <;> exact ⟨h.hotplugCb, h.isConnected, hbehind (.inr rfl)⟩
      · cases hstep
  | hotplug event address =>
      cases hstep
      refine ⟨h.hotplugCb, ?_, h.asked⟩
      simp only [hdmiEventHandler, h.hotplugCb]
      exact h.isConnected

theorem reachable_inv {ok : State → Action → Prop} {s : State} (h : system.Reachable ok s) :
    Inv s := by
  refine h.invariant ?_ ?_
  · rintro s rfl
    exact new_inv
  · intro s a s' _ hs _ hstep
    exact step_inv hs hstep

/-- The request is answered according to the most recent information exactly if the host
is not active, or that information agrees with the query of the start, where a query that
failed counts as "connected": no event changes the answer. -/
theorem answers_current_iff {s : State} (h : system.Reachable StepSystem.unguarded s)
    (isActive : Answer Int) {frame : CECFrame} {initiator : UInt8}
    (hrequest : IsRequest frame initiator) (hinitiator : initiator ≠ 15) :
    (SendsActiveSource (notify s.devMgr isActive frame) ↔
        HostActive isActive ∧ s.latest = some true) ↔
      (HostActive isActive → (s.startUp ≠ some (.ok 0) ↔ s.latest = some true)) := by
  rw [notify_request hrequest hinitiator, (reachable_inv h).isConnected]
  constructor
  · intro hanswer hactive
    constructor
    · intro hstart
      exact (hanswer.mp ⟨hactive, hstart⟩).2
    · intro hlatest
      exact (hanswer.mpr ⟨hactive, hlatest⟩).2
  · intro hagree
    constructor
    · rintro ⟨hactive, hstart⟩
      exact ⟨hactive, (hagree hactive).mp hstart⟩
    · rintro ⟨hactive, hlatest⟩
      exact ⟨hactive, (hagree hactive).mpr hlatest⟩

/-- The calls of `main` up to its loop. -/
def starts (connected : Int) : List Action :=
  [.setCallback, .isHdmiOutputConnected (.ok connected), .getHdmiOuputPhysicalAddress
    (.ok ⟨1, 0, 0, 0⟩), .getPowerState (.ok 0)]

/-- <Request Active Source> from the television. -/
def requestFrame : CECFrame := CECFrame.ofBytes [0x0F, 0x85] (by decide)

theorem requestFrame_isRequest : IsRequest requestFrame 0 :=
  ⟨0x0F, [], by decide +kernel, by decide⟩

/-- The output is unplugged and plugged in again. -/
theorem answers_current_iff_replugged :
    ∃ s : State, system.Reachable StepSystem.unguarded s ∧ s.latest = some true ∧
      s.startUp = some (.ok 1) ∧
      SendsActiveSource (notify s.devMgr (.ok 1) requestFrame) := by
  obtain ⟨s, hreach, hlatest, hstart⟩ :=
    system.exists_reachable_of_run StepSystem.unguarded new
      (starts 1 ++ [.hotplug .disconnected (.error .state), .hotplug .connected (.ok ⟨1, 0, 0, 0⟩)])
      (fun s => s.latest = some true ∧ s.startUp = some (.ok 1)) rfl (by decide)
  have hagree : s.startUp ≠ some (.ok 0) ↔ s.latest = some true := by
    rw [hstart, hlatest]
    decide
  have hanswer := (answers_current_iff hreach (.ok 1) requestFrame_isRequest (by decide)).mpr
    fun _ => hagree
  exact ⟨s, hreach, hlatest, hstart, hanswer.mpr ⟨⟨1, by decide, rfl⟩, hlatest⟩⟩

/-- The output was connected at the start and has been unplugged; the active host still
answers. -/
theorem not_answers_current :
    ¬ ∀ s : State, system.Reachable StepSystem.unguarded s → ∀ (isActive : Answer Int)
      (frame : CECFrame) (initiator : UInt8), IsRequest frame initiator → initiator ≠ 15 →
        (SendsActiveSource (notify s.devMgr isActive frame) ↔
          HostActive isActive ∧ s.latest = some true) := by
  intro hall
  obtain ⟨s, hreach, hlatest, hconnected⟩ :=
    system.exists_reachable_of_run StepSystem.unguarded new
      (starts 1 ++ [.hotplug .disconnected (.error .state)])
      (fun s => s.latest = some false ∧ s.devMgr.isConnected = hdmiConnected) rfl (by decide)
  have hsends : SendsActiveSource (notify s.devMgr (.ok 1) requestFrame) :=
    (notify_request requestFrame_isRequest (by decide)).mpr
      ⟨⟨1, by decide, rfl⟩, hconnected⟩
  have hclaim := (hall s hreach (.ok 1) requestFrame 0 requestFrame_isRequest (by decide)).mp hsends
  rw [hlatest] at hclaim
  cases hclaim.2

/-- The callback that no table refers to would not help: it stores the opposite of what
the processor reads. -/
theorem hotplugCallback_inverts (event : HotplugEvent) (address : Answer AddressBytes)
    (devMgr : DevMgr) :
    (hdmiEventHandler (some hotplugCallback) event address devMgr).isConnected = hdmiConnected ↔
      event = .disconnected := by
  cases event with
  | connected => cases address <;> simp [hdmiEventHandler, hotplugCallback, hdmiConnected]
  | disconnected =>
      simp [hdmiEventHandler, hotplugCallback, hdmiConnected, hdmiDisconnected]

end DeviceManager

end HdmiCec
