import HdmiCec.DevMgr.DeviceManager
import HdmiCec.Driver.IarmDriver
import HdmiCec.Library.StepSystem

/-!
# The device status cache of the host plugin

`CECHost_SetDeviceStatus` keeps a table of what is known of the other devices, and
broadcasts every change of it on the IARM bus.  Each of its branches compares the new value
with the cached one, stores it, and broadcasts last.  A broadcast that fails is reported to
the caller, who would have to repeat the call; but the table has the new value by then, and
the repeated call finds nothing to do.

The table is compared with the view of a listener who starts with the table of
`_GetDevStatus` and follows the events.
-/

namespace HdmiCec

namespace Host

/-! ## Names -/

/-- `MAX_LENGTH_OF_OSD_NAME`, which is also the size of the arrays `osdName`. -/
def maxLengthOfOsdName : Nat := 15

abbrev OsdName := Vector UInt8 maxLengthOfOsdName

/-- The string in an array as `strncmp` and `strncpy` read it: up to the terminator, and at
most `n` characters. -/
def cString (name : OsdName) (n : Nat) : List UInt8 := (name.toList.take n).takeWhile (· != 0)

/-- `strncmp(a, b, n) == 0`. -/
def strncmpEqual (a b : OsdName) (n : Nat) : Bool := cString a n == cString b n

/-- `strncpy(dest, src, n)`: zeroes follow the string up to `n`, and what is behind stays. -/
def strncpy (dest src : OsdName) (n : Nat) : OsdName :=
  Vector.ofFn fun i => if i.val < n then (cString src n).getD i.val 0 else dest[i]

/-- The array after `memset`. -/
def OsdName.zero : OsdName := Vector.replicate _ 0

/-! ## The table -/

/-- `DeviceStatus_t`. -/
structure DeviceStatus where
  logicalAddress : Int
  powerState : Int
  isConnected : Int
  osdName : OsdName
  deriving DecidableEq

/-- `_deviceStatus`. -/
abbrev Table := Vector DeviceStatus 14

/-- The table that `CECHost_Init` leaves. -/
def Table.init : Table :=
  Vector.ofFn fun i =>
    { logicalAddress := i.val, powerState := 1, isConnected := 0, osdName := OsdName.zero }

/-- A status type with the member of the union `data` that goes with it, in
`CECHost_DeviceStatus_t` and in the event. -/
inductive StatusData where
  | powerState (powerState : Int)
  | osdName (osdName : OsdName)
  | isConnected (isConnected : Int)
  /-- A `statusType` outside the enumeration. -/
  | other
  deriving DecidableEq

/-- `IARM_Bus_CECHost_DeviceStatusChanged_EventData_t`. -/
structure EventData where
  logicalAddress : Fin 14
  data : StatusData
  deriving DecidableEq

/-- What a call of `CECHost_SetDeviceStatus` comes to: the table, the event with which
`IARM_Bus_BroadcastEvent` was called, if it was, and the result. -/
structure SetCall where
  table : Table
  broadcast : Option EventData
  result : DeviceManager.Answer Unit

/-- `ret == IARM_RESULT_SUCCESS ? CECHost_ERR_NONE : CECHost_ERR_HOST`. -/
def answer (ret : IARM_Result_t) : DeviceManager.Answer Unit :=
  if ret = .success then .ok () else .error .host

/-- The name that is stored and broadcast: `memset` and `strncpy` of one byte less than the
array has. -/
def storedName (name : OsdName) : OsdName :=
  strncpy OsdName.zero name (maxLengthOfOsdName - 1)

/-- The entry after the changes of the last branch. -/
def connectedEntry (entry : DeviceStatus) (isConnected : Int) : DeviceStatus :=
  if isConnected = 0 then
    { entry with
      isConnected := isConnected
      powerState := 1
      osdName := strncpy entry.osdName OsdName.zero maxLengthOfOsdName }
  else
    { entry with isConnected := isConnected }

/-- `CECHost_SetDeviceStatus(int logicalAddress, CECHost_DeviceStatus_t *devices)`, when
`IARM_Bus_BroadcastEvent` answers `broadcastEvent` if it is called. -/
def setDeviceStatus (broadcastEvent : IARM_Result_t) (table : Table)
    (logicalAddress : Fin 14) (devices : StatusData) : SetCall :=
  let entry := table[logicalAddress]
  let unchanged : SetCall := { table := table, broadcast := none, result := answer .success }
  match devices with
  | .powerState powerState =>
      if entry.powerState ≠ powerState then
        { table := table.set logicalAddress { entry with powerState := powerState }
          broadcast := some ⟨logicalAddress, .powerState powerState⟩
          result := answer broadcastEvent }
      else
        unchanged
  | .osdName osdName =>
      if !strncmpEqual entry.osdName osdName maxLengthOfOsdName then
        { table := table.set logicalAddress { entry with osdName := storedName osdName }
          broadcast := some ⟨logicalAddress, .osdName (storedName osdName)⟩
          result := answer broadcastEvent }
      else
        unchanged
  | .isConnected isConnected =>
      if entry.isConnected ≠ isConnected then
        { table := table.set logicalAddress (connectedEntry entry isConnected)
          broadcast := some ⟨logicalAddress, .isConnected isConnected⟩
          result := answer broadcastEvent }
      else
        unchanged
  | .other => unchanged

/-! ## The three branches as one -/

/-- The comparison that each branch begins with. -/
def differs (entry : DeviceStatus) : StatusData → Bool
  | .powerState powerState => entry.powerState ≠ powerState
  | .osdName osdName => !strncmpEqual entry.osdName osdName maxLengthOfOsdName
  | .isConnected isConnected => entry.isConnected ≠ isConnected
  | .other => false

/-- The entry that the branch stores. -/
def stored (entry : DeviceStatus) : StatusData → DeviceStatus
  | .powerState powerState => { entry with powerState := powerState }
  | .osdName osdName => { entry with osdName := storedName osdName }
  | .isConnected isConnected => connectedEntry entry isConnected
  | .other => entry

/-- The data of the event. -/
def broadcastData : StatusData → StatusData
  | .osdName osdName => .osdName (storedName osdName)
  | devices => devices

/-- The status of an entry that the call is about. -/
def DeviceStatus.read (entry : DeviceStatus) : StatusData → StatusData
  | .powerState _ => .powerState entry.powerState
  | .osdName _ => .osdName entry.osdName
  | .isConnected _ => .isConnected entry.isConnected
  | .other => .other

section Call

variable (broadcastEvent : IARM_Result_t) (table : Table) (logicalAddress : Fin 14)
  (devices : StatusData)

theorem setDeviceStatus_eq :
    setDeviceStatus broadcastEvent table logicalAddress devices =
      if differs table[logicalAddress] devices then
        { table := table.set logicalAddress (stored table[logicalAddress] devices)
          broadcast := some ⟨logicalAddress, broadcastData devices⟩
          result := answer broadcastEvent }
      else
        { table := table, broadcast := none, result := .ok () } := by
  cases devices with
  | powerState powerState => simp [setDeviceStatus, differs, stored, broadcastData, answer]
  | osdName osdName => simp [setDeviceStatus, differs, stored, broadcastData, answer]
  | isConnected isConnected => simp [setDeviceStatus, differs, stored, broadcastData, answer]
  | other => simp [setDeviceStatus, differs, answer]

end Call

/-- What is stored is what is broadcast. -/
theorem read_stored (entry : DeviceStatus) (devices : StatusData) :
    (stored entry devices).read devices = broadcastData devices := by
  cases devices with
  | powerState powerState => rfl
  | osdName osdName => rfl
  | isConnected isConnected =>
      show StatusData.isConnected (connectedEntry entry isConnected).isConnected = _
      unfold connectedEntry
      split <;> rfl
  | other => rfl

/-! ## When a call changes the table -/

/-- The call has something to change.  A name of fifteen characters differs from the name
that is stored of it, and storing it again changes nothing. -/
def Changes (entry : DeviceStatus) : StatusData → Prop
  | .powerState powerState => entry.powerState ≠ powerState
  | .osdName osdName =>
      strncmpEqual entry.osdName osdName maxLengthOfOsdName = false ∧
        entry.osdName ≠ storedName osdName
  | .isConnected isConnected => entry.isConnected ≠ isConnected
  | .other => False

instance (entry : DeviceStatus) (devices : StatusData) : Decidable (Changes entry devices) :=
  match devices with
  | .powerState _ => inferInstanceAs (Decidable (_ ≠ _))
  | .osdName _ => inferInstanceAs (Decidable (_ ∧ _))
  | .isConnected _ => inferInstanceAs (Decidable (_ ≠ _))
  | .other => inferInstanceAs (Decidable False)

theorem changes_iff (entry : DeviceStatus) (devices : StatusData) :
    Changes entry devices ↔ differs entry devices = true ∧ stored entry devices ≠ entry := by
  cases devices with
  | powerState powerState =>
      constructor
      · intro hother
        refine ⟨decide_eq_true hother, ?_⟩
        intro hsame
        exact hother (congrArg DeviceStatus.powerState hsame).symm
      · rintro ⟨hother, -⟩
        exact of_decide_eq_true hother
  | osdName osdName =>
      have hentry : stored entry (.osdName osdName) = entry ↔
          entry.osdName = storedName osdName := by
        constructor
        · intro hsame
          exact (congrArg DeviceStatus.osdName hsame).symm
        · intro hname
          show { entry with osdName := storedName osdName } = entry
          rw [← hname]
      rw [Changes, differs, ne_eq, ne_eq, hentry, Bool.not_eq_true']
  | isConnected isConnected =>
      have hread : (connectedEntry entry isConnected).isConnected = isConnected := by
        unfold connectedEntry
        split <;> rfl
      constructor
      · intro hother
        refine ⟨decide_eq_true hother, ?_⟩
        intro hsame
        have hfield : (connectedEntry entry isConnected).isConnected = entry.isConnected :=
          congrArg DeviceStatus.isConnected hsame
        exact hother (hfield.symm.trans hread)
      · rintro ⟨hother, -⟩
        exact of_decide_eq_true hother
  | other => exact iff_of_false (fun h => h) fun h => Bool.false_ne_true h.1

/-- Replacing an entry changes the table exactly if the entry is another one. -/
theorem set_eq_self_iff (table : Table) (i : Fin 14) (entry : DeviceStatus) :
    table.set i entry = table ↔ entry = table[i] := by
  constructor
  · intro hsame
    have hentry : (table.set i entry)[i] = entry := by simp
    rw [← hentry, hsame]
  · rintro rfl
    simp

theorem table_changes_iff (broadcastEvent : IARM_Result_t) (table : Table)
    (logicalAddress : Fin 14) (devices : StatusData) :
    (setDeviceStatus broadcastEvent table logicalAddress devices).table ≠ table ↔
      Changes table[logicalAddress] devices := by
  rw [changes_iff, setDeviceStatus_eq]
  by_cases hdiffers : differs table[logicalAddress] devices = true
  · rw [if_pos hdiffers, ne_eq, set_eq_self_iff]
    exact (and_iff_right hdiffers).symm
  · rw [if_neg hdiffers]
    exact iff_of_false (fun hne => hne rfl) fun h => hdiffers h.1

/-! ## One call -/

/-- The call is in order: one that reports an error has left the table alone, and one that
returns normally has announced what it changed. -/
structure AnnouncedOrUndone (broadcastEvent : IARM_Result_t) (table : Table)
    (logicalAddress : Fin 14) (devices : StatusData) (call : SetCall) : Prop where
  undone : call.result = .error .host → call.table = table
  announced : call.result = .ok () → call.table ≠ table →
    broadcastEvent = .success ∧
      call.broadcast = some ⟨logicalAddress, call.table[logicalAddress].read devices⟩

theorem announcedOrUndone_iff (broadcastEvent : IARM_Result_t) (table : Table)
    (logicalAddress : Fin 14) (devices : StatusData) :
    AnnouncedOrUndone broadcastEvent table logicalAddress devices
        (setDeviceStatus broadcastEvent table logicalAddress devices) ↔
      broadcastEvent = .success ∨ ¬ Changes table[logicalAddress] devices := by
  have hchanges := table_changes_iff broadcastEvent table logicalAddress devices
  constructor
  · intro h
    by_cases hsuccess : broadcastEvent = .success
    · exact .inl hsuccess
    · refine .inr ?_
      intro hchange
      apply hchanges.mpr hchange
      apply h.undone
      rw [setDeviceStatus_eq, if_pos ((changes_iff _ _).mp hchange).1]
      show answer broadcastEvent = .error .host
      rw [answer, if_neg hsuccess]
  · rintro (rfl | hunchanged)
    · constructor
      · intro herror
        rw [setDeviceStatus_eq] at herror
        split at herror
        · cases herror
        · cases herror
      · intro _ hne
        have hdiffers := ((changes_iff _ _).mp (hchanges.mp hne)).1
        refine ⟨rfl, ?_⟩
        rw [setDeviceStatus_eq, if_pos hdiffers, ← read_stored table[logicalAddress] devices]
        simp
    · have hsame : (setDeviceStatus broadcastEvent table logicalAddress devices).table = table :=
        Decidable.of_not_not fun hne => hunchanged (hchanges.mp hne)
      exact ⟨fun _ => hsame, fun _ hne => absurd hsame hne⟩

/-! ## Runs -/

/-- The table, and the view of a listener. -/
structure State where
  table : Table
  view : Table
  deriving DecidableEq

/-- A call, with what `IARM_Bus_BroadcastEvent` answers if it is called. -/
structure Action where
  logicalAddress : Fin 14
  devices : StatusData
  broadcastEvent : IARM_Result_t
  deriving DecidableEq

/-- What a listener does with an event; a device that is gone has no name and no power, as in
the table. -/
def follow (entry : DeviceStatus) : StatusData → DeviceStatus
  | .powerState powerState => { entry with powerState := powerState }
  | .osdName osdName => { entry with osdName := osdName }
  | .isConnected isConnected => connectedEntry entry isConnected
  | .other => entry

/-- A listener is told of an event whose broadcast succeeds. -/
def followEvent (view : Table) (broadcastEvent : IARM_Result_t) :
    Option EventData → Table
  | none => view
  | some event =>
      if broadcastEvent = .success then
        view.set event.logicalAddress (follow view[event.logicalAddress] event.data)
      else
        view

def step (s : State) (a : Action) : Option State :=
  let call := setDeviceStatus a.broadcastEvent s.table a.logicalAddress a.devices
  some { table := call.table, view := followEvent s.view a.broadcastEvent call.broadcast }

/-- Any table, as `_GetDevStatus` has handed it to the listener. -/
def system : StepSystem State Action where
  initial s := s.view = s.table
  step := step

/-- The broadcast of the call succeeds, or there is nothing to change. -/
def Announces (s : State) (a : Action) : Prop :=
  a.broadcastEvent = .success ∨ ¬ Changes s.table[a.logicalAddress] a.devices

instance (s : State) (a : Action) : Decidable (Announces s a) :=
  inferInstanceAs (Decidable (_ ∨ _))

/-- A listener stores what the table stores. -/
theorem follow_broadcastData (entry : DeviceStatus) (devices : StatusData) :
    follow entry (broadcastData devices) = stored entry devices := by
  cases devices <;> rfl

/-- A call that announces keeps the listener's view up to date. -/
theorem step_view {s s' : State} {a : Action} (hview : s.view = s.table)
    (hannounces : Announces s a) (hstep : step s a = some s') : s'.view = s'.table := by
  cases hstep
  show followEvent s.view a.broadcastEvent _ = _
  have hchanges := table_changes_iff a.broadcastEvent s.table a.logicalAddress a.devices
  by_cases hsuccess : a.broadcastEvent = .success
  · rw [setDeviceStatus_eq, hview]
    split
    · rw [followEvent, if_pos hsuccess, follow_broadcastData]
    · rfl
  · have hsame : (setDeviceStatus a.broadcastEvent s.table a.logicalAddress a.devices).table =
        s.table := by
      refine Decidable.of_not_not fun hne => ?_
      rcases hannounces with hother | hunchanged
      · exact hsuccess hother
      · exact hunchanged (hchanges.mp hne)
    rw [hsame]
    cases (setDeviceStatus a.broadcastEvent s.table a.logicalAddress a.devices).broadcast with
    | none => exact hview
    | some event =>
        rw [followEvent, if_neg hsuccess]
        exact hview

/-- In a run in which every change is announced the listener has the table. -/
theorem reachable_view {s : State} (h : system.Reachable Announces s) : s.view = s.table := by
  refine h.invariant (I := fun s => s.view = s.table) (fun s hinitial => hinitial) ?_
  intro s a s' _ hview hannounces hstep
  exact step_view hview hannounces hstep

/-- When the changes of the table are announced or undone, in one call and in a run. -/
theorem changes_announced_iff (broadcastEvent : IARM_Result_t) (table : Table)
    (logicalAddress : Fin 14) (devices : StatusData) :
    (AnnouncedOrUndone broadcastEvent table logicalAddress devices
        (setDeviceStatus broadcastEvent table logicalAddress devices) ↔
      broadcastEvent = .success ∨ ¬ Changes table[logicalAddress] devices) ∧
      ∀ s, system.Reachable Announces s → s.view = s.table :=
  ⟨announcedOrUndone_iff broadcastEvent table logicalAddress devices, fun _ => reachable_view⟩

/-- A device at address 4 appears, is switched on and is gone. -/
theorem changes_announced_iff_gone :
    ∃ s, system.Reachable Announces s ∧ s.table[(4 : Fin 14)].isConnected = 0 ∧
      s.view = s.table := by
  obtain ⟨s, hreach, hgone⟩ :=
    StepSystem.exists_reachable_of_run system Announces ⟨Table.init, Table.init⟩
      [⟨4, .isConnected 1, .success⟩, ⟨4, .powerState 0, .success⟩,
        ⟨4, .isConnected 0, .success⟩]
      (fun s => s.table[(4 : Fin 14)].isConnected = 0) rfl (by decide)
  exact ⟨s, hreach, hgone, (changes_announced_iff .success s.table 4 .other).2 s hreach⟩

/-- The device at address 4 is switched on, and the broadcast fails: the caller gets
`CECHost_ERR_HOST`, and the table has the new state.  Repeating the call broadcasts
nothing. -/
theorem not_changes_announced :
    let failed := setDeviceStatus .invalidState Table.init 4 (.powerState 0)
    let repeated := setDeviceStatus .success failed.table 4 (.powerState 0)
    ¬ AnnouncedOrUndone .invalidState Table.init 4 (.powerState 0) failed ∧
      failed.result = .error .host ∧ failed.table ≠ Table.init ∧
      repeated.broadcast = none ∧ repeated.result = .ok () := by
  dsimp only
  have hchange : Changes Table.init[(4 : Fin 14)] (.powerState 0) := by decide
  have hdiffers := ((changes_iff _ _).mp hchange).1
  refine ⟨?_, ?_, (table_changes_iff _ _ _ _).mpr hchange, ?_, ?_⟩
  · rw [announcedOrUndone_iff]
    rintro (hsuccess | hunchanged)
    · cases hsuccess
    · exact hunchanged hchange
  · rw [setDeviceStatus_eq, if_pos hdiffers]
    rfl
  · decide
  · rfl

end Host

end HdmiCec
