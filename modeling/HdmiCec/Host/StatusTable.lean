import Mathlib.Data.List.TakeWhile
import Mathlib.Logic.Function.Basic
import HdmiCec.Host.OsdNameCache

/-!
# What the host plugin knows of the other devices

The table of `CECHost_SetDeviceStatus` stands for what is known of fourteen devices: whether
each is connected, its power state, and its name.  `update` says what a call tells of a
device, in these terms; a device that is disconnected has neither name nor power.  The
hot-plug handler of the plugin clears the whole table when the output is unplugged, and
`_GetDevStatus` hands out a copy of it.  All of them hold `devStatMutex`, so each is one
step.

The table is compared with what the calls and events of a run have told, and with the view
of a listener who follows the broadcasts of `CECHost_SetDeviceStatus`.  The hot-plug handler
broadcasts nothing.
-/

namespace HdmiCec

namespace Host

/-! ## What is known of a device -/

structure Device where
  isConnected : Int
  powerState : Int
  name : List UInt8
  deriving DecidableEq

/-- A device that is not there. -/
def Device.gone : Device := { isConnected := 0, powerState := 1, name := [] }

/-- What a call of `CECHost_SetDeviceStatus` tells. -/
def Device.update (device : Device) : StatusData → Device
  | .powerState powerState => { device with powerState := powerState }
  | .osdName osdName => { device with name := (text osdName.toList).take 14 }
  | .isConnected isConnected =>
      if isConnected = 0 ∧ device.isConnected ≠ 0 then gone
      else { device with isConnected := isConnected }
  | .other => device

theorem Device.update_isConnected (device : Device) (isConnected : Int) :
    (device.update (.isConnected isConnected)).isConnected = isConnected := by
  rw [Device.update]
  split
  · next hgone => exact hgone.1.symm
  · rfl

/-- What an entry says. -/
def DeviceStatus.device (entry : DeviceStatus) : Device where
  isConnected := entry.isConnected
  powerState := entry.powerState
  name := text entry.osdName.toList

/-- The call names an array without a terminator, of which fourteen bytes are kept. -/
def Unterminated : StatusData → Prop
  | .osdName osdName => ¬ Terminated osdName.toList
  | _ => False

/-! ## The table -/

/-- The loop of `_hdmiEventHandler` for `dsDISPLAY_EVENT_DISCONNECTED`. -/
def cleared (table : Table) : Table :=
  Vector.ofFn fun i =>
    { logicalAddress := i.val
      powerState := 1
      isConnected := 0
      osdName := strncpy (table.get i).osdName OsdName.zero maxLengthOfOsdName }

/-- `_hdmiEventHandler`, as far as it concerns the table. -/
def hotplug (table : Table) (event : DeviceManager.HotplugEvent) : Table :=
  if event = .disconnected then cleared table else table

/-- `_GetDevStatus`: the result, and the array of the parameter block behind the call;
`memcpyS` is `MEMCPY_S` of the whole array. -/
def getDevStatus (memcpyS : Table → Table → Table) (table : Table) (arg : Option Table) :
    IARM_Result_t × Option Table :=
  match arg with
  | some devices => (.success, some (memcpyS devices table))
  | none => (.invalidParam, none)

/-- `strncpy` of the empty string clears the array. -/
theorem strncpy_empty (dest : OsdName) :
    strncpy dest OsdName.zero maxLengthOfOsdName = OsdName.zero := by
  have hempty : cString OsdName.zero maxLengthOfOsdName = [] := by decide
  apply Vector.ext
  intro i hi
  have hget : (strncpy dest OsdName.zero maxLengthOfOsdName)[i] =
      if i < maxLengthOfOsdName then (cString OsdName.zero maxLengthOfOsdName).getD i 0
      else dest[i] := Vector.getElem_ofFn ..
  rw [hget, if_pos hi, hempty]
  exact (Vector.getElem_replicate hi).symm

theorem cleared_eq_init (table : Table) : cleared table = Table.init := by
  rw [cleared, Table.init]
  simp only [strncpy_empty]

/-! ## One entry -/

section Entry

variable {entry : DeviceStatus}

/-- The name that is stored is terminated, and is what is known of the name. -/
theorem storedName_text (name : OsdName) :
    Terminated (storedName name).toList ∧ text (storedName name).toList = (text name.toList).take 14 := by
  have hcached : storedName name = cachedName OsdName.zero name := by
    have hzero : OsdName.zero.set 14 0 = OsdName.zero := by decide
    rw [cachedName, hzero, storedName]
  rw [hcached]
  exact stored_text OsdName.zero name

theorem terminated_zero : Terminated OsdName.zero.toList := by decide

theorem text_zero : text OsdName.zero.toList = [] := by decide

/-- The entry that a call stores says what is known behind the call. -/
theorem stored_device (hterminated : Terminated entry.osdName.toList) {devices : StatusData}
    (hdiffers : differs entry devices = true) :
    Terminated (stored entry devices).osdName.toList ∧
      (stored entry devices).device = entry.device.update devices := by
  cases devices with
  | powerState powerState => exact ⟨hterminated, rfl⟩
  | osdName osdName =>
      obtain ⟨hstored, htext⟩ := storedName_text osdName
      refine ⟨hstored, ?_⟩
      simp [stored, DeviceStatus.device, Device.update, htext]
  | isConnected isConnected =>
      have hother : entry.isConnected ≠ isConnected := of_decide_eq_true hdiffers
      by_cases hgone : isConnected = 0
      · subst hgone
        -- a device that goes takes its name and its power state with it
        have hknown : entry.device.update (.isConnected 0) = Device.gone :=
          if_pos ⟨rfl, hother⟩
        have hstored : stored entry (.isConnected 0) = { entry with
            isConnected := 0, powerState := 1, osdName := OsdName.zero } := by
          rw [stored, connectedEntry, if_pos rfl, strncpy_empty]
        rw [hknown, hstored]
        refine ⟨terminated_zero, ?_⟩
        simp [DeviceStatus.device, Device.gone, text_zero]
      · have hstored : stored entry (.isConnected isConnected) =
            { entry with isConnected := isConnected } := if_neg hgone
        have hknown : entry.device.update (.isConnected isConnected) =
            { entry.device with isConnected := isConnected } :=
          if_neg fun h => hgone h.1
        rw [hstored, hknown]
        exact ⟨hterminated, rfl⟩
  | other => exact ⟨hterminated, rfl⟩

theorem stored_logicalAddress (entry : DeviceStatus) (devices : StatusData) :
    (stored entry devices).logicalAddress = entry.logicalAddress := by
  cases devices with
  | isConnected isConnected =>
      rw [stored, connectedEntry]
      split <;> rfl
  | _ => rfl

/-- A call that finds nothing to change has told nothing new. -/
theorem update_of_not_differs (hterminated : Terminated entry.osdName.toList) {devices : StatusData}
    (hsame : differs entry devices = false) : entry.device.update devices = entry.device := by
  cases devices with
  | powerState powerState =>
      have heq : entry.powerState = powerState := by simpa [differs] using hsame
      rw [← heq]
      rfl
  | osdName osdName =>
      have heq : text entry.osdName.toList = text osdName.toList :=
        (strncmpEqual_iff _ _).mp (by simpa [differs] using hsame)
      have hcut : (text osdName.toList).take 14 = text entry.osdName.toList := by
        rw [← heq, List.take_of_length_le hterminated.text_length]
      simp [Device.update, DeviceStatus.device, hcut]
  | isConnected isConnected =>
      have heq : entry.isConnected = isConnected := by simpa [differs] using hsame
      have hnot : ¬ (isConnected = 0 ∧ entry.device.isConnected ≠ 0) := by
        rintro ⟨hzero, hne⟩
        exact hne (heq.trans hzero)
      rw [Device.update, if_neg hnot, ← heq]
      rfl
  | other => rfl

/-- An array without a terminator is text up to its end. -/
theorem text_of_unterminated {name : OsdName} (h : ¬ Terminated name.toList) :
    (text name.toList).length = 15 := by
  have hall : ∀ byte ∈ name.toList, (byte != 0) = true := by
    intro byte hbyte
    rw [bne_iff_ne]
    rintro rfl
    exact h hbyte
  rw [text, List.takeWhile_eq_self_iff.mpr hall, Vector.length_toList]
  rfl

/-- A name of fifteen characters is never the name that is stored. -/
theorem differs_of_unterminated (hterminated : Terminated entry.osdName.toList) {devices : StatusData}
    (hlong : Unterminated devices) : differs entry devices = true := by
  cases devices with
  | osdName osdName =>
      have hother : text entry.osdName.toList ≠ text osdName.toList := by
        intro heq
        have hfits := hterminated.text_length
        rw [heq, text_of_unterminated hlong] at hfits
        omega
      simpa [differs, ← Bool.not_eq_true, strncmpEqual_iff] using hother
  | _ => exact hlong.elim

/-- A call changes the table or is broadcast again if it tells something new, or names an
array without a terminator. -/
theorem differs_iff (hterminated : Terminated entry.osdName.toList) (devices : StatusData) :
    differs entry devices = true ↔
      entry.device.update devices ≠ entry.device ∨ Unterminated devices := by
  constructor
  · intro hdiffers
    cases devices with
    | powerState powerState =>
        refine .inl fun hsame => ?_
        exact of_decide_eq_true hdiffers (congrArg Device.powerState hsame).symm
    | osdName osdName =>
        have hother : text entry.osdName.toList ≠ text osdName.toList := by
          simpa [differs, ← Bool.not_eq_true, strncmpEqual_iff] using hdiffers
        by_cases hlong : Terminated osdName.toList
        · refine .inl fun hsame => hother ?_
          have hname : (text osdName.toList).take 14 = text entry.osdName.toList :=
            congrArg Device.name hsame
          rw [← hname, List.take_of_length_le hlong.text_length]
        · exact .inr hlong
    | isConnected isConnected =>
        refine .inl fun hsame => ?_
        have hfield := congrArg Device.isConnected hsame
        rw [Device.update_isConnected] at hfield
        exact of_decide_eq_true hdiffers hfield.symm
    | other => cases hdiffers
  · rintro (hnew | hlong)
    · by_contra hsame
      exact hnew (update_of_not_differs hterminated (by simpa using hsame))
    · exact differs_of_unterminated hterminated hlong

end Entry

/-! ## Runs -/

namespace Status

/-- The table, the view of a listener who follows the broadcasts, and what the calls and
events of the run have told. -/
structure State where
  table : Table
  view : Table
  known : Fin 14 → Device

inductive Action where
  /-- `CECHost_SetDeviceStatus`, with what `IARM_Bus_BroadcastEvent` answers if it is
  called. -/
  | set (logicalAddress : Fin 14) (devices : StatusData) (broadcastEvent : IARM_Result_t)
  | hotplug (event : DeviceManager.HotplugEvent)
  deriving DecidableEq

/-- What a call tells, and what a hot-plug event does. -/
def tell (known : Fin 14 → Device) : Action → Fin 14 → Device
  | .set logicalAddress devices _ =>
      Function.update known logicalAddress ((known logicalAddress).update devices)
  | .hotplug .disconnected => fun _ => Device.gone
  | .hotplug .connected => known

def step (s : State) (a : Action) : Option State :=
  match a with
  | .set logicalAddress devices broadcastEvent =>
      let call := setDeviceStatus broadcastEvent s.table logicalAddress devices
      some {
        table := call.table
        view := followEvent s.view broadcastEvent call.broadcast
        known := tell s.known a }
  | .hotplug event =>
      some { s with table := Host.hotplug s.table event, known := tell s.known a }

/-- Behind `CECHost_Init`, and a listener who has just called `_GetDevStatus`. -/
def system : StepSystem State Action where
  initial s := s = { table := Table.init, view := Table.init, known := fun _ => Device.gone }
  step := step

/-- Every entry is the one of its device, has a terminated name, and says what is known. -/
def Represents (table : Table) (known : Fin 14 → Device) : Prop :=
  ∀ i : Fin 14, (table.get i).logicalAddress = i.val ∧ Terminated (table.get i).osdName.toList ∧
    (table.get i).device = known i

theorem init_represents : Represents Table.init fun _ => Device.gone := by
  intro i
  have hentry : Table.init.get i =
      { logicalAddress := i.val, powerState := 1, isConnected := 0, osdName := OsdName.zero } :=
    Vector.getElem_ofFn ..
  rw [hentry]
  refine ⟨rfl, terminated_zero, ?_⟩
  simp [DeviceStatus.device, Device.gone, text_zero]

theorem set_represents {table : Table} {known : Fin 14 → Device} (h : Represents table known)
    (broadcastEvent : IARM_Result_t) (i : Fin 14) (devices : StatusData) :
    Represents (setDeviceStatus broadcastEvent table i devices).table
      (tell known (.set i devices broadcastEvent)) := by
  obtain ⟨haddress, hterminated, hdevice⟩ :
      table[i].logicalAddress = i.val ∧ Terminated table[i].osdName.toList ∧ table[i].device = known i :=
    h i
  have hknown : (known i).update devices = table[i].device.update devices := by rw [hdevice]
  rw [setDeviceStatus_eq, tell, hknown]
  cases hdiffers : differs table[i] devices with
  | true =>
      obtain ⟨hstored, hupdate⟩ := stored_device hterminated hdiffers
      rw [if_pos rfl]
      intro j
      by_cases hj : j = i
      · subst hj
        have hentry : (table.set j (stored table[j] devices)).get j = stored table[j] devices :=
          Vector.getElem_set_self ..
        rw [hentry, Function.update_self, ← hupdate]
        exact ⟨by rw [stored_logicalAddress]; exact haddress, hstored, rfl⟩
      · -- the other entries stay as they are
        have hentry : (table.set i (stored table[i] devices)).get j = table.get j := by
          apply Vector.getElem_set_ne
          exact fun heq => hj (Fin.ext heq.symm)
        rw [hentry, Function.update_of_ne hj]
        exact h j
  | false =>
      rw [if_neg Bool.false_ne_true, update_of_not_differs hterminated hdiffers, hdevice,
        Function.update_eq_self]
      exact h

theorem step_represents {s s' : State} {a : Action} (h : Represents s.table s.known)
    (hstep : step s a = some s') : Represents s'.table s'.known := by
  cases a with
  | set i devices broadcastEvent =>
      cases hstep
      exact set_represents h broadcastEvent i devices
  | hotplug event =>
      cases hstep
      cases event with
      | connected => exact h
      | disconnected =>
          show Represents (cleared s.table) fun _ => Device.gone
          rw [cleared_eq_init]
          exact init_represents

/-- In every run the table says what the calls and events have told: every entry is the one
of its device and has a terminated name, `_GetDevStatus` hands out this table, and a call
broadcasts exactly if it tells something new or names an array without a terminator. -/
theorem table_represents {memcpyS : Table → Table → Table}
    (hcopies : ∀ devices table, memcpyS devices table = table) {s : State}
    (h : system.Reachable StepSystem.unguarded s) :
    Represents s.table s.known ∧
      (∀ devices, getDevStatus memcpyS s.table (some devices) = (.success, some s.table)) ∧
      ∀ broadcastEvent i devices,
        (setDeviceStatus broadcastEvent s.table i devices).broadcast.isSome = true ↔
          (s.known i).update devices ≠ s.known i ∨ Unterminated devices := by
  have hrepresents : Represents s.table s.known := by
    refine h.invariant (I := fun s => Represents s.table s.known) ?_ ?_
    · rintro s rfl
      exact init_represents
    · intro s a s' _ hs _ hstep
      exact step_represents hs hstep
  refine ⟨hrepresents, fun devices => by rw [getDevStatus, hcopies], ?_⟩
  intro broadcastEvent i devices
  obtain ⟨-, hterminated, hdevice⟩ := hrepresents i
  rw [← hdevice, ← differs_iff hterminated devices, setDeviceStatus_eq]
  cases differs s.table[i] devices <;> simp

/-- A device appears, gives a name of fifteen characters and is switched on; another one
stays unknown. -/
theorem table_represents_named :
    ∃ s : State, system.Reachable StepSystem.unguarded s ∧
      s.known 4 = { isConnected := 1, powerState := 0, name := List.replicate 14 0x41 } ∧
      Represents s.table s.known := by
  obtain ⟨s, hreach, hknown⟩ :=
    system.exists_reachable_of_run StepSystem.unguarded
      { table := Table.init, view := Table.init, known := fun _ => Device.gone }
      [.set 4 (.isConnected 1) .success, .set 4 (.osdName (Vector.replicate 15 0x41)) .success,
        .set 4 (.powerState 0) .success]
      (fun s => s.known 4 =
        { isConnected := 1, powerState := 0, name := List.replicate 14 0x41 }) rfl
      (by decide +kernel)
  have hcopies : ∀ devices table : Table, (fun _ table : Table => table) devices table = table :=
    fun _ _ => rfl
  exact ⟨s, hreach, hknown, (table_represents hcopies hreach).1⟩

/-! ## The view of a listener -/

/-- The step leaves no listener behind: the broadcast of the call succeeds or there is nothing
to change, and the table is not cleared unless it is clear. -/
def Announced (s : State) : Action → Prop
  | .set i devices broadcastEvent => broadcastEvent = .success ∨ ¬ Changes (s.table.get i) devices
  | .hotplug .disconnected => s.table = Table.init
  | .hotplug .connected => True

instance (s : State) (a : Action) : Decidable (Announced s a) :=
  match a with
  | .set _ _ _ => inferInstanceAs (Decidable (_ ∨ _))
  | .hotplug .disconnected => inferInstanceAs (Decidable (_ = _))
  | .hotplug .connected => inferInstanceAs (Decidable True)

/-- The listener of a call. -/
theorem set_view_iff (table : Table) (i : Fin 14) (devices : StatusData)
    (broadcastEvent : IARM_Result_t) :
    followEvent table broadcastEvent
          (setDeviceStatus broadcastEvent table i devices).broadcast =
        (setDeviceStatus broadcastEvent table i devices).table ↔
      broadcastEvent = .success ∨ ¬ Changes (table.get i) devices := by
  have hchanges := table_changes_iff broadcastEvent table i devices
  by_cases hsuccess : broadcastEvent = .success
  · refine iff_of_true ?_ (.inl hsuccess)
    rw [setDeviceStatus_eq]
    cases differs table[i] devices with
    | true =>
        rw [if_pos rfl, followEvent, if_pos hsuccess, follow_broadcastData]
    | false => rfl
  · -- nobody hears of a broadcast that fails
    have hunheard : followEvent table broadcastEvent
        (setDeviceStatus broadcastEvent table i devices).broadcast = table := by
      cases (setDeviceStatus broadcastEvent table i devices).broadcast with
      | none => rfl
      | some event => exact if_neg hsuccess
    rw [hunheard]
    constructor
    · intro hsame
      exact .inr fun hchange => hchanges.mpr hchange hsame.symm
    · rintro (hother | hunchanged)
      · exact absurd hother hsuccess
      · by_contra hne
        exact hunchanged (hchanges.mp fun hsame => hne hsame.symm)

/-- In a run in which every step leaves no listener behind, the view of a listener is the
table; and the first step that leaves one behind makes them differ.  The clearing of a table
that knew something is such a step, as nothing is broadcast for it. -/
theorem view_current_iff :
    (∀ s, system.Reachable Announced s → s.view = s.table) ∧
      ∀ s a s', s.view = s.table → step s a = some s' →
        (s'.view = s'.table ↔ Announced s a) := by
  have hstep : ∀ s a s', s.view = s.table → step s a = some s' →
      (s'.view = s'.table ↔ Announced s a) := by
    intro s a s' hview hstep
    cases a with
    | set i devices broadcastEvent =>
        cases hstep
        show followEvent s.view broadcastEvent _ = _ ↔ _
        rw [hview]
        exact set_view_iff s.table i devices broadcastEvent
    | hotplug event =>
        cases hstep
        cases event with
        | connected => exact iff_of_true hview trivial
        | disconnected =>
            show s.view = cleared s.table ↔ s.table = Table.init
            rw [hview, cleared_eq_init]
  refine ⟨?_, hstep⟩
  intro s h
  refine h.invariant (I := fun s => s.view = s.table) ?_ ?_
  · rintro s rfl
    rfl
  · intro s a s' _ hview hok hnext
    exact (hstep s a s' hview hnext).mpr hok

/-- The output is unplugged while a device is known. -/
theorem view_current_iff_unplugged :
    ∃ s s' : State, system.Reachable Announced s ∧ s.view = s.table ∧
      step s (.hotplug .disconnected) = some s' ∧
      s'.view ≠ s'.table := by
  obtain ⟨s, hreach, hknown⟩ :=
    system.exists_reachable_of_run Announced
      { table := Table.init, view := Table.init, known := fun _ => Device.gone }
      [.set 4 (.isConnected 1) .success, .set 4 (.powerState 0) .success]
      (fun s => s.table ≠ Table.init) rfl (by decide +kernel)
  have hview := view_current_iff.1 s hreach
  refine ⟨s, _, hreach, hview, rfl, ?_⟩
  intro hsame
  exact hknown ((view_current_iff.2 s (.hotplug .disconnected) _ hview rfl).mp hsame)

end Status

end Host

end HdmiCec
