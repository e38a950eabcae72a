import HdmiCec.DevMgr.DeviceManager
import Mathlib.Algebra.Group.Nat.Defs

/-!
# The loader of the host plugin

The device manager reaches the host plugin through `CECHost_LoadPlugin`,
`CECHost_UnloadPlugin` and ten wrappers, which have the names of the plugin's own
functions.  Each wrapper keeps what `dlsym` returned in a static `f` and the value of
`pluginGen` at that time in a static `currGen`, and asks again when there is no `f` or the
two counters differ.  A load counts `pluginGen` up; an unload leaves it.

What `dlopen` and `dlsym` answer is an input of the steps.  A handle is the number of the
load that gave it, so that two loads are kept apart even if the library comes back at the
same address.
-/

namespace HdmiCec

namespace HostPlugin

open DeviceManager (Answer)

/-! ## The variables of `Host.cpp` -/

/-- The functions that call into the plugin. -/
inductive Wrapper where
  | init
  | term
  | setCallback
  | getHdmiOuputPhysicalAddress
  | isHdmiOutputConnected
  | getPowerState
  | setDeviceStatus
  | setPowerState
  | getOSDName
  | isActive
  deriving DecidableEq

/-- `__FUNCTION__` in each of them. -/
def Wrapper.funcName : Wrapper → String
  | .init => "CECHost_Init"
  | .term => "CECHost_Term"
  | .setCallback => "CECHost_SetCallback"
  | .getHdmiOuputPhysicalAddress => "CECHost_GetHdmiOuputPhysicalAddress"
  | .isHdmiOutputConnected => "CECHost_IsHdmiOutputConnected"
  | .getPowerState => "CECHost_GetPowerState"
  | .setDeviceStatus => "CECHost_SetDeviceStatus"
  | .setPowerState => "CECHost_SetPowerState"
  | .getOSDName => "CECHost_GetOSDName"
  | .isActive => "CECHost_IsActive"

/-- A handle of `dlopen`, by the number of the successful load. -/
abbrev Handle := Nat

/-- What `dlsym` returned, with what it was asked. -/
structure Symbol where
  handle : Handle
  funcName : String
  deriving DecidableEq

/-- `dlsym(handle, funcName)`. -/
def dlsym (handle : Handle) (funcName : String) (found : Bool) : Option Symbol :=
  if found then some ⟨handle, funcName⟩ else none

/-- The two statics of a wrapper. -/
structure Statics where
  currGen : Int32
  f : Option Symbol
  deriving DecidableEq

/-- The variables of `Host.cpp`.  The statics of a wrapper come into being at its first
call.  `loads` is the number of successful loads. -/
structure Loader where
  plugin : Option Handle
  pluginGen : Int32
  statics : Wrapper → Option Statics
  loads : Nat

namespace Loader

def new : Loader where
  plugin := none
  pluginGen := 0
  statics _ := none
  loads := 0

/-- `CECHost_LoadPlugin`. -/
def loadPlugin (l : Loader) (opened : Bool) : Result (Answer Unit × Loader) :=
  match l.plugin with
  | some _ => .ok (.error .state, l)
  | none =>
      if opened then
        if l.pluginGen = Int32.maxValue then
          .error .undefined
        else
          .ok (.ok (), { l with
            plugin := some (l.loads + 1)
            pluginGen := l.pluginGen + 1
            loads := l.loads + 1 })
      else
        .ok (.error .symbol, l)

/-- `CECHost_UnloadPlugin`. -/
def unloadPlugin (l : Loader) : Answer Unit × Loader :=
  match l.plugin with
  | some _ => (.ok (), { l with plugin := none })
  | none => (.error .state, l)

/-- `_load`: its result, the statics of the wrapper behind it, and the handle that `dlsym`
was asked about, if it was asked. -/
def load (l : Loader) (statics : Statics) (funcName : String) (found : Bool) :
    Answer Unit × Statics × Option Handle :=
  match l.plugin with
  | none => (.error .state, statics, none)
  | some plugin =>
      if statics.f = none ∨ statics.currGen ≠ l.pluginGen then
        match dlsym plugin funcName found with
        | none => (.error .symbol, { statics with f := none }, some plugin)
        | some symbol => (.ok (), ⟨l.pluginGen, some symbol⟩, some plugin)
      else
        (.ok (), statics, none)

/-- The statics of the wrapper; the first call initialises them. -/
def staticsOf (l : Loader) (w : Wrapper) : Statics :=
  (l.statics w).getD ⟨l.pluginGen, none⟩

/-- The wrapper's statics have the given values from now on. -/
def put (l : Loader) (w : Wrapper) (statics : Statics) : Loader :=
  { l with statics := Function.update l.statics w (some statics) }

end Loader

/-- A call of a wrapper: what it returned, the handle that `dlsym` was asked about, the
symbol it called through, and the variables behind it. -/
structure Call where
  ret : Answer Unit
  asked : Option Handle
  callee : Option Symbol
  after : Loader

/-- The wrapper `w`.  `found` is the answer of `dlsym`, `answer` that of the plugin's
function; what the function stores behind its pointers goes straight to the caller. -/
def Loader.call (l : Loader) (w : Wrapper) (found : Bool) (answer : Answer Unit) :
    Result Call :=
  match l.load (l.staticsOf w) w.funcName found with
  | (.error e, statics, asked) => .ok ⟨.error e, asked, none, l.put w statics⟩
  | (.ok (), statics, asked) =>
      match statics.f with
      | none => .error .undefined
      | some f => .ok ⟨answer, asked, some f, l.put w statics⟩

/-! ## The runs -/

/-- A call of the loader's interface, with what the outside answers. -/
inductive Action where
  | load (opened : Bool)
  | unload
  | call (w : Wrapper) (found : Bool) (answer : Answer Unit)
  deriving DecidableEq

def step (l : Loader) : Action → Option Loader
  | .load opened => (l.loadPlugin opened).toOption.map Prod.snd
  | .unload => some l.unloadPlugin.2
  | .call w found answer => (l.call w found answer).toOption.map Call.after

def system : StepSystem Loader Action where
  initial l := l = Loader.new
  step := step

/-- No load makes the successful ones `2 ^ 31`. -/
def fewLoads (l : Loader) : Action → Prop
  | .load true => l.plugin = none → l.loads + 1 < 2 ^ 31
  | _ => True

instance (l : Loader) : DecidablePred (fewLoads l)
  | .load true => inferInstanceAs (Decidable (_ → _))
  | .load false => inferInstanceAs (Decidable True)
  | .unload => inferInstanceAs (Decidable True)
  | .call _ _ _ => inferInstanceAs (Decidable True)

/-- The steps in which nobody calls `w`. -/
def leaves (w : Wrapper) (l : Loader) (a : Action) : Prop :=
  fewLoads l a ∧ ∀ found answer, a ≠ .call w found answer

/-! ## What one call does -/

/-- The four ways through a wrapper. -/
theorem call_cases (l : Loader) (w : Wrapper) (found : Bool) (answer : Answer Unit) :
    (l.plugin = none ∧
      l.call w found answer = .ok ⟨.error .state, none, none, l.put w (l.staticsOf w)⟩) ∨
    (∃ h, l.plugin = some h ∧ found = false ∧
      l.call w found answer =
        .ok ⟨.error .symbol, some h, none, l.put w { l.staticsOf w with f := none }⟩) ∨
    (∃ h, l.plugin = some h ∧ found = true ∧
      l.call w found answer =
        .ok ⟨answer, some h, some ⟨h, w.funcName⟩,
          l.put w ⟨l.pluginGen, some ⟨h, w.funcName⟩⟩⟩) ∨
    (∃ h f, l.plugin = some h ∧ (l.staticsOf w).f = some f ∧
      (l.staticsOf w).currGen = l.pluginGen ∧
      l.call w found answer = .ok ⟨answer, none, some f, l.put w (l.staticsOf w)⟩) := by
  unfold Loader.call Loader.load
  cases hplugin : l.plugin with
  | none => exact .inl ⟨rfl, rfl⟩
  | some h =>
      right
      by_cases hask : (l.staticsOf w).f = none ∨ (l.staticsOf w).currGen ≠ l.pluginGen
      · simp only [if_pos hask]
        cases found with
        | false => exact .inl ⟨h, rfl, rfl, rfl⟩
        | true => exact .inr (.inl ⟨h, rfl, rfl, rfl⟩)
      · simp only [if_neg hask]
        cases hf : (l.staticsOf w).f with
        | none => exact absurd (.inl hf) hask
        | some f => exact .inr (.inr ⟨h, f, rfl, rfl, by_contra fun hne => hask (.inr hne), rfl⟩)

section Put

variable {l : Loader} {w w' : Wrapper} {statics : Statics}

@[simp] theorem put_plugin : (l.put w statics).plugin = l.plugin := rfl

@[simp] theorem put_pluginGen : (l.put w statics).pluginGen = l.pluginGen := rfl

@[simp] theorem put_loads : (l.put w statics).loads = l.loads := rfl

theorem put_statics_self : (l.put w statics).statics w = some statics :=
  Function.update_self ..

theorem put_statics_of_ne (hne : w' ≠ w) : (l.put w statics).statics w' = l.statics w' :=
  Function.update_of_ne hne ..

end Put

/-- A wrapper only puts its own statics. -/
theorem call_puts {l : Loader} {w : Wrapper} {found : Bool} {answer : Answer Unit}
    {c : Call} (hcall : l.call w found answer = .ok c) :
    ∃ statics, c.after = l.put w statics := by
  rcases call_cases l w found answer with
    ⟨-, hok⟩ | ⟨h, -, -, hok⟩ | ⟨h, -, -, hok⟩ | ⟨h, f, -, -, -, hok⟩ <;>
  · rw [hok] at hcall
    cases hcall
    exact ⟨_, rfl⟩

/-- Without an `f` a wrapper asks for one as soon as a plugin is loaded. -/
theorem call_asks {l : Loader} {w : Wrapper} (hf : (l.staticsOf w).f = none) {h : Handle}
    (hplugin : l.plugin = some h) (found : Bool) (answer : Answer Unit) :
    ∃ c, l.call w found answer = .ok c ∧ c.asked = some h := by
  rcases call_cases l w found answer with
    ⟨hnone, -⟩ | ⟨h', hload, -, hok⟩ | ⟨h', hload, -, hok⟩ | ⟨h', f, -, hcached, -, -⟩
  · rw [hplugin] at hnone
    cases hnone
  · exact ⟨_, hok, hload.symm.trans hplugin⟩
  · exact ⟨_, hok, hload.symm.trans hplugin⟩
  · rw [hf] at hcached
    cases hcached

/-! ## The generations -/

/-- `pluginGen` counts the loads, the loaded handle is the last one, and a cached symbol
is the wrapper's own, from the load that `currGen` counts. -/
structure Inv (l : Loader) : Prop where
  few : l.loads < 2 ^ 31
  gen : l.pluginGen = Int32.ofNat l.loads
  plugin : ∀ h, l.plugin = some h → h = l.loads
  cached : ∀ w statics f, l.statics w = some statics → statics.f = some f →
    f.funcName = w.funcName ∧ f.handle ≤ l.loads ∧ statics.currGen = Int32.ofNat f.handle

/-- Below `2 ^ 31` the counter tells the loads apart. -/
theorem gen_inj {a b : Nat} (ha : a < 2 ^ 31) (hb : b < 2 ^ 31)
    (heq : Int32.ofNat a = Int32.ofNat b) : a = b := by
  have hint : (Int32.ofNat a).toInt = (Int32.ofNat b).toInt := congrArg _ heq
  rw [Int32.toInt_ofNat_of_lt ha, Int32.toInt_ofNat_of_lt hb] at hint
  omega

theorem new_inv : Inv Loader.new where
  few := by decide
  gen := rfl
  plugin := nofun
  cached := nofun

section Inv

variable {l : Loader} {w : Wrapper}

/-- Statics that have just come into being cache nothing. -/
theorem Inv.cached_staticsOf (h : Inv l) {f : Symbol} (hf : (l.staticsOf w).f = some f) :
    f.funcName = w.funcName ∧ f.handle ≤ l.loads ∧
      (l.staticsOf w).currGen = Int32.ofNat f.handle := by
  unfold Loader.staticsOf at hf ⊢
  cases hstatics : l.statics w with
  | none =>
      rw [hstatics] at hf
      cases hf
  | some statics =>
      rw [hstatics] at hf
      exact h.cached w statics f hstatics hf

theorem Inv.put (h : Inv l) {statics : Statics}
    (hcached : ∀ f, statics.f = some f →
      f.funcName = w.funcName ∧ f.handle ≤ l.loads ∧ statics.currGen = Int32.ofNat f.handle) :
    Inv (l.put w statics) where
  few := h.few
  gen := h.gen
  plugin := h.plugin
  cached := by
    intro w' statics' f hput hf
    by_cases heq : w' = w
    · subst heq
      rw [put_statics_self] at hput
      cases hput
      exact hcached f hf
    · rw [put_statics_of_ne heq] at hput
      exact h.cached w' statics' f hput hf

theorem call_inv (h : Inv l) {found : Bool} {answer : Answer Unit} {c : Call}
    (hcall : l.call w found answer = .ok c) : Inv c.after := by
  rcases call_cases l w found answer with
    ⟨-, hok⟩ | ⟨h', -, -, hok⟩ | ⟨h', hload, -, hok⟩ | ⟨h', f, -, -, -, hok⟩
  all_goals
    rw [hok] at hcall
    cases hcall
  · exact h.put fun f hf => h.cached_staticsOf hf
  · exact h.put nofun
  · refine h.put fun f hf => ?_
    cases hf
    obtain rfl : h' = l.loads := h.plugin h' hload
    exact ⟨rfl, Nat.le_refl _, h.gen⟩
  · exact h.put fun f hf => h.cached_staticsOf hf

theorem unloadPlugin_inv (h : Inv l) : Inv l.unloadPlugin.2 := by
  unfold Loader.unloadPlugin
  split
  · exact { few := h.few, gen := h.gen, plugin := nofun, cached := h.cached }
  · exact h

/-- A load leaves the caches behind by one generation. -/
theorem loadPlugin_inv (h : Inv l) {opened : Bool} (hfew : fewLoads l (.load opened))
    {ret : Answer Unit} {l' : Loader} (hload : l.loadPlugin opened = .ok (ret, l')) :
    Inv l' := by
  unfold Loader.loadPlugin at hload
  cases hplugin : l.plugin with
  | some handle =>
      rw [hplugin] at hload
      cases hload
      exact h
  | none =>
      rw [hplugin] at hload
      cases opened with
      | false =>
          cases hload
          exact h
      | true =>
          simp only [if_true] at hload
          split at hload
          · cases hload
          · cases hload
            refine { few := hfew hplugin, gen := ?_, plugin := ?_, cached := ?_ }
            · show l.pluginGen + 1 = Int32.ofNat (l.loads + 1)
              rw [h.gen, Int32.ofNat_add]
              rfl
            · rintro handle heq
              cases heq
              rfl
            · intro w statics f hstatics hf
              obtain ⟨hname, hle, hgen⟩ := h.cached w statics f hstatics hf
              exact ⟨hname, Nat.le_succ_of_le hle, hgen⟩

theorem step_inv (h : Inv l) {a : Action} (hfew : fewLoads l a) {l' : Loader}
    (hstep : step l a = some l') : Inv l' := by
  cases a with
  | load opened =>
      rw [step] at hstep
      cases hload : l.loadPlugin opened with
      | error r =>
          rw [hload] at hstep
          cases hstep
      | ok result =>
          rw [hload] at hstep
          cases hstep
          exact loadPlugin_inv h hfew hload
  | unload =>
      cases hstep
      exact unloadPlugin_inv h
  | call w found answer =>
      rw [step] at hstep
      cases hcall : l.call w found answer with
      | error r =>
          rw [hcall] at hstep
          cases hstep
      | ok c =>
          rw [hcall] at hstep
          cases hstep
          exact call_inv h hcall

theorem reachable_inv (h : system.Reachable fewLoads l) : Inv l := by
  refine h.invariant ?_ ?_
  · rintro l rfl
    exact new_inv
  · intro l a l' _ hinv hfew hstep
    exact step_inv hinv hfew hstep

/-- The generation that a wrapper has cached is the present one only for a symbol of the
plugin that is loaded. -/
theorem Inv.current (h : Inv l) {handle : Handle} (hplugin : l.plugin = some handle)
    {f : Symbol} (hf : (l.staticsOf w).f = some f)
    (hgen : (l.staticsOf w).currGen = l.pluginGen) : f = ⟨handle, w.funcName⟩ := by
  obtain ⟨hname, hle, hcached⟩ := h.cached_staticsOf hf
  rw [hgen, h.gen] at hcached
  have hlt : f.handle < 2 ^ 31 := Nat.lt_of_le_of_lt hle h.few
  have hsame : l.loads = f.handle := gen_inj h.few hlt hcached
  obtain rfl : handle = l.loads := h.plugin handle hplugin
  cases f
  cases hname
  cases hsame
  rfl

end Inv

/-- Within the bound no step is undefined. -/
theorem step_isSome {l : Loader} (h : Inv l) {a : Action} (hfew : fewLoads l a) :
    (step l a).isSome := by
  cases a with
  | load opened =>
      rw [step, Loader.loadPlugin]
      cases hplugin : l.plugin with
      | some handle => rfl
      | none =>
          cases opened with
          | false => rfl
          | true =>
              have hgen : l.pluginGen ≠ Int32.maxValue := by
                intro heq
                have hmax : Int32.maxValue = Int32.ofNat (2 ^ 31 - 1) := by decide
                rw [h.gen, hmax] at heq
                have hlast : l.loads = 2 ^ 31 - 1 := gen_inj h.few (by decide) heq
                have hbound : l.loads + 1 < 2 ^ 31 := hfew hplugin
                omega
              simp only [if_true, if_neg hgen]
              rfl
  | unload => rfl
  | call w found answer =>
      rw [step]
      rcases call_cases l w found answer with
        ⟨-, hok⟩ | ⟨h', -, -, hok⟩ | ⟨h', -, -, hok⟩ | ⟨h', f, -, -, -, hok⟩ <;>
      · rw [hok]
        rfl

/-! ## A failed `dlsym` -/

/-- The statics exist, and `f` is null. -/
def Forgotten (w : Wrapper) (l : Loader) : Prop :=
  ∃ currGen, l.statics w = some ⟨currGen, none⟩

theorem Forgotten.staticsOf {w : Wrapper} {l : Loader} (h : Forgotten w l) :
    (l.staticsOf w).f = none := by
  obtain ⟨currGen, hstatics⟩ := h
  rw [Loader.staticsOf, hstatics]
  rfl

/-- The statics of a wrapper change in its own calls only. -/
theorem step_statics {w : Wrapper} {l l' : Loader} {a : Action} (hleaves : leaves w l a)
    (hstep : step l a = some l') : l'.statics w = l.statics w := by
  cases a with
  | load opened =>
      simp only [step, Loader.loadPlugin] at hstep
      split at hstep
      · cases hstep
        rfl
      · split at hstep
        · split at hstep
          · cases hstep
          · cases hstep
            rfl
        · cases hstep
          rfl
  | unload =>
      simp only [step, Loader.unloadPlugin] at hstep
      split at hstep <;>
      · cases hstep
        rfl
  | call w' found answer =>
      have hne : w ≠ w' := fun heq => hleaves.2 found answer (by rw [heq])
      rw [step] at hstep
      cases hcall : l.call w' found answer with
      | error r =>
          rw [hcall] at hstep
          cases hstep
      | ok c =>
          rw [hcall] at hstep
          cases hstep
          obtain ⟨statics, hafter⟩ := call_puts hcall
          show c.after.statics w = l.statics w
          rw [hafter, put_statics_of_ne hne]

/-- Until its next call a wrapper with no `f` stays so. -/
theorem Forgotten.leads {w : Wrapper} {l l' : Loader} (h : Forgotten w l)
    (hleads : system.Leads (leaves w) l l') : Forgotten w l' := by
  refine hleads.invariant ?_ h
  intro t a t' _ hforgotten hleaves hstep
  obtain ⟨currGen, hstatics⟩ := hforgotten
  exact ⟨currGen, (step_statics hleaves hstep).trans hstatics⟩

/-- In every run, a wrapper that calls through `f` calls a symbol that `dlsym` found in the
loaded plugin; without a plugin it answers `CECHost_ERR_STATE` and calls nothing; and when
`dlsym` has failed, its next call asks again, whatever happens in between. -/
theorem wrapper_calls_current {l : Loader} (h : system.Reachable fewLoads l) (w : Wrapper)
    (found : Bool) (answer : Answer Unit) :
    ∃ c, l.call w found answer = .ok c ∧
      (∀ f, c.callee = some f →
        ∃ handle, l.plugin = some handle ∧ f = ⟨handle, w.funcName⟩) ∧
      (l.plugin = none → c.ret = .error .state ∧ c.callee = none) ∧
      (c.asked ≠ none → found = false →
        c.ret = .error .symbol ∧ c.callee = none ∧
        ∀ l', system.Leads (leaves w) c.after l' → ∀ handle, l'.plugin = some handle →
          ∀ found' answer', ∃ c', l'.call w found' answer' = .ok c' ∧
            c'.asked = some handle) := by
  have hinv : Inv l := reachable_inv h
  rcases call_cases l w found answer with
    ⟨hnone, hok⟩ | ⟨handle, hload, hfound, hok⟩ | ⟨handle, hload, hfound, hok⟩ |
      ⟨handle, f, hload, hf, hgen, hok⟩
  · exact ⟨_, hok, nofun, fun _ => ⟨rfl, rfl⟩, fun hasked => absurd rfl hasked⟩
  · refine ⟨_, hok, nofun, fun hnone => ?_, fun _ _ => ⟨rfl, rfl, ?_⟩⟩
    · rw [hload] at hnone
      cases hnone
    · intro l' hleads handle' hload' found' answer'
      have hforgotten : Forgotten w (l.put w { l.staticsOf w with f := none }) :=
        ⟨_, put_statics_self⟩
      exact call_asks (hforgotten.leads hleads).staticsOf hload' found' answer'
  · refine ⟨_, hok, fun f hf => ?_, fun hnone => ?_, fun _ hfail => ?_⟩
    · cases hf
      exact ⟨handle, hload, rfl⟩
    · rw [hload] at hnone
      cases hnone
    · rw [hfound] at hfail
      cases hfail
  · refine ⟨_, hok, fun f' hf' => ?_, fun hnone => ?_, fun hasked => absurd rfl hasked⟩
    · cases hf'
      exact ⟨handle, hload, hinv.current hload hf hgen⟩
    · rw [hload] at hnone
      cases hnone

/-- A plugin is loaded and used, unloaded and loaded again; the call then asks anew, and
`dlsym` fails. -/
theorem reload_calls_current :
    ∃ l : Loader, system.Reachable fewLoads l ∧ l.plugin = some 2 ∧
      ∃ c, l.call .init false (.ok ()) = .ok c ∧ c.asked = some 2 ∧
        (∀ f, c.callee = some f →
          ∃ handle, l.plugin = some handle ∧ f = ⟨handle, "CECHost_Init"⟩) := by
  obtain ⟨l, hreach, hplugin, hstatics⟩ :=
    StepSystem.exists_reachable_of_run system fewLoads Loader.new
      [.load true, .call .init true (.ok ()), .unload, .load true]
      (fun l => l.plugin = some 2 ∧
        l.statics .init = some ⟨1, some ⟨1, "CECHost_Init"⟩⟩ ∧ l.pluginGen = 2)
      rfl (by decide)
  refine ⟨l, hreach, hplugin, ?_⟩
  obtain ⟨c, hc, hcurrent, -, -⟩ := wrapper_calls_current hreach .init false (.ok ())
  refine ⟨c, hc, ?_, hcurrent⟩
  rcases call_cases l .init false (.ok ()) with
    ⟨hnone, -⟩ | ⟨h', hload, -, hok⟩ | ⟨h', hload, hfound, hok⟩ | ⟨h', f, -, -, hgen, -⟩
  · rw [hplugin] at hnone
    cases hnone
  · rw [hok] at hc
    cases hc
    exact hload.symm.trans hplugin
  · cases hfound
  · rw [Loader.staticsOf, hstatics.1, hstatics.2] at hgen
    cases hgen

end HostPlugin

end HdmiCec
