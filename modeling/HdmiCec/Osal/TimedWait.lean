import HdmiCec.Core.Exception

/-!
# `ConditionVariable::wait` with a timeout

The wait turns a number of milliseconds into an absolute deadline: the time of
`gettimeofday` plus the timeout, in seconds and nanoseconds, with one carry.
`pthread_cond_timedwait` belongs to the C library and is a parameter.  What the
code relies on is stated in `Pthread.Documented`: a deadline whose nanoseconds
are not those of one second is refused with `EINVAL`, before the mutex is
released.
-/

namespace HdmiCec

/-! ## The integers of the platform -/

/-- The largest `long` and the largest `time_t`. -/
structure DataModel where
  longMax : Int
  timeMax : Int
  long_wide : 2147483647 ≤ longMax
  time_wide : longMax ≤ timeMax

namespace DataModel

/-- Both types have 64 bits. -/
def lp64 : DataModel where
  longMax := 9223372036854775807
  timeMax := 9223372036854775807
  long_wide := by decide
  time_wide := by decide

variable (p : DataModel)

/-- The result of an operation on `long`s; overflow is undefined. -/
def long (x : Int) : Result Int :=
  if -p.longMax - 1 ≤ x ∧ x ≤ p.longMax then .ok x else .error .undefined

/-- The result of an operation on `time_t`s; overflow is undefined. -/
def time (x : Int) : Result Int :=
  if -p.timeMax - 1 ≤ x ∧ x ≤ p.timeMax then .ok x else .error .undefined

variable {p} {x : Int}

/-- Every platform's `long` has 32 bits. -/
theorem long_of_range (hlower : -2147483648 ≤ x) (hupper : x ≤ 2147483647) :
    p.long x = .ok x := by
  have hwide := p.long_wide
  exact if_pos ⟨by omega, by omega⟩

theorem time_of_range (hlower : -p.timeMax - 1 ≤ x) (hupper : x ≤ p.timeMax) :
    p.time x = .ok x :=
  if_pos ⟨hlower, hupper⟩

theorem time_overflows (hupper : p.timeMax < x) : p.time x = .error .undefined := by
  apply if_neg
  omega

end DataModel

/-- An argument of type `long`. -/
structure Long (p : DataModel) where
  val : Int
  lower : -p.longMax - 1 ≤ val
  upper : val ≤ p.longMax

/-- A `struct timeval` as `gettimeofday` fills it. -/
structure Timeval (p : DataModel) where
  tv_sec : Int
  tv_usec : Int
  sec_lower : -p.timeMax - 1 ≤ tv_sec
  sec_upper : tv_sec ≤ p.timeMax
  usec_lower : 0 ≤ tv_usec
  usec_upper : tv_usec ≤ 999999

/-- A `struct timespec`. -/
structure Timespec where
  tv_sec : Int
  tv_nsec : Int
  deriving DecidableEq, Repr

/-- What `pthread_cond_timedwait` accepts as a deadline. -/
def Timespec.Valid (t : Timespec) : Prop :=
  0 ≤ t.tv_nsec ∧ t.tv_nsec < 1000000000

instance (t : Timespec) : Decidable t.Valid :=
  inferInstanceAs (Decidable (_ ∧ _))

/-- The nanoseconds since the epoch. -/
def Timespec.nanoseconds (t : Timespec) : Int :=
  t.tv_sec * 1000000000 + t.tv_nsec

def Timeval.nanoseconds {p : DataModel} (t : Timeval p) : Int :=
  (t.tv_sec * 1000000 + t.tv_usec) * 1000

/-! ## What the C library provides -/

/-- The results of `pthread_cond_timedwait` that matter here. -/
inductive WaitError where
  /-- `0`: the thread was woken. -/
  | none
  | etimedout
  | einval
  deriving DecidableEq, Repr

/-- The two waiting functions.  Each takes the flag of the `Condition` as it is
when the mutex is released, and gives the flag as it is when the mutex is held
again. -/
structure Pthread where
  condWait (cond : Bool) : Bool
  condTimedwait (abstime : Timespec) (cond : Bool) : WaitError × Bool

/-- `pthread_cond_timedwait` waits until it is woken or the deadline has passed,
and refuses a malformed deadline at once. -/
structure Pthread.Documented (native : Pthread) : Prop where
  accepts : ∀ abstime cond, abstime.Valid →
    (native.condTimedwait abstime cond).1 = .none ∨
      (native.condTimedwait abstime cond).1 = .etimedout
  rejects : ∀ abstime cond, ¬ abstime.Valid →
    native.condTimedwait abstime cond = (.einval, cond)

/-- Nobody signals, so that a wait lasts until its deadline. -/
def Pthread.quiet : Pthread where
  condWait cond := cond
  condTimedwait abstime cond := (if abstime.Valid then .etimedout else .einval, cond)

theorem Pthread.quiet_documented : Pthread.quiet.Documented where
  accepts _ _ hvalid := .inr (if_pos hvalid)
  rejects _ _ hvalid := Prod.ext (if_neg hvalid) rfl

/-! ## The wait -/

variable {p : DataModel}

/-- The lines of `wait` that fill `wakeTime`. -/
def wakeTime (curTime : Timeval p) (timeout : Long p) : Result Timespec := do
  let fromClock ← p.long (curTime.tv_usec * 1000)
  let fromTimeout ← p.long (timeout.val.tmod 1000 * 1000000)
  let tv_nsec ← p.long (fromClock + fromTimeout)
  let tv_sec ← p.time (curTime.tv_sec + timeout.val.tdiv 1000)
  if tv_nsec > 1000000000 then
    let tv_sec ← p.time (tv_sec + 1)
    return ⟨tv_sec, tv_nsec - 1000000000⟩
  else
    return ⟨tv_sec, tv_nsec⟩

/-- What a call of `wait` returns, the flag at that time, and the deadline that
`pthread_cond_timedwait` was given with its answer. -/
structure Waited where
  timeLeft : Int
  cond : Bool
  slept : Option (Timespec × WaitError)
  deriving DecidableEq, Repr

/-- `ConditionVariable::wait(long)`. -/
def timedWait (native : Pthread) (curTime : Timeval p) (cond : Bool) (timeout : Long p) :
    Result Waited :=
  if cond then
    .ok ⟨1, cond, none⟩
  else if timeout.val = 0 then
    .ok ⟨1, native.condWait cond, none⟩
  else do
    let wakeTime ← wakeTime curTime timeout
    let (ret, cond) := native.condTimedwait wakeTime cond
    let timeLeft := if ret ≠ .none ∧ cond = false ∧ ret = .etimedout then 0 else 1
    return ⟨timeLeft, cond, some (wakeTime, ret)⟩

/-! ## The deadline -/

/-- The microseconds that the clock's fraction of a second and the timeout's add
up to. -/
def subsecond (curTime : Timeval p) (timeout : Long p) : Int :=
  curTime.tv_usec + timeout.val % 1000 * 1000

/-- The whole second in which the wait is to end. -/
def deadlineSecond (curTime : Timeval p) (timeout : Long p) : Int :=
  curTime.tv_sec + (curTime.tv_usec + timeout.val * 1000) / 1000000

/-- The timespec that denotes the current time plus the timeout. -/
def DenotesDeadline (curTime : Timeval p) (timeout : Long p) (d : Timespec) : Prop :=
  d.Valid ∧ d.nanoseconds = curTime.nanoseconds + timeout.val * 1000000

section Deadline

variable {curTime : Timeval p} {timeout : Long p}

theorem subsecond_nonneg : 0 ≤ subsecond curTime timeout := by
  have hclock := curTime.usec_lower
  unfold subsecond
  omega

theorem subsecond_lt : subsecond curTime timeout < 2000000 := by
  have hclock := curTime.usec_upper
  unfold subsecond
  omega

/-- The fraction carries at most one second. -/
theorem deadlineSecond_eq :
    deadlineSecond curTime timeout =
      curTime.tv_sec + timeout.val / 1000 +
        if 1000000 ≤ subsecond curTime timeout then 1 else 0 := by
  have hnonneg : 0 ≤ subsecond curTime timeout := subsecond_nonneg
  have hlt : subsecond curTime timeout < 2000000 := subsecond_lt
  unfold deadlineSecond
  split <;> rename_i hcarry <;> unfold subsecond at * <;> omega

/-- No product or sum of nanoseconds leaves `long`; only the seconds can. -/
theorem wakeTime_eq (hpos : 0 < timeout.val) :
    wakeTime curTime timeout = (do
      let tv_sec ← p.time (curTime.tv_sec + timeout.val / 1000)
      if subsecond curTime timeout > 1000000 then
        let tv_sec ← p.time (tv_sec + 1)
        return ⟨tv_sec, subsecond curTime timeout * 1000 - 1000000000⟩
      else
        return ⟨tv_sec, subsecond curTime timeout * 1000⟩) := by
  have hlower := curTime.usec_lower
  have hupper := curTime.usec_upper
  have hmod : timeout.val.tmod 1000 = timeout.val % 1000 :=
    Int.tmod_eq_emod_of_nonneg (by omega)
  have hdiv : timeout.val.tdiv 1000 = timeout.val / 1000 :=
    Int.tdiv_eq_ediv_of_nonneg (by omega)
  have hsum : curTime.tv_usec * 1000 + timeout.val % 1000 * 1000000 =
      subsecond curTime timeout * 1000 := by
    unfold subsecond
    omega
  have hclock : p.long (curTime.tv_usec * 1000) = .ok (curTime.tv_usec * 1000) :=
    DataModel.long_of_range (by omega) (by omega)
  have htimeout : p.long (timeout.val % 1000 * 1000000) =
      .ok (timeout.val % 1000 * 1000000) :=
    DataModel.long_of_range (by omega) (by omega)
  have hnsec : p.long (subsecond curTime timeout * 1000) =
      .ok (subsecond curTime timeout * 1000) := by
    have hnonneg : 0 ≤ subsecond curTime timeout := subsecond_nonneg
    have hlt : subsecond curTime timeout < 2000000 := subsecond_lt
    exact DataModel.long_of_range (by omega) (by omega)
  have hcarry : subsecond curTime timeout * 1000 > 1000000000 ↔
      subsecond curTime timeout > 1000000 := by
    omega
  unfold wakeTime
  rw [hmod, hdiv, hclock, htimeout]
  simp only [Result.ok_bind]
  rw [hsum, hnsec]
  simp only [Result.ok_bind, hcarry]

/-- Seconds and fraction together are the current time plus the timeout. -/
theorem seconds_add_subsecond :
    (curTime.tv_sec + timeout.val / 1000) * 1000000000 + subsecond curTime timeout * 1000 =
      curTime.nanoseconds + timeout.val * 1000000 := by
  unfold Timeval.nanoseconds subsecond
  omega

/-- The deadline's second is no smaller than the clock's, which fits. -/
theorem second_lower (hpos : 0 < timeout.val) :
    -p.timeMax - 1 ≤ curTime.tv_sec + timeout.val / 1000 := by
  have hsec := curTime.sec_lower
  omega

/-- Off the whole second the one comparison carries exactly when it should. -/
theorem wakeTime_denotes (hpos : 0 < timeout.val)
    (hfits : deadlineSecond curTime timeout ≤ p.timeMax)
    (hoff : subsecond curTime timeout ≠ 1000000) :
    ∃ d, wakeTime curTime timeout = .ok d ∧ DenotesDeadline curTime timeout d := by
  have hlower : -p.timeMax - 1 ≤ curTime.tv_sec + timeout.val / 1000 := second_lower hpos
  have hnonneg : 0 ≤ subsecond curTime timeout := subsecond_nonneg
  have hlt : subsecond curTime timeout < 2000000 := subsecond_lt
  have hsum : (curTime.tv_sec + timeout.val / 1000) * 1000000000 +
      subsecond curTime timeout * 1000 = curTime.nanoseconds + timeout.val * 1000000 :=
    seconds_add_subsecond
  rw [deadlineSecond_eq] at hfits
  have hsec : p.time (curTime.tv_sec + timeout.val / 1000) =
      .ok (curTime.tv_sec + timeout.val / 1000) := by
    apply DataModel.time_of_range hlower
    split at hfits <;> omega
  rw [wakeTime_eq hpos, hsec, Result.ok_bind]
  by_cases hcarry : subsecond curTime timeout > 1000000
  · rw [if_pos (by omega)] at hfits
    rw [if_pos hcarry, DataModel.time_of_range (by omega) hfits]
    refine ⟨_, rfl, ⟨?_, ?_⟩, ?_⟩
    · show 0 ≤ subsecond curTime timeout * 1000 - 1000000000
      omega
    · show subsecond curTime timeout * 1000 - 1000000000 < 1000000000
      omega
    · show (curTime.tv_sec + timeout.val / 1000 + 1) * 1000000000 +
          (subsecond curTime timeout * 1000 - 1000000000) = _
      omega
  · rw [if_neg hcarry]
    refine ⟨_, rfl, ⟨?_, ?_⟩, ?_⟩
    · show 0 ≤ subsecond curTime timeout * 1000
      omega
    · show subsecond curTime timeout * 1000 < 1000000000
      omega
    · exact hsum

/-- On the whole second the comparison misses: what is passed has a full second
of nanoseconds. -/
theorem wakeTime_malformed (hpos : 0 < timeout.val)
    (hwhole : subsecond curTime timeout = 1000000) {d : Timespec}
    (hd : wakeTime curTime timeout = .ok d) : d.tv_nsec = 1000000000 := by
  rw [wakeTime_eq hpos, hwhole] at hd
  cases hsec : p.time (curTime.tv_sec + timeout.val / 1000) with
  | error r =>
      rw [hsec] at hd
      cases hd
  | ok sec =>
      rw [hsec] at hd
      cases hd
      rfl

/-- A deadline outside `time_t` is never denoted. -/
theorem wakeTime_overflows (hpos : 0 < timeout.val)
    (hfits : p.timeMax < deadlineSecond curTime timeout)
    (hoff : subsecond curTime timeout ≠ 1000000) :
    wakeTime curTime timeout = .error .undefined := by
  have hlower : -p.timeMax - 1 ≤ curTime.tv_sec + timeout.val / 1000 := second_lower hpos
  rw [deadlineSecond_eq] at hfits
  rw [wakeTime_eq hpos]
  by_cases hsec : curTime.tv_sec + timeout.val / 1000 ≤ p.timeMax
  · have hcarry : subsecond curTime timeout > 1000000 := by
      split at hfits <;> omega
    rw [if_pos (by omega)] at hfits
    rw [DataModel.time_of_range hlower hsec, Result.ok_bind, if_pos hcarry,
      DataModel.time_overflows hfits]
    rfl
  · rw [DataModel.time_overflows (by omega)]
    rfl

end Deadline

/-! ## What the caller is told -/

/-- The wait returns; unless the condition was set already, it slept until the
deadline it was asked for; and it reports success only when the condition was set
or the thread was woken. -/
def WaitsProperly (curTime : Timeval p) (timeout : Long p) : Prop :=
  ∀ native : Pthread, native.Documented → ∀ cond, ∃ w,
    timedWait native curTime cond timeout = .ok w ∧
      (cond = false → ∃ d ret, w.slept = some (d, ret) ∧ DenotesDeadline curTime timeout d) ∧
      (w.timeLeft = 1 →
        cond = true ∨ w.cond = true ∨ ∃ d, w.slept = some (d, .none))

section Answer

variable {native : Pthread} {curTime : Timeval p} {timeout : Long p}

theorem timedWait_set : timedWait native curTime true timeout = .ok ⟨1, true, none⟩ :=
  if_pos rfl

theorem timedWait_clear (hpos : 0 < timeout.val) :
    timedWait native curTime false timeout = (do
      let d ← wakeTime curTime timeout
      return ⟨if (native.condTimedwait d false).1 ≠ .none ∧
          (native.condTimedwait d false).2 = false ∧
          (native.condTimedwait d false).1 = .etimedout then 0 else 1,
        (native.condTimedwait d false).2, some (d, (native.condTimedwait d false).1)⟩) := by
  have hne : timeout.val ≠ 0 := by omega
  unfold timedWait
  rw [if_neg Bool.false_ne_true, if_neg hne]

/-- A wait with a deadline the library accepts tells the truth. -/
theorem waitsProperly_of_denotes (hpos : 0 < timeout.val) {d : Timespec}
    (hd : wakeTime curTime timeout = .ok d) (hdenotes : DenotesDeadline curTime timeout d) :
    WaitsProperly curTime timeout := by
  intro native hnative cond
  cases cond with
  | true => exact ⟨_, timedWait_set, nofun, fun _ => .inl rfl⟩
  | false =>
      rw [timedWait_clear hpos, hd]
      refine ⟨_, rfl, fun _ => ⟨d, _, rfl, hdenotes⟩, fun hone => .inr ?_⟩
      rcases hnative.accepts d false hdenotes.1 with hret | hret
      · exact .inr ⟨d, by rw [hret]⟩
      · left
        change (if _ then (0 : Int) else 1) = 1 at hone
        rw [hret] at hone
        show (native.condTimedwait d false).2 = true
        cases hset : (native.condTimedwait d false).2 with
        | true => rfl
        | false =>
            rw [hset, if_pos ⟨nofun, rfl, rfl⟩] at hone
            cases hone

/-- A wait with no valid deadline fails already when nobody signals. -/
theorem denotes_of_waitsProperly (hpos : 0 < timeout.val)
    (hproper : WaitsProperly curTime timeout) :
    ∃ d, wakeTime curTime timeout = .ok d ∧ DenotesDeadline curTime timeout d := by
  obtain ⟨w, hw, hslept, -⟩ := hproper Pthread.quiet Pthread.quiet_documented false
  obtain ⟨d, ret, hsome, hdenotes⟩ := hslept rfl
  rw [timedWait_clear hpos] at hw
  cases hwake : wakeTime curTime timeout with
  | error r =>
      rw [hwake] at hw
      cases hw
  | ok d' =>
      rw [hwake] at hw
      cases hw
      cases hsome
      exact ⟨d, rfl, hdenotes⟩

end Answer

/-- The wait keeps its promise exactly when the clock's fraction of a second and
the timeout's do not add up to one whole second and the deadline fits `time_t`. -/
theorem waitsProperly_iff (p : DataModel) (curTime : Timeval p) (timeout : Long p)
    (hpos : 0 < timeout.val) :
    WaitsProperly curTime timeout ↔
      curTime.tv_usec + timeout.val % 1000 * 1000 ≠ 1000000 ∧
        curTime.tv_sec + (curTime.tv_usec + timeout.val * 1000) / 1000000 ≤ p.timeMax := by
  show _ ↔ subsecond curTime timeout ≠ 1000000 ∧ deadlineSecond curTime timeout ≤ p.timeMax
  constructor
  · intro hproper
    obtain ⟨d, hd, hvalid, -⟩ := denotes_of_waitsProperly hpos hproper
    have hoff : subsecond curTime timeout ≠ 1000000 := by
      intro hwhole
      have hnsec : d.tv_nsec = 1000000000 := wakeTime_malformed hpos hwhole hd
      have hlt := hvalid.2
      omega
    refine ⟨hoff, Int.not_lt.mp fun hover => ?_⟩
    rw [wakeTime_overflows hpos hover hoff] at hd
    cases hd
  · rintro ⟨hoff, hfits⟩
    obtain ⟨d, hd, hdenotes⟩ := wakeTime_denotes hpos hfits hoff
    exact waitsProperly_of_denotes hpos hd hdenotes

/-- Half a second past a full one. -/
def halfPast : Timeval .lp64 :=
  ⟨1500000000, 500000, by decide, by decide, by decide, by decide⟩

/-- Then a wait of 750 ms carries, and a wait of 499 ms does not. -/
theorem waitsProperly_halfPast :
    WaitsProperly halfPast ⟨750, by decide, by decide⟩ ∧
      WaitsProperly halfPast ⟨499, by decide, by decide⟩ :=
  ⟨(waitsProperly_iff .lp64 halfPast ⟨750, by decide, by decide⟩ (by decide)).mpr
      ⟨by decide, by decide⟩,
    (waitsProperly_iff .lp64 halfPast ⟨499, by decide, by decide⟩ (by decide)).mpr
      ⟨by decide, by decide⟩⟩

/-- A wait of 500 ms is refused there and reported as a success, although no
condition is set and nobody woke the thread. -/
theorem wait_500_not_proper :
    timedWait Pthread.quiet halfPast false ⟨500, by decide, by decide⟩ =
        .ok ⟨1, false, some (⟨1500000000, 1000000000⟩, .einval)⟩ ∧
      ¬ WaitsProperly halfPast ⟨500, by decide, by decide⟩ := by
  refine ⟨rfl, fun hproper => ?_⟩
  obtain ⟨d, hd, hvalid, -⟩ := denotes_of_waitsProperly (by decide) hproper
  have hnsec : d.tv_nsec = 1000000000 := wakeTime_malformed (by decide) (by decide) hd
  have hlt := hvalid.2
  omega

end HdmiCec
