import HdmiCec.Host.DeviceStatus

/-!
# The host's own OSD name

The plugin keeps the OSD name of the host in `osdName`, "a properly NULL-terminated cache of
the lastly set OSD name".  Applications set it with an array of 15 bytes, which may have no
terminator at all.  `strncmp` compares all 15 bytes of it, `strncpy` copies 14, and the last
byte of the cache is cleared before the copy.

The first statement of the handler is a log line at the level of debugging that prints the
array as a string.  Where that level is printed, an array without a terminator is read behind
its end before it is looked at; everywhere else the handler stands it.
-/

namespace HdmiCec

namespace Host

/-! ## What other packages provide -/

/-- `MEMCPY_S(dest, destSize, src, len)`, when the caller says how large `dest` is. -/
structure MemcpyBuf where
  copy (destSize : Nat) (dest src : List UInt8) (len : Nat) : List UInt8

/-- A copy that fits the stated size and both buffers replaces the first `len` bytes. -/
structure MemcpyBuf.Copies (memcpyS : MemcpyBuf) : Prop where
  fits : ∀ (destSize : Nat) (dest src : List UInt8) (len : Nat),
    len ≤ destSize → len ≤ dest.length → len ≤ src.length →
      memcpyS.copy destSize dest src len = src.take len ++ dest.drop len

/-- A plain copy. -/
def MemcpyBuf.plain : MemcpyBuf where
  copy _ dest src len := src.take len ++ dest.drop len

theorem MemcpyBuf.plain_copies : MemcpyBuf.plain.Copies where
  fits _ _ _ _ _ _ _ := rfl

/-! ## The functions -/

/-- What the bytes say, up to the terminator if there is one. -/
def text (bytes : List UInt8) : List UInt8 := bytes.takeWhile (· != 0)

/-- The array has a terminator. -/
def Terminated (bytes : List UInt8) : Prop := 0 ∈ bytes

instance (bytes : List UInt8) : Decidable (Terminated bytes) :=
  inferInstanceAs (Decidable (_ ∈ _))

/-- `strlen` of an array; without a terminator it reads on behind the array. -/
def strlen (bytes : List UInt8) : Result Nat :=
  if Terminated bytes then .ok (text bytes).length else .error .undefined

/-- The log line `"…%s::%s"` at `LOG_DEBUG`: `%s` reads up to the terminator. -/
def logNames (cec_log_level : Int) (name osdName : List UInt8) : Result Unit :=
  LogLines.ccecFormat LogLines.logDebug cec_log_level do
    let _ ← strlen name
    let _ ← strlen osdName

/-- `"SettopBox"`, with which the cache begins. -/
def settopBox : OsdName :=
  #v[0x53, 0x65, 0x74, 0x74, 0x6F, 0x70, 0x42, 0x6F, 0x78, 0, 0, 0, 0, 0, 0]

/-- A call of `_SetOSDName`: the cache behind it, and the texts that `osdCb` was called
with. -/
structure NameCall where
  osdName : OsdName
  notified : List (List UInt8)
  deriving DecidableEq

/-- `_SetOSDName`; `osdCb` says whether that callback is registered. -/
def setOSDName (cec_log_level : Int) (osdCb : Bool) (osdName name : OsdName) :
    Result NameCall := do
  logNames cec_log_level name.toList osdName.toList
  if !strncmpEqual osdName name maxLengthOfOsdName then
    let osdName := osdName.set 14 0
    let osdName := strncpy osdName name (maxLengthOfOsdName - 1)
    if osdCb then
      let len ← strlen osdName.toList
      return { osdName := osdName, notified := [osdName.toList.take len] }
    else
      return { osdName := osdName, notified := [] }
  else
    return { osdName := osdName, notified := [] }

/-- `_GetOSDName`: the result, and the array of the parameter block behind the call. -/
def getOSDName (memcpyS : MemcpyBuf) (cec_log_level : Int) (osdName : OsdName)
    (arg : Option OsdName) : Result (IARM_Result_t × Option (List UInt8)) :=
  match arg with
  | some name => do
      let name :=
        memcpyS.copy maxLengthOfOsdName name.toList osdName.toList maxLengthOfOsdName
      logNames cec_log_level name osdName.toList
      return (.success, some name)
  | none => return (.invalidParam, none)

/-- `CECHost_GetOSDName(uint8_t *buf, size_t *len)`: the buffer and the length that it
leaves.  `len` is read before it is looked at. -/
def cecHostGetOSDName (memcpyS : MemcpyBuf) (osdName : OsdName) (buf : Option (List UInt8))
    (len : Option Nat) : Result (DeviceManager.Answer (List UInt8 × Nat)) :=
  match len with
  | none => .error .undefined
  | some bufSize =>
      match buf with
      | none => .ok (.error .invalid)
      | some buf =>
          if bufSize = 0 then
            .ok (.error .invalid)
          else do
            let nameLen ← strlen osdName.toList
            let len := if bufSize > nameLen then nameLen else bufSize
            return .ok (memcpyS.copy (bufSize + 1) buf osdName.toList len, len)

/-! ## Strings in the arrays -/

theorem cString_eq_text (name : OsdName) :
    cString name maxLengthOfOsdName = text name.toList := by
  rw [cString, List.take_of_length_le (Nat.le_of_eq Vector.length_toList)]
  rfl

/-- One byte less is the text, cut to fourteen. -/
theorem cString_cut (name : OsdName) :
    cString name (maxLengthOfOsdName - 1) = (text name.toList).take 14 := by
  rw [text, List.take_takeWhile]
  rfl

theorem strncmpEqual_iff (a b : OsdName) :
    strncmpEqual a b maxLengthOfOsdName = true ↔ text a.toList = text b.toList := by
  rw [strncmpEqual, cString_eq_text, cString_eq_text, beq_iff_eq]

theorem text_length_le (name : OsdName) : (text name.toList).length ≤ 15 := by
  have hsub := (List.takeWhile_prefix (l := name.toList) (· != 0)).length_le
  rw [Vector.length_toList] at hsub
  exact hsub

/-- What `strncpy` of fourteen bytes makes of an array whose last byte is zero: the string,
and zeroes up to the end. -/
theorem strncpy_toList {dest : OsdName} (hlast : dest[14] = 0) (src : OsdName) :
    (strncpy dest src (maxLengthOfOsdName - 1)).toList =
      (text src.toList).take 14 ++
        List.replicate (15 - ((text src.toList).take 14).length) 0 := by
  have hcut : ((text src.toList).take 14).length ≤ 14 := by
    rw [List.length_take]
    omega
  apply List.ext_getElem
  · rw [Vector.length_toList, List.length_append, List.length_replicate]
    show 15 = _
    omega
  · intro i hi _
    rw [Vector.length_toList] at hi
    have hget : (strncpy dest src (maxLengthOfOsdName - 1))[i] =
        if i < 14 then (cString src (maxLengthOfOsdName - 1)).getD i 0 else dest[i] :=
      Vector.getElem_ofFn ..
    have hend : i < 15 := hi
    rw [Vector.getElem_toList]
    refine hget.trans ?_
    rw [cString_cut]
    by_cases hin : i < ((text src.toList).take 14).length
    · rw [if_pos (by omega), List.getElem_append_left hin, List.getD_eq_getElem?_getD,
        List.getElem?_eq_getElem hin]
      rfl
    · rw [List.getElem_append_right (Nat.not_lt.mp hin), List.getElem_replicate]
      split
      · rw [List.getD_eq_getElem?_getD, List.getElem?_eq_none (Nat.not_lt.mp hin)]
        rfl
      · have hlastIndex : i = 14 := by omega
        subst hlastIndex
        exact hlast

/-- A string followed by zeroes says the string. -/
theorem text_padded {s : List UInt8} (hs : ∀ byte ∈ s, byte ≠ 0) {n : Nat} (hn : 0 < n) :
    text (s ++ List.replicate n 0) = s := by
  obtain ⟨m, rfl⟩ : ∃ m, n = m + 1 := ⟨n - 1, by omega⟩
  rw [text, List.takeWhile_append_of_pos, List.replicate_succ, List.takeWhile_cons_of_neg]
  · exact List.append_nil s
  · decide
  · intro byte hbyte
    rw [bne_iff_ne]
    exact hs byte hbyte

theorem text_ne_zero {bytes : List UInt8} {byte : UInt8} (hbyte : byte ∈ text bytes) :
    byte ≠ 0 := by
  have hall := List.all_eq_true.mp (List.all_takeWhile (l := bytes) (p := (· != 0))) byte hbyte
  rw [bne_iff_ne] at hall
  exact hall

/-- What is read up to the terminator is a front part of the bytes. -/
theorem take_text_length (bytes : List UInt8) : bytes.take (text bytes).length = text bytes :=
  (List.prefix_iff_eq_take.mp (List.takeWhile_prefix _)).symm

/-- A terminator leaves fourteen bytes at most for the text. -/
theorem Terminated.text_length {name : OsdName} (h : Terminated name.toList) :
    (text name.toList).length ≤ 14 := by
  have hle := text_length_le name
  by_contra hlong
  have hwhole : text name.toList = name.toList := by
    apply (List.takeWhile_prefix (· != 0)).eq_of_length
    rw [Vector.length_toList]
    show (text name.toList).length = 15
    omega
  have hzero : 0 ∈ text name.toList := by
    rw [hwhole]
    exact h
  exact text_ne_zero hzero rfl

theorem strlen_eq {bytes : List UInt8} (h : Terminated bytes) :
    strlen bytes = .ok (text bytes).length :=
  if_pos h

/-- The log line reads inside of the arrays if both are terminated, or if it is not printed. -/
theorem logNames_returns {cec_log_level : Int} {name osdName : List UInt8}
    (hterminated : Terminated osdName)
    (hreadable : LogLines.isPrinted LogLines.logDebug cec_log_level = true → Terminated name) :
    logNames cec_log_level name osdName = .ok () := by
  rw [logNames, LogLines.ccecFormat]
  split
  · next hprinted =>
    rw [strlen_eq (hreadable hprinted), Result.ok_bind, strlen_eq hterminated]
    rfl
  · rfl

/-- It reads behind an array without a terminator. -/
theorem logNames_undefined {cec_log_level : Int} {name : List UInt8} (osdName : List UInt8)
    (hprinted : LogLines.isPrinted LogLines.logDebug cec_log_level = true)
    (hunterminated : ¬ Terminated name) :
    logNames cec_log_level name osdName = .error .undefined := by
  rw [logNames, LogLines.ccecFormat, if_pos hprinted, strlen, if_neg hunterminated]
  rfl

/-! ## One call -/

/-- The array behind the two stores of the handler. -/
def cachedName (osdName name : OsdName) : OsdName :=
  strncpy (osdName.set 14 0) name (maxLengthOfOsdName - 1)

/-- What the handler stores of a name is terminated and says what the name says, up to
fourteen bytes. -/
theorem stored_text (osdName name : OsdName) :
    Terminated (cachedName osdName name).toList ∧
      text (cachedName osdName name).toList = (text name.toList).take 14 := by
  have hlast : (osdName.set 14 0)[14] = 0 := Vector.getElem_set_self ..
  have hpos : 0 < 15 - ((text name.toList).take 14).length := by
    rw [List.length_take]
    omega
  rw [Terminated, cachedName, strncpy_toList hlast name]
  constructor
  · exact List.mem_append_right _ (List.mem_replicate.mpr ⟨by omega, rfl⟩)
  · exact text_padded (fun byte hbyte => text_ne_zero (List.mem_of_mem_take hbyte)) hpos

/-- What the handler leaves of a call with `name`: a terminated cache that says what the array
says, up to fourteen bytes, and one call of `osdCb` for each new text, but none for a name
that the cache says already. -/
structure CachesName (osdCb : Bool) (osdName name : OsdName) (call : NameCall) : Prop where
  terminated : Terminated call.osdName.toList
  text_eq : text call.osdName.toList = (text name.toList).take 14
  announced : text call.osdName.toList ≠ text osdName.toList →
    call.notified = if osdCb then [text call.osdName.toList] else []
  silent : Terminated name.toList → text name.toList = text osdName.toList → call.notified = []

section Call

variable {cec_log_level : Int} (osdCb : Bool) {osdName name : OsdName}

theorem setOSDName_stores (hlog : logNames cec_log_level name.toList osdName.toList = .ok ())
    (hdiffers : (!strncmpEqual osdName name maxLengthOfOsdName) = true) :
    setOSDName cec_log_level osdCb osdName name =
      if osdCb then do
        let len ← strlen (cachedName osdName name).toList
        return { osdName := cachedName osdName name
                 notified := [(cachedName osdName name).toList.take len] }
      else
        return { osdName := cachedName osdName name, notified := [] } := by
  rw [setOSDName, hlog, Result.ok_bind, if_pos hdiffers]
  rfl

/-- A call with a name that the cache does not say: it is stored, and announced once. -/
theorem setOSDName_other (hlog : logNames cec_log_level name.toList osdName.toList = .ok ())
    (hother : text osdName.toList ≠ text name.toList) :
    ∃ call, setOSDName cec_log_level osdCb osdName name = .ok call ∧
      CachesName osdCb osdName name call := by
  obtain ⟨hterminated, htext⟩ := stored_text osdName name
  have hdiffers : (!strncmpEqual osdName name maxLengthOfOsdName) = true := by
    rw [Bool.not_eq_true', ← Bool.not_eq_true, strncmpEqual_iff]
    exact hother
  refine ⟨{ osdName := cachedName osdName name
            notified := if osdCb then [text (cachedName osdName name).toList] else [] },
    ?_, hterminated, htext, fun _ => rfl, fun _ hsame => absurd hsame.symm hother⟩
  rw [setOSDName_stores osdCb hlog hdiffers]
  cases osdCb with
  | false => rfl
  | true => simp only [if_true, strlen_eq hterminated, Result.ok_bind, take_text_length,
      Result.pure_eq]

/-- A call with the name that the cache says changes nothing and is not announced. -/
theorem setOSDName_same (hlog : logNames cec_log_level name.toList osdName.toList = .ok ())
    (hsame : text osdName.toList = text name.toList) :
    setOSDName cec_log_level osdCb osdName name = .ok { osdName := osdName, notified := [] } := by
  have hdiffers : ¬ (!strncmpEqual osdName name maxLengthOfOsdName) = true := by
    rw [Bool.not_eq_true', Bool.not_eq_false, strncmpEqual_iff]
    exact hsame
  rw [setOSDName, hlog, Result.ok_bind, if_neg hdiffers]
  rfl

/-- Behind its log line the handler caches every name. -/
theorem setOSDName_caches (hterminated : Terminated osdName.toList)
    (hlog : logNames cec_log_level name.toList osdName.toList = .ok ()) :
    ∃ call, setOSDName cec_log_level osdCb osdName name = .ok call ∧
      CachesName osdCb osdName name call := by
  by_cases hsame : text osdName.toList = text name.toList
  · refine ⟨_, setOSDName_same osdCb hlog hsame, hterminated, ?_,
      fun hchanged => absurd rfl hchanged, fun _ _ => rfl⟩
    rw [← hsame, List.take_of_length_le hterminated.text_length]
  · exact setOSDName_other osdCb hlog hsame

end Call

/-! ## The runs -/

/-- A call of `_SetOSDName`: the level of the log at the time, whether `osdCb` is registered,
and the array. -/
structure NameRequest where
  cec_log_level : Int
  osdCb : Bool
  name : OsdName

/-- The cache, or what has become of the process. -/
def nameSystem : StepSystem (Result OsdName) NameRequest where
  initial state := state = .ok settopBox
  step state request :=
    match state with
    | .ok osdName =>
        some ((setOSDName request.cec_log_level request.osdCb osdName request.name).map
          NameCall.osdName)
    | .error _ => none

/-- The array is terminated, or it is not printed. -/
def Readable (_ : Result OsdName) (request : NameRequest) : Prop :=
  LogLines.isPrinted LogLines.logDebug request.cec_log_level = true →
    Terminated request.name.toList

instance (state : Result OsdName) (request : NameRequest) : Decidable (Readable state request) :=
  inferInstanceAs (Decidable (_ → _))

/-- As long as the arrays are readable, the cache stays there and stays terminated. -/
theorem reachable_terminated {state : Result OsdName} (h : nameSystem.Reachable Readable state) :
    ∃ osdName, state = .ok osdName ∧ Terminated osdName.toList := by
  refine h.invariant (I := fun state => ∃ osdName, state = .ok osdName ∧
    Terminated osdName.toList) ?_ ?_
  · rintro state rfl
    exact ⟨settopBox, rfl, by decide⟩
  · rintro state ⟨level, osdCb, name⟩ state' - ⟨osdName, rfl, hterminated⟩ hreadable hstep
    obtain ⟨call, hcall, hcaches⟩ :=
      setOSDName_caches osdCb hterminated (logNames_returns hterminated hreadable)
    have hnext : some ((setOSDName level osdCb osdName name).map NameCall.osdName) =
        some state' := hstep
    rw [hcall] at hnext
    cases hnext
    exact ⟨call.osdName, rfl, hcaches.terminated⟩

/-- `CECHost_GetOSDName` with a buffer of at least the length that it states. -/
theorem cecHostGetOSDName_eq {memcpyS : MemcpyBuf} (hcopies : memcpyS.Copies)
    {osdName : OsdName} (hterminated : Terminated osdName.toList) {buf : List UInt8} {len : Nat}
    (hpos : 0 < len) (hbuf : len ≤ buf.length) :
    cecHostGetOSDName memcpyS osdName (some buf) (some len) =
      .ok (.ok ((text osdName.toList).take len ++
        buf.drop (min len (text osdName.toList).length),
        min len (text osdName.toList).length)) := by
  have hmin : (if len > (text osdName.toList).length then (text osdName.toList).length
      else len) = min len (text osdName.toList).length := by
    split <;> omega
  have hsource : min len (text osdName.toList).length ≤ osdName.toList.length := by
    have hle := text_length_le osdName
    rw [Vector.length_toList]
    show _ ≤ 15
    omega
  have htake : osdName.toList.take (min len (text osdName.toList).length) =
      (text osdName.toList).take len := by
    rw [← List.take_take, take_text_length]
  simp only [cecHostGetOSDName]
  rw [if_neg (by omega), strlen_eq hterminated, Result.ok_bind]
  simp only [hmin]
  rw [hcopies.fits _ _ _ _ (by omega) (by omega) hsource, htake]
  rfl

/-- `_GetOSDName` copies the whole cache, and its log line prints two terminated arrays. -/
theorem getOSDName_eq {memcpyS : MemcpyBuf} (hcopies : memcpyS.Copies) {osdName : OsdName}
    (hterminated : Terminated osdName.toList) (cec_log_level : Int) (name : OsdName) :
    getOSDName memcpyS cec_log_level osdName (some name) =
      .ok (.success, some osdName.toList) := by
  have hsize : ∀ array : OsdName, array.toList.length = maxLengthOfOsdName :=
    fun array => Vector.length_toList
  have hcopy : memcpyS.copy maxLengthOfOsdName name.toList osdName.toList maxLengthOfOsdName =
      osdName.toList := by
    rw [hcopies.fits _ _ _ _ (Nat.le_refl _) (Nat.le_of_eq (hsize name).symm)
      (Nat.le_of_eq (hsize osdName).symm), List.take_of_length_le (Nat.le_of_eq (hsize osdName)),
      List.drop_of_length_le (Nat.le_of_eq (hsize name)), List.append_nil]
  rw [getOSDName, hcopy, logNames_returns hterminated fun _ => hterminated]
  rfl

/-- In every run of calls of `_SetOSDName`, at whatever levels of the log, whose arrays are
terminated wherever they are printed: the cache is there, a further call caches its name if
and only if its array is terminated or not printed, and the two functions that read the cache
give its text. -/
theorem osdName_cached {memcpyS : MemcpyBuf} (hcopies : memcpyS.Copies)
    {state : Result OsdName} (h : nameSystem.Reachable Readable state) :
    ∃ osdName, state = .ok osdName ∧ Terminated osdName.toList ∧
      (∀ request : NameRequest,
        (∃ call, setOSDName request.cec_log_level request.osdCb osdName request.name =
            .ok call ∧ CachesName request.osdCb osdName request.name call) ↔
          Readable state request) ∧
      (∀ cec_log_level name, getOSDName memcpyS cec_log_level osdName (some name) =
        .ok (.success, some osdName.toList)) ∧
      ∀ buf len, 0 < len → len ≤ buf.length →
        cecHostGetOSDName memcpyS osdName (some buf) (some len) =
          .ok (.ok ((text osdName.toList).take len ++
            buf.drop (min len (text osdName.toList).length),
            min len (text osdName.toList).length)) := by
  obtain ⟨osdName, rfl, hterminated⟩ := reachable_terminated h
  refine ⟨osdName, rfl, hterminated, ?_, getOSDName_eq hcopies hterminated,
    fun buf len hpos hbuf => cecHostGetOSDName_eq hcopies hterminated hpos hbuf⟩
  rintro ⟨level, osdCb, name⟩
  constructor
  · rintro ⟨call, hcall, -⟩ hprinted
    by_contra hunterminated
    rw [setOSDName, logNames_undefined osdName.toList hprinted hunterminated] at hcall
    cases hcall
  · intro hreadable
    exact setOSDName_caches osdCb hterminated (logNames_returns hterminated hreadable)

/-- At the level of information, after an array of fifteen characters without a terminator:
the cache has fourteen of them, and a buffer of four bytes gets the first four. -/
theorem osdName_cached_unterminated :
    ∃ osdName, nameSystem.Reachable Readable (.ok osdName) ∧
      text osdName.toList = List.replicate 14 0x41 ∧
      cecHostGetOSDName .plain osdName (some [0, 0, 0, 0]) (some 4) =
        .ok (.ok ([0x41, 0x41, 0x41, 0x41], 4)) := by
  obtain ⟨state, hreach, htext⟩ :=
    StepSystem.exists_reachable_of_run nameSystem Readable (.ok settopBox)
      [⟨LogLines.logInfo, true, Vector.replicate 15 0x41⟩]
      (fun state => state.toOption.map (fun osdName => text osdName.toList) =
        some (List.replicate 14 0x41)) rfl (by decide)
  obtain ⟨osdName, rfl, -, -, -, hread⟩ := osdName_cached MemcpyBuf.plain_copies hreach
  have htext : text osdName.toList = List.replicate 14 0x41 := Option.some_inj.mp htext
  refine ⟨osdName, hreach, htext, ?_⟩
  rw [hread [0, 0, 0, 0] 4 (by decide) (by decide), htext]
  rfl

/-- The same array at the level of debugging is read behind its end. -/
theorem not_osdName_cached :
    ¬ ∀ state, nameSystem.Reachable StepSystem.unguarded state →
      ∃ osdName, state = .ok osdName ∧ Terminated osdName.toList := by
  intro hcached
  have hreach : nameSystem.Reachable StepSystem.unguarded (.error .undefined) :=
    (StepSystem.Reachable.of_initial (S := nameSystem) rfl).next
      (a := ⟨LogLines.logDebug, true, Vector.replicate 15 0x41⟩) trivial rfl
  obtain ⟨osdName, hstate, -⟩ := hcached _ hreach
  cases hstate

end Host

end HdmiCec
