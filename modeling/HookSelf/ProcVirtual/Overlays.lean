import HookSelf.ProcVirtual.Complete

/-! Several attribute rules on one list of names: the overlays compose. -/

namespace HookSelf.ProcVirtual

open ProcText

variable {names : List (List UInt8)} {rules : List ProcVirtualXattrRule}

section Overlays

def overlays (rules : List ProcVirtualXattrRule) (names : List (List UInt8)) :
    List (List UInt8) :=
  rules.foldl (fun names rule => overlay rule.name names) names

theorem IsXattrName.overlay {injectName : List UInt8} (hnames : ∀ name ∈ names, IsXattrName name)
    (hinject : IsXattrName injectName) : ∀ name ∈ overlay injectName names, IsXattrName name := by
  intro name hmem
  rw [ProcVirtual.overlay, List.mem_append] at hmem
  rcases hmem with hmem | hmem
  · exact hnames name (List.mem_eraseDups.mp hmem)
  · split_ifs at hmem
    · rwa [List.mem_singleton.mp hmem]
    · simp at hmem

theorem eraseDups_eraseDups (names : List (List UInt8)) :
    names.eraseDups.eraseDups = names.eraseDups := by
  induction names using List.reverseRecOn with
  | nil => rfl
  | append_singleton done name ih =>
    rw [eraseDups_concat]
    split_ifs with hmem
    · exact ih
    · rw [eraseDups_concat, if_neg (mt List.mem_eraseDups.mp hmem), ih]

theorem eraseDups_overlay (injectName : List UInt8) (names : List (List UInt8)) :
    (overlay injectName names).eraseDups = overlay injectName names := by
  rw [overlay]
  split_ifs with hinject
  · rw [eraseDups_concat, if_neg (mt List.mem_eraseDups.mp hinject.2), eraseDups_eraseDups]
  · rw [List.append_nil, eraseDups_eraseDups]

theorem encode_length_le_overlays (hdups : names.eraseDups = names) :
    (encode names).length ≤ (encode (overlays rules names)).length := by
  induction rules generalizing names with
  | nil => exact le_rfl
  | cons rule rules ih =>
    have hstep := @encode_eraseDups_length_le_overlay names rule.name
    rw [hdups] at hstep
    exact hstep.trans (ih (eraseDups_overlay _ _))

theorem encode_overlay_ne_nil {injectName : List UInt8} (hinject : injectName ≠ []) :
    encode (overlay injectName names) ≠ [] := by
  obtain ⟨name, hname⟩ : ∃ name, name ∈ overlay injectName names := by
    by_cases hmem : injectName ∈ names
    · exact ⟨injectName, List.mem_append_left _ (List.mem_eraseDups.mpr hmem)⟩
    · exact ⟨injectName, List.mem_append_right _ (by simp [Injects, hinject, hmem])⟩
  obtain ⟨before, after, heq⟩ := List.append_of_mem hname
  simp [heq]

end Overlays

section Rules

variable {state : XattrOverlayState} {rule : ProcVirtualXattrRule}

structure XattrOverlayState.Holds (state : XattrOverlayState) (names : List (List UInt8)) :
    Prop where
  isName : ∀ name ∈ names, IsXattrName name
  input : state.input = encode names
  output : state.transformed = true → ∃ tail, state.output = encode names ++ tail

theorem overlayXattrRule_eq (h : state.Holds names) (hrule : IsXattrName rule.name)
    (hcapacity : state.output.length ≠ 0) :
    overlayXattrRule state rule =
      if uintptrMax < (encode (overlay rule.name names)).length then .error .eoverflow
      else if state.output.length < (encode (overlay rule.name names)).length then .error .enospc
      else .ok ⟨encode (overlay rule.name names), encode (overlay rule.name names) ++
        state.output.drop (encode (overlay rule.name names)).length, true,
        overlayResult rule.name names⟩ := by
  obtain ⟨tail, htail⟩ : ∃ tail, state.transformed = true →
      state.output = encode names ++ tail := by
    cases htransformed : state.transformed with
    | false => exact ⟨[], nofun⟩
    | true => exact (h.output htransformed).imp fun tail htail _ => htail
  rw [overlayXattrRule, h.input,
    applyXattrListOverlay_encode h.isName (.inr hrule) htail state.output.length,
    if_neg hcapacity]
  by_cases hover : uintptrMax < (encode (overlay rule.name names)).length
  · simp only [if_pos hover]
    rfl
  by_cases hsmall : state.output.length < (encode (overlay rule.name names)).length
  · simp only [if_neg hover, if_pos hsmall]
    rfl
  · simp only [if_neg hover, if_neg hsmall, overlayResult, List.take_left]

def Fits (capacity : ℕ) (names : List (List UInt8)) : Prop :=
  (encode names).length ≤ capacity ∧ (encode names).length ≤ uintptrMax

theorem overlayXattrRules_spec (h : state.Holds names) (hcapacity : state.output.length ≠ 0)
    (hrules : ∀ rule ∈ rules, IsXattrName rule.name) (hne : rules ≠ []) :
    match rules.foldlM overlayXattrRule state with
    | .error _ => ¬Fits state.output.length (overlays rules names)
    | .ok last => Fits state.output.length (overlays rules names) ∧
        last.input = encode (overlays rules names) ∧ last.transformed = true ∧
        last.overlay.namesSeen = (overlays rules.dropLast names).length ∧
        last.overlay.namesEmitted = (overlays rules names).length := by
  induction rules generalizing state names with
  | nil => exact absurd rfl hne
  | cons rule rules ih =>
    rw [List.forall_mem_cons] at hrules
    have hmono : ∀ {capacity}, Fits capacity (overlays (rule :: rules) names) →
        Fits capacity (overlay rule.name names) := by
      intro capacity hfits
      have hle := @encode_length_le_overlays _ rules (eraseDups_overlay rule.name names)
      exact ⟨hle.trans hfits.1, hle.trans hfits.2⟩
    rw [List.foldlM_cons, overlayXattrRule_eq h hrules.1 hcapacity]
    by_cases hover : uintptrMax < (encode (overlay rule.name names)).length
    · rw [if_pos hover]
      exact fun hfits => absurd (hmono hfits).2 (Nat.not_le.mpr hover)
    rw [if_neg hover]
    by_cases hsmall : state.output.length < (encode (overlay rule.name names)).length
    · rw [if_pos hsmall]
      exact fun hfits => absurd (hmono hfits).1 (Nat.not_le.mpr hsmall)
    rw [if_neg hsmall]
    have hlength : (encode (overlay rule.name names) ++
        state.output.drop (encode (overlay rule.name names)).length).length =
        state.output.length := by
      simp only [List.length_append, List.length_drop]
      omega
    cases rules with
    | nil => exact ⟨⟨Nat.not_lt.mp hsmall, Nat.not_lt.mp hover⟩, rfl, rfl, rfl, rfl⟩
    | cons second rules =>
      have hnext : XattrOverlayState.Holds ⟨encode (overlay rule.name names),
          encode (overlay rule.name names) ++
            state.output.drop (encode (overlay rule.name names)).length, true,
          overlayResult rule.name names⟩ (overlay rule.name names) :=
        ⟨IsXattrName.overlay h.isName hrules.1, rfl, fun _ => ⟨_, rfl⟩⟩
      have hrun := ih hnext (by rwa [hlength]) hrules.2 (List.cons_ne_nil _ _)
      rw [hlength] at hrun
      exact hrun

theorem Malformed.isXattrName (h : ¬rule.Malformed) : IsXattrName rule.name := by
  simp only [ProcVirtualXattrRule.Malformed, not_or] at h
  obtain ⟨-, -, -, -, hempty, hmax, hzero⟩ := h
  exact ⟨fun hnil => hempty (by rw [hnil]; rfl), hzero, Nat.not_lt.mp hmax⟩

theorem validateConfig_isXattrName {config : ProcVirtualDispatchConfig}
    (h : validateConfig config = .ok ()) : ∀ rule ∈ config.xattrRules, IsXattrName rule.name := by
  intro rule hrule
  rw [validateConfig] at h
  split_ifs at h with hcounts hmalformed
  · split at h
    · exact nomatch h
    · exact nomatch h
  · exact Malformed.isXattrName fun hrule' => hmalformed ⟨rule, hrule, hrule'⟩

end Rules

section List

theorem overlays_ne_nil (hrules : ∀ rule ∈ rules, IsXattrName rule.name) (hne : rules ≠ []) :
    encode (overlays rules names) ≠ [] := by
  cases rules with
  | nil => exact absurd rfl hne
  | cons rule rules =>
    have hle := @encode_length_le_overlays _ rules (eraseDups_overlay rule.name names)
    have hpos := List.length_pos_iff.mpr
      (@encode_overlay_ne_nil names _ (hrules rule List.mem_cons_self).1)
    exact List.length_pos_iff.mp (hpos.trans_le hle)

section Commit

variable {σ : Type} {io : ProcVirtualIo σ} {task : ProcVirtualDispatchTask}
  {write : ℤ → ℤ → UInt64 → List UInt8 → Host σ Unit}
  {setResult : ProcVirtualDispatchTask → ℤ → Host σ Unit}

theorem commitVisibleResult_eq (hset : io.writeSyscallResult = some setResult)
    (kernelResult visibleResult : ℤ) (forceWrite : Bool) (result : ProcVirtualExitResult) :
    commitVisibleResult io task kernelResult visibleResult forceWrite result = (do
      if forceWrite ∨ visibleResult ≠ kernelResult then setResult task visibleResult
      pure { result with
        visibleResult
        flags := if forceWrite ∨ visibleResult ≠ kernelResult then
            result.flags ||| exitWriteResult ||| exitResultWritten
          else result.flags }) := by
  rw [commitVisibleResult, hset]
  by_cases hforce : forceWrite ∨ visibleResult ≠ kernelResult
  · rw [if_pos hforce, if_pos hforce, if_neg (by simpa [or_iff_not_imp_left] using hforce)]
  · rw [if_neg hforce, if_neg hforce, if_pos (by simpa using hforce)]

def shownSize (capacity : ℕ) (visible : List UInt8) : ℤ :=
  if capacity ≠ 0 ∧ capacity < visible.length then -34 else visible.length

/-- The tracee gets all names or none, the size of the list, and an error for a buffer that is too
small; the register is left alone when it holds the size already. -/
theorem commitXattrList_eq {call : XattrCall} {visible : List UInt8}
    (hwrite : io.writeRemote = some write) (hset : io.writeSyscallResult = some setResult)
    (hfits : visible.length ≤ call.outputCapacity → RemoteFits call.remoteOutput visible.length)
    (hvisible : visible ≠ []) (pending : ProcVirtualPending) (kernelResult : ℤ)
    (result : ProcVirtualExitResult) :
    commitXattrList io task pending call kernelResult visible result = (do
      let shown := shownSize call.outputCapacity visible
      if visible.length ≤ call.outputCapacity then
        write task.tgid task.tid call.remoteOutput visible
      if pending.Emulated ∨ shown ≠ kernelResult then setResult task shown
      let flags := if visible.length ≤ call.outputCapacity then result.flags ||| exitOutputPatched
        else result.flags
      pure { result with
        visibleResult := shown
        bytesWritten := if visible.length ≤ call.outputCapacity then visible.length
          else result.bytesWritten
        flags := if pending.Emulated ∨ shown ≠ kernelResult then
            flags ||| exitWriteResult ||| exitResultWritten
          else flags }) := by
  have hpos := List.length_pos_iff.mpr hvisible
  by_cases hroom : visible.length ≤ call.outputCapacity
  · have hshown : shownSize call.outputCapacity visible = visible.length :=
      if_neg (by omega)
    have hbytes : writeRemote io task call.remoteOutput visible =
        write task.tgid task.tid call.remoteOutput visible := by
      simp only [writeRemote, hwrite, if_neg hpos.ne', if_pos (hfits hroom)]
    simp only [commitXattrList, commitVisibleResult_eq hset, hshown, hbytes, if_pos hroom,
      if_neg (show ¬(call.outputCapacity ≠ 0 ∧ call.outputCapacity < visible.length) by omega),
      if_pos (show call.outputCapacity ≠ 0 ∧ visible.length ≠ 0 by omega), decide_eq_true_eq]
  · simp only [commitXattrList, commitVisibleResult_eq hset, shownSize, if_neg hroom,
      decide_eq_true_eq]
    by_cases hquery : call.outputCapacity = 0
    · simp only [hquery, ne_eq, not_true_eq_false, false_and, if_false]
    · have hsmall : call.outputCapacity ≠ 0 ∧ call.outputCapacity < visible.length := by omega
      simp only [if_pos hsmall]

end Commit

/-- The overlay and the size query agree for one buffer as for two, and the rules of a list call
compose: the call writes the composition, all of it or nothing, and returns its length. -/
theorem xattrOverlays_compose :
    (∀ (names : List (List UInt8)) (injectName output tail : List UInt8) (capacity : ℕ) (same : Bool),
      (∀ name ∈ names, IsXattrName name) → (injectName = [] ∨ IsXattrName injectName) →
      (same = true → output = encode names ++ tail) →
      applyXattrListOverlay (encode names) injectName output capacity same =
        if uintptrMax < (encode (overlay injectName names)).length then
          (output, ⟨0, 0, 0, false⟩, .error .eoverflow)
        else if capacity = 0 then (output, overlayResult injectName names, .ok ())
        else if capacity < (encode (overlay injectName names)).length then
          (output, overlayResult injectName names, .error .erange)
        else (encode (overlay injectName names) ++
          output.drop (encode (overlay injectName names)).length,
          overlayResult injectName names, .ok ())) ∧
    (∀ (σ : Type) (config : ProcVirtualDispatchConfig) (io : ProcVirtualIo σ)
      (task : ProcVirtualDispatchTask) (pending : ProcVirtualPending) (call : XattrCall)
      (kernelResult : ℤ) (result : ProcVirtualExitResult) (host host' : σ)
      (names : List (List UInt8)) (rules : List ProcVirtualXattrRule),
      validateConfig config = .ok () →
      decodeXattrCall pending.syscallNumber pending.arguments = some call → call.list = true →
      rules = config.xattrRules.filter
        (xattrRuleMatchesCall · call (pending.identityPath.take pending.pathLength)) →
      rules ≠ [] → (0 ≤ kernelResult ∨ pending.Emulated) →
      (∀ name ∈ names, IsXattrName name) →
      (nativeXattrList config io task pending call kernelResult).run host =
        (.ok (encode names), host') →
      let visible := encode (overlays rules names)
      let shown := shownSize call.outputCapacity visible
      if visible.length ≤ min config.rewriteBuffer.length int64Max then
        ∀ write setResult, io.writeRemote = some write → io.writeSyscallResult = some setResult →
          (visible.length ≤ call.outputCapacity →
            RemoteFits call.remoteOutput visible.length) →
          (completeXattrList config io task pending kernelResult result).run host = (do
            if visible.length ≤ call.outputCapacity then
              write task.tgid task.tid call.remoteOutput visible
            if pending.Emulated ∨ shown ≠ kernelResult then setResult task shown
            let flags := if visible.length ≤ call.outputCapacity then
                result.flags ||| exitOutputPatched
              else result.flags
            pure { result with
              visibleResult := shown
              bytesRead := (encode names).length
              bytesWritten := if visible.length ≤ call.outputCapacity then visible.length
                else result.bytesWritten
              xattrNamesSeen := (overlays rules.dropLast names).length
              xattrNamesEmitted := (overlays rules names).length
              flags := if pending.Emulated ∨ shown ≠ kernelResult then
                  flags ||| exitWriteResult ||| exitResultWritten
                else flags }).run host'
      else ∃ error, (completeXattrList config io task pending kernelResult result).run host =
        (.error error, host')) := by
  refine ⟨fun names injectName output tail capacity same hnames hinject hsame =>
    applyXattrListOverlay_encode hnames hinject hsame capacity, ?_⟩
  intro σ config io task pending call kernelResult result host host' names rules hconfig hcall hlist
    hrules hne hresult hnames hnative visible shown
  have hvalid : ∀ rule ∈ rules, IsXattrName rule.name := fun rule hrule =>
    validateConfig_isXattrName hconfig rule (List.mem_of_mem_filter (hrules ▸ hrule))
  have hskip : ¬(kernelResult < 0 ∧ ¬pending.Emulated) := by
    rintro ⟨hnegative, hemulated⟩
    exact hresult.elim (fun h => by omega) hemulated
  have hstart : (completeXattrList config io task pending kernelResult result).run host =
      (finishXattrList config io task pending call kernelResult result (encode names)).run host' := by
    rw [completeXattrList, if_neg hskip, hcall]
    dsimp only
    rw [if_neg (not_not.mpr hlist), Fallible.run_bind_ok hnative]
  have hspec := @overlayXattrRules_spec names rules
    ⟨encode names, config.rewriteBuffer, false, ⟨0, 0, 0, false⟩⟩ ⟨hnames, rfl, nofun⟩
  rw [hstart, finishXattrList, overlayXattrRules, ← hrules]
  by_cases hcapacity : config.rewriteBuffer.length = 0
  · have hpos := List.length_pos_iff.mpr (@overlays_ne_nil names rules hvalid hne)
    rw [if_pos hcapacity, if_neg (show ¬(encode (overlays rules names)).length ≤ _ by
      rw [hcapacity]; omega)]
    exact ⟨_, rfl⟩
  specialize hspec hcapacity hvalid hne
  rw [if_neg hcapacity]
  rcases hfold : rules.foldlM overlayXattrRule
    ⟨encode names, config.rewriteBuffer, false, ⟨0, 0, 0, false⟩⟩ with error | last
  · rw [hfold] at hspec
    have hfits : ¬(encode (overlays rules names)).length ≤
        min config.rewriteBuffer.length int64Max := fun h =>
      hspec ⟨h.trans (min_le_left _ _), h.trans ((min_le_right _ _).trans (by decide))⟩
    rw [if_neg hfits]
    exact ⟨error, rfl⟩
  · rw [hfold] at hspec
    obtain ⟨hfits, hinput, htransformed, hseen, hemitted⟩ := hspec
    dsimp only
    rw [if_neg (not_not.mpr htransformed), hinput, hseen, hemitted]
    by_cases hmax : (encode (overlays rules names)).length ≤ int64Max
    · rw [if_pos (le_min hfits.1 hmax), if_neg (Nat.not_lt.mpr hmax)]
      intro write setResult hwrite hset hremote
      rw [commitXattrList_eq hwrite hset hremote (@overlays_ne_nil names rules hvalid hne)]
    · rw [if_neg fun h => hmax (h.trans (min_le_right _ _)), if_pos (Nat.not_le.mp hmax)]
      exact ⟨_, rfl⟩

def sampleConfig : ProcVirtualDispatchConfig where
  generation := 1
  tracerPid := 0
  maxIovCount := 0
  maxGetdentsReplays := 0
  getdentsReplayTimeoutNs := 0
  hiddenRanges := []
  reverseRules := []
  protectedFds := []
  xattrRules := [⟨[], [98], [], 0, 0⟩, ⟨[], [99], [], 0, 0⟩]
  snapshotBuffer := List.replicate 16 0
  rewriteBuffer := List.replicate 16 0

def sampleIo : ProcVirtualIo (List UInt8 × ℤ) where
  readRemote := some fun _ _ _ _ => return (← get).1
  writeRemote := some fun _ _ _ bytes => modify fun tracee => (bytes, tracee.2)
  resolveIdentity := none
  snapshot := none
  snapshotProtectedFds := none
  writeSyscallResult := some fun _ result => modify fun tracee => (tracee.1, result)

def sampleTask : ProcVirtualDispatchTask := ⟨0, 1, 1, 0, 0⟩

def samplePending : ProcVirtualPending :=
  { zeroPending with
    flags := pendingActive ||| pendingXattrList
    syscallNumber := nrFlistxattr
    arguments := fun index => if index = 1 then 4096 else if index = 2 then 8 else 0 }

def sampleCall : XattrCall := ⟨true, true, true, 0, invalidArgument, 0, 0, 4096, 8⟩

/-- A tracee that reads the names a and b with two rules that inject b and c finds the three names
in its buffer and their size in its result register. -/
theorem xattrOverlays_compose_sample :
    applyXattrListOverlay (encode [[97], [98], [97]]) [99] (encode [[97], [98], [97]]) 6 true =
        (encode [[97], [98], [99]], overlayResult [99] [[97], [98], [97]], .ok ()) ∧
      ((completeXattrList sampleConfig sampleIo sampleTask samplePending 4
        (untouchedResult exitHandled .none 4)).run ([97, 0, 98, 0], 4)).2 =
        ([97, 0, 98, 0, 99, 0], 6) := by
  refine ⟨xattrOverlays_compose.1 [[97], [98], [97]] [99] (encode [[97], [98], [97]]) [] 6 true
    (by decide) (.inr (by decide)) (fun _ => by simp), ?_⟩
  have hcall := xattrOverlays_compose.2 (List UInt8 × ℤ) sampleConfig sampleIo sampleTask
    samplePending sampleCall 4 (untouchedResult exitHandled .none 4) ([97, 0, 98, 0], 4)
    ([97, 0, 98, 0], 4) [[97], [98]] sampleConfig.xattrRules (by decide +kernel)
    (by decide +kernel) rfl (by decide +kernel) (by decide) (.inl (by decide)) (by decide) rfl
  rw [if_pos (by decide +kernel)] at hcall
  rw [hcall _ _ rfl rfl fun _ => by decide +kernel]
  rfl

end List

end HookSelf.ProcVirtual
