import HookSelf.Collections.Flags
import HookSelf.ProcVirtual.Complete

/-! The table of pending calls stays valid: what an entry can plan, and what the three operations do
to the table. -/

namespace HookSelf.ProcVirtual

open Buffer Fallible SlotTable

variable {σ : Type} {io : ProcVirtualIo σ} {task : ProcVirtualDispatchTask}

section Identity

def IsIdentity (capacity : ℕ) (path : List UInt8) : Prop := path.length < capacity ∧ 0 ∉ path

theorem readRemote_length {address : UInt64} {size : ℕ} :
    Ensures (readRemote io task address size) (·.length = size) := by
  unfold readRemote
  refine .ite (fun hsize => .pure hsize.symm) fun _ => ?_
  cases io.readRemote with
  | none => exact .throw
  | some read =>
    refine .ite (fun _ => .map ?_) fun _ => .throw
    exact Ensures.trivial.imp fun data _ => by simp [filled]

theorem readCStringFrom_isIdentity {address : UInt64} {index rounds : ℕ} :
    Ensures (readCStringFrom io task address index rounds) (IsIdentity rounds) := by
  induction rounds generalizing index with
  | zero => exact .throw
  | succ rounds ih =>
    unfold readCStringFrom
    refine .ite (fun _ => .throw) fun _ => readRemote_length.bind fun byte hbyte => ?_
    obtain ⟨value, rfl⟩ := List.length_eq_one_iff.mp hbyte
    refine .ite (fun _ => .pure ⟨Nat.succ_pos _, List.not_mem_nil⟩) fun hvalue => ?_
    refine ih.bind fun rest hrest => .pure ⟨?_, ?_⟩
    · simpa using hrest.1
    · have hne : (0 : UInt8) ≠ value := fun h => hvalue (by rw [h])
      simp [hne, hrest.2]

theorem readRemoteCString_isIdentity {address : UInt64} {capacity : ℕ} :
    Ensures (readRemoteCString io task address capacity) (IsIdentity capacity) := by
  unfold readRemoteCString
  exact .ite (fun _ => .throw) fun _ => readCStringFrom_isIdentity

theorem tryResolvedIdentity_isIdentity {base : ProcVirtualIdentityQuery}
    {source : ProcVirtualIdentitySource} {capacity : ℕ} :
    Ensures (tryResolvedIdentity io base source capacity)
      fun found => ∀ path ∈ found, IsIdentity capacity path := by
  unfold tryResolvedIdentity
  cases io.resolveIdentity with
  | none => exact .pure nofun
  | some resolve =>
    refine .tryCatch ?_ fun error => .ite (fun _ => .pure nofun) fun _ => .throw
    refine Ensures.trivial.bind fun ⟨output, length⟩ _ => ?_
    refine .ite (fun _ => .throw) fun h => .pure ?_
    rintro _ ⟨⟩
    rw [not_or, not_or] at h
    refine ⟨?_, h.2.2⟩
    have hle : (output.take length).length ≤ length := List.length_take_le _ _
    omega

theorem resolveIdentityPath_isIdentity {syscallNumber fd : ℤ} {index capacity : ℕ}
    {remotePath : UInt64} :
    Ensures (resolveIdentityPath io task syscallNumber fd index remotePath capacity)
      (IsIdentity capacity) := by
  unfold resolveIdentityPath
  refine tryResolvedIdentity_isIdentity.bind fun tracked htracked => ?_
  cases tracked with
  | some path => exact .pure (htracked path rfl)
  | none =>
    refine tryResolvedIdentity_isIdentity.bind fun resolved hresolved => ?_
    cases resolved with
    | some path => exact .pure (hresolved path rfl)
    | none => exact .ite (fun _ => .throw) fun _ => readRemoteCString_isIdentity

end Identity

section Plan

variable {config : ProcVirtualDispatchConfig} {syscallNumber : ℤ} {arguments : Fin 6 → UInt64}

theorem validateConfig_xattrRules_length (h : validateConfig config = .ok ()) :
    config.xattrRules.length ≤ 2 ^ 32 - 1 := by
  rw [validateConfig] at h
  split_ifs at h with hcounts
  · split at h
    · exact nomatch h
    · exact nomatch h
  · omega

inductive PendingPlan.Planned (syscallNumber : ℤ) (arguments : Fin 6 → UInt64) :
    PendingPlan → Prop
  | text {fd node path flags} (hread : isReadSyscall syscallNumber = true)
    (hnode : isProcTextNode node = true) (hfd : 0 ≤ fd) (hpath : IsIdentity identityCapacity path) :
    Planned syscallNumber arguments ⟨pendingProcText, fd, node, path, invalidRule, flags⟩
  | dirents {fd node path flags} (hgetdents : syscallNumber = nrGetdents64)
    (hnode : isProcDirectoryNode node = true) (hfd : 0 ≤ fd)
    (hpath : IsIdentity identityCapacity path) :
    Planned syscallNumber arguments ⟨pendingDirents, fd, node, path, invalidRule, flags⟩
  | xattrGet {fd node path flags index emulate call}
    (hcall : decodeXattrCall syscallNumber arguments = some call) (hget : call.list = false)
    (hindex : index ≠ invalidRule) (hpath : IsIdentity identityCapacity path) :
    Planned syscallNumber arguments
      (emulatedPlan ⟨pendingXattrGet, fd, node, path, index, flags⟩ emulate)
  | xattrList {fd node path flags emulate call}
    (hcall : decodeXattrCall syscallNumber arguments = some call) (hlist : call.list = true)
    (hpath : IsIdentity identityCapacity path) :
    Planned syscallNumber arguments
      (emulatedPlan ⟨pendingXattrList, fd, node, path, invalidRule, flags⟩ emulate)

theorem orUnhandled_ensures {identity : Host σ (Option PendingPlan)} {P : PendingPlan → Prop}
    (h : Ensures identity fun plan => ∀ p ∈ plan, P p) :
    Ensures (orUnhandled identity) fun plan => ∀ p ∈ plan, P p :=
  .tryCatch h fun _ => .ite (fun _ => .pure nofun) fun _ => .throw

theorem planNode_ensures {fd : ℤ} {flags : BitVec 32} {isNode : ProcVirtualNodeKind → Bool}
    {P : PendingPlan → Prop}
    (h : ∀ node path, 0 ≤ fd → isNode node = true → IsIdentity identityCapacity path →
      P ⟨flags, fd, node, path, invalidRule, entryHandled ||| entryNeedsExit⟩) :
    Ensures (planNode io task syscallNumber fd flags isNode) fun plan => ∀ p ∈ plan, P p := by
  unfold planNode
  refine .ite (fun _ => .pure nofun) fun hfd => orUnhandled_ensures ?_
  refine resolveIdentityPath_isIdentity.bind fun path hpath => ?_
  cases parseProcVirtualPath path task.tgid task.tid with
  | error _ => exact .pure nofun
  | ok parsed =>
    refine .ite (fun hnode => .pure ?_) fun _ => .pure nofun
    rintro _ ⟨⟩
    exact h _ _ (not_lt.mp hfd) hnode hpath

theorem selectXattrGetRule_lt {call : XattrCall} {path name : List UInt8}
    {selected : ProcVirtualXattrRule × ℕ}
    (h : selectXattrGetRule config call path name = some selected) :
    selected.2 < config.xattrRules.length := by
  have hmem : ∀ found ∈ selectXattrGetRule config call path name,
      found ∈ config.xattrRules.zipIdx := by
    refine List.foldlRecOn config.xattrRules.zipIdx (keepXattrRule call path name)
      (motive := fun best => ∀ found ∈ best, found ∈ config.xattrRules.zipIdx) nofun ?_
    intro best hbest entry hentry found hfound
    unfold keepXattrRule at hfound
    split_ifs at hfound with hskip
    · exact hbest found hfound
    · cases best with
      | none =>
        obtain rfl := Option.some.inj hfound
        exact hentry
      | some other =>
        dsimp only at hfound
        split_ifs at hfound with hwins
        · obtain rfl := Option.some.inj hfound
          exact hentry
        · exact hbest found hfound
  have hlt := (List.mem_zipIdx (hmem selected h)).2.1
  omega

theorem planXattr_planned {call : XattrCall} (hconfig : validateConfig config = .ok ())
    (hcall : decodeXattrCall syscallNumber arguments = some call) :
    Ensures (planXattr config io task syscallNumber call)
      fun plan => ∀ p ∈ plan, PendingPlan.Planned syscallNumber arguments p := by
  unfold planXattr
  refine Ensures.bind (P := fun found => ∀ path ∈ found, IsIdentity identityCapacity path)
    (.tryCatch (.map (resolveIdentityPath_isIdentity.imp ?_))
      fun _ => .ite (fun _ => .pure nofun) fun _ => .throw) fun found hfound => ?_
  · rintro path hpath _ ⟨⟩
    exact hpath
  cases found with
  | none => exact .pure nofun
  | some path =>
    refine .ite (fun hlist => ?_) fun hlist => ?_
    · refine .ite (fun _ => .pure ?_) fun _ => .pure nofun
      rintro _ ⟨⟩
      exact .xattrList hcall hlist (hfound path rfl)
    · refine Ensures.trivial.bind fun name _ => ?_
      rcases hselect : selectXattrGetRule config call path name with - | ⟨rule, index⟩
      · exact .pure nofun
      · refine .pure ?_
        rintro _ ⟨⟩
        have hlt := selectXattrGetRule_lt hselect
        have hcount := validateConfig_xattrRules_length hconfig
        exact .xattrGet hcall (by simpa using hlist) (hlt.trans_le hcount).ne (hfound path rfl)

theorem planEntry_planned (hconfig : validateConfig config = .ok ()) :
    Ensures (planEntry config io task syscallNumber arguments)
      fun plan => ∀ p ∈ plan, PendingPlan.Planned syscallNumber arguments p := by
  unfold planEntry
  refine .ite (fun hread => ?_) fun _ => .ite (fun hgetdents => ?_) fun _ => ?_
  · exact .ite (fun _ => .pure nofun) fun _ =>
      planNode_ensures fun node path hfd hnode hpath => .text hread hnode hfd hpath
  · exact planNode_ensures fun node path hfd hnode hpath => .dirents hgetdents hnode hfd hpath
  · cases hcall : decodeXattrCall syscallNumber arguments with
    | none => exact .pure nofun
    | some call =>
      exact .ite (fun _ => .pure nofun) fun _ => planXattr_planned hconfig hcall

end Plan

section Table

variable {table : ProcVirtualPendingTable} {slot : ℕ} {pending : ProcVirtualPending}

theorem not_active_zeroPending : ¬zeroPending.Active := by decide

theorem accepted_zeroPending : zeroPending.Accepted slot := by
  rw [ProcVirtualPending.Accepted, if_neg not_active_zeroPending]

theorem initProcVirtualPendingTable_valid :
    ValidateProcVirtualPendingTable initProcVirtualPendingTable := by
  refine ⟨⟨rfl, rfl, Nat.zero_le _⟩, fun _ _ => accepted_zeroPending, ?_⟩
  exact tally_eq_zero.mpr fun _ _ => not_active_zeroPending

theorem accepted_of_active (hactive : pending.Active) (hvalid : pending.Valid slot) :
    pending.Accepted slot := by
  rwa [ProcVirtualPending.Accepted, if_pos hactive]

theorem ValidateProcVirtualPendingTable.replace (h : ValidateProcVirtualPendingTable table)
    (hslot : slot < taskCapacity) (hold : (table.entries slot).Active) (hactive : pending.Active)
    (hvalid : pending.Valid slot) :
    ValidateProcVirtualPendingTable
      { table with entries := Function.update table.entries slot pending } := by
  refine ⟨h.1, forall_update (P := ProcVirtualPending.Accepted) h.2.1 ?_, ?_⟩
  · exact accepted_of_active hactive hvalid
  · exact (tally_update_iff hslot (iff_of_true hactive hold)).trans h.2.2

theorem ValidateProcVirtualPendingTable.clear (h : ValidateProcVirtualPendingTable table)
    (hslot : slot < taskCapacity) :
    ValidateProcVirtualPendingTable (clearPendingUnchecked table slot) := by
  obtain ⟨⟨hmagic, hversion, hcount⟩, hentries, htally⟩ := h
  refine ⟨⟨hmagic, hversion, ?_⟩,
    forall_update (P := ProcVirtualPending.Accepted) hentries accepted_zeroPending, ?_⟩
  · simp only [clearPendingUnchecked]
    split_ifs
    · omega
    · exact hcount
  · simp only [clearPendingUnchecked]
    by_cases hactive : (table.entries slot).Active
    · have hpos := tally_pos (p := ProcVirtualPending.Active) hslot hactive
      rw [if_pos ⟨hactive, by omega⟩, tally_vacate hslot hactive not_active_zeroPending, htally]
    · rw [if_neg fun hboth => hactive hboth.1,
        tally_update_iff hslot (iff_of_false not_active_zeroPending hactive), htally]

theorem ValidateProcVirtualPendingTable.occupy (h : ValidateProcVirtualPendingTable table)
    (hslot : slot < taskCapacity) (hfree : ¬(table.entries slot).Active) (hactive : pending.Active)
    (hvalid : pending.Valid slot) :
    ValidateProcVirtualPendingTable
      { table with
        activeCount := table.activeCount + 1
        entries := Function.update table.entries slot pending } := by
  have htally : tally taskCapacity (Function.update table.entries slot pending)
      ProcVirtualPending.Active = table.activeCount + 1 := by
    rw [tally_occupy hslot hfree hactive, h.2.2]
  refine ⟨⟨h.1.1, h.1.2.1, ?_⟩, forall_update (P := ProcVirtualPending.Accepted) h.2.1 ?_, htally⟩
  · show table.activeCount + 1 ≤ taskCapacity
    rw [← htally]
    exact tally_le
  · exact accepted_of_active hactive hvalid

theorem clearPendingUnchecked_entries : (clearPendingUnchecked table slot).entries slot =
    zeroPending := Function.update_self ..

theorem write_identityPath (buffer path : List UInt8) :
    (write (write buffer 0 path) path.length [0]).take path.length = path ∧
      (write (write buffer 0 path) path.length [0])[path.length]? = some 0 := by
  have hwrite := @write_write _ buffer path 0 [0] (Nat.zero_le _)
  rw [Nat.zero_add] at hwrite
  have heq : write (write buffer 0 path) path.length [0] =
      path ++ 0 :: buffer.drop (path.length + 1) := by
    rw [hwrite, write]
    simp
  rw [heq]
  exact ⟨List.take_left, by simp⟩

def IsInstalled (plan : PendingPlan) (task : ProcVirtualDispatchTask) (syscallNumber : ℤ)
    (arguments : Fin 6 → UInt64) (pending : ProcVirtualPending) : Prop :=
  pending.flags = plan.flags ||| pendingActive ∧ pending.taskSlot = task.taskSlot ∧
    pending.tgid = task.tgid ∧ pending.tid = task.tid ∧ pending.syscallNumber = syscallNumber ∧
    pending.fd = plan.fd ∧ pending.node = plan.node ∧
    pending.xattrRuleIndex = plan.xattrRuleIndex ∧ pending.pathLength = plan.path.length ∧
    pending.arguments = arguments ∧ pending.identityPath.take plan.path.length = plan.path ∧
    pending.identityPath[plan.path.length]? = some 0

section Installed

variable {plan : PendingPlan} {syscallNumber : ℤ} {arguments : Fin 6 → UInt64}

def FlagsValid (flags operation : BitVec 32) : Prop :=
  (flags ||| pendingActive) &&& ~~~pendingKnownFlags = 0 ∧
    (flags ||| pendingActive) &&& pendingOperationFlags = operation ∧
    operation ≠ 0 ∧ operation &&& (operation - 1) = 0 ∧
    ¬((flags ||| pendingActive) &&& pendingEmulated ≠ 0 ∧
      operation ≠ pendingXattrGet ∧ operation ≠ pendingXattrList)

instance (flags operation : BitVec 32) : Decidable (FlagsValid flags operation) :=
  inferInstanceAs (Decidable (_ ∧ _))

theorem IsInstalled.valid_of_operation {flags operation : BitVec 32}
    (h : IsInstalled plan task syscallNumber arguments pending)
    (hpath : IsIdentity identityCapacity plan.path) (htgid : 0 < task.tgid) (htid : 0 < task.tid)
    (hplan : plan.flags = flags) (hvalid : FlagsValid flags operation)
    (htext : operation = pendingProcText → isReadSyscall syscallNumber = true ∧
      isProcTextNode plan.node = true ∧ 0 ≤ plan.fd)
    (hdirents : operation = pendingDirents → syscallNumber = nrGetdents64 ∧
      isProcDirectoryNode plan.node = true ∧ 0 ≤ plan.fd)
    (hget : operation = pendingXattrGet → ∃ call,
      decodeXattrCall syscallNumber arguments = some call ∧ call.list = false ∧
        plan.xattrRuleIndex ≠ invalidRule)
    (hlist : operation = pendingXattrList → ∃ call,
      decodeXattrCall syscallNumber arguments = some call ∧ call.list = true ∧
        plan.xattrRuleIndex = invalidRule) :
    pending.Valid task.taskSlot := by
  obtain ⟨hflags, hslot, hgid, hid, hnumber, hfd, hnode, hindex, hlength, hargs, htake, hnul⟩ := h
  obtain ⟨hknown, hoperation, hne, hone, hemulated⟩ := hvalid
  rw [hplan] at hflags
  have hop : pending.operation = operation := by
    rw [ProcVirtualPending.operation, hflags, hoperation]
  refine ⟨hslot, hgid ▸ htgid, hid ▸ htid, hflags ▸ hknown, hop ▸ hne, hop ▸ hone,
    hlength ▸ hpath.1, hlength ▸ hnul, ?_, hop ▸ hflags ▸ hemulated, ?_, ?_, ?_⟩
  · rw [hlength, htake]
    exact hpath.2
  · rintro ⟨hcase, hbad⟩
    obtain ⟨hread, hisText, hpos⟩ := htext (hop ▸ hcase)
    rw [hnumber, hnode, hfd] at hbad
    rcases hbad with hbad | hbad | hbad
    · exact hbad hread
    · exact hbad hisText
    · omega
  · rintro ⟨hcase, hbad⟩
    obtain ⟨hgetdents, hisDirectory, hpos⟩ := hdirents (hop ▸ hcase)
    rw [hnumber, hnode, hfd] at hbad
    rcases hbad with hbad | hbad | hbad
    · exact hbad hgetdents
    · exact hbad hisDirectory
    · omega
  · intro hcase
    rw [ProcVirtualPending.ValidXattr, hnumber, hargs, hindex]
    rw [hop] at hcase ⊢
    rcases hcase with hcase | hcase
    · obtain ⟨call, hcall, hisGet, hrule⟩ := hget hcase
      rw [hcall]
      refine ⟨fun hbad => ?_, fun hbad => ?_⟩
      · rcases hbad.2 with hbad | hbad
        · simp [hisGet] at hbad
        · exact hrule hbad
      · exact absurd (hcase.symm.trans hbad.1) (by decide)
    · obtain ⟨call, hcall, hisList, hrule⟩ := hlist hcase
      rw [hcall]
      refine ⟨fun hbad => ?_, fun hbad => ?_⟩
      · exact absurd (hcase.symm.trans hbad.1) (by decide)
      · rcases hbad.2 with hbad | hbad
        · exact hbad hisList
        · exact hbad hrule

theorem IsInstalled.active (h : IsInstalled plan task syscallNumber arguments pending) :
    pending.Active := by
  rw [ProcVirtualPending.Active, h.1]
  exact Flags.set_and_self (by decide)

theorem IsInstalled.valid (h : IsInstalled plan task syscallNumber arguments pending)
    (hplan : plan.Planned syscallNumber arguments) (htgid : 0 < task.tgid) (htid : 0 < task.tid) :
    pending.Valid task.taskSlot := by
  cases hplan with
  | text hread hnode hfd hpath =>
    exact h.valid_of_operation hpath htgid htid rfl
      (by decide : FlagsValid pendingProcText pendingProcText)
      (fun _ => ⟨hread, hnode, hfd⟩) (absurd · (by decide)) (absurd · (by decide))
      (absurd · (by decide))
  | dirents hgetdents hnode hfd hpath =>
    exact h.valid_of_operation hpath htgid htid rfl
      (by decide : FlagsValid pendingDirents pendingDirents)
      (absurd · (by decide)) (fun _ => ⟨hgetdents, hnode, hfd⟩) (absurd · (by decide))
      (absurd · (by decide))
  | @xattrGet fd node path flags index emulate call hcall hget hindex hpath =>
    cases emulate with
    | false =>
      exact h.valid_of_operation hpath htgid htid rfl
        (by decide : FlagsValid pendingXattrGet pendingXattrGet)
        (absurd · (by decide)) (absurd · (by decide)) (fun _ => ⟨call, hcall, hget, hindex⟩)
        (absurd · (by decide))
    | true =>
      exact h.valid_of_operation hpath htgid htid rfl
        (by decide : FlagsValid (pendingXattrGet ||| pendingEmulated) pendingXattrGet)
        (absurd · (by decide)) (absurd · (by decide)) (fun _ => ⟨call, hcall, hget, hindex⟩)
        (absurd · (by decide))
  | @xattrList fd node path flags emulate call hcall hlist hpath =>
    cases emulate with
    | false =>
      exact h.valid_of_operation hpath htgid htid rfl
        (by decide : FlagsValid pendingXattrList pendingXattrList)
        (absurd · (by decide)) (absurd · (by decide)) (absurd · (by decide))
        (fun _ => ⟨call, hcall, hlist, rfl⟩)
    | true =>
      exact h.valid_of_operation hpath htgid htid rfl
        (by decide : FlagsValid (pendingXattrList ||| pendingEmulated) pendingXattrList)
        (absurd · (by decide)) (absurd · (by decide)) (absurd · (by decide))
        (fun _ => ⟨call, hcall, hlist, rfl⟩)

end Installed

theorem installPending_isInstalled {plan : PendingPlan} (table : ProcVirtualPendingTable)
    (config : ProcVirtualDispatchConfig) (task : ProcVirtualDispatchTask) (syscallNumber : ℤ)
    (arguments : Fin 6 → UInt64) (hplan : plan.path.length < identityCapacity) :
    ∃ pending, IsInstalled plan task syscallNumber arguments pending ∧
      installPending table config task syscallNumber arguments plan =
        ({ table with
          activeCount := table.activeCount + 1
          entries := Function.update table.entries task.taskSlot pending }, .ok ()) := by
  rw [installPending, if_neg (not_le.mpr hplan)]
  exact ⟨_, ⟨rfl, rfl, rfl, rfl, rfl, rfl, rfl, rfl, rfl, rfl, write_identityPath _ _⟩, rfl⟩

end Table

section Operations

variable {table : ProcVirtualPendingTable} {config : ProcVirtualDispatchConfig}

theorem PendingPlan.Planned.isIdentity {plan : PendingPlan} {syscallNumber : ℤ}
    {arguments : Fin 6 → UInt64} (h : plan.Planned syscallNumber arguments) : IsIdentity identityCapacity plan.path := by
  cases h with
  | text _ _ _ hpath => exact hpath
  | dirents _ _ _ hpath => exact hpath
  | @xattrGet _ _ _ _ _ emulate _ _ _ _ hpath =>
    cases emulate with
    | false => exact hpath
    | true => exact hpath
  | @xattrList _ _ _ _ emulate _ _ _ hpath =>
    cases emulate with
    | false => exact hpath
    | true => exact hpath

theorem clearProcVirtualPending_valid (h : ValidateProcVirtualPendingTable table) (slot : ℕ) :
    ValidateProcVirtualPendingTable (clearProcVirtualPending table slot).1 := by
  rw [clearProcVirtualPending]
  split_ifs with hguard
  · exact h
  · exact h.clear (by omega)

theorem dispatchProcVirtualEntry_valid (h : ValidateProcVirtualPendingTable table)
    (syscallNumber : ℤ) (arguments : Fin 6 → UInt64) (host : σ) :
    ValidateProcVirtualPendingTable
      (dispatchProcVirtualEntry config io table task syscallNumber arguments host).1.1 := by
  rw [dispatchProcVirtualEntry]
  split_ifs with hguard
  · exact h
  simp only [not_or, not_le, not_not] at hguard
  obtain ⟨-, hslot, htgid, htid⟩ := hguard
  cases hconfig : validateConfig config with
  | error error => exact h
  | ok _ =>
    have hcleared := h.clear hslot
    rcases hrun : (planEntry config io task syscallNumber arguments).run host with
      ⟨error | plan, host'⟩
    · exact hcleared
    cases plan with
    | none => exact hcleared
    | some plan =>
      have hplan := planEntry_planned hconfig host _ host' hrun plan rfl
      obtain ⟨pending, hinstalled, hinstall⟩ := installPending_isInstalled
        (clearPendingUnchecked table task.taskSlot) config task syscallNumber arguments
        hplan.isIdentity.1
      dsimp only
      rw [hinstall]
      refine hcleared.occupy hslot ?_ hinstalled.active (hinstalled.valid hplan htgid htid)
      rw [clearPendingUnchecked_entries]
      exact not_active_zeroPending

def ReplaysOf (pending : ProcVirtualPending) (outcome : ProcVirtualExitResult × ProcVirtualPending) :
    Prop :=
  ∃ replayCount, outcome.2 = { pending with replayCount }

theorem completeDirents_replaysOf {pending : ProcVirtualPending} {kernelResult : ℤ}
    {result : ProcVirtualExitResult} :
    Ensures (completeDirents config io task pending kernelResult result) (ReplaysOf pending) := by
  unfold completeDirents
  refine .ite (fun _ => .pure ⟨_, rfl⟩) fun _ => .ite (fun _ => .throw) fun _ => ?_
  refine Ensures.trivial.bind fun batch _ => Ensures.trivial.bind fun protectedFds _ => ?_
  split
  · exact .throw
  · unfold finishDirents
    refine .ite (fun _ => ?_) fun _ => Ensures.trivial.bind fun _ _ =>
      Ensures.trivial.bind fun _ _ => .pure ⟨_, rfl⟩
    unfold replayDirents
    split_ifs
    · exact .throw
    · exact .throw
    · exact .pure ⟨_, rfl⟩

theorem completePending_replaysOf {pending : ProcVirtualPending} {kernelResult : ℤ}
    {result : ProcVirtualExitResult} :
    Ensures (completePending config io task pending kernelResult result) (ReplaysOf pending) := by
  have hsame : ∀ x : Host σ ProcVirtualExitResult,
      Ensures ((·, pending) <$> x) (ReplaysOf pending) :=
    fun x => .map (Ensures.trivial.imp fun _ _ => ⟨_, rfl⟩)
  unfold completePending
  exact .ite (fun _ => hsame _) fun _ => .ite (fun _ => completeDirents_replaysOf) fun _ =>
    .ite (fun _ => hsame _) fun _ => .ite (fun _ => hsame _) fun _ => .throw

theorem dispatchProcVirtualExit_valid (h : ValidateProcVirtualPendingTable table)
    (kernelResult : ℤ) (host : σ) :
    ValidateProcVirtualPendingTable
      (dispatchProcVirtualExit config io table task kernelResult host).1.1 := by
  rw [dispatchProcVirtualExit]
  split_ifs with hguard
  · exact h
  simp only [not_or, not_le] at hguard
  obtain ⟨-, hslot, -⟩ := hguard
  cases validateConfig config with
  | error error => exact h
  | ok _ =>
    dsimp only
    by_cases hactive : (table.entries task.taskSlot).Active
    swap
    · rw [if_pos hactive]
      exact h
    rw [if_neg (not_not.mpr hactive)]
    split_ifs with hstale
    · exact h
    have hvalid := h.2.1 _ hslot
    rw [ProcVirtualPending.Accepted, if_pos hactive] at hvalid
    rcases hrun : (completePending config io task (table.entries task.taskSlot) kernelResult
      (untouchedResult exitHandled (table.entries task.taskSlot).node kernelResult)).run host with
      ⟨error | ⟨result, pending⟩, host'⟩
    · exact h.clear hslot
    rw [settleExit]
    obtain ⟨replayCount, rfl⟩ : ∃ replayCount,
        pending = { table.entries task.taskSlot with replayCount } :=
      completePending_replaysOf host _ host' hrun
    have hreplaced : ValidateProcVirtualPendingTable
        { table with
          entries := Function.update table.entries task.taskSlot
            { table.entries task.taskSlot with replayCount } } :=
      h.replace hslot hactive hactive hvalid
    dsimp only
    split_ifs
    · exact hreplaced.clear hslot
    · exact hreplaced

end Operations

end HookSelf.ProcVirtual
