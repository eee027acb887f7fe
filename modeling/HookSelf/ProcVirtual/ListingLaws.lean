import HookSelf.ProcVirtual.Listing

/-! A listed directory shows exactly its visible records, as long as the replays suffice. -/

namespace HookSelf.ProcVirtual

open Fallible Overwrite ProcText

section Callbacks

variable {identity : List UInt8} {protectedFds : List ℤ} {task : ProcVirtualDispatchTask}
  {address : UInt64} {size : ℕ} {tracee : Tracee} {bytes : List UInt8}

theorem RemoteFits.le (h : RemoteFits address size) : size ≤ 2 ^ 64 := by
  have hsize := h.2
  have hmax : uintptrMax + 1 = 2 ^ 64 := by decide
  omega

theorem readRemote_run (h : RemoteFits address size) :
    (readRemote (traceeIo identity protectedFds) task address size).run tracee =
      (.ok (bytesAt tracee.memory address.toBitVec size), tracee) := by
  rw [readRemote]
  split_ifs with hzero
  · rw [hzero]
    rfl
  · have hfilled : filled size (bytesAt tracee.memory address.toBitVec size) =
        bytesAt tracee.memory address.toBitVec size := by
      rw [filled, List.take_left' (bytesAt_length _ _ _)]
    show ((Except.ok (filled size (bytesAt tracee.memory address.toBitVec size)) :
      Except Errno (List UInt8)), tracee) = _
    rw [hfilled]

theorem writeRemote_run (h : RemoteFits address bytes.length) :
    (writeRemote (traceeIo identity protectedFds) task address bytes).run tracee =
      (.ok (), { tracee with memory := overwrite tracee.memory address.toBitVec bytes }) := by
  rw [writeRemote]
  split_ifs with hzero
  · rw [List.length_eq_zero_iff.mp hzero, overwrite_nil]
    rfl
  · rfl

theorem commitVisibleResult_run {visible : ℤ} {result : ProcVirtualExitResult} :
    ∃ committed, (commitVisibleResult (traceeIo identity protectedFds) task tracee.result visible
        false result).run tracee = (.ok committed, { tracee with result := visible }) ∧
      (result.flags &&& exitReplay = 0 → committed.flags &&& exitReplay = 0) := by
  rw [commitVisibleResult]
  by_cases hsame : visible = tracee.result
  · rw [if_pos ⟨by simp, hsame⟩, hsame]
    exact ⟨_, rfl, id⟩
  · rw [if_neg fun h => hsame h.2]
    refine ⟨_, rfl, fun hflags => ?_⟩
    show ((result.flags ||| exitWriteResult) ||| exitResultWritten) &&& exitReplay = 0
    rw [BitVec.and_or_distrib_right, BitVec.and_or_distrib_right, hflags]
    decide

end Callbacks

section Protected

variable {capacity : ℕ} {output fds found : List ℤ}

theorem foldlM_appendUniqueFd (h : fds.foldlM (appendUniqueFd capacity) output = .ok found)
    (fd : ℤ) : fd ∈ found ↔ fd ∈ output ∨ fd ∈ fds := by
  induction fds generalizing output with
  | nil =>
    obtain rfl := Except.ok.inj h
    simp
  | cons first fds ih =>
    rw [List.foldlM_cons] at h
    rw [appendUniqueFd] at h
    split_ifs at h with hmem hfull
    · rw [ih h, List.mem_cons]
      constructor
      · exact Or.imp_right .inr
      · rintro (hfd | rfl | hfd)
        · exact .inl hfd
        · exact .inl hmem
        · exact .inr hfd
    · exact nomatch h
    · rw [ih h, List.mem_append, List.mem_singleton, List.mem_cons, or_assoc]

end Protected

namespace Listing

variable {listing : Listing} {kind : ProcVirtualNodeKind} {task : ProcVirtualDispatchTask}

theorem Valid.snapshotProtectedFds (h : listing.Valid kind) (tracee : Tracee) :
    ∃ fds, (snapshotProtectedFds listing.config listing.io task maxProtectedFds).run tracee =
        (.ok fds, tracee) ∧
      ∀ fd, fd ∈ fds ↔ fd ∈ listing.config.protectedFds ++ listing.protectedFds := by
  obtain ⟨hcount, fds, hfds⟩ := h.protectedFds
  rcases hconfig : listing.config.protectedFds.foldlM (appendUniqueFd maxProtectedFds) [] with
    error | first
  · rw [hconfig] at hfds
    exact nomatch hfds
  rw [hconfig] at hfds
  have hfds : listing.protectedFds.foldlM (appendUniqueFd maxProtectedFds) first = .ok fds := hfds
  refine ⟨fds, ?_, fun fd => ?_⟩
  · rw [ProcVirtual.snapshotProtectedFds, hconfig]
    show (if listing.protectedFds.length > maxProtectedFds then throw .eoverflow
      else MonadExcept.ofExcept (((listing.protectedFds ++ List.replicate maxProtectedFds 0).take
        listing.protectedFds.length).foldlM (appendUniqueFd maxProtectedFds) first) :
          Host Tracee (List ℤ)).run tracee = _
    rw [if_neg (not_lt.mpr hcount), List.take_left, hfds]
    rfl
  · rw [foldlM_appendUniqueFd hfds, foldlM_appendUniqueFd hconfig, List.mem_append]
    simp

theorem hideDirent_congr {options : ProcDirentFilterOptions} {fds : List ℤ}
    (h : ∀ fd, fd ∈ fds ↔ fd ∈ options.protectedFds) (name : List UInt8) :
    hideDirent name { options with protectedFds := fds } = hideDirent name options := by
  unfold hideDirent
  simp only [h]

theorem validateConfig_validateRanges {config : ProcVirtualDispatchConfig}
    (h : validateConfig config = .ok ()) : validateRanges config.hiddenRanges = .ok () := by
  rw [validateConfig] at h
  split_ifs at h
  · split at h
    · cases h
    · assumption
  · split at h
    · cases h
    · assumption

theorem Valid.validateDirentOptions (h : listing.Valid kind) (fds : List ℤ) :
    validateDirentOptions { listing.options kind with protectedFds := fds } = .ok () := by
  have hkind := h.kind
  rw [isProcDirectoryNode, decide_eq_true_iff] at hkind
  rw [ProcVirtual.validateDirentOptions, if_neg]
  · exact validateConfig_validateRanges h.config
  · rintro ⟨hroot, hfd, hinfo, hmaps⟩
    rcases hkind with hkind | hkind | hkind | hkind
    · exact hroot hkind
    · exact hfd hkind
    · exact hinfo hkind
    · exact hmaps hkind

section Exit

variable {pending : ProcVirtualPending} {tracee : Tracee} {records : List (List UInt8)}
  {time : UInt64}

structure IsPending (listing : Listing) (kind : ProcVirtualNodeKind) (deadline : UInt64)
    (replayCount : ℕ) (pending : ProcVirtualPending) : Prop where
  flags : pending.flags = pendingDirents ||| pendingActive
  taskSlot : pending.taskSlot = listing.task.taskSlot
  tgid : pending.tgid = listing.task.tgid
  tid : pending.tid = listing.task.tid
  taskGeneration : pending.taskGeneration = listing.task.generation
  configGeneration : pending.configGeneration = listing.config.generation
  node : pending.node = kind
  arguments : pending.arguments = listing.arguments
  deadline : pending.replayDeadlineNs = deadline
  replayCount : pending.replayCount = replayCount

structure Holds (listing : Listing) (tracee : Tracee) (records : List (List UInt8)) : Prop where
  isDirent : ∀ record ∈ records, IsDirent record
  ne_nil : records ≠ []
  le_size : records.flatten.length ≤ listing.size
  result : tracee.result = records.flatten.length
  memory : bytesAt tracee.memory listing.address records.flatten.length = records.flatten

theorem Valid.compact (h : listing.Valid kind) (hrecords : ∀ record ∈ records, IsDirent record)
    (hne : records ≠ []) {fds : List ℤ}
    (hfds : ∀ fd, fd ∈ fds ↔ fd ∈ listing.config.protectedFds ++ listing.protectedFds) :
    ∃ tail compact, compactProcDirents64 records.flatten
        ⟨kind, listing.config.tracerPid, fds, listing.config.hiddenRanges⟩ =
          ((visibleRecords (listing.options kind) records).flatten ++ tail, .ok compact) ∧
      compact.visibleSize = (visibleRecords (listing.options kind) records).flatten.length ∧
      compact.allHidden = decide (visibleRecords (listing.options kind) records = []) := by
  have hoptions : visibleRecords ⟨kind, listing.config.tracerPid, fds, listing.config.hiddenRanges⟩
      records = visibleRecords (listing.options kind) records :=
    List.filter_congr fun record _ => congrArg (!·) (@hideDirent_congr (listing.options kind) fds
      hfds (recordName record))
  obtain ⟨tail, compact, hcompact, hsize, -, -, hall⟩ := compactProcDirents64_records
    (h.validateDirentOptions fds) hrecords hne
  refine ⟨tail, compact, ?_, ?_, ?_⟩
  · rw [← hoptions]
    exact hcompact
  · rw [← hoptions]
    exact hsize
  · simp only [← hoptions]
    exact hall

theorem completeDirents_run (h : listing.Valid kind) {deadline : UInt64} {replayCount : ℕ}
    (hpending : listing.IsPending kind deadline replayCount pending)
    (hholds : listing.Holds tracee records) (time : UInt64) (result : ProcVirtualExitResult) :
    ∃ tail compact counted,
      (completeDirents listing.config listing.io (listing.taskAt time) pending tracee.result
        result).run tracee =
        (finishDirents listing.config listing.io (listing.taskAt time) pending tracee.result
          ((visibleRecords (listing.options kind) records).flatten ++ tail) compact counted).run
            tracee ∧
      compact.visibleSize = (visibleRecords (listing.options kind) records).flatten.length ∧
      compact.allHidden = decide (visibleRecords (listing.options kind) records = []) ∧
      counted.flags = result.flags := by
  have hpos : 0 < records.flatten.length := by
    rw [List.length_pos_iff]
    exact mt (flatten_eq_nil hholds.isDirent).mp hholds.ne_nil
  have hread : (readRemote listing.io (listing.taskAt time) (listing.arguments 1)
      records.flatten.length).run tracee = (.ok records.flatten, tracee) :=
    (readRemote_run (h.fits.mono hholds.le_size)).trans
      (congrArg (fun bytes => (Except.ok bytes, tracee)) hholds.memory)
  obtain ⟨fds, hrun, hfds⟩ := @Valid.snapshotProtectedFds _ _ (listing.taskAt time) h tracee
  obtain ⟨tail, compact, hcompact, hsize, hall⟩ := h.compact hholds.isDirent hholds.ne_nil hfds
  have hlimits : ¬(records.flatten.length > (listing.arguments 2).toNat ∨
      records.flatten.length > listing.config.snapshotBuffer.length) := by
    have hle := hholds.le_size
    have hbuffer := h.buffer
    rw [size] at hle hbuffer
    omega
  refine ⟨tail, compact, { result with
    bytesRead := records.flatten.length
    recordsSeen := compact.recordsSeen
    recordsHidden := compact.recordsHidden }, ?_, hsize, hall, rfl⟩
  rw [completeDirents, hholds.result, if_neg (by omega), Int.toNat_natCast, hpending.arguments,
    if_neg hlimits, run_bind_ok hread, run_bind_ok hrun, hpending.node, hcompact]

theorem completeDirents_hidden (h : listing.Valid kind) {deadline : UInt64} {replayCount : ℕ}
    (hpending : listing.IsPending kind deadline replayCount pending)
    (hholds : listing.Holds tracee records)
    (hhidden : visibleRecords (listing.options kind) records = []) (time : UInt64)
    (result : ProcVirtualExitResult) :
    ∃ counted, (completeDirents listing.config listing.io (listing.taskAt time) pending
      tracee.result result).run tracee =
        (replayDirents listing.config (listing.taskAt time) pending counted, tracee) := by
  obtain ⟨tail, compact, counted, hrun, -, hall, -⟩ := completeDirents_run h hpending hholds time
    result
  refine ⟨counted, hrun.trans ?_⟩
  rw [finishDirents, if_pos (by simpa [hhidden] using hall)]
  cases replayDirents listing.config (listing.taskAt time) pending counted with
  | error error => rfl
  | ok replayed => rfl

theorem replayDirents_cases {deadline : UInt64} {replayCount : ℕ}
    (hpending : listing.IsPending kind deadline replayCount pending) (time : UInt64)
    (result : ProcVirtualExitResult) :
    replayDirents listing.config (listing.taskAt time) pending result = .error .eloop ∧
        effectiveMaxReplays listing.config ≤ replayCount ∨
      replayDirents listing.config (listing.taskAt time) pending result = .error .etimedout ∧
        Late deadline time ∨
      ∃ replayed next,
        replayDirents listing.config (listing.taskAt time) pending result = .ok (replayed, next) ∧
        replayed.flags &&& exitReplay ≠ 0 ∧ replayCount < effectiveMaxReplays listing.config ∧
        listing.IsPending kind deadline (replayCount + 1) next := by
  rw [replayDirents, hpending.replayCount, hpending.deadline]
  by_cases hmany : replayCount ≥ effectiveMaxReplays listing.config
  · exact .inl ⟨if_pos hmany, hmany⟩
  rw [if_neg hmany]
  by_cases hlate : Late deadline time
  · exact .inr (.inl ⟨if_pos hlate, hlate⟩)
  · refine .inr (.inr ⟨_, _, if_neg hlate, ?_, not_le.mp hmany,
      { hpending with replayCount := rfl, deadline := rfl }⟩)
    exact Flags.set_and_self (by decide)

theorem completeDirents_visible (h : listing.Valid kind) {deadline : UInt64} {replayCount : ℕ}
    (hpending : listing.IsPending kind deadline replayCount pending)
    (hholds : listing.Holds tracee records)
    (hvisible : visibleRecords (listing.options kind) records ≠ []) (time : UInt64)
    {result : ProcVirtualExitResult} (hflags : result.flags &&& exitReplay = 0) :
    ∃ committed, (completeDirents listing.config listing.io (listing.taskAt time) pending
        tracee.result result).run tracee =
          (.ok (committed, pending),
            { tracee with
              memory := overwrite tracee.memory listing.address
                (visibleRecords (listing.options kind) records).flatten
              result := (visibleRecords (listing.options kind) records).flatten.length }) ∧
      committed.flags &&& exitReplay = 0 := by
  obtain ⟨tail, compact, counted, hrun, hsize, hall, hcounted⟩ := completeDirents_run h hpending
    hholds time result
  have hle : (visibleRecords (listing.options kind) records).flatten.length ≤ listing.size :=
    (List.filter_sublist.flatten.length_le).trans hholds.le_size
  have hwrite : (writeRemote listing.io (listing.taskAt time) (pending.arguments 1)
      (((visibleRecords (listing.options kind) records).flatten ++ tail).take
        compact.visibleSize)).run tracee =
      (.ok (), { tracee with
        memory := overwrite tracee.memory listing.address
          (visibleRecords (listing.options kind) records).flatten }) := by
    rw [hsize, List.take_left, hpending.arguments]
    exact writeRemote_run (h.fits.mono hle)
  obtain ⟨committed, hcommit, hreplay⟩ := @commitVisibleResult_run listing.identity
    listing.protectedFds (listing.taskAt time)
    { tracee with
      memory := overwrite tracee.memory listing.address
        (visibleRecords (listing.options kind) records).flatten }
    compact.visibleSize
    { counted with
      bytesWritten := compact.visibleSize
      flags :=
        if compact.recordsHidden ≠ 0 then counted.flags ||| exitOutputPatched else counted.flags }
  refine ⟨committed, ?_, hreplay ?_⟩
  · rw [hrun, finishDirents, if_neg (by simpa [hvisible] using hall), run_bind_ok hwrite]
    exact (run_bind_ok hcommit).trans (by rw [hsize]; rfl)
  · dsimp only
    split_ifs
    · rw [BitVec.and_or_distrib_right, hcounted, hflags]
      decide
    · rwa [hcounted]

end Exit

section Rounds

variable {table : ProcVirtualPendingTable} {tracee : Tracee} {deadline : UInt64} {replayCount : ℕ}

theorem Valid.accepted (h : listing.Valid kind) (htable : ValidateProcVirtualPendingTable table)
    (time : UInt64) :
    ¬(¬IsProcVirtualPendingTableInitialized table ∨
      (listing.taskAt time).taskSlot ≥ taskCapacity ∨ (listing.taskAt time).tgid ≤ 0 ∨
      (listing.taskAt time).tid ≤ 0) := by
  rintro (hinit | hslot | htgid | htid)
  · exact hinit htable.1
  · exact absurd h.taskSlot (not_lt.mpr hslot)
  · exact absurd h.tgid (not_lt.mpr htgid)
  · exact absurd h.tid (not_lt.mpr htid)

theorem dispatchProcVirtualExit_run (h : listing.Valid kind)
    (htable : ValidateProcVirtualPendingTable table)
    (hpending : listing.IsPending kind deadline replayCount
      (table.entries listing.task.taskSlot)) (time : UInt64) (kernelResult : ℤ) :
    dispatchProcVirtualExit listing.config listing.io table (listing.taskAt time) kernelResult
        tracee =
      settleExit table listing.task.taskSlot
        ((completeDirents listing.config listing.io (listing.taskAt time)
          (table.entries listing.task.taskSlot) kernelResult
          (untouchedResult exitHandled (table.entries listing.task.taskSlot).node
            kernelResult)).run tracee) := by
  have hactive : (table.entries (listing.taskAt time).taskSlot).Active := by
    rw [ProcVirtualPending.Active, taskAt, hpending.flags]
    decide
  have hfresh : ¬((table.entries (listing.taskAt time).taskSlot).taskSlot ≠
        (listing.taskAt time).taskSlot ∨
      (table.entries (listing.taskAt time).taskSlot).tgid ≠ (listing.taskAt time).tgid ∨
      (table.entries (listing.taskAt time).taskSlot).tid ≠ (listing.taskAt time).tid ∨
      (table.entries (listing.taskAt time).taskSlot).taskGeneration ≠
        (listing.taskAt time).generation ∨
      (table.entries (listing.taskAt time).taskSlot).configGeneration ≠
        listing.config.generation) := by
    rintro (hslot | htgid | htid | htask | hconfig)
    · exact hslot hpending.taskSlot
    · exact htgid hpending.tgid
    · exact htid hpending.tid
    · exact htask hpending.taskGeneration
    · exact hconfig hpending.configGeneration
  have hcomplete : ∀ result, completePending listing.config listing.io (listing.taskAt time)
      (table.entries (listing.taskAt time).taskSlot) kernelResult result =
        completeDirents listing.config listing.io (listing.taskAt time)
          (table.entries listing.task.taskSlot) kernelResult result := by
    intro result
    rw [completePending, if_neg, if_pos]
    · rfl
    · rw [taskAt, hpending.flags]
      decide
    · rw [taskAt, hpending.flags]
      decide
  rw [dispatchProcVirtualExit, if_neg (h.accepted htable time), h.config]
  dsimp only
  rw [if_neg (not_not.mpr hactive), if_neg hfresh, hcomplete]
  rfl

def Fits (listing : Listing) (directory : List (List UInt8)) : Prop :=
  ∀ record ∈ directory, IsDirent record ∧ record.length ≤ listing.size

theorem batch_append_behind (directory : List (List UInt8)) :
    listing.batch directory ++ listing.behind directory = directory :=
  List.take_append_drop _ _

theorem visibleRecords_batch (directory : List (List UInt8)) :
    visibleRecords (listing.options kind) (listing.batch directory) ++
      visibleRecords (listing.options kind) (listing.behind directory) =
      visibleRecords (listing.options kind) directory := by
  rw [visibleRecords, visibleRecords, ← List.filter_append, batch_append_behind, visibleRecords]

theorem Valid.holds (h : listing.Valid kind) (hfits : listing.Fits tracee.directory)
    (hne : tracee.directory ≠ []) :
    listing.Holds (listing.kernelGetdents tracee) (listing.batch tracee.directory) ∧
      (listing.kernelGetdents tracee).directory = listing.behind tracee.directory ∧
      (listing.behind tracee.directory).length < tracee.directory.length := by
  obtain ⟨record, rest, hdirectory⟩ := List.exists_cons_of_ne_nil hne
  have hrecord := (hfits record (by simp [hdirectory])).2
  obtain ⟨hpos, hle⟩ := h.kernel record rest hrecord
  rw [← hdirectory] at hpos hle
  have hkernel : listing.kernelGetdents tracee =
      { memory := overwrite tracee.memory listing.address (listing.batch tracee.directory).flatten
        directory := listing.behind tracee.directory
        result := (listing.batch tracee.directory).flatten.length } := by
    rw [kernelGetdents, hdirectory]
    dsimp only
    rw [if_neg (not_lt.mpr hrecord)]
  have hbatch : listing.batch tracee.directory ≠ [] := by
    rw [batch, Ne, List.take_eq_nil_iff, not_or]
    exact ⟨hpos.ne', hne⟩
  rw [hkernel]
  refine ⟨⟨fun member hmember => (hfits member (List.mem_of_mem_take hmember)).1, hbatch, hle, rfl,
    bytesAt_overwrite _ _ (hle.trans h.fits.le)⟩, rfl, ?_⟩
  have hlength := List.length_pos_iff.mpr hne
  rw [behind, List.length_drop]
  omega

/-- What a call leaves after its entry: what it returns is visible and what is left is behind it, or
too many batches were hidden, or one came too late. -/
def Settles (listing : Listing) (kind : ProcVirtualNodeKind) (deadline : UInt64)
    (times : ℕ → UInt64) (replayCount round : ℕ) (directory : List (List UInt8)) :
    Except Errno Unit × ProcVirtualPendingTable × Tracee → Prop
  | (.ok (), table, tracee) => ValidateProcVirtualPendingTable table ∧
      tracee.directory <:+ directory ∧
      ∃ output, tracee.result = (output.length : ℤ) ∧
        bytesAt tracee.memory listing.address output.length = output ∧
        output ++ (visibleRecords (listing.options kind) tracee.directory).flatten =
          (visibleRecords (listing.options kind) directory).flatten ∧
        (output = [] → tracee.directory = [])
  | (.error error, _) =>
      error = .eloop ∧ listing.HiddenBatches kind
        (effectiveMaxReplays listing.config - replayCount + 1) directory ∨
      error = .etimedout ∧ ∃ count, listing.HiddenBatches kind (count + 1) directory ∧
        Late deadline (times (round + count))

theorem Settles.replay {times : ℕ → UInt64} {round : ℕ} {directory : List (List UInt8)}
    {outcome : Except Errno Unit × ProcVirtualPendingTable × Tracee} (hne : directory ≠ [])
    (hhidden : visibleRecords (listing.options kind) (listing.batch directory) = [])
    (hcount : replayCount < effectiveMaxReplays listing.config)
    (h : listing.Settles kind deadline times (replayCount + 1) (round + 1)
      (listing.behind directory) outcome) :
    listing.Settles kind deadline times replayCount round directory outcome := by
  obtain ⟨error | _, table, tracee⟩ := outcome
  · rcases h with ⟨rfl, hbatches⟩ | ⟨rfl, count, hbatches, hlate⟩
    · refine .inl ⟨rfl, ?_⟩
      rw [show effectiveMaxReplays listing.config - replayCount + 1 =
        effectiveMaxReplays listing.config - (replayCount + 1) + 1 + 1 by omega]
      exact ⟨hne, hhidden, hbatches⟩
    · refine .inr ⟨rfl, count + 1, ⟨hne, hhidden, hbatches⟩, ?_⟩
      rwa [show round + (count + 1) = round + 1 + count by omega]
  · obtain ⟨htable, hsuffix, output, hresult, hmemory, houtput, hend⟩ := h
    refine ⟨htable, hsuffix.trans (List.drop_suffix _ _), output, hresult, hmemory, ?_, hend⟩
    rw [houtput, ← visibleRecords_batch directory, hhidden, List.nil_append]

section Round

variable {times : ℕ → UInt64} {fuel round : ℕ} {next : ProcVirtualPendingTable} {after : Tracee}
  {result : ProcVirtualExitResult}

def exitRound (listing : Listing) (table : ProcVirtualPendingTable) (time : UInt64)
    (tracee : Tracee) :
    (ProcVirtualPendingTable × Except Errno ProcVirtualExitResult) × Tracee :=
  dispatchProcVirtualExit listing.config listing.io table (listing.taskAt time)
    (listing.kernelGetdents tracee).result (listing.kernelGetdents tracee)

theorem rounds_failed {error : Errno}
    (h : listing.exitRound table (times round) tracee = ((next, .error error), after)) :
    listing.rounds times (fuel + 1) round table tracee = some (.error error, next, after) := by
  rw [exitRound] at h
  rw [rounds, h]

theorem rounds_done (h : listing.exitRound table (times round) tracee = ((next, .ok result), after))
    (hflags : result.flags &&& exitReplay = 0) :
    listing.rounds times (fuel + 1) round table tracee = some (.ok (), next, after) := by
  rw [exitRound] at h
  rw [rounds, h]
  exact if_neg (not_not.mpr hflags)

theorem rounds_replayed
    (h : listing.exitRound table (times round) tracee = ((next, .ok result), after))
    (hflags : result.flags &&& exitReplay ≠ 0) :
    listing.rounds times (fuel + 1) round table tracee =
      listing.rounds times fuel (round + 1) next after := by
  rw [exitRound] at h
  rw [rounds, h]
  exact if_pos hflags

theorem exitRound_valid (htable : ValidateProcVirtualPendingTable table) (time : UInt64) :
    ValidateProcVirtualPendingTable (listing.exitRound table time tracee).1.1 :=
  dispatchProcVirtualExit_valid htable _ _

theorem rounds_end (h : listing.Valid kind) (htable : ValidateProcVirtualPendingTable table)
    (hpending : listing.IsPending kind deadline replayCount (table.entries listing.task.taskSlot))
    (hend : tracee.directory = []) :
    ∃ outcome, listing.rounds times (fuel + 1) round table tracee = some outcome ∧
      listing.Settles kind deadline times replayCount round tracee.directory outcome := by
  have hkernel : listing.kernelGetdents tracee = { tracee with result := 0 } := by
    rw [kernelGetdents, hend]
  have hexit : listing.exitRound table (times round) tracee =
      ((clearPendingUnchecked
        { table with
          entries := Function.update table.entries listing.task.taskSlot
            (table.entries listing.task.taskSlot) } listing.task.taskSlot,
        .ok (untouchedResult exitHandled (table.entries listing.task.taskSlot).node 0)),
        { tracee with result := 0 }) := by
    rw [exitRound, hkernel, dispatchProcVirtualExit_run h htable hpending, completeDirents,
      if_pos le_rfl]
    exact if_pos (by decide : exitHandled &&& exitReplay = 0)
  have hvalid := @exitRound_valid listing table tracee htable (times round)
  rw [hexit] at hvalid
  exact ⟨_, rounds_done hexit (by decide : exitHandled &&& exitReplay = 0), hvalid,
    List.suffix_rfl, [], rfl, rfl, rfl, fun _ => hend⟩

theorem rounds_visible (h : listing.Valid kind) (htable : ValidateProcVirtualPendingTable table)
    (hpending : listing.IsPending kind deadline replayCount (table.entries listing.task.taskSlot))
    (hfits : listing.Fits tracee.directory) (hne : tracee.directory ≠ [])
    (hvisible : visibleRecords (listing.options kind) (listing.batch tracee.directory) ≠ []) :
    ∃ outcome, listing.rounds times (fuel + 1) round table tracee = some outcome ∧
      listing.Settles kind deadline times replayCount round tracee.directory outcome := by
  obtain ⟨hholds, hbehind, -⟩ := h.holds hfits hne
  have hstart : (untouchedResult exitHandled (table.entries listing.task.taskSlot).node
      (listing.kernelGetdents tracee).result).flags &&& exitReplay = 0 :=
    (by decide : exitHandled &&& exitReplay = 0)
  obtain ⟨committed, hrun, hflags⟩ := completeDirents_visible h hpending hholds hvisible
    (times round) hstart
  have hexit := @dispatchProcVirtualExit_run listing kind table (listing.kernelGetdents tracee)
    deadline replayCount h htable hpending (times round) (listing.kernelGetdents tracee).result
  rw [hrun, settleExit, if_pos hflags] at hexit
  have hvalid := @exitRound_valid listing table tracee htable (times round)
  rw [exitRound, hexit] at hvalid
  have hlength : (visibleRecords (listing.options kind)
      (listing.batch tracee.directory)).flatten.length ≤ 2 ^ 64 :=
    (List.filter_sublist.flatten.length_le).trans (hholds.le_size.trans h.fits.le)
  refine ⟨_, rounds_done hexit hflags, hvalid, ?_, (visibleRecords (listing.options kind)
    (listing.batch tracee.directory)).flatten, rfl, bytesAt_overwrite _ _ hlength, ?_, ?_⟩
  · rw [hbehind]
    exact List.drop_suffix _ _
  · rw [hbehind, ← List.flatten_append, visibleRecords_batch]
  · intro hnil
    exact absurd ((flatten_eq_nil (IsDirent.visibleRecords hholds.isDirent)).mp hnil) hvisible

theorem rounds_hidden (h : listing.Valid kind) (htable : ValidateProcVirtualPendingTable table)
    (hpending : listing.IsPending kind deadline replayCount (table.entries listing.task.taskSlot))
    (hfits : listing.Fits tracee.directory) (hne : tracee.directory ≠ [])
    (hhidden : visibleRecords (listing.options kind) (listing.batch tracee.directory) = [])
    (hnext : ∀ next after, replayCount < effectiveMaxReplays listing.config →
      ValidateProcVirtualPendingTable next →
      listing.IsPending kind deadline (replayCount + 1) (next.entries listing.task.taskSlot) →
      after.directory = listing.behind tracee.directory →
      ∃ outcome, listing.rounds times fuel (round + 1) next after = some outcome ∧
        listing.Settles kind deadline times (replayCount + 1) (round + 1) after.directory
          outcome) :
    ∃ outcome, listing.rounds times (fuel + 1) round table tracee = some outcome ∧
      listing.Settles kind deadline times replayCount round tracee.directory outcome := by
  obtain ⟨hholds, hbehind, -⟩ := h.holds hfits hne
  obtain ⟨counted, hrun⟩ := completeDirents_hidden h hpending hholds hhidden (times round)
    (untouchedResult exitHandled (table.entries listing.task.taskSlot).node
      (listing.kernelGetdents tracee).result)
  have hexit := @dispatchProcVirtualExit_run listing kind table (listing.kernelGetdents tracee)
    deadline replayCount h htable hpending (times round) (listing.kernelGetdents tracee).result
  have hvalid := @exitRound_valid listing table tracee htable (times round)
  rw [hrun] at hexit
  rcases replayDirents_cases hpending (times round) counted with
    ⟨hreplay, hmany⟩ | ⟨hreplay, hlate⟩ | ⟨replayed, next, hreplay, hflags, hless, hpending⟩
  · rw [hreplay] at hexit
    refine ⟨_, rounds_failed hexit, .inl ⟨rfl, ?_⟩⟩
    rw [Nat.sub_eq_zero_of_le hmany]
    exact ⟨hne, hhidden, trivial⟩
  · rw [hreplay] at hexit
    exact ⟨_, rounds_failed hexit, .inr ⟨rfl, 0, ⟨hne, hhidden, trivial⟩, hlate⟩⟩
  · rw [hreplay, settleExit, if_neg hflags] at hexit
    rw [exitRound, hexit] at hvalid
    obtain ⟨outcome, hrounds, hsettles⟩ := hnext _ _ hless hvalid
      (by simpa only [Function.update_self] using hpending) hbehind
    rw [hbehind] at hsettles
    exact ⟨outcome, (rounds_replayed hexit hflags).trans hrounds,
      hsettles.replay hne hhidden hless⟩

end Round

/-- The rounds of a call come to an end, and return what is visible in order. -/
theorem rounds_spec (h : listing.Valid kind) (times : ℕ → UInt64) (fuel : ℕ) :
    ∀ (replayCount round : ℕ) (table : ProcVirtualPendingTable) (tracee : Tracee),
      ValidateProcVirtualPendingTable table →
      listing.IsPending kind deadline replayCount (table.entries listing.task.taskSlot) →
      listing.Fits tracee.directory → tracee.directory.length < fuel →
      ∃ outcome, listing.rounds times fuel round table tracee = some outcome ∧
        listing.Settles kind deadline times replayCount round tracee.directory outcome := by
  induction fuel with
  | zero => exact fun _ _ _ _ _ _ _ hfuel => absurd hfuel (Nat.not_lt_zero _)
  | succ fuel ih =>
    intro replayCount round table tracee htable hpending hfits hfuel
    by_cases hend : tracee.directory = []
    · exact rounds_end h htable hpending hend
    by_cases hhidden : visibleRecords (listing.options kind) (listing.batch tracee.directory) = []
    · refine rounds_hidden h htable hpending hfits hend hhidden ?_
      intro next after _ hnext hafter hdirectory
      obtain ⟨-, -, hless⟩ := h.holds hfits hend
      refine ih _ _ next after hnext hafter ?_ ?_
      · rw [hdirectory]
        exact fun record hrecord => hfits record (List.mem_of_mem_drop hrecord)
      · rw [hdirectory]
        omega
    · exact rounds_visible h htable hpending hfits hend hhidden

end Rounds

section Entry

variable {listing : Listing} {kind : ProcVirtualNodeKind} {table : ProcVirtualPendingTable}
  {tracee : Tracee}

theorem Valid.resolveIdentityPath_run (h : listing.Valid kind) (time : UInt64) :
    (resolveIdentityPath listing.io (listing.taskAt time) nrGetdents64
      (argumentFd (listing.arguments 0)) invalidArgument 0 identityCapacity).run tracee =
      (.ok listing.identity, tracee) := by
  have hresolved (query : ProcVirtualIdentityQuery) (source : ProcVirtualIdentitySource) :
      (tryResolvedIdentity listing.io query source identityCapacity).run tracee =
        (.ok (some listing.identity), tracee) := by
    have hguard : ¬(listing.identity.length ≥ identityCapacity ∨
        (listing.identity ++ [0])[listing.identity.length]? ≠ some 0 ∨
        0 ∈ (listing.identity ++ [0]).take listing.identity.length) := by
      simp [h.identity.1, h.identity.2]
    have hbody : (do
        let answer ← (pure (listing.identity ++ [0], listing.identity.length) :
          Host Tracee (List UInt8 × ℕ))
        if answer.2 ≥ identityCapacity ∨ answer.1[answer.2]? ≠ some 0 ∨
            0 ∈ answer.1.take answer.2 then throw .eproto
        else pure (some (answer.1.take answer.2)) : Host Tracee (Option (List UInt8))).run tracee =
        (.ok (some listing.identity), tracee) := by
      rw [pure_bind]
      dsimp only
      rw [if_neg hguard, List.take_left]
      rfl
    show (tryCatch _ _ : Host Tracee (Option (List UInt8))).run tracee = _
    rw [run_tryCatch]
    erw [hbody]
  rw [resolveIdentityPath, run_bind_ok (hresolved _ _)]
  rfl

theorem Valid.dispatchProcVirtualEntry_run (h : listing.Valid kind)
    (htable : ValidateProcVirtualPendingTable table) (time : UInt64) :
    ∃ next result, dispatchProcVirtualEntry listing.config listing.io table (listing.taskAt time)
        nrGetdents64 listing.arguments tracee = ((next, .ok result), tracee) ∧
      ValidateProcVirtualPendingTable next ∧
      listing.IsPending kind (listing.deadline time) 0
        (next.entries listing.task.taskSlot) := by
  have hplan : (planEntry listing.config listing.io (listing.taskAt time) nrGetdents64
      listing.arguments).run tracee =
      (.ok (some ⟨pendingDirents, argumentFd (listing.arguments 0), kind, listing.identity,
        invalidRule, entryHandled ||| entryNeedsExit⟩), tracee) := by
    obtain ⟨path, hpath, hkind⟩ := h.parsed
    rw [planEntry, if_neg (by decide), if_pos rfl, planNode, if_neg h.fd.not_gt, orUnhandled,
      run_tryCatch, run_bind_ok (h.resolveIdentityPath_run time)]
    simp only [taskAt, hpath, hkind, h.kind, if_true]
    rfl
  have hinstall : ∃ next, installPending (clearPendingUnchecked table listing.task.taskSlot)
        listing.config (listing.taskAt time) nrGetdents64 listing.arguments
        ⟨pendingDirents, argumentFd (listing.arguments 0), kind, listing.identity, invalidRule,
          entryHandled ||| entryNeedsExit⟩ = (next, .ok ()) ∧
      listing.IsPending kind (listing.deadline time) 0
        (next.entries listing.task.taskSlot) := by
    refine ⟨_, if_neg (not_le.mpr h.identity.1), ?_⟩
    simp only [taskAt, Function.update_self, clearPendingUnchecked_entries]
    exact ⟨rfl, rfl, rfl, rfl, rfl, rfl, rfl, rfl, rfl, rfl⟩
  obtain ⟨next, hnext, hpending⟩ := hinstall
  have hentry : dispatchProcVirtualEntry listing.config listing.io table (listing.taskAt time)
      nrGetdents64 listing.arguments tracee =
      ((next, .ok ⟨entryHandled ||| entryNeedsExit, kind, listing.task.taskSlot⟩), tracee) := by
    rw [dispatchProcVirtualEntry, if_neg (h.accepted htable time), h.config]
    dsimp only
    rw [hplan]
    dsimp only [taskAt] at hnext ⊢
    rw [hnext]
  have hvalid := @dispatchProcVirtualEntry_valid _ listing.io (listing.taskAt time)
    table listing.config htable nrGetdents64 listing.arguments tracee
  rw [hentry] at hvalid
  exact ⟨next, _, hentry, hvalid, hpending⟩

end Entry

section Calls

variable {listing : Listing} {kind : ProcVirtualNodeKind}

/-- What a call gives for the records that are left: a batch of what is visible, empty only at the
end, or an error after too many hidden batches or too late. -/
def Answers (listing : Listing) (kind : ProcVirtualNodeKind) (clock : ℕ → UInt64)
    (directory : List (List UInt8)) : Outcome → ProcVirtualPendingTable × Tracee → Prop
  | .returned result output, next => result = (output.length : ℤ) ∧
      output ++ (visibleRecords (listing.options kind) next.2.directory).flatten =
        (visibleRecords (listing.options kind) directory).flatten ∧
      (output = [] → next.2.directory = [])
  | .failed error, _ =>
      error = .eloop ∧
        listing.HiddenBatches kind (effectiveMaxReplays listing.config + 1) directory ∨
      error = .etimedout ∧ ∃ count, listing.HiddenBatches kind (count + 1) directory ∧
        Late (listing.deadline (clock 0)) (clock (count + 1))

theorem Valid.call_spec (h : listing.Valid kind) (clock : ℕ → UInt64)
    {now : ProcVirtualPendingTable × Tracee} (htable : ValidateProcVirtualPendingTable now.1)
    (hfits : listing.Fits now.2.directory) :
    ∃ outcome next, listing.call clock now = some (outcome, next) ∧
      listing.Answers kind clock now.2.directory outcome next ∧
      (∀ result output, outcome = .returned result output →
        ValidateProcVirtualPendingTable next.1 ∧ listing.Fits next.2.directory) := by
  obtain ⟨table, result, hentry, hvalid, hpending⟩ :=
    h.dispatchProcVirtualEntry_run htable (clock 0)
  obtain ⟨⟨answer, last, tracee⟩, hrounds, hsettles⟩ := rounds_spec h
    (fun round => clock (round + 1)) (now.2.directory.length + 1) 0 0 table now.2 hvalid hpending
    hfits (Nat.lt_succ_self _)
  rw [call, hentry]
  dsimp only
  rw [hrounds]
  cases answer with
  | error error =>
    refine ⟨.failed error, (last, tracee), rfl, ?_, fun _ _ hreturned => by cases hreturned⟩
    rcases hsettles with ⟨rfl, hbatches⟩ | ⟨rfl, count, hbatches, hlate⟩
    · exact .inl ⟨rfl, hbatches⟩
    · rw [Nat.zero_add] at hlate
      exact .inr ⟨rfl, count, hbatches, hlate⟩
  | ok _ =>
    obtain ⟨hlast, hsuffix, output, hresult, hmemory, houtput, hempty⟩ := hsettles
    refine ⟨.returned tracee.result output, (last, tracee), ?_, ⟨hresult, houtput, hempty⟩,
      fun _ _ _ => ⟨hlast, fun record hrecord => hfits record (hsuffix.mem hrecord)⟩⟩
    show some (Outcome.returned tracee.result (bytesAt tracee.memory listing.address
      tracee.result.toNat), last, tracee) = _
    rw [hresult, Int.toNat_natCast, hmemory]

theorem Lists.spec (h : listing.Valid kind) {now last : ProcVirtualPendingTable × Tracee}
    {outputs : List (List UInt8)} (hlists : listing.Lists now outputs last)
    (htable : ValidateProcVirtualPendingTable now.1) (hfits : listing.Fits now.2.directory) :
    ValidateProcVirtualPendingTable last.1 ∧ listing.Fits last.2.directory ∧
      outputs.flatten ++ (visibleRecords (listing.options kind) last.2.directory).flatten =
        (visibleRecords (listing.options kind) now.2.directory).flatten ∧
      ([] ∈ outputs →
        outputs.flatten = (visibleRecords (listing.options kind) now.2.directory).flatten) := by
  induction hlists with
  | nil now => exact ⟨htable, hfits, rfl, fun hmem => absurd hmem List.not_mem_nil⟩
  | @cons now next last result output outputs clock hcall hrest ih =>
    obtain ⟨outcome, next', hcall', hanswers, hnext⟩ := h.call_spec clock htable hfits
    obtain ⟨rfl, rfl⟩ : .returned result output = outcome ∧ next = next' := by
      simpa using hcall.symm.trans hcall'
    obtain ⟨-, houtput, hempty⟩ := hanswers
    obtain ⟨hnextTable, hnextFits⟩ := hnext _ _ rfl
    obtain ⟨hlastTable, hlastFits, houtputs, hend⟩ := ih hnextTable hnextFits
    rw [List.flatten_cons, ← houtput]
    refine ⟨hlastTable, hlastFits, by rw [List.append_assoc, houtputs], ?_⟩
    intro hmem
    rcases List.mem_cons.mp hmem with hnil | hmem
    · rw [hempty hnil.symm] at houtputs ⊢
      rw [(List.append_eq_nil_iff.mp houtputs).1]
      rfl
    · rw [hend hmem]

/-- The calls that return list what is visible, and the next call goes on with it. -/
theorem getdents_lists_visible (h : listing.Valid kind)
    {now last : ProcVirtualPendingTable × Tracee} {outputs : List (List UInt8)}
    (htable : ValidateProcVirtualPendingTable now.1) (hfits : listing.Fits now.2.directory)
    (hlists : listing.Lists now outputs last) :
    outputs.flatten ++ (visibleRecords (listing.options kind) last.2.directory).flatten =
        (visibleRecords (listing.options kind) now.2.directory).flatten ∧
      ([] ∈ outputs →
        outputs.flatten = (visibleRecords (listing.options kind) now.2.directory).flatten) ∧
      ∀ clock, ∃ outcome next, listing.call clock last = some (outcome, next) ∧
        listing.Answers kind clock last.2.directory outcome next := by
  obtain ⟨hlastTable, hlastFits, houtputs, hend⟩ := hlists.spec h htable hfits
  refine ⟨houtputs, hend, fun clock => ?_⟩
  obtain ⟨outcome, next, hcall, hanswers, -⟩ := h.call_spec clock hlastTable hlastFits
  exact ⟨outcome, next, hcall, hanswers⟩

def dirent (name : String) (length : ℕ) : List UInt8 :=
  List.replicate 16 0 ++ [UInt8.ofNat length, 0, 4] ++ bytes name ++
    List.replicate (length - 19 - (bytes name).length) 0

def sampleFds (count : ℕ) : List ℕ := (List.range count).map (100 + ·)

def sampleListing (count : ℕ) : Listing where
  config :=
    { generation := 1
      tracerPid := 2
      maxIovCount := 0
      maxGetdentsReplays := 32
      getdentsReplayTimeoutNs := 1000000000
      hiddenRanges := []
      reverseRules := []
      protectedFds := (sampleFds count).map Int.ofNat
      xattrRules := []
      snapshotBuffer := List.replicate 64 0
      rewriteBuffer := List.replicate 64 0 }
  identity := bytes "/proc/self/fd"
  protectedFds := []
  task := ⟨0, 1, 1, 0, 0⟩
  arguments := fun index => if index = 0 then 3 else if index = 1 then 4096 else 24
  kernel := fun _ _ => 1

def sampleStart (directory : List (List UInt8)) : ProcVirtualPendingTable × Tracee :=
  (initProcVirtualPendingTable, ⟨fun _ => 0, directory, 0⟩)

def sampleDirectory (count : ℕ) : List (List UInt8) :=
  (sampleFds count).map (fun fd => dirent (toString fd) 24) ++ [dirent "5" 24]

theorem sampleListing_valid : (sampleListing 1).Valid .fdDirectory where
  config := by decide +kernel
  taskSlot := by decide
  tgid := by decide
  tid := by decide
  fd := by decide +kernel
  identity := ⟨by decide +kernel, by decide +kernel⟩
  parsed := ⟨⟨.fdDirectory, 1, 0, pathSelfAlias⟩, by decide +kernel, rfl⟩
  kind := rfl
  protectedFds := ⟨by decide, [100], by decide +kernel⟩
  fits := by decide +kernel
  buffer := by decide +kernel
  kernel := by
    intro record rest hrecord
    simpa [batch, sampleListing] using hrecord

theorem getdents_lists_visible_sample :
    ∃ last, (sampleListing 1).Lists (sampleStart (sampleDirectory 1)) [dirent "5" 24] last ∧
      dirent "5" 24 ++
          (visibleRecords ((sampleListing 1).options .fdDirectory) last.2.directory).flatten =
        (visibleRecords ((sampleListing 1).options .fdDirectory) (sampleDirectory 1)).flatten := by
  have hcall : ((sampleListing 1).call (fun _ => 1) (sampleStart (sampleDirectory 1))).map
      Prod.fst = some (.returned 24 (dirent "5" 24)) := by decide +kernel
  obtain ⟨⟨outcome, last⟩, hcall, rfl⟩ := Option.map_eq_some_iff.mp hcall
  have hlists : (sampleListing 1).Lists (sampleStart (sampleDirectory 1)) [dirent "5" 24] last :=
    .cons _ hcall (.nil _)
  have hfits : (sampleListing 1).Fits (sampleStart (sampleDirectory 1)).2.directory := by
    intro record hrecord
    obtain rfl | rfl : record = dirent "100" 24 ∨ record = dirent "5" 24 := by
      revert record
      decide +kernel
    all_goals exact ⟨by constructor <;> decide +kernel, by decide +kernel⟩
  have hspec := getdents_lists_visible sampleListing_valid initProcVirtualPendingTable_valid hfits
    hlists
  exact ⟨last, hlists, hspec.1⟩

/-- A run of hidden records makes a call fail, and so does a hidden record that is longer than the
buffer. -/
theorem getdents_fails_at_hidden :
    ((sampleListing 33).call (fun _ => 1) (sampleStart (sampleDirectory 33))).map Prod.fst =
        some (.failed .eloop) ∧
      visibleRecords ((sampleListing 33).options .fdDirectory) (sampleDirectory 33) =
        [dirent "5" 24] ∧
      ((sampleListing 1).call (fun _ => 1)
        (sampleStart [dirent "100" 32, dirent "5" 24])).map Prod.fst =
        some (.returned (-einvalNumber) []) ∧
      visibleRecords ((sampleListing 1).options .fdDirectory) [dirent "100" 32, dirent "5" 24] =
        [dirent "5" 24] ∧
      (dirent "5" 24).length = (sampleListing 1).size := by
  decide +kernel

end Calls

end Listing

end HookSelf.ProcVirtual
