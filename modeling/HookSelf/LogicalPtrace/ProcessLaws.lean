import HookSelf.LogicalPtrace.Invariant

namespace HookSelf.LogicalPtrace

open SlotTable LinkChain KeyedTable

variable {table : LogicalPtraceTable}

section Outcomes

variable {σ α : Type} {c : Prop} [Decidable c]

theorem keeps_ite {Q : σ → Prop} {x y : σ × α} (hx : c → Q x.1) (hy : ¬c → Q y.1) :
    Q (if c then x else y).1 := by
  split_ifs with hc
  exacts [hx hc, hy hc]

theorem keeps_guard {Q : LogicalPtraceTable → Prop} {e : Errno} {y : Outcome α} (h : Q table)
    (hy : ¬c → Q y.1) : Q (if c then (table, .error e) else y).1 :=
  keeps_ite (fun _ => h) hy

theorem Inv.guard {e : Errno} {y : Outcome α} (h : Inv table) :
    (¬c → Inv y.1) → Inv (if c then (table, .error e) else y).1 :=
  keeps_guard h

theorem Inv.noted (h : Inv table) : Inv (noteMutation table) := { h with }

end Outcomes

theorem allocateSequence_ne_zero (next : Nat) :
    (allocateSequence next).1 ≠ 0 ∧ (allocateSequence next).2 ≠ 0 := by
  simp only [allocateSequence]
  constructor <;> split_ifs <;> omega

theorem decrementCount_tally {ρ : Type} {n s : Nat} {f : Nat → ρ} {p : ρ → Prop} [DecidablePred p]
    {count : Nat} (h : tally n f p = count) (hs : s < n) (hp : p (f s)) :
    decrementCount count = count - 1 := by
  have hpos := tally_pos hs hp
  rw [decrementCount, if_neg (by omega)]

section Processes

variable {P P' : Nat → LogicalProcessRecord} {R : Nat → LogicalPtraceRelation}
  {F : Nat → LogicalFakeTracemeRecord} {W : Nat → LogicalWaitRecord} {s : Nat}
  {v : LogicalProcessRecord} {id : Int × Nat}

theorem RelationPart.mono (h : RelationPart P R)
    (hP : ∀ s < kLogicalPtraceRelationCapacity, (R s).Used →
      ∀ id, id = (R s).tracee.processId ∨ id = (R s).tracer.processId →
        HasProcess P id → HasProcess P' id) : RelationPart P' R :=
  { h with
    tracee := fun s hs hused => hP s hs hused _ (.inl rfl) (h.tracee s hs hused)
    tracer := fun s hs hused => hP s hs hused _ (.inr rfl) (h.tracer s hs hused) }

theorem Inv.withProcesses (h : Inv table) {count hint : Nat} (hP : ProcessPart P')
    (hmono : ∀ id, HasProcess table.processes id → HasProcess P' id)
    (hcount : tally kLogicalPtraceProcessCapacity P' (·.Used) = count)
    (hle : count ≤ kLogicalPtraceProcessCapacity) (hhint : hint < kLogicalPtraceProcessCapacity) :
    Inv { table with processes := P', processCount := count, processFreeHint := hint } :=
  { h with
    initialized := by
      obtain ⟨h1, h2, _, h4, h5, h6, _, h8⟩ := h.initialized
      exact ⟨h1, h2, hle, h4, h5, h6, hhint, h8⟩
    processes := hP
    relations := h.relations.mono fun _ _ _ id _ => hmono id
    fakes := h.fakes.mono fun _ _ _ => hmono _
    waits := h.waits.mono fun _ _ _ => hmono _
    processCount := hcount }

theorem not_used_clear (s : Nat) : ¬(clearProcessRecord s).Used := fun h => h rfl

theorem ProcessPart.put (h : ProcessPart P) (hs : s < kLogicalPtraceProcessCapacity)
    (hv : ProcessLive s v) (hold : (P s).Used → (P s).id = v.id)
    (hdistinct : Distinct kLogicalPtraceProcessCapacity LogicalProcessRecord.Used
      LogicalProcessRecord.id (Function.update P s v))
    (hkeep : ∀ id, HasProcess P id → HasProcess (Function.update P s v) id)
    (hparent : ∀ id ∈ v.parentId, HasProcess P id)
    (hpath : ∀ id ∈ v.parentId, ¬OnPath (parentLink P) v.id id) :
    ProcessPart (Function.update P s v) := by
  have hused : v.Used := by simp [LogicalProcessRecord.Used, hv.occupied]
  have hother : ∀ x, x ≠ v.id → parentLink (Function.update P s v) x = parentLink P x :=
    fun x hx => link_update_of_ne (fun hsu => hold hsu ▸ hx.symm) fun _ => hx.symm
  have hself : parentLink (Function.update P s v) v.id = v.parentId := by
    have hlink : parentLink (Function.update P s v) (Function.update P s v s).id =
        (Function.update P s v s).parentId :=
      hdistinct.link_eq hs (by rw [Function.update_self]; exact hused)
    rwa [Function.update_self] at hlink
  refine ⟨forall_update (P := fun s v => v = clearProcessRecord s ∨ ProcessLive s v) h.ok (.inr hv),
    hdistinct, forall_update (P := fun _ (x : LogicalProcessRecord) => x.Used →
      ∀ id ∈ x.parentId, HasProcess (Function.update P s v) id) ?_ ?_, fun id => ?_⟩
  · exact fun a ha hau id hid => hkeep id (h.parent a ha hau id hid)
  · exact fun _ id hid => hkeep id (hparent id hid)
  · rcases hp : v.parentId with _ | p
    · exact (h.grounded id).cut hother (hself.trans hp)
    · exact (h.grounded id).relink (h.grounded p) (hpath p (by simp [hp])) hother (hself.trans hp)

theorem ProcessPart.insert (h : ProcessPart P) (hs : s < kLogicalPtraceProcessCapacity)
    (hfree : ¬(P s).Used) (hv : ProcessLive s v) (hnew : ¬HasProcess P v.id)
    (hparent : ∀ id ∈ v.parentId, HasProcess P id) : ProcessPart (Function.update P s v) := by
  refine h.put hs hv (fun hsu => absurd hsu hfree) (h.distinct.insert (lookup_eq_none.mpr hnew))
    (fun _ hid => hid.update_of_ne fun hsu => absurd hsu hfree) hparent fun p hp hpath => ?_
  -- a process on the path of the parent is one that some process names, so it exists
  rcases hpath.eq_or_linked with heq | ⟨x, hx⟩
  · exact hnew (heq ▸ hparent p hp)
  · obtain ⟨a, ha, hau, _, hnext⟩ := link_eq_some hx
    exact hnew (h.parent a ha hau _ (by simpa using hnext))

theorem ProcessPart.erase (h : ProcessPart P) (hs : s < kLogicalPtraceProcessCapacity)
    (hused : (P s).Used)
    (hunreferenced : ∀ a < kLogicalPtraceProcessCapacity, (P a).Used → (P s).id ∉ (P a).parentId) :
    ProcessPart (Function.update P s (clearProcessRecord s)) := by
  have hother : ∀ x, x ≠ (P s).id →
      parentLink (Function.update P s (clearProcessRecord s)) x = parentLink P x :=
    fun x hx => link_update_of_ne (fun _ => hx.symm) fun hclear => absurd hclear (not_used_clear s)
  have hself : parentLink (Function.update P s (clearProcessRecord s)) (P s).id = none := by
    refine link_eq_none ?_
    rintro ⟨a, ha, hau, hid⟩
    by_cases has : a = s
    · rw [has, Function.update_self] at hau
      exact not_used_clear s hau
    · rw [Function.update_of_ne has] at hau hid
      exact has (h.distinct a ha s hs hau hused hid)
  refine ⟨forall_update (P := fun s v => v = clearProcessRecord s ∨ ProcessLive s v) h.ok (.inl rfl),
    h.distinct.vacate (not_used_clear s), forall_update
      (P := fun _ (x : LogicalProcessRecord) => x.Used → ∀ id ∈ x.parentId, HasProcess
        (Function.update P s (clearProcessRecord s)) id) ?_
      fun hclear => absurd hclear (not_used_clear s), fun id => (h.grounded id).cut hother hself⟩
  intro a ha hau id hid
  refine (h.parent a ha hau id hid).update_of_ne fun _ heq => ?_
  exact hunreferenced a ha hau (heq ▸ hid)

theorem ProcessPart.modify (h : ProcessPart P) (hs : s < kLogicalPtraceProcessCapacity)
    (hused : (P s).Used) (hv : ProcessLive s v) (hid : v.id = (P s).id)
    (hparent : ∀ id ∈ v.parentId, HasProcess P id)
    (hpath : ∀ id ∈ v.parentId, ¬OnPath (parentLink P) v.id id) :
    ProcessPart (Function.update P s v) ∧
      ∀ id, HasProcess P id → HasProcess (Function.update P s v) id := by
  have hvu : v.Used := by simp [LogicalProcessRecord.Used, hv.occupied]
  have hkeep : ∀ id, HasProcess P id → HasProcess (Function.update P s v) id :=
    fun id => (Holds.congr (forall_update (P := fun a (x : LogicalProcessRecord) => (x.Used ↔ (P a).Used) ∧
      x.id = (P a).id) (fun _ _ => ⟨Iff.rfl, rfl⟩) ⟨iff_of_true hvu hused, hid⟩)).mpr
  exact ⟨h.put hs hv (fun _ => hid.symm) (h.distinct.replace hs hused hid) hkeep hparent hpath, hkeep⟩

end Processes

section ProcessOperations

variable {key : LogicalProcessKey} {parent : Option LogicalProcessKey}

theorem parentId_newProcess {slot : Nat} {group dumpable : Int} {ptracer : LogicalPidIdentity} :
    (newProcess slot key parent group dumpable ptracer).parentId = parent.map (·.id) := by
  cases parent <;> simp [newProcess, LogicalProcessRecord.parentId, ParentKnown,
    kLogicalProcessFlagParentKnown]

theorem ProcessLive.new {slot : Nat} {group dumpable : Int} {ptracer : LogicalPidIdentity}
    (hkey : ProcessKeyValid key) (hgroup : group > 0) (hdumpable : DumpableValid dumpable)
    (hptracer : PidIdentityValid ptracer) (hparent : ∀ p ∈ parent, ProcessKeyValid p) :
    ProcessLive slot (newProcess slot key parent group dumpable ptracer) where
  slot_eq := rfl
  occupied := rfl
  key := hkey
  group := hgroup
  dumpable := hdumpable
  ptracer := hptracer
  reserved := rfl
  flags := by cases parent <;> simp [newProcess, kLogicalProcessFlagParentKnown]
  parent := by
    cases parent with
    | none => simp [newProcess, ParentKnown]
    | some p => exact fun _ => hparent p rfl
  no_parent := by
    cases parent <;> simp [newProcess, ParentKnown, kLogicalProcessFlagParentKnown]

theorem Inv.insertProcess (h : Inv table) (key : LogicalProcessKey)
    (parent : Option LogicalProcessKey) (group dumpable : Int) (ptracer : LogicalPidIdentity) :
    Inv (insertLogicalProcess table key parent group dumpable ptracer).1 := by
  refine h.guard fun hargs => h.guard fun hnew => h.guard fun hmissing => h.guard fun hfull => ?_
  push Not at hargs hmissing
  obtain ⟨-, hkey, hgroup, hdumpable, hptracer⟩ := hargs
  rcases hslot : slotFrom kLogicalPtraceProcessCapacity table.processFreeHint
    fun slot => (table.processes slot).occupied = 0 with _ | slot
  · exact h
  · obtain ⟨hlt, hfree⟩ := slotFrom_some h.initialized.2.2.2.2.2.2.1 hslot
    have hparent : ∀ p ∈ parent, ProcessKeyValid p ∧ HasProcess table.processes p.id := by
      intro p hp
      have hp := hmissing p hp
      simp only [ParentMissing, not_or, not_not] at hp
      exact ⟨hp.1, (findLogicalProcess_ne_none h.initialized hp.1).mp hp.2.2⟩
    have hunused : ¬(table.processes slot).Used := not_not.mpr hfree
    have hpart := h.processes.insert hlt hunused
      (ProcessLive.new hkey hgroup hdumpable hptracer fun p hp => (hparent p hp).1)
      (fun hid => hnew ((findLogicalProcess_ne_none h.initialized hkey).mpr hid)) (by
        rw [parentId_newProcess]
        intro id hid
        obtain ⟨p, hp, rfl⟩ := Option.map_eq_some_iff.mp hid
        exact (hparent p hp).2)
    refine Inv.noted (h.withProcesses hpart
      (fun id hid => hid.update_of_ne fun hu => absurd hu hunused) ?_ ?_ (advanceHint_lt hlt))
    · have hused : (newProcess slot key parent group dumpable ptracer).Used := Nat.one_ne_zero
      exact (tally_occupy hlt hunused hused).trans (congrArg (· + 1) h.processCount)
    · have := h.initialized.2.2.1
      omega

theorem Inv.inheritProcess (h : Inv table) (child parent : LogicalProcessKey) (group : Int) :
    Inv (inheritLogicalProcess table child parent group).1 := by
  refine h.guard fun _ => ?_
  split
  exacts [h, h.insertProcess _ _ _ _ _]

theorem Inv.eraseProcess (h : Inv table) (key : LogicalProcessKey) :
    Inv (eraseLogicalProcess table key).1 := by
  refine h.guard fun _ => ?_
  rcases hslot : findLogicalProcess table key with _ | slot
  · exact h
  · refine h.guard fun hunreferenced => ?_
    obtain ⟨hlt, hused, hid⟩ := findLogicalProcess_some hslot
    simp only [ProcessReferenced, not_or, not_exists, not_and, logicalProcessKeysEqual_iff]
      at hunreferenced
    obtain ⟨hparents, hrelations, hfakes, hwaits⟩ := hunreferenced
    have hself := (h.processes.live hlt hused).slot_eq
    have hkeep : ∀ id, id ≠ key.id → HasProcess table.processes id → HasProcess
        (Function.update table.processes slot (clearProcessRecord slot)) id :=
      fun id hne hhas => hhas.update_of_ne fun _ heq => hne (heq.symm.trans hid)
    simp only [hself]
    refine Inv.noted
      { h with
        initialized := ?_
        processes := ?_
        relations := ?_
        fakes := ?_
        waits := ?_
        processCount := ?_ }
    · obtain ⟨h1, h2, h3, h4, h5, h6, _, h8⟩ := h.initialized
      refine ⟨h1, h2, ?_, h4, h5, h6, hlt, h8⟩
      rw [decrementCount_tally h.processCount hlt hused]
      exact (Nat.sub_le _ _).trans h3
    · refine h.processes.erase hlt hused fun a ha hau hmem => ?_
      rw [LogicalProcessRecord.parentId, hid] at hmem
      split_ifs at hmem with hknown
      · exact hparents a ha hau hknown (Option.some.inj hmem)
      · cases hmem
    · refine h.relations.mono fun a ha hau id hor hhas => hkeep id ?_ hhas
      rcases hor with rfl | rfl
      exacts [(hrelations a ha hau).1, (hrelations a ha hau).2]
    · exact h.fakes.mono fun a ha hau => hkeep _ (hfakes a ha hau)
    · exact h.waits.mono fun a ha hau => hkeep _ (hwaits a ha hau)
    · rw [decrementCount_tally h.processCount hlt hused, ← h.processCount]
      exact tally_vacate hlt hused (not_used_clear slot)

theorem Inv.writeProcess (h : Inv table) {s : Nat} {v : LogicalProcessRecord}
    (hs : s < kLogicalPtraceProcessCapacity) (hused : (table.processes s).Used)
    (hv : ProcessLive s v) (hid : v.id = (table.processes s).id)
    (hparent : ∀ id ∈ v.parentId, HasProcess table.processes id)
    (hpath : ∀ id ∈ v.parentId, ¬OnPath (parentLink table.processes) v.id id) :
    Inv (modifyProcess table s fun _ => v) := by
  obtain ⟨hpart, hkeep⟩ := h.processes.modify hs hused hv hid hparent hpath
  refine h.withProcesses hpart hkeep ?_ h.initialized.2.2.1 h.initialized.2.2.2.2.2.2.1
  rw [tally_update_iff hs (iff_of_true (by simp [LogicalProcessRecord.Used, hv.occupied]) hused),
    h.processCount]

theorem Inv.setProcessField (h : Inv table) (key : LogicalProcessKey) (valid : Prop)
    [Decidable valid] {f : LogicalProcessRecord → LogicalProcessRecord}
    (hf : valid → ∀ s process, ProcessLive s process → ProcessLive s (f process))
    (hid : ∀ process, (f process).id = process.id)
    (hparent : ∀ process, (f process).parentId = process.parentId) :
    Inv (setProcess table key valid f).1 := by
  refine h.guard fun hargs => ?_
  rcases hslot : findLogicalProcess table key with _ | slot
  · exact h
  · obtain ⟨hlt, hused, -⟩ := findLogicalProcess_some hslot
    refine Inv.noted (h.writeProcess hlt hused
      (hf (by tauto) _ _ (h.processes.live hlt hused)) (hid _) ?_ ?_)
    · rw [hparent]
      exact h.processes.parent slot hlt hused
    · rw [hparent, hid]
      intro id hmem
      exact (h.processes.grounded _).not_onPath_next
        ((h.processes.distinct.link_eq hlt hused).trans hmem)

theorem Inv.setDumpable (h : Inv table) (key : LogicalProcessKey) (dumpable : Int) :
    Inv (setLogicalProcessDumpable table key dumpable).1 :=
  h.setProcessField key _ (fun hvalid _ _ hlive => { hlive with dumpable := hvalid })
    (fun _ => rfl) fun _ => rfl

theorem Inv.setPtracer (h : Inv table) (key : LogicalProcessKey) (ptracer : LogicalPidIdentity) :
    Inv (setLogicalProcessPtracer table key ptracer).1 :=
  h.setProcessField key _ (fun hvalid _ _ hlive => { hlive with ptracer := hvalid })
    (fun _ => rfl) fun _ => rfl

theorem Inv.setGroup (h : Inv table) (key : LogicalProcessKey) (group : Int) :
    Inv (setLogicalProcessGroup table key group).1 :=
  h.setProcessField key _ (fun hvalid _ _ hlive => { hlive with group := hvalid })
    (fun _ => rfl) fun _ => rfl

theorem ProcessLive.withParent {s : Nat} {process : LogicalProcessRecord}
    (h : ProcessLive s process) (hparent : ∀ p ∈ parent, ProcessKeyValid p) :
    let v : LogicalProcessRecord :=
      { process with
        parent := parent.getD {}
        flags := if parent.isSome then
            process.flags &&& ~~~kLogicalProcessFlagParentKnown ||| kLogicalProcessFlagParentKnown
          else process.flags &&& ~~~kLogicalProcessFlagParentKnown }
    ProcessLive s v ∧ v.parentId = parent.map (·.id) := by
  have hflags := h.flags
  cases parent with
  | none =>
    refine ⟨{ h with flags := ?_, parent := ?_, no_parent := ?_ }, ?_⟩ <;>
      simp [ParentKnown, LogicalProcessRecord.parentId, hflags]
  | some p =>
    have hp := hparent p rfl
    have hset : process.flags &&& ~~~kLogicalProcessFlagParentKnown |||
        kLogicalProcessFlagParentKnown = kLogicalProcessFlagParentKnown := by
      rw [hflags]
      exact BitVec.zero_or
    have hbit : kLogicalProcessFlagParentKnown &&& kLogicalProcessFlagParentKnown ≠ 0 := by decide
    refine ⟨{ h with flags := ?_, parent := fun _ => hp, no_parent := ?_ }, ?_⟩
    · simp [hset]
    · exact fun hunknown => absurd (by simpa [ParentKnown, hset] using hbit) hunknown
    · simp only [LogicalProcessRecord.parentId, ParentKnown, Option.isSome_some, if_true, hset]
      exact if_pos hbit

theorem Inv.setParent (h : Inv table) (key : LogicalProcessKey)
    (parent : Option LogicalProcessKey) : Inv (setLogicalProcessParent table key parent).1 := by
  refine h.guard fun _ => ?_
  rcases hslot : findLogicalProcess table key with _ | slot
  · exact h
  · refine h.guard fun hvalid => h.guard fun hloop => h.guard fun hmissing => ?_
    push Not at hvalid hloop hmissing
    obtain ⟨hlt, hused, hid⟩ := findLogicalProcess_some hslot
    obtain ⟨hlive, hlink⟩ := (h.processes.live hlt hused).withParent hvalid
    refine Inv.noted (h.writeProcess hlt hused hlive rfl ?_ ?_)
    · rw [hlink]
      intro id hmem
      obtain ⟨p, hp, rfl⟩ := Option.map_eq_some_iff.mp hmem
      exact (findLogicalProcess_ne_none h.initialized (hvalid p hp)).mp (hmissing p hp)
    · rw [hlink]
      intro id hmem
      obtain ⟨p, hp, rfl⟩ := Option.map_eq_some_iff.mp hmem
      have hchain := (hloop p hp).2
      rw [parentChainContains, h.parentChain_eq_walk _ _ (hvalid p hp), ← hid] at hchain
      have hwalk : walk (parentLink table.processes) (table.processes slot).id
          kLogicalPtraceProcessCapacity p.id = false := by simpa using hchain
      exact walk_sound hwalk

end ProcessOperations

section FakeTraceme

theorem not_used_clearFake (s : Nat) : ¬(clearFakeTracemeRecord s).Used := fun h => h rfl

theorem Inv.claimFake (h : Inv table) (task : LogicalTaskKey) :
    Inv (claimLogicalFakeTraceme table task).1 := by
  refine h.guard fun hargs => h.guard fun hprocess => h.guard fun hnew => h.guard fun hfull => ?_
  push Not at hargs
  rcases hslot : slotFrom kLogicalPtraceFakeTracemeCapacity table.fakeTracemeFreeHint
    fun slot => (table.fakeTraceme slot).occupied = 0 with _ | slot
  · exact h
  · obtain ⟨hlt, hfree⟩ := slotFrom_some h.initialized.2.2.2.2.2.2.2.2.1 hslot
    have hunused : ¬(table.fakeTraceme slot).Used := not_not.mpr hfree
    have hused : ({ occupied := 1, slot, task } : LogicalFakeTracemeRecord).Used := Nat.one_ne_zero
    have hhas := (hasProcess_of_task h.initialized hargs.2).mp hprocess
    rw [h.findFake_eq, not_not] at hnew
    refine Inv.noted
      { h with
        initialized := ?_
        fakes := h.fakes.put (.inr ⟨rfl, rfl, hargs.2⟩) (h.fakes.distinct.insert hnew) fun _ => hhas
        fakeCount := (tally_occupy hlt hunused hused).trans (congrArg (· + 1) h.fakeCount) }
    obtain ⟨h1, h2, h3, h4, h5, h6, h7, h8, _, h10⟩ := h.initialized
    exact ⟨h1, h2, h3, h4, Nat.lt_of_le_of_ne h5 hfull, h6, h7, h8, advanceHint_lt hlt, h10⟩

theorem Inv.clearFake (h : Inv table) (task : LogicalTaskKey) :
    Inv (clearLogicalFakeTraceme table task).1 := by
  refine h.guard fun _ => ?_
  rcases hslot : findFakeTraceme table task with _ | slot
  · exact h
  · rw [h.findFake_eq] at hslot
    obtain ⟨hlt, hused, -⟩ := lookup_spec hslot
    simp only [(h.fakes.live hlt hused).slot_eq]
    refine Inv.noted
      { h with
        initialized := ?_
        fakes := h.fakes.put (.inl rfl) (h.fakes.distinct.vacate (not_used_clearFake slot))
          fun hclear => absurd hclear (not_used_clearFake slot)
        fakeCount := ?_ }
    · obtain ⟨h1, h2, h3, h4, h5, h6, h7, h8, _, h10⟩ := h.initialized
      refine ⟨h1, h2, h3, h4, ?_, h6, h7, h8, hlt, h10⟩
      rw [decrementCount_tally h.fakeCount hlt hused]
      exact (Nat.sub_le _ _).trans h5
    · rw [decrementCount_tally h.fakeCount hlt hused, ← h.fakeCount]
      exact tally_vacate hlt hused (not_used_clearFake slot)

end FakeTraceme

section Waits

theorem not_used_clearWait (s : Nat) : ¬(clearWaitRecord s).Used := fun h => h rfl

def occupyWait (table : LogicalPtraceTable) (slot : Nat) (wait : LogicalWaitRecord) :
    LogicalPtraceTable :=
  noteMutation
    { modifyWait table slot fun _ => wait with
      nextWaitGeneration := (allocateSequence table.nextWaitGeneration).2
      waitCount := table.waitCount + 1
      waitFreeHint := advanceHint slot kLogicalPtraceWaitCapacity }

theorem Sound.addWait (h : Sound table) {slot : Nat} {v : LogicalWaitRecord}
    (hlt : slot < kLogicalPtraceWaitCapacity) (hfree : (table.waits slot).occupied = 0)
    (hfull : table.waitCount ≠ kLogicalPtraceWaitCapacity) (hv : WaitLive slot v)
    (hnew : findLogicalWait table v.waiter = none)
    (hprocess : HasProcess table.processes v.waiter.processId) :
    Sound (occupyWait table slot v) := by
  rw [h.findWait_eq] at hnew
  have hunused : ¬(table.waits slot).Used := not_not.mpr hfree
  have hused : v.Used := by
    rw [LogicalWaitRecord.Used, hv.occupied]
    exact Nat.one_ne_zero
  obtain ⟨h1, h2, h3, h4, h5, h6, h7, h8, h9, _, h11, h12, _⟩ := h.initialized
  exact
    { h with
      initialized := ⟨h1, h2, h3, h4, h5, Nat.lt_of_le_of_ne h6 hfull, h7, h8, h9,
        advanceHint_lt hlt, h11, h12, (allocateSequence_ne_zero _).2⟩
      waits := h.waits.put (.inr hv) (h.waits.distinct.insert hnew) fun _ => hprocess
      waitCount := (tally_occupy hlt hunused hused).trans (congrArg (· + 1) h.waitCount) }

theorem Sound.eraseWait (h : Sound table) {slot : Nat} (hlt : slot < kLogicalPtraceWaitCapacity)
    (hused : (table.waits slot).Used) : Sound (eraseWaitAt table slot) := by
  have hcount := decrementCount_tally h.waitCount hlt hused
  obtain ⟨h1, h2, h3, h4, h5, h6, h7, h8, h9, _, h11⟩ := h.initialized
  exact
    { h with
      initialized := ⟨h1, h2, h3, h4, h5, hcount.le.trans ((Nat.sub_le _ _).trans h6), h7, h8, h9,
        hlt, h11⟩
      waits := h.waits.put (.inl rfl) (h.waits.distinct.vacate (not_used_clearWait slot))
        fun hclear => absurd hclear (not_used_clearWait slot)
      waitCount := by
        refine Eq.trans ?_ hcount.symm
        rw [← h.waitCount]
        exact tally_vacate hlt hused (not_used_clearWait slot) }

theorem Sound.findWait_some (h : Sound table) {waiter : LogicalTaskKey} {slot : Nat}
    (hslot : findLogicalWait table waiter = some slot) :
    slot < kLogicalPtraceWaitCapacity ∧ (table.waits slot).Used ∧
      (table.waits slot).slot = slot := by
  rw [h.findWait_eq] at hslot
  obtain ⟨hlt, hused, -⟩ := lookup_spec hslot
  exact ⟨hlt, hused, (h.waits.live hlt hused).slot_eq⟩

theorem Inv.of_waits {after : LogicalPtraceTable} (h : Inv table) (hsound : Sound after)
    (hsame : after = { table with
      waits := after.waits, waitCount := after.waitCount, waitFreeHint := after.waitFreeHint
      nextWaitGeneration := after.nextWaitGeneration
      mutationGeneration := after.mutationGeneration }) : Inv after := by
  have hwaits := hsound.waits
  have hcount := hsound.waitCount
  have hinitialized := hsound.initialized
  rw [hsame] at hwaits hcount hinitialized ⊢
  exact { h with initialized := hinitialized, waits := hwaits, waitCount := hcount }

end Waits

end HookSelf.LogicalPtrace
