import HookSelf.LogicalPtrace.RelationLaws

/-! Renaming a task keeps the invariant as long as neither key is on the tracer chain of the
other. -/

namespace HookSelf.LogicalPtrace

open SlotTable LinkChain KeyedTable

variable {table : LogicalPtraceTable} {old new : LogicalTaskKey}

structure SameProcess (old new : LogicalTaskKey) : Prop where
  valid : TaskKeyValid new
  tgid : new.tgid = old.tgid
  generation : new.processGeneration = old.processGeneration

section Rename

variable {task : LogicalTaskKey}

theorem SameProcess.rename_tgid (h : SameProcess old new) :
    (rename old new task).tgid = task.tgid := by
  rw [rename]
  split_ifs with heq
  · rw [h.tgid, heq]
  · rfl

theorem SameProcess.processId (h : SameProcess old new) : new.processId = old.processId := by
  simp [LogicalTaskKey.processId, logicalProcessKeyForTask, LogicalProcessKey.id, h.tgid,
    h.generation]

theorem SameProcess.rename_processId (h : SameProcess old new) :
    (rename old new task).processId = task.processId := by
  rw [rename]
  split_ifs with heq
  · rw [h.processId, heq]
  · rfl

theorem SameProcess.rename_valid (h : SameProcess old new) (htask : TaskKeyValid task) :
    TaskKeyValid (rename old new task) := by
  rw [rename]
  split_ifs
  exacts [h.valid, htask]

theorem rename_ne_old (hne : old ≠ new) : rename old new task ≠ old := by
  rw [rename]
  split_ifs with heq
  exacts [hne.symm, heq]

end Rename

section Relations

variable {P : Nat → LogicalProcessRecord} {R : Nat → LogicalPtraceRelation} {s : Nat}

def renamed (old new : LogicalTaskKey) (relation : LogicalPtraceRelation) : LogicalPtraceRelation :=
  if relation.Used then
    { relation with
      tracee := rename old new relation.tracee, tracer := rename old new relation.tracer }
  else relation

theorem renamed_used : (renamed old new (R s)).Used ↔ (R s).Used := by
  rw [renamed]
  split_ifs <;> rfl

theorem renamed_of_used (h : (R s).Used) : renamed old new (R s) =
    { R s with
      tracee := rename old new (R s).tracee, tracer := rename old new (R s).tracer } :=
  if_pos h

theorem RelationLive.renamed (h : RelationLive s (R s)) (hsame : SameProcess old new) :
    RelationLive s (renamed old new (R s)) := by
  rw [renamed_of_used h.used]
  exact
    { h with
      tracee := hsame.rename_valid h.tracee
      tracer := hsame.rename_valid h.tracer
      apart := by
        rw [hsame.rename_tgid, hsame.rename_tgid]
        exact h.apart
      initial := h.initial
      queue := h.queue
      exit_iff := h.exit_iff }

theorem RelationPart.tracerLink_eq (h : RelationPart P R) (hs : s < kLogicalPtraceRelationCapacity)
    (hused : (R s).Used) : tracerLink R (R s).tracee = some (R s).tracer :=
  h.distinct.link_eq hs hused

theorem RelationPart.distinct_renamed (h : RelationPart P R)
    (hone : tracerLink R old = none ∨ tracerLink R new = none) :
    Distinct kLogicalPtraceRelationCapacity LogicalPtraceRelation.Used
      LogicalPtraceRelation.tracee fun s => renamed old new (R s) := by
  intro a ha b hb hau hbu heq
  rw [renamed_used] at hau hbu
  simp only [renamed_of_used hau, renamed_of_used hbu, rename] at heq
  have hlinka := h.tracerLink_eq ha hau
  have hlinkb := h.tracerLink_eq hb hbu
  split_ifs at heq with haold hbold hbold
  · exact h.distinct a ha b hb hau hbu (haold.trans hbold.symm)
  · rw [haold] at hlinka
    rw [← heq] at hlinkb
    rcases hone with hnone | hnone
    exacts [absurd (hnone.symm.trans hlinka) (by simp), absurd (hnone.symm.trans hlinkb) (by simp)]
  · rw [hbold] at hlinkb
    rw [heq] at hlinka
    rcases hone with hnone | hnone
    exacts [absurd (hnone.symm.trans hlinkb) (by simp), absurd (hnone.symm.trans hlinka) (by simp)]
  · exact h.distinct a ha b hb hau hbu heq

theorem tracerLink_eq_none (R : Nat → LogicalPtraceRelation) (task : LogicalTaskKey) :
    tracerLink R task = none ↔ ∀ s < kLogicalPtraceRelationCapacity, (R s).Used →
      (R s).tracee ≠ task := by
  constructor
  · intro h s hs hused heq
    have hnot : ¬lookup kLogicalPtraceRelationCapacity LogicalPtraceRelation.Used
        LogicalPtraceRelation.tracee R task = none := by
      rw [lookup_eq_none, not_not]
      exact ⟨s, hs, hused, heq⟩
    obtain ⟨slot, hslot⟩ := Option.ne_none_iff_exists'.mp hnot
    rw [tracerLink, link, hslot] at h
    cases h
  · intro h
    refine link_eq_none ?_
    rintro ⟨s, hs, hused, heq⟩
    exact h s hs hused heq

theorem RelationPart.tracerLink_renamed (h : RelationPart P R)
    (hone : tracerLink R old = none ∨ tracerLink R new = none) {x y : LogicalTaskKey}
    (hxy : ∀ s < kLogicalPtraceRelationCapacity, (R s).Used →
      (rename old new (R s).tracee = y ↔ (R s).tracee = x)) :
    tracerLink (fun s => LogicalPtrace.renamed old new (R s)) y =
      (tracerLink R x).map (rename old new) := by
  rcases hx : tracerLink R x with _ | t
  · refine (tracerLink_eq_none _ _).mpr fun s hs hused heq => ?_
    rw [renamed_used] at hused
    simp only [renamed_of_used hused] at heq
    exact (tracerLink_eq_none R x).mp hx s hs hused ((hxy s hs hused).mp heq)
  · obtain ⟨s, hs, hused, htracee, ht⟩ := link_eq_some hx
    have hlink : tracerLink (fun s => LogicalPtrace.renamed old new (R s))
        (LogicalPtrace.renamed old new (R s)).tracee =
          some (LogicalPtrace.renamed old new (R s)).tracer :=
      (h.distinct_renamed hone).link_eq hs (renamed_used.mpr hused)
    simp only [renamed_of_used hused, (hxy s hs hused).mpr htracee] at hlink
    rw [hlink, ← Option.some.inj ht, Option.map_some]

theorem RelationPart.renamed (h : RelationPart P R) (hsame : SameProcess old new)
    (hne : old ≠ new) (hone : tracerLink R old = none ∨ tracerLink R new = none)
    (hon : ¬OnPath (tracerLink R) new old) (hno : ¬OnPath (tracerLink R) old new) :
    RelationPart P fun s => renamed old new (R s) := by
  have hgrounded : ∀ task, Grounded (tracerLink fun s => LogicalPtrace.renamed old new (R s)) task := by
    refine Grounded.merge h.grounded hone hon hno ?_ ?_ fun x hxo hxn => ?_
    · refine (tracerLink_eq_none _ _).mpr fun s hs hused => ?_
      rw [renamed_used] at hused
      simp only [renamed_of_used hused]
      exact rename_ne_old hne
    · rcases hone with hnone | hnone
      · rw [h.tracerLink_renamed (.inl hnone) (x := new), hnone]
        · rfl
        · intro s hs hused
          rw [rename_of_ne ((tracerLink_eq_none R old).mp hnone s hs hused)]
      · rw [h.tracerLink_renamed (.inr hnone) (x := old), hnone]
        · cases tracerLink R old <;> rfl
        · intro s hs hused
          have hnew := (tracerLink_eq_none R new).mp hnone s hs hused
          rw [rename]
          split_ifs with heq
          exacts [iff_of_true rfl heq, iff_of_false hnew heq]
    · refine h.tracerLink_renamed hone fun s hs hused => ?_
      rw [rename]
      split_ifs with heq
      · exact iff_of_false (Ne.symm hxn) (heq ▸ Ne.symm hxo)
      · rfl
  refine
    { ok := fun s hs => ?_
      distinct := h.distinct_renamed hone
      tracee := fun s hs hused => ?_
      tracer := fun s hs hused => ?_
      grounded := hgrounded }
  · rcases h.ok s hs with hclear | hlive
    · refine .inl ?_
      rw [LogicalPtrace.renamed, if_neg (by rw [hclear]; exact not_used_clearRelation s), hclear]
    · exact .inr (hlive.renamed hsame)
  · rw [renamed_used] at hused
    simp only [renamed_of_used hused, hsame.rename_processId]
    exact h.tracee s hs hused
  · rw [renamed_used] at hused
    simp only [renamed_of_used hused, hsame.rename_processId]
    exact h.tracer s hs hused

theorem RelationPart.congr {R' : Nat → LogicalPtraceRelation} (h : RelationPart P R)
    (heq : ∀ s < kLogicalPtraceRelationCapacity, R' s = R s) : RelationPart P R' where
  ok s hs := by
    rw [heq s hs]
    exact h.ok s hs
  distinct := h.distinct.congr fun s hs => by simp [heq s hs]
  tracee s hs := by
    rw [heq s hs]
    exact h.tracee s hs
  tracer s hs := by
    rw [heq s hs]
    exact h.tracer s hs
  grounded task := by
    have hsame : tracerLink R' = tracerLink R := link_congr fun s hs => by simp [heq s hs]
    rw [hsame]
    exact h.grounded task

end Relations

section Writes

theorem forSlots_modifyRelation (table : LogicalPtraceTable)
    (f : LogicalPtraceRelation → LogicalPtraceRelation) (n : Nat) :
    forSlots (fun slot table => modifyRelation table slot f) n table =
      { table with relations := fun s => if s < n then f (table.relations s)
          else table.relations s } :=
  forSlots_map (·.relations) (fun table relations => { table with relations }) (fun _ => rfl)
    (fun _ _ => rfl) (fun _ _ _ => rfl) f n table

variable {s : Nat}

theorem Inv.renameFake (h : Inv table) (hsame : SameProcess old new)
    (hone : findFakeTraceme table old ≠ none → findFakeTraceme table new = none) :
    Inv ((findFakeTraceme table old).elim table fun slot =>
      modifyFakeTraceme table slot fun record => { record with task := new }) := by
  rcases hslot : findFakeTraceme table old with _ | slot
  · exact h
  · have hnew := hone (by simp [hslot])
    rw [h.findFake_eq] at hslot hnew
    obtain ⟨hlt, hused, htask⟩ := lookup_spec hslot
    have hlive := FakePart.live h.fakes hlt hused
    have hprocess := h.fakes.process slot hlt hused
    rw [htask, ← hsame.processId] at hprocess
    exact
      { h with
        fakes := h.fakes.put (.inr ⟨hlive.slot_eq, hlive.occupied, hsame.valid⟩)
          (h.fakes.distinct.insert hnew) fun _ => hprocess
        fakeCount := by
          refine (tally_update_iff hlt ?_).trans h.fakeCount
          exact Iff.rfl }

theorem Inv.renameWait (h : Inv table) (hsame : SameProcess old new)
    (hone : findLogicalWait table old ≠ none → findLogicalWait table new = none) :
    Inv ((findLogicalWait table old).elim table fun slot => modifyWait table slot fun wait =>
      { wait with request := { wait.request with waiter := new } }) := by
  rcases hslot : findLogicalWait table old with _ | slot
  · exact h
  · have hnew := hone (by simp [hslot])
    rw [h.findWait_eq] at hslot hnew
    obtain ⟨hlt, hused, htask⟩ := lookup_spec hslot
    have hlive := WaitPart.live h.waits hlt hused
    obtain ⟨⟨-, hrequest⟩, hrest⟩ := hlive.request
    have hprocess := h.waits.process slot hlt hused
    rw [htask, ← hsame.processId] at hprocess
    exact
      { h with
        waits := h.waits.put
          (.inr ⟨hlive.slot_eq, hlive.occupied, hlive.generation, ⟨hsame.valid, hrequest⟩, hrest⟩)
          (h.waits.distinct.insert hnew) fun _ => hprocess
        waitCount := by
          refine (tally_update_iff hlt ?_).trans h.waitCount
          exact Iff.rfl }

def renameTracee (table : LogicalPtraceTable) (old new : LogicalTaskKey) : LogicalPtraceTable :=
  (findLogicalPtraceRelation table old).elim table fun slot =>
    modifyRelation table slot fun relation => { relation with tracee := new }

theorem Inv.renameTracee_relations (h : Inv table) (hs : s < kLogicalPtraceRelationCapacity) :
    (renameTracee table old new).relations s =
      if (table.relations s).Used then
        { table.relations s with tracee := rename old new (table.relations s).tracee }
      else table.relations s := by
  rw [renameTracee]
  rcases hslot : findLogicalPtraceRelation table old with _ | slot
  · split_ifs with hused
    · rw [h.findRelation_eq, lookup_eq_none] at hslot
      rw [rename_of_ne fun heq => hslot ⟨s, hs, hused, heq⟩]
      rfl
    · rfl
  · obtain ⟨hlt, hlive, htracee⟩ := h.sound.findRelation_some hslot
    simp only [Option.elim_some, modifyRelation, Function.update_apply]
    by_cases heq : s = slot
    · rw [if_pos heq, heq, if_pos hlive.used, rename, if_pos htracee]
    · rw [if_neg heq]
      split_ifs with hused
      · have hne : (table.relations s).tracee ≠ old := fun hold =>
          heq (h.relations.distinct s hs slot hlt hused hlive.used (hold.trans htracee.symm))
        rw [rename_of_ne hne]
      · rfl

theorem Inv.renameTracer_eq (h : Inv table) (hs : s < kLogicalPtraceRelationCapacity) :
    renameTracer old new ((renameTracee table old new).relations s) =
      renamed old new (table.relations s) := by
  rw [h.renameTracee_relations hs]
  by_cases hused : (table.relations s).Used
  · rw [if_pos hused, renamed_of_used hused, renameTracer]
    by_cases htracer : (table.relations s).tracer = old
    · rw [if_pos ⟨hused, logicalTaskKeysEqual_iff.mpr htracer⟩, htracer, rename, rename, if_pos rfl]
    · rw [if_neg fun hboth => htracer (logicalTaskKeysEqual_iff.mp hboth.2), rename_of_ne htracer]
  · rw [if_neg hused, renamed, if_neg hused, renameTracer, if_neg fun hboth => hused hboth.1]

theorem Inv.withRenamed (h : Inv table) {R' : Nat → LogicalPtraceRelation}
    (hpart : RelationPart table.processes fun s => renamed old new (table.relations s))
    (heq : ∀ s < kLogicalPtraceRelationCapacity, R' s = renamed old new (table.relations s)) :
    Inv { table with relations := R' } := by
  have hused : ∀ s < kLogicalPtraceRelationCapacity, (R' s).Used ↔ (table.relations s).Used :=
    fun s hs => by rw [heq s hs, renamed_used]
  exact
    { h with
      relations := hpart.congr heq
      relationCount := (tally_congr hused).trans h.relationCount }

theorem Inv.renameRelations (h : Inv table) (hsame : SameProcess old new) (hne : old ≠ new)
    (hone : findLogicalPtraceRelation table old ≠ none →
      findLogicalPtraceRelation table new = none)
    (hon : ptraceChainContains table old new = false)
    (hno : ptraceChainContains table new old = false) :
    Inv (forSlots (fun slot table => modifyRelation table slot (renameTracer old new))
      kLogicalPtraceRelationCapacity (renameTracee table old new)) := by
  rw [ptraceChainContains, h.ptraceChain_eq_walk] at hon hno
  have hfree : ∀ task, findLogicalPtraceRelation table task = none →
      tracerLink table.relations task = none := fun task htask => by
    rw [h.findRelation_eq, lookup_eq_none] at htask
    exact link_eq_none htask
  have heither : tracerLink table.relations old = none ∨ tracerLink table.relations new = none := by
    by_cases hold : findLogicalPtraceRelation table old = none
    exacts [.inl (hfree _ hold), .inr (hfree _ (hone hold))]
  have hpart := h.relations.renamed hsame hne heither (walk_sound hon) (walk_sound hno)
  rw [forSlots_modifyRelation]
  have hrest : renameTracee table old new =
      { table with relations := (renameTracee table old new).relations } := by
    rw [renameTracee]
    cases findLogicalPtraceRelation table old <;> rfl
  rw [hrest]
  exact h.withRenamed hpart fun s hs => (if_pos hs).trans (h.renameTracer_eq hs)

end Writes

theorem Inv.renameTask (h : Inv table) (hsame : SameProcess old new) (hne : old ≠ new)
    (hfake : findFakeTraceme table old ≠ none → findFakeTraceme table new = none)
    (hwait : findLogicalWait table old ≠ none → findLogicalWait table new = none)
    (hrelation : findLogicalPtraceRelation table old ≠ none →
      findLogicalPtraceRelation table new = none)
    (hon : ptraceChainContains table old new = false)
    (hno : ptraceChainContains table new old = false) :
    Inv (renameTask table old new (findFakeTraceme table old) (findLogicalWait table old)
      (findLogicalPtraceRelation table old)) := by
  have hfakes := h.renameFake hsame hfake
  rw [LogicalPtrace.renameTask]
  -- Each write leaves the records that the later ones look up alone.
  generalize hF : (findFakeTraceme table old).elim table _ = fakes at hfakes ⊢
  have hsameF : fakes.waits = table.waits ∧ fakes.relations = table.relations := by
    rw [← hF]
    cases findFakeTraceme table old <;> exact ⟨rfl, rfl⟩
  have hwaitF : ∀ task, findLogicalWait fakes task = findLogicalWait table task := fun task => by
    rw [h.findWait_eq, hfakes.findWait_eq, hsameF.1]
  have hwaits := hfakes.renameWait hsame (by simpa only [hwaitF] using hwait)
  rw [hwaitF] at hwaits
  generalize hW : (findLogicalWait table old).elim fakes _ = waits at hwaits ⊢
  have hsameW : waits.relations = table.relations := by
    rw [← hsameF.2, ← hW]
    cases findLogicalWait table old <;> rfl
  have hrelationW : ∀ task,
      findLogicalPtraceRelation waits task = findLogicalPtraceRelation table task := fun task => by
    rw [h.findRelation_eq, hwaits.findRelation_eq, hsameW]
  have hchainW : ∀ start expected,
      ptraceChainContains waits start expected = ptraceChainContains table start expected :=
    fun start expected => by
      rw [ptraceChainContains, ptraceChainContains, h.ptraceChain_eq_walk,
        hwaits.ptraceChain_eq_walk, hsameW]
  have hrelations := hwaits.renameRelations hsame hne (by simpa only [hrelationW] using hrelation)
    (by rw [hchainW, hon]) (by rw [hchainW, hno])
  rw [renameTracee, hrelationW] at hrelations
  exact hrelations.noted

theorem Inv.rekey (h : Inv table) (old new : LogicalTaskKey)
    (hsafe : old = new ∨ ptraceChainContains table old new = false ∧
      ptraceChainContains table new old = false) :
    Inv (rekeyLogicalPtraceTask table old new).1 := by
  refine h.guard fun hargs => ?_
  push Not at hargs
  refine keeps_ite (fun _ => h) fun hne => h.guard fun hprocess => h.guard fun _ => h.guard fun hfake =>
    h.guard fun hwait => h.guard fun hrelation => h.guard fun _ => h.guard fun _ => h.guard fun _ => ?_
  rw [logicalTaskKeysEqual_iff] at hne
  push Not at hprocess hfake hwait hrelation
  obtain ⟨hon, hno⟩ := hsafe.resolve_left hne
  have hsame : SameProcess old new := ⟨hargs.2.2, hprocess.1.symm, hprocess.2.symm⟩
  exact h.renameTask hsame hne hfake hwait hrelation hon hno

end HookSelf.LogicalPtrace
