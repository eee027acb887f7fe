import HookSelf.ResidentSession.StartLaws

/-! A start that fails gives back what it took: every part for which the calls that put it back
succeed. -/

namespace HookSelf.ResidentSession

open Scripted RawSyscall Config Seccomp

structure Restored (before after : Process) : Prop where
  dumpable : after.dumpable = before.dumpable
  signalMask : after.signalMask = before.signalMask
  descriptors : after.descriptors = before.descriptors
  ptracer : after.ptracer = before.ptracer ∨ after.ptracer = none

/-- Every part is given back for which the calls that put it back succeed. The exception for the
tracer also takes the signals to be unblocked once the tracer is ready. -/
structure Undone (before after : Process) : Prop where
  dumpable : .dumpable ∉ after.unrestored → after.dumpable = before.dumpable
  signalMask : .signalMask ∉ after.unrestored → .unblocking ∉ after.unrestored →
    after.signalMask = before.signalMask
  descriptors : .descriptors ∉ after.unrestored → after.descriptors = before.descriptors
  ptracer : .ptracer ∉ after.unrestored → .unblocking ∉ after.unrestored →
    after.ptracer = before.ptracer ∨ after.ptracer = none

theorem Agrees.undone {before after intended : Process} (h : Agrees after intended)
    (hrestored : Restored before intended) : Undone before after where
  dumpable hnot := (h.dumpable hnot).trans hrestored.dumpable
  signalMask hnot hnot' := (h.signalMask hnot hnot').trans hrestored.signalMask
  descriptors hnot := (h.descriptors hnot).trans hrestored.descriptors
  ptracer hnot _ := by
    rw [h.ptracer hnot]
    exact hrestored.ptracer

theorem Undone.refl (process : Process) : Undone process process :=
  (Agrees.refl process).undone ⟨rfl, rfl, rfl, .inl rfl⟩

/-- The process before the start and one at a later stage: the descriptors opened since are among
those held, the mask is changed only if the one before is kept, and an exception is set only if it
was configured. -/
structure Since (before : Process) (held : Finset Nat) (previousMask : Option (BitVec 64))
    (configured : Bool) (process : Process) : Prop where
  mask : previousMask.getD process.signalMask = before.signalMask
  ptracer : configured = false → process.ptracer = before.ptracer ∨ process.ptracer = none
  kept : before.descriptors ⊆ process.descriptors
  opened : process.descriptors ⊆ before.descriptors ∪ held
  fresh : Disjoint before.descriptors held

section Since

variable {before process : Process} {held : Finset Nat} {previousMask : Option (BitVec 64)}
  {configured : Bool} {fd : Nat} {identity : FdObjectIdentity}

theorem Since.refl (before : Process) : Since before ∅ none false before where
  mask := rfl
  ptracer _ := .inl rfl
  kept := subset_rfl
  opened := Finset.subset_union_left
  fresh := Finset.disjoint_empty_right _

theorem lowestFree_notMem (descriptors : Finset Nat) : lowestFree descriptors ∉ descriptors := by
  obtain ⟨fd, hfd, hfree⟩ : ∃ fd ∈ List.range (descriptors.card + 1), fd ∉ descriptors := by
    by_contra hall
    push Not at hall
    have hsubset : Finset.range (descriptors.card + 1) ⊆ descriptors := fun fd hfd =>
      hall fd (List.mem_range.mpr (Finset.mem_range.mp hfd))
    have hcard := Finset.card_le_card hsubset
    rw [Finset.card_range] at hcard
    omega
  have hsome : ((List.range (descriptors.card + 1)).find? (· ∉ descriptors)).isSome :=
    List.find?_isSome.mpr ⟨fd, hfd, decide_eq_true hfree⟩
  obtain ⟨lowest, hlowest⟩ := Option.isSome_iff_exists.mp hsome
  have hnot := List.find?_some hlowest
  rw [lowestFree, hlowest]
  exact of_decide_eq_true hnot

theorem Since.notMem (h : Since before held previousMask configured process) (hfd : fd ∈ held) :
    fd ∉ before.descriptors :=
  Finset.disjoint_right.mp h.fresh hfd

theorem Since.open (h : Since before held previousMask configured process) (stat : FdStat) :
    Since before (insert (lowestFree process.descriptors) held) previousMask configured
      (process.opened stat) := by
  have hfree := lowestFree_notMem process.descriptors
  refine { h with kept := ?_, opened := ?_, fresh := ?_ }
  · exact h.kept.trans (Finset.subset_insert _ _)
  · rw [Finset.union_insert]
    exact Finset.insert_subset_insert _ h.opened
  · rw [Finset.disjoint_insert_right]
    exact ⟨fun hmem => hfree (h.kept hmem), h.fresh⟩

theorem Since.closeRaw (h : Since before held previousMask configured process)
    (hfd : fd ∉ before.descriptors) :
    Since before (held.erase fd) previousMask configured
      ((Restore.closeRaw fd).apply process) := by
  refine { h with kept := ?_, opened := ?_, fresh := ?_ }
  · intro other hother
    refine Finset.mem_erase.mpr ⟨?_, h.kept hother⟩
    rintro rfl
    exact hfd hother
  · intro other hother
    obtain ⟨hne, hmem⟩ := Finset.mem_erase.mp hother
    rcases Finset.mem_union.mp (h.opened hmem) with hold | hheld
    · exact Finset.mem_union_left _ hold
    · exact Finset.mem_union_right _ (Finset.mem_erase.mpr ⟨hne, hheld⟩)
  · exact h.fresh.mono_right (Finset.erase_subset _ _)

theorem Since.close (h : Since before held previousMask configured process)
    (hfd : fd ∉ before.descriptors) :
    Since before (held.erase fd) previousMask configured
      ((Restore.close fd identity).apply process) := by
  rw [Restore.apply, if_neg (by omega)]
  exact h.closeRaw hfd

theorem Since.descriptors_eq (h : Since before held previousMask configured process)
    (hheld : held = ∅) : process.descriptors = before.descriptors := by
  subst hheld
  exact Finset.Subset.antisymm (by simpa using h.opened) h.kept

theorem Since.restored (h : Since before held previousMask configured process) (hheld : held = ∅) :
    Restored before (applyAll (restorePtracer configured ++ restoreMask previousMask ++
      [.dumpable before.dumpable]) process) := by
  have hdescriptors := h.descriptors_eq hheld
  cases configured with
  | false =>
    cases previousMask with
    | none => exact ⟨rfl, h.mask, hdescriptors, h.ptracer rfl⟩
    | some mask => exact ⟨rfl, h.mask, hdescriptors, h.ptracer rfl⟩
  | true =>
    cases previousMask with
    | none => exact ⟨rfl, h.mask, hdescriptors, .inr rfl⟩
    | some mask => exact ⟨rfl, h.mask, hdescriptors, .inr rfl⟩

end Since

/-- If the program returns an error, the process is as before in every part that could be put back,
and the controller is as it was. -/
def GivesBack (before : Process) (controller : ResidentSessionController) (x : Call Started)
    (world : World Process Answer) : Prop :=
  ∀ started after, x world = some (started, after) → started.1 ≠ .ok →
    Undone before after.state ∧ started.2 = controller

section Rules

variable {α : Type} {before : Process} {controller : ResidentSessionController}
  {world : World Process Answer} {x y : Call Started} {z : Call α} {f : α → Call Started} {c : Prop}
  [Decidable c] {code : HookselfResult} {restores : List Restore} {intended : Process}

theorem GivesBack.bind (h : ∀ value between, z world = some (value, between) →
    GivesBack before controller (f value) between) :
    GivesBack before controller (z >>= f) world := by
  intro started after hbind
  obtain ⟨value, between, hfirst, hrest⟩ := bind_eq_some.mp hbind
  exact h value between hfirst started after hrest

theorem GivesBack.ite (hx : c → GivesBack before controller x world)
    (hy : ¬c → GivesBack before controller y world) :
    GivesBack before controller (if c then x else y) world := by
  split_ifs with h
  · exact hx h
  · exact hy h

theorem GivesBack.pure (h : Undone before world.state) :
    GivesBack before controller (Pure.pure (code, controller)) world := by
  intro started after hpure _
  obtain ⟨rfl, rfl⟩ := Prod.mk.inj (pure_eq_some.mp hpure)
  exact ⟨h, rfl⟩

theorem GivesBack.giveUp (hagrees : Agrees world.state intended)
    (h : Restored before (applyAll restores intended)) :
    GivesBack before controller (giveUp code controller restores) world := by
  intro started after hgiveUp _
  obtain ⟨rfl, hafter, -⟩ := giveUp_eq_some hgiveUp hagrees
  exact ⟨hafter.undone h, rfl⟩

theorem GivesBack.giveUpAll (h : Restored before (applyAll restores world.state)) :
    GivesBack before controller (ResidentSession.giveUp code controller restores) world :=
  .giveUp (.refl _) h

end Rules

section Stages

variable {before : Process} {start : Starting} {held : Finset Nat}
  {previousMask : Option (BitVec 64)} {configured : Bool} {world : World Process Answer}
  {control read write : Nat} {intended : Process}

/-- The descriptors of the channels, none of them open before. -/
structure Channels.Named (channels : Channels) (before : Process) (control read write : Nat) :
    Prop where
  control_eq : channels.controlFd = control
  read_eq : channels.statusRead = read
  write_eq : channels.statusWrite = write
  control_new : control ∉ before.descriptors
  read_new : read ∉ before.descriptors
  write_new : write ∉ before.descriptors

theorem closeRead_closeControl (hnamed : start.channels.Named before control read write)
    (hdumpable : start.originalDumpable = before.dumpable)
    (hsince : Since before held previousMask configured intended)
    (hheld : (held.erase read).erase control = ∅) :
    Restored before (applyAll (start.channels.closeRead :: start.channels.closeControl ::
      restorePtracer configured ++ restoreMask previousMask ++ [.dumpable start.originalDumpable])
      intended) := by
  rw [Channels.closeRead, Channels.closeControl, hnamed.read_eq, hnamed.control_eq, hdumpable]
  exact ((hsince.close hnamed.read_new).close hnamed.control_new).restored hheld

/-- The signals stay blocked: the exit that does not take the exception for the tracer back. -/
theorem unblockSignals_failed {childPid : Int} {unblocked reaped : World Process Answer}
    {reapError : Nat} (hnamed : start.channels.Named before control read write)
    (hdumpable : start.originalDumpable = before.dumpable)
    (hsince : Since before held previousMask configured intended)
    (hheld : (held.erase read).erase control = ∅) (hagrees : Agrees world.state intended)
    (hunblock : unblockSignals previousMask world = some (false, unblocked))
    (hreaped : reapTracer childPid true kReapTimeoutMs unblocked = some (reapError, reaped)) :
    GivesBack before start.controller (giveUp .internal start.controller
      [start.channels.closeRead, start.channels.closeControl, .dumpable start.originalDumpable])
      reaped := by
  cases previousMask with
  | none => exact absurd (Prod.mk.inj (pure_eq_some.mp hunblock)).1 Bool.false_ne_true
  | some mask =>
    obtain ⟨hmasked, -, hmarked⟩ := attempt_eq_some hunblock (.inr ⟨rfl, rfl⟩) hagrees
    rw [← reapTracer_keeps _ _ _ _ _ _ hreaped] at hmasked hmarked
    intro started after hgiveUp _
    obtain ⟨rfl, hafter, hmore⟩ := giveUp_eq_some hgiveUp hmasked
    have hblocked : Part.unblocking ∈ after.state.unrestored := hmore (hmarked rfl)
    have hclosed : Since before held none configured ((Restore.signalMask mask).apply intended) :=
      { hsince with mask := hsince.mask }
    rw [Channels.closeRead, Channels.closeControl, hnamed.read_eq, hnamed.control_eq,
      hdumpable] at hafter
    refine ⟨⟨hafter.dumpable, fun _ hnot => absurd hblocked hnot, fun hnot => ?_,
      fun _ hnot => absurd hblocked hnot⟩, rfl⟩
    have hnone : Since before ((held.erase read).erase control) none configured
        ((Restore.close control start.channels.controlIdentity).apply
          ((Restore.close read start.channels.statusReadIdentity).apply
            ((Restore.signalMask mask).apply intended))) :=
      (hclosed.close hnamed.read_new).close hnamed.control_new
    exact (hafter.descriptors hnot).trans (hnone.descriptors_eq hheld)

theorem finishStart_givesBack {childPid : Int}
    (hnamed : start.channels.Named before control read write)
    (hdumpable : start.originalDumpable = before.dumpable)
    (hsince : Since before held previousMask configured intended)
    (hheld : (held.erase read).erase control = ∅) (hagrees : Agrees world.state intended) :
    GivesBack before start.controller (finishStart start previousMask childPid configured)
      world := by
  refine .bind ?_
  rintro ⟨waitError, childStatus, installerError⟩ ready hready
  refine .bind fun verified observed hobserved => ?_
  have hobserved : Agrees observed.state intended := by
    rwa [selectiveCommitVerified_keeps _ _ _ _ hobserved, awaitReady_keeps _ _ _ _ hready]
  refine .ite (fun _ => ?_) fun _ => ?_
  · refine .bind fun reapError reaped hreaped => ?_
    rw [← reapStopped_keeps _ _ _ _ _ hreaped] at hobserved
    exact .giveUp hobserved (closeRead_closeControl hnamed hdumpable hsince hheld)
  · refine .bind fun unblocked unblockedWorld hunblock => .ite (fun hfailed => ?_) fun _ => ?_
    · subst hfailed
      refine .bind fun reapError reaped hreaped => ?_
      exact unblockSignals_failed hnamed hdumpable hsince hheld hobserved hunblock hreaped
    · intro started after h hfailed
      obtain ⟨rfl, -⟩ := Prod.mk.inj (pure_eq_some.mp h)
      exact absurd rfl hfailed

theorem forkTracer_givesBack (hnamed : start.channels.Named before control read write)
    (hdumpable : start.originalDumpable = before.dumpable)
    (hsince : Since before held previousMask false world.state)
    (hheld : ((held.erase write).erase read).erase control = ∅) :
    GivesBack before start.controller (forkTracer start previousMask) world := by
  refine .bind ?_
  rintro ⟨cloned, errno⟩ forked hforked
  have hsince : Since before (held.erase write) previousMask false
      (start.channels.closeWrite.apply world.state) := by
    rw [Channels.closeWrite, hnamed.write_eq]
    exact hsince.close hnamed.write_new
  refine .ite (fun _ started after h => nomatch h) fun _ => .bind fun done closed hclosed => ?_
  obtain ⟨hclosed, -⟩ := attempt_eq_some hclosed (.inl rfl) (.refl _)
  rw [plainCall_keeps _ _ _ hforked] at hclosed
  refine .ite (fun _ => .giveUp hclosed ?_) fun _ => .bind fun configured set hset => ?_
  · exact closeRead_closeControl hnamed hdumpable hsince hheld
  · obtain ⟨intended, hset, hsince⟩ : ∃ intended, Agrees set.state intended ∧
        Since before (held.erase write) previousMask configured intended := by
      obtain ⟨answer, ⟨-, rfl, hkept⟩ | ⟨-, rfl, hdone⟩⟩ := call_ite_eq_some hset
      · exact ⟨_, hkept ▸ hclosed, hsince⟩
      · refine ⟨{ start.channels.closeWrite.apply world.state with ptracer := set.state.ptracer },
          ?_, { hsince with ptracer := nofun }⟩
        rw [hdone]
        exact { hclosed with ptracer := fun _ => rfl }
    refine .bind ?_
    rintro ⟨written, errno⟩ wrote hwrote
    have hwrote : Agrees wrote.state intended := by rwa [plainCall_keeps _ _ _ hwrote]
    refine .ite (fun _ => .bind fun reapError reaped hreaped => ?_) fun _ => ?_
    · rw [← reapTracer_keeps _ _ _ _ _ _ hreaped] at hwrote
      exact .giveUp hwrote (closeRead_closeControl hnamed hdumpable hsince hheld)
    · exact finishStart_givesBack hnamed hdumpable hsince hheld hwrote

theorem closeAll_restored (hnamed : start.channels.Named before control read write)
    (hdumpable : start.originalDumpable = before.dumpable)
    (hsince : Since before held none false world.state)
    (hheld : ((held.erase read).erase write).erase control = ∅) :
    Restored before (applyAll start.closeAll world.state) := by
  rw [Starting.closeAll, Channels.closeRead, Channels.closeWrite, Channels.closeControl,
    hnamed.read_eq, hnamed.write_eq, hnamed.control_eq, hdumpable]
  exact (((hsince.close hnamed.read_new).close hnamed.write_new).close
    hnamed.control_new).restored hheld

theorem blockSignals_givesBack (hnamed : start.channels.Named before control read write)
    (hdumpable : start.originalDumpable = before.dumpable)
    (hsince : Since before held none false world.state)
    (hheld : ((held.erase read).erase write).erase control = ∅) :
    GivesBack before start.controller (blockSignals start) world := by
  have hswapped : ((held.erase write).erase read).erase control = ∅ :=
    (congrArg (Finset.erase · control) Finset.erase_right_comm).trans hheld
  rw [blockSignals]
  cases start.plan with
  | none => exact forkTracer_givesBack hnamed hdumpable hsince hswapped
  | some plan =>
    refine .bind ?_
    rintro ⟨blocked, previous⟩ set hset
    obtain ⟨answer, ⟨-, hvalue, hkept⟩ | ⟨-, hvalue, hdone⟩⟩ := call_ite_eq_some hset
    · obtain ⟨rfl, -⟩ := Prod.mk.inj hvalue
      exact .ite (fun _ => .giveUpAll (hkept ▸ closeAll_restored hnamed hdumpable hsince hheld))
        fun h => absurd rfl h
    · obtain ⟨rfl, rfl⟩ := Prod.mk.inj hvalue
      refine .ite (fun h => nomatch h) fun _ => forkTracer_givesBack hnamed hdumpable ?_ hswapped
      rw [hdone]
      exact { hsince with mask := hsince.mask }

theorem publishStart_givesBack {mapping : SharedSessionMapping} {protectedFds : List Int}
    (hnamed : start.channels.Named before control read write)
    (hdumpable : start.originalDumpable = before.dumpable)
    (hsince : Since before held none false world.state)
    (hheld : ((held.erase read).erase write).erase control = ∅) :
    GivesBack before start.controller (publishStart mapping protectedFds start) world := by
  rw [publishStart]
  cases registerProtectedFds mapping protectedFds start.channels.controlFd
      start.channels.statusRead with
  | error code => exact .giveUpAll (closeAll_restored hnamed hdumpable hsince hheld)
  | ok registry =>
    refine .bind ?_
    rintro ⟨tid, errno⟩ asked hasked
    have hasked := plainCall_keeps _ _ _ hasked
    refine .ite (fun _ => .giveUpAll ?_) fun _ => ?_
    · exact hasked ▸ closeAll_restored hnamed hdumpable hsince hheld
    · exact blockSignals_givesBack hnamed hdumpable (hasked ▸ hsince) hheld

end Stages

section Start

variable {before : Process} {controller : ResidentSessionController}
  {world : World Process Answer} {mapping : SharedSessionMapping} {protectedFds : List Int}
  {config : HookselfConfig} {plan : Option Seccomp.SelectiveSeccompPlan}

theorem openPipe_givesBack {control : Nat} {controlIdentity : FdObjectIdentity}
    (hsince : Since before {control} none false world.state) :
    GivesBack before controller (openPipe mapping protectedFds config plan controller
      before.dumpable control controlIdentity) world := by
  have hcontrol : control ∉ before.descriptors := hsince.notMem (Finset.mem_singleton_self _)
  refine .bind fun channels opened hopened => ?_
  obtain ⟨answer, ⟨-, rfl, hkept⟩ | ⟨-, rfl, hdone⟩⟩ := call_ite_eq_some hopened
  · exact .giveUpAll (hkept ▸ (hsince.close hcontrol).restored (Finset.erase_singleton _))
  · have hboth := (hsince.open answer.first).open answer.second
    have hread := hboth.notMem (Finset.mem_insert_of_mem (Finset.mem_insert_self _ _))
    have hwrite := hboth.notMem (Finset.mem_insert_self _ _)
    have hheld : ∀ read write : Nat,
        (((insert write (insert read {control}) : Finset Nat).erase read).erase write).erase
          control =
          ∅ := by
      intro read write
      ext other
      simp only [Finset.mem_erase, Finset.mem_insert, Finset.mem_singleton, Finset.notMem_empty]
      tauto
    refine .bind fun identities captured hcaptured => ?_
    have hstate := (capturePipe_keeps _ _ _ _ _ hcaptured).trans hdone
    cases identities with
    | error code =>
      refine .giveUpAll ?_
      rw [hstate]
      exact (((hboth.closeRaw hread).closeRaw hwrite).close hcontrol).restored (hheld _ _)
    | ok identities =>
      refine @publishStart_givesBack before _ _ _ control _ _ mapping protectedFds
        ⟨rfl, rfl, rfl, hcontrol, hread, hwrite⟩ rfl ?_ (hheld _ _)
      rw [hstate]
      exact hboth

theorem openControl_givesBack (hsince : Since before ∅ none false world.state) :
    GivesBack before controller (openControl mapping protectedFds config plan controller
      before.dumpable) world := by
  refine .bind fun control opened hopened => ?_
  obtain ⟨answer, ⟨-, rfl, hkept⟩ | ⟨-, rfl, hdone⟩⟩ := call_ite_eq_some hopened
  · exact .ite (fun _ => .giveUpAll (hkept ▸ hsince.restored rfl)) fun h =>
      absurd (show (-1 : Int) < 0 by decide) h
  · refine .ite (fun h => absurd h (by omega)) fun _ => .bind fun identity captured hcaptured => ?_
    have hstate := (captureRawFdObjectIdentity_keeps _ _ _ _ hcaptured).trans hdone
    have hsince := hsince.open answer.first
    have hcontrol := hsince.notMem (Finset.mem_insert_self _ _)
    cases identity with
    | error code =>
      refine .giveUpAll ?_
      rw [hstate]
      exact (hsince.closeRaw hcontrol).restored (by simp)
    | ok identity =>
      refine openPipe_givesBack ?_
      rw [hstate]
      exact hsince

theorem getDumpable_eq_some {after : World Process Answer} {value : Int}
    (h : getDumpable world = some (value, after)) :
    after.state = world.state ∧ (value < 0 ∨ value = world.state.dumpable) := by
  obtain ⟨answer, answers, -, hout⟩ := call_eq_some.mp h
  obtain ⟨rfl, rfl⟩ := Prod.mk.inj hout
  refine ⟨rfl, ?_⟩
  dsimp only
  split_ifs
  · exact .inl (by decide)
  · exact .inr rfl

theorem startTracer_givesBack :
    GivesBack world.state controller (startTracer mapping protectedFds config plan controller)
      world := by
  refine .bind fun originalDumpable asked hasked => ?_
  obtain ⟨hstate, horiginal⟩ := getDumpable_eq_some hasked
  have hnow : Since world.state ∅ none false asked.state := by
    rw [hstate]
    exact .refl _
  have hundone : Undone world.state asked.state := by
    rw [hstate]
    exact .refl _
  refine .ite (fun _ => .pure hundone) fun hvalid => .ite (fun _ => .pure hundone) fun _ => ?_
  obtain rfl : originalDumpable = world.state.dumpable := horiginal.resolve_left hvalid
  refine .bind fun raised between hraised => ?_
  by_cases hone : world.state.dumpable ≠ 1
  · rw [raiseDumpable, if_pos hone] at hraised
    obtain ⟨answer, ⟨-, rfl, hkept⟩ | ⟨-, rfl, hdone⟩⟩ := call_ite_eq_some hraised
    · exact .ite (fun _ => .pure (hkept ▸ hundone)) fun h => absurd rfl h
    · refine .ite (fun h => nomatch h) fun _ => openControl_givesBack ?_
      rw [hdone]
      exact { hnow with mask := hnow.mask }
  · rw [raiseDumpable, if_neg hone] at hraised
    obtain ⟨rfl, rfl⟩ := Prod.mk.inj (pure_eq_some.mp hraised)
    exact .ite (fun h => nomatch h) fun _ => openControl_givesBack hnow

def sampleProcess (dumpable : Int) : Process :=
  ⟨dumpable, 0, none, {0, 1, 2}, fun _ => ⟨0, 0, 0, 0⟩, ∅⟩

def returns (result : Int) : Answer :=
  ⟨result, 22, by decide, ⟨0, 0, 0, 0⟩, ⟨0, 0, 0, 0⟩, kStatusReady, ⟨0, 0, 0, 0, 0, 0, 0, 0, 0, 0⟩⟩

def emptyController : ResidentSessionController :=
  ⟨-1, -1, -1, -1, false, -1, 0, 0, false, false, false, ⟨⟨0, 0, 0, 0⟩, false⟩,
    ⟨⟨0, 0, 0, 0⟩, false⟩⟩

def closesDescriptor : List Answer := [returns 0, returns 0]

/-- The tracer has been started and is the ptracer; its gate cannot be opened. -/
def failsGate : List Answer :=
  [returns 0, returns 0, returns 0, returns 0, returns 0, returns 0, returns 0, returns 5,
    returns 42] ++ closesDescriptor ++ [returns 0, returns (-1), returns 1, returns 42] ++
  closesDescriptor ++ closesDescriptor ++ [returns 0, returns 0]

def shows (state : Nat) : Answer :=
  { returns 1 with
    view := ⟨0, 0, 0, 1, 1, (buildSelectiveSeccompPlan (some selectiveConfig)).toOption.elim 0
      (·.syscallSetHash), 5, state, 1, 1⟩ }

def receives (byte : Char) : List Answer :=
  [returns 1, returns 1, returns 1, { returns 1 with byte := byte }]

/-- The tracer is ready, and the signal mask cannot be set back. -/
def failsUnblocking : List Answer :=
  [returns 0, returns 0, returns 0, returns 0, returns 0, returns 0, returns 5, returns 0,
    returns 42] ++ closesDescriptor ++ [returns 0, returns 8] ++ receives kStatusInstallReady ++
  [shows kWorldStopped, returns 5, returns 1, returns 0] ++ receives kStatusReady ++
  [shows kCommitted, returns (-1), returns 1, returns 42] ++
  closesDescriptor ++ closesDescriptor ++ [returns 0]

end Start

end HookSelf.ResidentSession
