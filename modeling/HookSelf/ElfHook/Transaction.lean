import HookSelf.ElfHook.MemoryLaws

namespace HookSelf.ElfHook

open Swaps

variable {kernel : Kernel} {memory : Memory} {pages : List PageChange}
  {patches : List PointerPatch} {original : Address → Protection}

/-- The list accounts for every page whose protection differs from the original. -/
structure Tracked (original : Address → Protection) (pages : List PageChange) (memory : Memory) :
    Prop where
  nodup : (pages.map (·.address)).Nodup
  saved : Saved original pages
  settled : Settled original pages memory
  outside : ∀ address, address ∉ pages.map (·.address) →
    memory.protection address = original address

theorem notMem_addresses {address : Address} :
    address ∉ pages.map (·.address) ↔ ∀ page ∈ pages, page.address ≠ address := by
  simp

theorem Tracked.writes {after : Memory} (h : Tracked original pages memory)
    (hwrites : SlotWrites kernel patches memory after) : Tracked original pages after where
  nodup := h.nodup
  saved := h.saved
  settled page hpage hunchanged := hwrites.protection ▸ h.settled page hpage hunchanged
  outside address hout := hwrites.protection ▸ h.outside address hout

theorem Tracked.restore (kernel : Kernel) (h : Tracked original pages memory) :
    let result := restorePages kernel pages memory
    Tracked original result.2.1 result.2.2 ∧ Toward original memory result.2.2 ∧
      (result.1 = true → result.2.2.protection = original) := by
  have hrestored := restorePages_spec kernel h.saved h.settled
  refine ⟨⟨?_, hrestored.saved, hrestored.settled, ?_⟩, hrestored.toward, fun hdone => ?_⟩
  · rw [hrestored.addresses]
    exact h.nodup
  · intro address hout
    rw [hrestored.addresses] at hout
    exact hrestored.toward.stays (h.outside address hout)
  · funext address
    by_cases hin : address ∈ pages.map (·.address)
    · obtain ⟨page, hpage, rfl⟩ := List.mem_map.mp hin
      exact hrestored.done hdone page hpage
    · exact hrestored.toward.stays (h.outside address hin)

theorem PagesWritable.tracked {result : Bool × List PageChange × Memory}
    (h : PagesWritable original pages memory result) (hnodup : (pages.map (·.address)).Nodup)
    (houtside : ∀ address, address ∉ result.2.1.map (·.address) →
      memory.protection address = original address) :
    Tracked original result.2.1 result.2.2 where
  nodup := hnodup.sublist h.addresses.sublist
  saved := h.saved
  settled := h.settled
  outside address hout :=
    (h.within.protection address (notMem_addresses.mp hout)).trans (houtside address hout)

theorem Tracked.makeWritable (kernel : Kernel) (h : Tracked original pages memory) :
    let result := makePagesWritable kernel pages memory
    Tracked original result.2.1 result.2.2 ∧ PagesWritable original pages memory result := by
  have hwritable := makePagesWritable_spec kernel h.nodup h.saved h.settled
  refine ⟨hwritable.tracked h.nodup fun address hout => h.outside address ?_, hwritable⟩
  rwa [makePagesWritable_addresses] at hout

section Commit

/-- The slots after the call are those before it, or every slot went from its expected to its
desired value. -/
def SlotsMoved (patches : List PointerPatch) (before after : Memory) : Prop :=
  (∀ patch ∈ patches, before.slots patch.address = patch.expected) ∧
    (∀ patch ∈ patches, after.slots patch.address = patch.desired) ∧
      ∀ address, (∀ patch ∈ patches, patch.address ≠ address) →
        after.slots address = before.slots address

theorem SlotsMoved.congr {before after later : Memory} (h : SlotsMoved patches before after)
    (hslots : later.slots = after.slots) : SlotsMoved patches before later := by
  rwa [SlotsMoved, hslots]

/-- What `CommitPointerPatches` leaves behind, by its result. -/
structure Transacted (patches : List PointerPatch) (pages : List PointerPageProtection)
    (before : Memory) (result : Result × PointerPatchOutcome × Memory) : Prop where
  fault : result.2.2.fault = before.fault
  committed : result.1 = .ok →
    SlotsMoved patches before result.2.2 ∧ result.2.2.protection = before.protection
  aborted : result.1 ≠ .ok → result.1 ≠ .recoveryRequired →
    result.2.2.slots = before.slots ∧ result.2.2.protection = before.protection
  pending : result.1 = .recoveryRequired →
    (result.2.2.slots = before.slots ∨ SlotsMoved patches before result.2.2) ∧
      result.2.1.recoveryRequired = true ∧ result.2.1.pages = pages

theorem Transacted.failed {saved : List PointerPageProtection} {outcome : PointerPatchOutcome}
    {after : Memory} {result : Result}
    {done : Bool} (hresult : result ≠ .ok) (houtcome : outcome.pages = saved)
    (hfault : after.fault = memory.fault) (hslots : after.slots = memory.slots)
    (hprotection : done = true → after.protection = memory.protection)
    (hnot : result ≠ .recoveryRequired) :
    Transacted patches saved memory
      (if done then (result, outcome, after) else recoveryRequired patches outcome after) := by
  cases done with
  | true =>
    exact ⟨hfault, fun h => absurd h hresult, fun _ _ => ⟨hslots, hprotection rfl⟩,
      fun h => absurd h hnot⟩
  | false =>
    exact ⟨hfault, fun h => Result.noConfusion h, fun _ h => absurd rfl h,
      fun _ => ⟨.inl hslots, rfl, houtcome⟩⟩

theorem reprotectPages_spec {before : Memory} {outcome : PointerPatchOutcome}
    {saved : List PointerPageProtection} (houtcome : outcome.pages = saved)
    (htracked : Tracked before.protection pages memory) (hfault : memory.fault = before.fault)
    (hcovers : ∀ patch ∈ patches, pageOf kernel patch.address ∈ pages.map (·.address))
    (hmoved : SlotsMoved patches before memory)
    (hundo : undoAll (patches.map (·.swap)) memory.slots = (true, before.slots)) :
    Transacted patches saved before (reprotectPages kernel patches pages outcome memory) := by
  obtain ⟨htracked₁, htoward₁, hdone₁⟩ := htracked.restore kernel
  have haddresses := (restorePages_spec kernel htracked.saved htracked.settled).addresses
  rw [reprotectPages]
  generalize restorePages kernel pages memory = restored at *
  obtain ⟨restored, pages₁, memory₁⟩ := restored
  dsimp only at *
  have hmoved₁ := hmoved.congr htoward₁.slots
  cases restored with
  | true =>
    exact ⟨htoward₁.fault.trans hfault, fun _ => ⟨hmoved₁, hdone₁ rfl⟩, fun h => absurd rfl h,
      fun h => Result.noConfusion h⟩
  | false =>
    obtain ⟨htracked₂, hwritable⟩ := htracked₁.makeWritable kernel
    generalize makePagesWritable kernel pages₁ memory₁ = writable at *
    obtain ⟨writable, pages₂, memory₂⟩ := writable
    dsimp only at *
    have hslots₂ := hwritable.within.slots.trans htoward₁.slots
    have hfault₂ := (hwritable.within.fault.trans htoward₁.fault).trans hfault
    cases writable with
    | false =>
      obtain ⟨-, htoward₃, -⟩ := htracked₂.restore kernel
      exact ⟨htoward₃.fault.trans hfault₂, fun h => Result.noConfusion h, fun _ h => absurd rfl h,
        fun _ => ⟨.inr (hmoved.congr (htoward₃.slots.trans hslots₂)), rfl, houtcome⟩⟩
    | true =>
      have hwrites := rollBackPatches_writes kernel patches memory₂
      obtain ⟨hrolled, hslots₃⟩ := rollBackPatches_slots kernel patches memory₂
      rw [hslots₂, hundo] at hrolled hslots₃
      have hfault₃ := hwrites.fault fun patch hpatch => by
        obtain ⟨page, hpage, heq⟩ := List.mem_map.mp (haddresses ▸ hcovers patch hpatch)
        rw [← heq, (hwritable.done rfl).2 page hpage]
        rfl
      obtain ⟨-, htoward₃, hdone₃⟩ := (htracked₂.writes hwrites).restore kernel
      rw [if_pos rfl]
      generalize rollBackPatches kernel patches memory₂ = rolled at *
      obtain ⟨rolledBack, memory₃⟩ := rolled
      dsimp only at *
      rw [hrolled, Bool.true_and]
      exact .failed (by decide) houtcome ((htoward₃.fault.trans hfault₃).trans hfault₂)
        (htoward₃.slots.trans hslots₃) hdone₃ (by decide)

theorem patchSlots_spec {before : Memory} {outcome : PointerPatchOutcome}
    {saved : List PointerPageProtection} (houtcome : outcome.pages = saved)
    (htracked : Tracked before.protection pages memory) (hslots : memory.slots = before.slots)
    (hfault : memory.fault = before.fault)
    (hcovers : ∀ patch ∈ patches, pageOf kernel patch.address ∈ pages.map (·.address))
    (hallowed : ∀ patch ∈ patches,
      (memory.protection (pageOf kernel patch.address)).write = true)
    (hheld : ∀ patch ∈ patches, memory.slots patch.address = patch.expected)
    (hdiffer : ∀ patch ∈ patches, patch.expected ≠ patch.desired) :
    Transacted patches saved before (patchSlots kernel patches pages outcome memory) := by
  have hwrites := exchangePatches_writes kernel patches memory
  obtain ⟨hcount, hslots₁⟩ := exchangePatches_slots kernel patches memory
  have hundo := undoAll_swapAll (patches.map (·.swap)) memory.slots
  have hle := swapAll_le (patches.map (·.swap)) memory.slots
  rw [← hcount, ← hslots₁, ← List.map_take] at hundo
  rw [← hcount, List.length_map] at hle
  have htracked₁ := htracked.writes hwrites
  have hfault₁ := (hwrites.fault hallowed).trans hfault
  rw [patchSlots]
  generalize exchangePatches kernel patches memory = exchanged at *
  obtain ⟨patchedCount, memory₁⟩ := exchanged
  dsimp only at *
  by_cases hpartial : patchedCount < patches.length
  · rw [if_pos hpartial]
    have hback := rollBackPatches_writes kernel (patches.take patchedCount) memory₁
    obtain ⟨hrolled, hslots₂⟩ :=
      rollBackPatches_slots kernel (patches.take patchedCount) memory₁
    rw [hundo] at hrolled hslots₂
    have hfault₂ := hback.fault fun patch hpatch =>
      hwrites.protection ▸ hallowed patch (List.mem_of_mem_take hpatch)
    obtain ⟨-, htoward, hdone⟩ := (htracked₁.writes hback).restore kernel
    generalize rollBackPatches kernel (patches.take patchedCount) memory₁ = rolled at *
    obtain ⟨rolledBack, memory₂⟩ := rolled
    dsimp only at *
    rw [hrolled, Bool.true_and]
    exact .failed (by decide) houtcome ((htoward.fault.trans hfault₂).trans hfault₁)
      ((htoward.slots.trans hslots₂).trans hslots) hdone (by decide)
  · rw [if_neg hpartial]
    have hall : patchedCount = patches.length := by omega
    rw [hall, List.take_length, hslots] at hundo
    refine reprotectPages_spec houtcome htracked₁ hfault₁ hcovers ?_ hundo
    obtain ⟨hdesired, hframe⟩ := swapAll_complete
      (hcount.symm.trans (hall.trans (List.length_map _).symm))
      (List.forall_mem_map.mpr hheld) (List.forall_mem_map.mpr hdiffer)
    refine ⟨fun patch hpatch => hslots ▸ hheld patch hpatch, fun patch hpatch => ?_,
      fun address hout => ?_⟩
    · rw [hslots₁]
      exact List.forall_mem_map.mp hdesired patch hpatch
    · rw [hslots₁, hframe address (List.forall_mem_map.mpr hout), hslots]

theorem commitPages_spec (hpages : Collected kernel memory patches pages)
    {outcome : PointerPatchOutcome} {saved : List PointerPageProtection}
    (houtcome : outcome.pages = saved) :
    Transacted patches saved memory (commitPages kernel patches pages outcome memory) := by
  have hunprotect := unprotectPages_spec kernel hpages.nodup hpages.saved fun _ _ => rfl
  have htracked := hunprotect.tracked hpages.nodup fun _ _ => rfl
  rw [commitPages]
  generalize unprotectPages kernel pages memory = unprotected at hunprotect htracked ⊢
  obtain ⟨writable, pages₁, memory₁⟩ := unprotected
  dsimp only at hunprotect htracked ⊢
  have hwithin := hunprotect.within
  obtain ⟨-, htoward, hdone⟩ := htracked.restore kernel
  cases writable with
  | false =>
    exact .failed (by decide) houtcome (htoward.fault.trans hwithin.fault)
      (htoward.slots.trans hwithin.slots) hdone (by decide)
  | true =>
    obtain ⟨haddresses, hwrite⟩ := hunprotect.done rfl
    have hcovers : ∀ patch ∈ patches, pageOf kernel patch.address ∈ pages₁.map (·.address) :=
      fun patch hpatch => haddresses ▸ hpages.covers patch hpatch
    have hallowed : ∀ patch ∈ patches,
        (memory₁.protection (pageOf kernel patch.address)).write = true := by
      intro patch hpatch
      obtain ⟨page, hpage, heq⟩ := List.mem_map.mp (hpages.covers patch hpatch)
      rw [← heq, hwrite page hpage]
      rfl
    rw [if_neg (by decide)]
    by_cases hconflict : patches.any fun patch => memory₁.slots patch.address ≠ patch.expected
    · rw [if_pos hconflict]
      exact .failed (by decide) houtcome (htoward.fault.trans hwithin.fault)
        (htoward.slots.trans hwithin.slots) hdone (by decide)
    · rw [if_neg hconflict]
      have hheld : ∀ patch ∈ patches, memory₁.slots patch.address = patch.expected := by
        simpa using hconflict
      exact patchSlots_spec houtcome htracked hwithin.slots hwithin.fault hcovers hallowed hheld
        hpages.differ

theorem commitPointerPatches_spec (kernel : Kernel) (patches : List PointerPatch)
    (outcome : PointerPatchOutcome) (memory : Memory) :
    ∃ saved, Transacted patches saved memory (commitPointerPatches kernel patches outcome memory) ∧
      ((commitPointerPatches kernel patches outcome memory).1 = .recoveryRequired →
        ∃ pages, saved = savePageProtections pages ∧ Collected kernel memory patches pages ∧
          patches.length ≠ 0 ∧ patches.length ≤ kMaxSlotsPerHook) := by
  have hunchanged (result : Result) (outcome : PointerPatchOutcome) (hok : result ≠ .ok)
      (hnot : result ≠ .recoveryRequired) : Transacted patches [] memory (result, outcome, memory) :=
    ⟨rfl, fun h => absurd h hok, fun _ _ => ⟨rfl, rfl⟩, fun h => absurd h hnot⟩
  rw [commitPointerPatches]
  split_ifs with hcount
  · exact ⟨[], hunchanged _ _ (by decide) (by decide), fun h => absurd h (by decide)⟩
  · cases hcollect : collectPages kernel memory 0 patches [] with
    | error result =>
      have hresult : result ≠ .ok ∧ result ≠ .recoveryRequired := by
        rcases collectPages_error hcollect with rfl | rfl <;> decide
      exact ⟨[], hunchanged _ _ hresult.1 hresult.2, fun h => absurd h hresult.2⟩
    | ok pages =>
      have hpages : Collected kernel memory ([] ++ patches) pages :=
        collectPages_ok
          ⟨by simp, by simp [Saved], by simp, by simp, Nat.le_refl _⟩ hcollect
      rw [List.nil_append] at hpages
      exact ⟨_, commitPages_spec hpages rfl, fun _ => ⟨pages, rfl, hpages, by omega, by omega⟩⟩

end Commit

section Recover

theorem AllSucceed.writes {after : Memory} (h : AllSucceed kernel memory)
    (hwrites : SlotWrites kernel patches memory after) : AllSucceed kernel after :=
  fun call hcall => h call (hwrites.calls ▸ hcall)

theorem Collected.pages_ne_nil (h : Collected kernel memory patches pages)
    (hne : patches.length ≠ 0) : pages.length ≠ 0 := by
  obtain ⟨patch, hpatch⟩ := List.exists_mem_of_length_pos (Nat.pos_of_ne_zero hne)
  have hpage := h.covers patch hpatch
  intro hnil
  rw [List.length_eq_zero_iff.mp hnil] at hpage
  cases hpage

theorem reopenedPages_addresses {outcome : PointerPatchOutcome}
    (h : outcome.pages = savePageProtections pages) :
    (reopenedPages outcome).map (·.address) = pages.map (·.address) := by
  rw [reopenedPages, h, savePageProtections, List.map_map, List.map_map]
  rfl

theorem Collected.recoverable {outcome : PointerPatchOutcome}
    (h : Collected kernel memory patches pages) (hne : patches.length ≠ 0)
    (hmax : patches.length ≤ kMaxSlotsPerHook) (hrequired : outcome.recoveryRequired = true)
    (houtcome : outcome.pages = savePageProtections pages) :
    ¬ (patches.length = 0 ∨ patches.length > kMaxSlotsPerHook ∨ !outcome.recoveryRequired ∨
      outcome.pages.length = 0 ∨ outcome.pages.length > kMaxSlotsPerHook) := by
  have hlength : outcome.pages.length = pages.length := by
    rw [houtcome, savePageProtections, List.length_map]
  have hsome := h.pages_ne_nil hne
  have hle := h.length.trans hmax
  simp only [hrequired, hlength, Bool.not_true, Bool.false_eq_true, false_or]
  omega

theorem Collected.reopened {outcome : PointerPatchOutcome} {before : Memory}
    (h : Collected kernel before patches pages) (houtcome : outcome.pages = savePageProtections pages)
    (memory : Memory) :
    PagesWritable before.protection (reopenedPages outcome) memory
      (makePagesWritable kernel (reopenedPages outcome) memory) := by
  have haddresses := reopenedPages_addresses houtcome
  refine makePagesWritable_spec kernel (haddresses ▸ h.nodup) ?_ ?_
  · rw [reopenedPages, houtcome, savePageProtections, List.map_map]
    exact List.forall_mem_map.mpr h.saved
  · exact List.forall_mem_map.mpr fun _ _ h => Bool.noConfusion h

/-- Whatever is written to the slots of writable pages, the restoration reaches every page. -/
theorem PagesWritable.restored {before after : Memory} {opened : List PageChange}
    {result : Bool × List PageChange × Memory}
    (h : PagesWritable before.protection opened memory result) (hdone : result.1 = true)
    (hcovers : ∀ patch ∈ patches, pageOf kernel patch.address ∈ opened.map (·.address))
    (hprotection : after.protection = result.2.2.protection) (hsucceed : AllSucceed kernel after) :
    let restored := restorePages kernel result.2.1 after
    restored.1 = true ∧ restored.2.2.slots = after.slots ∧ restored.2.2.fault = after.fault ∧
      ∀ patch ∈ patches, restored.2.2.protection (pageOf kernel patch.address) =
        before.protection (pageOf kernel patch.address) := by
  have hspec := restorePages_spec kernel h.saved
    (fun page hpage hkept => hprotection ▸ h.settled page hpage hkept : Settled _ _ after)
  have hrestored := (hsucceed.restorePages result.2.1).1
  refine ⟨hrestored, hspec.toward.slots, hspec.toward.fault, fun patch hpatch => ?_⟩
  have hpage := hcovers patch hpatch
  rw [← (h.done hdone).1] at hpage
  obtain ⟨page, hpage, heq⟩ := List.mem_map.mp hpage
  exact heq ▸ hspec.done hrestored page hpage

theorem undoAll_recovers {before : Memory}
    (hheld : ∀ patch ∈ patches, before.slots patch.address = patch.expected)
    (hmixed : ∀ patch ∈ patches, memory.slots patch.address = patch.expected ∨
      memory.slots patch.address = patch.desired) :
    (undoAll (patches.map (·.swap)) memory.slots).1 = true ∧ ∀ patch ∈ patches,
      (undoAll (patches.map (·.swap)) memory.slots).2 patch.address = patch.expected := by
  have hagree : ∀ s ∈ patches.map (·.swap), ∀ t ∈ patches.map (·.swap),
      s.key = t.key → s.old = t.old :=
    List.forall_mem_map.mpr fun p hp => List.forall_mem_map.mpr fun q hq hkey =>
      (hheld p hp).symm.trans ((congrArg before.slots hkey).trans (hheld q hq))
  obtain ⟨hundone, hexpected⟩ := undoAll_mixed hagree (List.forall_mem_map.mpr hmixed)
  exact ⟨hundone, List.forall_mem_map.mp hexpected⟩

theorem recoverPointerPatches_spec {before : Memory} {outcome : PointerPatchOutcome}
    (hpages : Collected kernel before patches pages) (hne : patches.length ≠ 0)
    (hmax : patches.length ≤ kMaxSlotsPerHook) (hrequired : outcome.recoveryRequired = true)
    (houtcome : outcome.pages = savePageProtections pages) (hsucceed : AllSucceed kernel memory) :
    let recovered := recoverPointerPatches kernel patches outcome memory
    recovered.2.fault = memory.fault ∧
      (∀ patch ∈ patches, recovered.2.protection (pageOf kernel patch.address) =
        before.protection (pageOf kernel patch.address)) ∧
      ((∀ patch ∈ patches, before.slots patch.address = patch.expected) →
        (∀ patch ∈ patches, memory.slots patch.address = patch.expected ∨
          memory.slots patch.address = patch.desired) →
        recovered.1 = .ok ∧ ∀ patch ∈ patches, recovered.2.slots patch.address = patch.expected) := by
  have hwritable := hpages.reopened houtcome memory
  have hcovers : ∀ patch ∈ patches,
      pageOf kernel patch.address ∈ (reopenedPages outcome).map (·.address) :=
    reopenedPages_addresses houtcome ▸ hpages.covers
  obtain ⟨hdone, hsucceed₁⟩ := hsucceed.makePagesWritable (reopenedPages outcome)
  rw [recoverPointerPatches, if_neg (hpages.recoverable hne hmax hrequired houtcome)]
  generalize makePagesWritable kernel (reopenedPages outcome) memory = writable at *
  obtain ⟨writable, pages₁, memory₁⟩ := writable
  dsimp only at *
  subst hdone
  obtain ⟨-, horWrite⟩ := hwritable.done rfl
  rw [if_neg (by decide)]
  by_cases hconflict : patches.any fun patch =>
      memory₁.slots patch.address ≠ patch.expected ∧ memory₁.slots patch.address ≠ patch.desired
  · rw [if_pos hconflict]
    obtain ⟨-, -, hfault, hprotection⟩ := hwritable.restored rfl hcovers rfl hsucceed₁
    refine ⟨hfault.trans hwritable.within.fault, hprotection, fun _ hmixed => ?_⟩
    obtain ⟨patch, hpatch, hneither⟩ := List.any_eq_true.mp hconflict
    rw [decide_eq_true_eq, hwritable.within.slots] at hneither
    exact absurd (hmixed patch hpatch) (not_or.mpr hneither)
  · rw [if_neg hconflict]
    have hwrites := rollBackPatches_writes kernel patches memory₁
    obtain ⟨hrolled, hslots⟩ := rollBackPatches_slots kernel patches memory₁
    obtain ⟨hdone, hslots', hfault', hprotection⟩ := hwritable.restored rfl hcovers
      hwrites.protection (hsucceed₁.writes hwrites)
    have hfault := hwrites.fault fun patch hpatch => by
      obtain ⟨page, hpage, heq⟩ := List.mem_map.mp (hcovers patch hpatch)
      rw [← heq, horWrite page hpage]
      rfl
    refine ⟨(hfault'.trans hfault).trans hwritable.within.fault, hprotection,
      fun hheld hmixed => ?_⟩
    obtain ⟨hundone, hexpected⟩ := undoAll_recovers hheld hmixed
    rw [← hwritable.within.slots] at hundone hexpected
    dsimp only
    rw [hrolled, hundone, hdone]
    refine ⟨rfl, fun patch hpatch => ?_⟩
    rw [hslots', hslots]
    exact hexpected patch hpatch

end Recover

/-- The transaction: a commit writes every slot or none, unless the protections cannot be put back;
then the call says so, the slots are all old or all new, and a recovery whose `mprotect` calls
succeed ends it. -/
theorem commitPointerPatches_transactional (kernel : Kernel) (patches : List PointerPatch)
    (outcome : PointerPatchOutcome) (memory : Memory) :
    let result := commitPointerPatches kernel patches outcome memory
    let after := result.2.2
    after.fault = memory.fault ∧
      (result.1 = .ok → (∀ patch ∈ patches, after.slots patch.address = patch.desired) ∧
        (∀ address, (∀ patch ∈ patches, patch.address ≠ address) →
          after.slots address = memory.slots address) ∧ after.protection = memory.protection) ∧
      (result.1 ≠ .ok → result.1 ≠ .recoveryRequired →
        after.slots = memory.slots ∧ after.protection = memory.protection) ∧
      (result.1 = .recoveryRequired →
        ((∀ patch ∈ patches, memory.slots patch.address = patch.expected) →
          ∀ patch ∈ patches, after.slots patch.address = patch.expected ∨
            after.slots patch.address = patch.desired) ∧
        ((∃ patch ∈ patches, memory.slots patch.address ≠ patch.expected) →
          after.slots = memory.slots) ∧
        ∀ later, AllSucceed kernel later →
          (∀ patch ∈ patches, later.slots patch.address = after.slots patch.address) →
          let recovered := recoverPointerPatches kernel patches result.2.1 later
          recovered.2.fault = later.fault ∧
            (∀ patch ∈ patches, recovered.2.protection (pageOf kernel patch.address) =
              memory.protection (pageOf kernel patch.address)) ∧
            ((∀ patch ∈ patches, memory.slots patch.address = patch.expected) →
              recovered.1 = .ok ∧
                ∀ patch ∈ patches, recovered.2.slots patch.address = patch.expected)) := by
  obtain ⟨saved, h, hcollected⟩ := commitPointerPatches_spec kernel patches outcome memory
  refine ⟨h.fault, fun hok => ?_, h.aborted, fun hrequired => ?_⟩
  · obtain ⟨⟨-, hdesired, hframe⟩, hprotection⟩ := h.committed hok
    exact ⟨hdesired, hframe, hprotection⟩
  · obtain ⟨hslots, hflag, hsaved⟩ := h.pending hrequired
    obtain ⟨pages, rfl, hpages, hne, hmax⟩ := hcollected hrequired
    have hmixed : (∀ patch ∈ patches, memory.slots patch.address = patch.expected) →
        ∀ patch ∈ patches,
          (commitPointerPatches kernel patches outcome memory).2.2.slots patch.address =
              patch.expected ∨
            (commitPointerPatches kernel patches outcome memory).2.2.slots patch.address =
              patch.desired := by
      intro hheld patch hpatch
      rcases hslots with hsame | hmoved
      · exact .inl (hsame ▸ hheld patch hpatch)
      · exact .inr (hmoved.2.1 patch hpatch)
    refine ⟨hmixed, ?_, fun later hsucceed hlater => ?_⟩
    · rintro ⟨patch, hpatch, hother⟩
      exact hslots.resolve_right fun hmoved => hother (hmoved.1 patch hpatch)
    · obtain ⟨hfault, hprotection, hback⟩ :=
        recoverPointerPatches_spec hpages hne hmax hflag hsaved hsucceed
      refine ⟨hfault, hprotection, fun hheld => hback hheld fun patch hpatch => ?_⟩
      rw [hlater patch hpatch]
      exact hmixed hheld patch hpatch

section Stuck

/-- A kernel that lets the first `mprotect` through and refuses the next four. -/
def stuckKernel : Kernel where
  systemPageSize := 4096
  mapsShows _ := true
  smapsShows _ := true
  privateMapping _ := true
  mprotectFails call := 1 ≤ call && call ≤ 4

def readOnlyMemory (value : BitVec 64) : Memory where
  slots _ := value
  protection _ := ⟨true, false, false, false, false⟩
  mprotectCalls := 0
  fault := false

/-- The slot holds another value than the expected one, and the page cannot be write protected
again: recovery is required though the slot holds neither value, and it ends in a conflict. -/
theorem commitPointerPatches_neither_value :
    let result := commitPointerPatches stuckKernel [⟨0x1000, 3, 7⟩] ⟨false, false, []⟩
      (readOnlyMemory 5)
    result.1 = .recoveryRequired ∧ result.2.2.slots 0x1000 = 5 ∧
      (recoverPointerPatches stuckKernel [⟨0x1000, 3, 7⟩] result.2.1
        { result.2.2 with mprotectCalls := 5 }).1 = .conflict := by
  decide +kernel

theorem commitPointerPatches_transactional_stuck :
    let result := commitPointerPatches stuckKernel [⟨0x1000, 3, 7⟩] ⟨false, false, []⟩
      (readOnlyMemory 3)
    result.1 = .recoveryRequired ∧
      (recoverPointerPatches stuckKernel [⟨0x1000, 3, 7⟩] result.2.1 result.2.2).1 = .ok := by
  have hrequired : (commitPointerPatches stuckKernel [⟨0x1000, 3, 7⟩] ⟨false, false, []⟩
      (readOnlyMemory 3)).1 = .recoveryRequired := by decide +kernel
  have hcalls : (commitPointerPatches stuckKernel [⟨0x1000, 3, 7⟩] ⟨false, false, []⟩
      (readOnlyMemory 3)).2.2.mprotectCalls = 6 := by decide +kernel
  refine ⟨hrequired, ?_⟩
  have hrecover := ((commitPointerPatches_transactional stuckKernel [⟨0x1000, 3, 7⟩]
    ⟨false, false, []⟩ (readOnlyMemory 3)).2.2.2 hrequired).2.2 _
      (fun call hcall => ?_) (fun _ _ => rfl)
  · exact (hrecover.2.2 (by decide +kernel)).1
  · rw [hcalls] at hcall
    simp [stuckKernel]
    omega

end Stuck

section Runs

/-- A call of `CommitPointerPatches`, with the answers of the kernel to it. -/
structure Transaction where
  kernel : Kernel
  patches : List PointerPatch
  outcome : PointerPatchOutcome

/-- The transactions in order, each with its result, and the memory they leave. -/
def runTransactions : List Transaction → Memory → List (Transaction × Result) × Memory
  | [], memory => ([], memory)
  | call :: calls, memory =>
    let (result, _, next) := commitPointerPatches call.kernel call.patches call.outcome memory
    let (results, last) := runTransactions calls next
    ((call, result) :: results, last)

/-- A compare-exchange of all the slots at once; nothing if it is said to succeed and cannot. -/
def exchangeAll (slots : Address → BitVec 64) (call : Transaction × Result) :
    Option (Address → BitVec 64) :=
  if call.2 ≠ .ok then some slots
  else if ∀ patch ∈ call.1.patches, slots patch.address = patch.expected then
    some fun address => ((call.1.patches.find? (·.address = address)).map (·.desired)).getD
      (slots address)
  else none

theorem SlotsMoved.slots_eq {before after : Memory} (h : SlotsMoved patches before after) :
    after.slots = fun address => ((patches.find? (·.address = address)).map (·.desired)).getD
      (before.slots address) := by
  obtain ⟨-, hdesired, hframe⟩ := h
  funext address
  cases hfound : patches.find? (·.address = address) with
  | none =>
    refine hframe address fun patch hpatch => ?_
    simpa using List.find?_eq_none.mp hfound patch hpatch
  | some patch =>
    obtain rfl : patch.address = address := by simpa using List.find?_some hfound
    exact hdesired patch (List.mem_of_find?_eq_some hfound)

theorem Transacted.exchangeAll {saved : List PointerPageProtection} {call : Transaction}
    {result : Result × PointerPatchOutcome × Memory}
    (h : Transacted call.patches saved memory result) (hresult : result.1 ≠ .recoveryRequired) :
    ElfHook.exchangeAll memory.slots (call, result.1) = some result.2.2.slots ∧
      result.2.2.protection = memory.protection := by
  by_cases hok : result.1 = .ok
  · obtain ⟨hmoved, hprotection⟩ := h.committed hok
    refine ⟨?_, hprotection⟩
    rw [ElfHook.exchangeAll, if_neg (not_not.mpr hok), if_pos hmoved.1, hmoved.slots_eq]
  · obtain ⟨hslots, hprotection⟩ := h.aborted hok hresult
    exact ⟨by rw [ElfHook.exchangeAll, if_pos hok, hslots], hprotection⟩

/-- As long as no transaction asks for recovery, whatever the kernel refuses, a run of transactions
exchanges the slots of each at once or not at all, and every page keeps its protection. -/
theorem runTransactions_atomic (calls : List Transaction) (memory : Memory)
    (hrun : ∀ call ∈ (runTransactions calls memory).1, call.2 ≠ .recoveryRequired) :
    (runTransactions calls memory).1.foldlM exchangeAll memory.slots =
        some (runTransactions calls memory).2.slots ∧
      (runTransactions calls memory).2.protection = memory.protection ∧
      (runTransactions calls memory).2.fault = memory.fault := by
  induction calls generalizing memory with
  | nil => exact ⟨rfl, rfl, rfl⟩
  | cons call calls ih =>
    obtain ⟨saved, h, -⟩ :=
      commitPointerPatches_spec call.kernel call.patches call.outcome memory
    rw [runTransactions] at hrun ⊢
    rw [List.forall_mem_cons] at hrun
    obtain ⟨hslots, hprotection⟩ := h.exchangeAll hrun.1
    obtain ⟨hrest, hkept, hfault⟩ := ih _ hrun.2
    refine ⟨?_, hkept.trans hprotection, hfault.trans h.fault⟩
    rw [List.foldlM_cons, hslots]
    exact hrest

theorem runTransactions_atomic_undone :
    let kernel := { stuckKernel with mprotectFails := fun _ => false }
    let calls : List Transaction := [⟨kernel, [⟨0x1000, 3, 7⟩], ⟨false, false, []⟩⟩,
      ⟨kernel, [⟨0x1000, 7, 3⟩], ⟨false, false, []⟩⟩]
    (runTransactions calls (readOnlyMemory 3)).1.map (·.2) = [.ok, .ok] ∧
      (runTransactions calls (readOnlyMemory 3)).2.protection =
        (readOnlyMemory 3).protection := by
  refine ⟨by decide +kernel, (runTransactions_atomic _ _ ?_).2.1⟩
  decide +kernel

end Runs

end HookSelf.ElfHook
