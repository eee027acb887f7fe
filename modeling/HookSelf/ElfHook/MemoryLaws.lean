import HookSelf.ElfHook.Memory

namespace HookSelf.ElfHook

open Swaps

variable {kernel : Kernel} {memory : Memory} {pages : List PageChange} {page : PageChange}
  {patches : List PointerPatch} {original : Address → Protection}

section Mprotect

@[simp] theorem mprotect_slots (address : Address) (protection : Protection) :
    (mprotect kernel address protection memory).2.slots = memory.slots := by
  rw [mprotect]
  split_ifs <;> rfl

@[simp] theorem mprotect_fault (address : Address) (protection : Protection) :
    (mprotect kernel address protection memory).2.fault = memory.fault := by
  rw [mprotect]
  split_ifs <;> rfl

theorem mprotect_calls (address : Address) (protection : Protection) :
    (mprotect kernel address protection memory).2.mprotectCalls = memory.mprotectCalls + 1 := by
  rw [mprotect]
  split_ifs <;> rfl

theorem mprotect_protection (address : Address) (protection : Protection) :
    (mprotect kernel address protection memory).2.protection =
      if (mprotect kernel address protection memory).1 then
        Function.update memory.protection address protection
      else memory.protection := by
  rw [mprotect]
  split_ifs <;> simp_all

theorem mprotect_done {address : Address} {protection : Protection}
    (h : (mprotect kernel address protection memory).1 = true) :
    (mprotect kernel address protection memory).2.protection address = protection := by
  rw [mprotect_protection, if_pos h, Function.update_self]

theorem mprotect_failed {address : Address} {protection : Protection}
    (h : (mprotect kernel address protection memory).1 = false) :
    (mprotect kernel address protection memory).2.protection = memory.protection := by
  rw [mprotect_protection, h]
  rfl

theorem mprotect_of_ne {address other : Address} (protection : Protection) (h : other ≠ address) :
    (mprotect kernel address protection memory).2.protection other = memory.protection other := by
  rw [mprotect_protection]
  split_ifs
  · exact Function.update_of_ne h _ _
  · rfl

end Mprotect

section Restore

def Saved (original : Address → Protection) (pages : List PageChange) : Prop :=
  ∀ page ∈ pages, page.originalProtection = original page.address

def Settled (original : Address → Protection) (pages : List PageChange) (memory : Memory) : Prop :=
  ∀ page ∈ pages, page.changed = false → memory.protection page.address = original page.address

structure Toward (original : Address → Protection) (before after : Memory) : Prop where
  slots : after.slots = before.slots
  fault : after.fault = before.fault
  protection : ∀ address, after.protection address = before.protection address ∨
    after.protection address = original address

theorem Toward.refl (original : Address → Protection) (memory : Memory) :
    Toward original memory memory :=
  ⟨rfl, rfl, fun _ => .inl rfl⟩

theorem Toward.trans {a b c : Memory} (hab : Toward original a b) (hbc : Toward original b c) :
    Toward original a c where
  slots := hbc.slots.trans hab.slots
  fault := hbc.fault.trans hab.fault
  protection address := by
    rcases hbc.protection address with h | h
    · rw [h]
      exact hab.protection address
    · exact .inr h

theorem Toward.stays {before after : Memory} (h : Toward original before after) {address : Address}
    (horiginal : before.protection address = original address) :
    after.protection address = original address :=
  (h.protection address).elim (·.trans horiginal) id

variable (kernel)

theorem toward_mprotect (memory : Memory) (h : page.originalProtection = original page.address) :
    Toward original memory (mprotect kernel page.address page.originalProtection memory).2 := by
  refine ⟨mprotect_slots _ _, mprotect_fault _ _, fun address => ?_⟩
  rw [mprotect_protection]
  split_ifs
  · by_cases hat : address = page.address
    · right
      rw [hat, Function.update_self, h]
    · exact .inl (Function.update_of_ne hat _ _)
  · exact .inl rfl

structure PageRestored (original : Address → Protection) (page : PageChange) (before : Memory)
    (result : Bool × PageChange × Memory) : Prop where
  toward : Toward original before result.2.2
  address : result.2.1.address = page.address
  originalProtection : result.2.1.originalProtection = page.originalProtection
  settled : result.2.1.changed = false → result.2.2.protection page.address = original page.address
  done : result.1 = true → result.2.2.protection page.address = original page.address

theorem restorePageAttempts_spec (hsaved : page.originalProtection = original page.address)
    (hchanged : page.changed = true) (attempts : Nat) (memory : Memory) :
    PageRestored original page memory (restorePageAttempts kernel page attempts memory) := by
  induction attempts generalizing memory with
  | zero =>
    exact ⟨.refl _ _, rfl, rfl, fun h => Bool.noConfusion (hchanged.symm.trans h),
      fun h => Bool.noConfusion h⟩
  | succ attempts ih =>
    have htoward := toward_mprotect kernel memory hsaved
    rw [restorePageAttempts]
    dsimp only
    cases hdone : (mprotect kernel page.address page.originalProtection memory).1 with
    | true =>
      have hnow : (mprotect kernel page.address page.originalProtection memory).2.protection
          page.address = original page.address := by
        rw [mprotect_done hdone, hsaved]
      exact ⟨htoward, rfl, rfl, fun _ => hnow, fun _ => hnow⟩
    | false =>
      have hrest := ih (mprotect kernel page.address page.originalProtection memory).2
      exact ⟨htoward.trans hrest.toward, hrest.address, hrest.originalProtection, hrest.settled,
        hrest.done⟩

theorem restorePage_spec (hsaved : page.originalProtection = original page.address)
    (hsettled : page.changed = false → memory.protection page.address = original page.address) :
    PageRestored original page memory (restorePage kernel page memory) := by
  rw [restorePage]
  split_ifs with hchanged
  · exact restorePageAttempts_spec kernel hsaved hchanged 3 memory
  · have hnow := hsettled (Bool.not_eq_true _ ▸ hchanged)
    exact ⟨.refl _ _, rfl, rfl, fun _ => hnow, fun _ => hnow⟩

structure PagesRestored (original : Address → Protection) (pages : List PageChange)
    (before : Memory) (result : Bool × List PageChange × Memory) : Prop where
  toward : Toward original before result.2.2
  addresses : result.2.1.map (·.address) = pages.map (·.address)
  saved : Saved original result.2.1
  settled : Settled original result.2.1 result.2.2
  done : result.1 = true →
    ∀ page ∈ pages, result.2.2.protection page.address = original page.address

theorem restorePages_cons : restorePages kernel (page :: pages) memory =
    let rest := restorePages kernel pages memory
    let first := restorePage kernel page rest.2.2
    (rest.1 && first.1, first.2.1 :: rest.2.1, first.2.2) := rfl

theorem restorePages_spec (hsaved : Saved original pages) (hsettled : Settled original pages memory) :
    PagesRestored original pages memory (restorePages kernel pages memory) := by
  induction pages with
  | nil => exact ⟨.refl _ _, rfl, by simp [Saved, restorePages], by simp [Settled, restorePages],
      by simp⟩
  | cons page pages ih =>
    have hrest := ih (fun p hp => hsaved p (List.mem_cons_of_mem _ hp))
      (fun p hp => hsettled p (List.mem_cons_of_mem _ hp))
    have hhead := hsaved page List.mem_cons_self
    have hfirst := restorePage_spec kernel hhead fun hunchanged =>
      hrest.toward.stays (hsettled page List.mem_cons_self hunchanged)
    rw [restorePages_cons]
    dsimp only
    generalize restorePages kernel pages memory = rest at hrest hfirst ⊢
    generalize restorePage kernel page rest.2.2 = first at hfirst ⊢
    refine ⟨hrest.toward.trans hfirst.toward, ?_, ?_, ?_, ?_⟩
    · exact congrArg₂ List.cons hfirst.address hrest.addresses
    · refine List.forall_mem_cons.mpr ⟨?_, hrest.saved⟩
      rw [hfirst.originalProtection, hfirst.address, hhead]
    · refine List.forall_mem_cons.mpr ⟨fun hunchanged => ?_, fun p hp hunchanged => ?_⟩
      · rw [hfirst.address]
        exact hfirst.settled hunchanged
      · exact hfirst.toward.stays (hrest.settled p hp hunchanged)
    · intro hdone
      obtain ⟨hpages, hpage⟩ := (Bool.and_eq_true _ _).mp hdone
      refine List.forall_mem_cons.mpr ⟨hfirst.done hpage, fun p hp => ?_⟩
      exact hfirst.toward.stays (hrest.done hpages p hp)

end Restore

section Writable

variable (kernel)

structure Within (pages : List PageChange) (before after : Memory) : Prop where
  slots : after.slots = before.slots
  fault : after.fault = before.fault
  protection : ∀ address, (∀ page ∈ pages, page.address ≠ address) →
    after.protection address = before.protection address

theorem Within.refl (memory : Memory) : Within pages memory memory :=
  ⟨rfl, rfl, fun _ _ => rfl⟩

theorem Within.mprotect {kernel : Kernel} (page : PageChange) {protection : Protection}
    {after : Memory}
    (h : Within pages (ElfHook.mprotect kernel page.address protection memory).2 after) :
    Within (page :: pages) memory after where
  slots := h.slots.trans (mprotect_slots _ _)
  fault := h.fault.trans (mprotect_fault _ _)
  protection address hout := by
    rw [h.protection address fun p hp => hout p (List.mem_cons_of_mem _ hp),
      mprotect_of_ne _ (hout page List.mem_cons_self).symm]

structure PagesWritable (original : Address → Protection) (pages : List PageChange)
    (before : Memory) (result : Bool × List PageChange × Memory) : Prop where
  within : Within result.2.1 before result.2.2
  addresses : result.2.1.map (·.address) <+: pages.map (·.address)
  saved : Saved original result.2.1
  settled : Settled original result.2.1 result.2.2
  done : result.1 = true → result.2.1.map (·.address) = pages.map (·.address) ∧
    ∀ page ∈ pages, result.2.2.protection page.address = (original page.address).orWrite

theorem Protection.orWrite_of_write {protection : Protection} (h : protection.write = true) :
    protection.orWrite = protection := by
  rw [orWrite, ← h]

theorem address_ne_of_notMem (h : page.address ∉ pages.map (·.address)) :
    ∀ p ∈ pages, p.address ≠ page.address := by
  intro p hp heq
  exact h (List.mem_map.mpr ⟨p, hp, heq⟩)

theorem makePagesWritable_cons : makePagesWritable kernel (page :: pages) memory =
    let first := mprotect kernel page.address page.originalProtection.orWrite memory
    let rest := makePagesWritable kernel pages first.2
    (first.1 && rest.1,
      (if first.1 then { page with changed := !page.originalProtection.write } else page) :: rest.2.1,
      rest.2.2) := rfl

theorem PagesWritable.cons {after : Memory} {result : Bool × List PageChange × Memory}
    {changed : PageChange} (hnodup : page.address ∉ pages.map (·.address))
    (hrest : PagesWritable original pages after result)
    (hwithin : Within (changed :: result.2.1) memory result.2.2)
    (haddress : changed.address = page.address)
    (hsaved : changed.originalProtection = original page.address)
    (hsettled : changed.changed = false → after.protection page.address = original page.address)
    (done : Bool)
    (hdone : done = true → after.protection page.address = (original page.address).orWrite) :
    PagesWritable original (page :: pages) memory
      (done && result.1, changed :: result.2.1, result.2.2) := by
  have hkeep : result.2.2.protection page.address = after.protection page.address := by
    refine hrest.within.protection _ fun p hp heq => hnodup ?_
    exact heq ▸ hrest.addresses.subset (List.mem_map_of_mem hp)
  refine ⟨hwithin, ?_, ?_, ?_, fun h => ?_⟩
  · rw [List.map_cons, List.map_cons, haddress]
    exact List.prefix_cons_inj _ |>.mpr hrest.addresses
  · refine List.forall_mem_cons.mpr ⟨?_, hrest.saved⟩
    rw [hsaved, haddress]
  · refine List.forall_mem_cons.mpr ⟨fun hunchanged => ?_, hrest.settled⟩
    rw [haddress, hkeep]
    exact hsettled hunchanged
  · obtain ⟨hpage, hpages⟩ := (Bool.and_eq_true _ _).mp h
    obtain ⟨haddresses, hall⟩ := hrest.done hpages
    refine ⟨?_, List.forall_mem_cons.mpr ⟨?_, hall⟩⟩
    · rw [List.map_cons, List.map_cons, haddress, haddresses]
    · exact hkeep.trans (hdone hpage)

theorem makePagesWritable_addresses (pages : List PageChange) (memory : Memory) :
    (makePagesWritable kernel pages memory).2.1.map (·.address) = pages.map (·.address) := by
  induction pages generalizing memory with
  | nil => rfl
  | cons page pages ih =>
    rw [makePagesWritable_cons]
    dsimp only
    rw [List.map_cons, List.map_cons, ih]
    split_ifs <;> rfl

theorem makePagesWritable_spec (hnodup : (pages.map (·.address)).Nodup)
    (hsaved : Saved original pages) (hsettled : Settled original pages memory) :
    PagesWritable original pages memory (makePagesWritable kernel pages memory) := by
  induction pages generalizing memory with
  | nil => exact ⟨.refl _, List.prefix_rfl, by simp [Saved, makePagesWritable],
      by simp [Settled, makePagesWritable], by simp [makePagesWritable]⟩
  | cons page pages ih =>
    obtain ⟨hnew, hnodup⟩ := List.nodup_cons.mp hnodup
    have hhead := hsaved page List.mem_cons_self
    have hother := address_ne_of_notMem hnew
    have hrest := @ih (mprotect kernel page.address page.originalProtection.orWrite memory).2 hnodup
      (fun p hp => hsaved p (List.mem_cons_of_mem _ hp))
      (fun p hp hunchanged => (mprotect_of_ne _ (hother p hp)).trans
        (hsettled p (List.mem_cons_of_mem _ hp) hunchanged))
    rw [makePagesWritable_cons]
    dsimp only
    cases hdone : (mprotect kernel page.address page.originalProtection.orWrite memory).1 with
    | true =>
      have hnow := (mprotect_done hdone).trans (congrArg _ hhead)
      rw [if_pos rfl]
      refine hrest.cons hnew (.mprotect { page with changed := !page.originalProtection.write }
        hrest.within) rfl hhead (fun hunchanged => ?_) true (fun _ => hnow)
      have hwrite : (original page.address).write = true := by
        rw [← hhead]
        exact (Bool.not_eq_false' _).mp hunchanged
      rw [hnow, Protection.orWrite_of_write hwrite]
    | false =>
      refine hrest.cons hnew (.mprotect page hrest.within) rfl hhead (fun hunchanged => ?_)
        false (fun h => Bool.noConfusion h)
      rw [mprotect_failed hdone]
      exact hsettled page List.mem_cons_self hunchanged

theorem unprotectPages_cons : unprotectPages kernel (page :: pages) memory =
    if page.originalProtection.write then
      let rest := unprotectPages kernel pages memory
      (rest.1, page :: rest.2.1, rest.2.2)
    else
      let first := mprotect kernel page.address page.originalProtection.orWrite memory
      if first.1 then
        let rest := unprotectPages kernel pages first.2
        (rest.1, { page with changed := true } :: rest.2.1, rest.2.2)
      else (false, [], first.2) := rfl

theorem unprotectPages_spec (hnodup : (pages.map (·.address)).Nodup)
    (hsaved : Saved original pages)
    (horiginal : ∀ page ∈ pages, memory.protection page.address = original page.address) :
    PagesWritable original pages memory (unprotectPages kernel pages memory) := by
  induction pages generalizing memory with
  | nil => exact ⟨.refl _, List.prefix_rfl, by simp [Saved, unprotectPages],
      by simp [Settled, unprotectPages], by simp [unprotectPages]⟩
  | cons page pages ih =>
    obtain ⟨hnew, hnodup⟩ := List.nodup_cons.mp hnodup
    have hhead := hsaved page List.mem_cons_self
    have hnow := horiginal page List.mem_cons_self
    have hsaved' : Saved original pages := fun p hp => hsaved p (List.mem_cons_of_mem _ hp)
    rw [unprotectPages_cons]
    dsimp only
    split_ifs with hwrite hdone
    · have hrest := ih hnodup hsaved' fun p hp => horiginal p (List.mem_cons_of_mem _ hp)
      rw [hhead] at hwrite
      have hwithin : Within (page :: (unprotectPages kernel pages memory).2.1) memory
          (unprotectPages kernel pages memory).2.2 :=
        ⟨hrest.within.slots, hrest.within.fault, fun address hout =>
          hrest.within.protection address fun p hp => hout p (List.mem_cons_of_mem _ hp)⟩
      have hcons := hrest.cons hnew hwithin rfl hhead (fun _ => hnow) true
        (fun _ => by rw [hnow, Protection.orWrite_of_write hwrite])
      rwa [Bool.true_and] at hcons
    · have hrest := @ih (mprotect kernel page.address page.originalProtection.orWrite memory).2 hnodup
        hsaved' fun p hp => (mprotect_of_ne _ (address_ne_of_notMem hnew p hp)).trans
          (horiginal p (List.mem_cons_of_mem _ hp))
      have hcons := hrest.cons hnew (.mprotect { page with changed := true } hrest.within) rfl hhead
        (fun h => Bool.noConfusion h) true (fun _ => (mprotect_done hdone).trans (congrArg _ hhead))
      rwa [Bool.true_and] at hcons
    · have hfailed := mprotect_failed (Bool.eq_false_iff.mpr hdone)
      exact ⟨⟨mprotect_slots _ _, mprotect_fault _ _, fun _ _ => congrFun hfailed _⟩,
        List.nil_prefix, fun _ h => (List.not_mem_nil h).elim,
        fun _ h => (List.not_mem_nil h).elim, fun h => Bool.noConfusion h⟩

end Writable

section Exchange

def PointerPatch.swap (patch : PointerPatch) : Swap Address (BitVec 64) :=
  ⟨patch.address, patch.expected, patch.desired⟩

/-- Only slots were written, and without a fault where the pages allow it. -/
structure SlotWrites (kernel : Kernel) (patches : List PointerPatch) (before after : Memory) :
    Prop where
  protection : after.protection = before.protection
  calls : after.mprotectCalls = before.mprotectCalls
  fault : (∀ patch ∈ patches, (before.protection (pageOf kernel patch.address)).write = true) →
    after.fault = before.fault

variable (kernel) in
theorem slotWrites_compareExchange (patch : PointerPatch) (expected desired : BitVec 64)
    (memory : Memory) : SlotWrites kernel [patch] memory
      (compareExchange kernel patch.address expected desired memory).2 := by
  rw [compareExchange]
  split_ifs <;> exact ⟨rfl, rfl, fun h => by simp [h patch List.mem_cons_self]⟩

theorem SlotWrites.cons {patch : PointerPatch} {a b c : Memory}
    (hfirst : SlotWrites kernel [patch] a b) (hrest : SlotWrites kernel patches b c) :
    SlotWrites kernel (patch :: patches) a c where
  protection := hrest.protection.trans hfirst.protection
  calls := hrest.calls.trans hfirst.calls
  fault h := by
    rw [hrest.fault, hfirst.fault]
    · exact fun p hp => h p (List.mem_singleton.mp hp ▸ List.mem_cons_self)
    · exact fun p hp => hfirst.protection ▸ h p (List.mem_cons_of_mem _ hp)

theorem SlotWrites.snoc {patch : PointerPatch} {a b c : Memory}
    (hrest : SlotWrites kernel patches a b) (hfirst : SlotWrites kernel [patch] b c) :
    SlotWrites kernel (patch :: patches) a c where
  protection := hfirst.protection.trans hrest.protection
  calls := hfirst.calls.trans hrest.calls
  fault h := by
    rw [hfirst.fault, hrest.fault]
    · exact fun p hp => h p (List.mem_cons_of_mem _ hp)
    · exact fun p hp => hrest.protection ▸ h p (List.mem_singleton.mp hp ▸ List.mem_cons_self)

variable (kernel) in
theorem exchangePatches_writes (patches : List PointerPatch) (memory : Memory) :
    SlotWrites kernel patches memory (exchangePatches kernel patches memory).2 := by
  induction patches generalizing memory with
  | nil => exact ⟨rfl, rfl, fun _ => rfl⟩
  | cons patch patches ih =>
    have hfirst := slotWrites_compareExchange kernel patch patch.expected patch.desired memory
    rw [exchangePatches]
    dsimp only
    split_ifs
    · exact hfirst.cons (ih _)
    · exact hfirst.cons ⟨rfl, rfl, fun _ => rfl⟩

variable (kernel) in
theorem exchangePatches_slots (patches : List PointerPatch) (memory : Memory) :
    (exchangePatches kernel patches memory).1 =
        (swapAll (patches.map (·.swap)) memory.slots).1 ∧
      (exchangePatches kernel patches memory).2.slots =
        (swapAll (patches.map (·.swap)) memory.slots).2 := by
  induction patches generalizing memory with
  | nil => exact ⟨rfl, rfl⟩
  | cons patch patches ih =>
    rw [List.map_cons, swapAll, exchangePatches, compareExchange]
    by_cases h : memory.slots patch.address = patch.expected
    · have hrest := ih
        { memory with
          fault := memory.fault || !(memory.protection (pageOf kernel patch.address)).write
          slots := Function.update memory.slots patch.address patch.desired }
      simpa [PointerPatch.swap, h] using hrest
    · simp [PointerPatch.swap, h]

variable (kernel) in
theorem rollBackPatches_writes (patches : List PointerPatch) (memory : Memory) :
    SlotWrites kernel patches memory (rollBackPatches kernel patches memory).2 := by
  induction patches with
  | nil => exact ⟨rfl, rfl, fun _ => rfl⟩
  | cons patch patches ih => exact ih.snoc (slotWrites_compareExchange kernel patch _ _ _)

variable (kernel) in
theorem rollBackPatches_slots (patches : List PointerPatch) (memory : Memory) :
    (rollBackPatches kernel patches memory).1 =
        (undoAll (patches.map (·.swap)) memory.slots).1 ∧
      (rollBackPatches kernel patches memory).2.slots =
        (undoAll (patches.map (·.swap)) memory.slots).2 := by
  induction patches with
  | nil => exact ⟨rfl, rfl⟩
  | cons patch patches ih =>
    rw [List.map_cons, undoAll, rollBackPatches, undo, ← ih.1, ← ih.2]
    obtain ⟨rolledBack, memory⟩ := rollBackPatches kernel patches memory
    dsimp only
    rw [compareExchange]
    by_cases h : memory.slots patch.address = patch.desired
    · simp [PointerPatch.swap, h]
    · rw [if_neg h, if_neg (show memory.slots patch.swap.key ≠ patch.swap.new from h)]
      exact ⟨congrArg (rolledBack && ·) (Bool.false_or _), rfl⟩

end Exchange

section Success

def AllSucceed (kernel : Kernel) (memory : Memory) : Prop :=
  ∀ call, memory.mprotectCalls ≤ call → kernel.mprotectFails call = false

theorem AllSucceed.mprotect (h : AllSucceed kernel memory) (address : Address)
    (protection : Protection) :
    (mprotect kernel address protection memory).1 = true ∧
      AllSucceed kernel (ElfHook.mprotect kernel address protection memory).2 := by
  refine ⟨?_, fun call hcall => h call ?_⟩
  · rw [ElfHook.mprotect, h _ le_rfl]
    rfl
  · rw [mprotect_calls] at hcall
    omega

theorem AllSucceed.makePagesWritable (h : AllSucceed kernel memory) (pages : List PageChange) :
    (makePagesWritable kernel pages memory).1 = true ∧
      AllSucceed kernel (ElfHook.makePagesWritable kernel pages memory).2.2 := by
  induction pages generalizing memory with
  | nil => exact ⟨rfl, h⟩
  | cons page pages ih =>
    obtain ⟨hdone, hsucceed⟩ := h.mprotect page.address page.originalProtection.orWrite
    obtain ⟨hrest, hafter⟩ := ih hsucceed
    rw [makePagesWritable_cons]
    exact ⟨by simp [hdone, hrest], hafter⟩

theorem AllSucceed.restorePages (h : AllSucceed kernel memory) (pages : List PageChange) :
    (restorePages kernel pages memory).1 = true ∧
      AllSucceed kernel (ElfHook.restorePages kernel pages memory).2.2 := by
  induction pages with
  | nil => exact ⟨rfl, h⟩
  | cons page pages ih =>
    obtain ⟨hrest, hafter⟩ := ih
    obtain ⟨hdone, hsucceed⟩ := hafter.mprotect page.address page.originalProtection
    rw [restorePages_cons]
    dsimp only
    rw [hrest, restorePage]
    split_ifs
    · rw [restorePageAttempts]
      simp [hdone, hsucceed]
    · exact ⟨rfl, hafter⟩

end Success

section Collect

theorem inspectPatch_ok {index : Nat} {patch : PointerPatch} {protection : Protection}
    (h : inspectPatch kernel memory index patch = .ok protection) :
    patch.expected ≠ patch.desired ∧
      protection = memory.protection (pageOf kernel patch.address) := by
  rw [inspectPatch] at h
  split_ifs at h with harguments
  refine ⟨fun heq => harguments (by simp [heq]), ?_⟩
  rw [findMemoryRegion, findArchitectureProtection] at h
  split at h
  · simp at h
  · next hregion =>
    split_ifs at hregion
    simp only [Option.some.injEq, Prod.mk.injEq] at hregion
    obtain ⟨rfl, rfl⟩ := hregion
    split_ifs at h
    simp only [Except.ok.injEq] at h
    exact h.symm

theorem inspectPatch_error {index : Nat} {patch : PointerPatch} {result : Result}
    (h : inspectPatch kernel memory index patch = .error result) :
    result = .invalidArgument ∨ result = .protection := by
  rw [inspectPatch] at h
  split_ifs at h
  · exact .inl (Except.error.inj h).symm
  · right
    split at h
    · exact (Except.error.inj h).symm
    · split_ifs at h
      · exact (Except.error.inj h).symm
      · split at h
        · exact (Except.error.inj h).symm
        · cases h

structure Collected (kernel : Kernel) (memory : Memory) (patches : List PointerPatch)
    (pages : List PageChange) : Prop where
  nodup : (pages.map (·.address)).Nodup
  saved : Saved memory.protection pages
  covers : ∀ patch ∈ patches, pageOf kernel patch.address ∈ pages.map (·.address)
  differ : ∀ patch ∈ patches, patch.expected ≠ patch.desired
  length : pages.length ≤ patches.length

theorem Collected.snoc {before : List PointerPatch} {collected : List PageChange}
    {patch : PointerPatch} (h : Collected kernel memory before pages)
    (hnodup : (collected.map (·.address)).Nodup) (hsaved : Saved memory.protection collected)
    (hmore : pages.map (·.address) ⊆ collected.map (·.address))
    (hpage : pageOf kernel patch.address ∈ collected.map (·.address))
    (hdiffer : patch.expected ≠ patch.desired) (hlength : collected.length ≤ before.length + 1) :
    Collected kernel memory (before ++ [patch]) collected where
  nodup := hnodup
  saved := hsaved
  covers p hp := by
    rcases List.mem_append.mp hp with hp | hp
    · exact hmore (h.covers p hp)
    · rwa [List.mem_singleton.mp hp]
  differ p hp := by
    rcases List.mem_append.mp hp with hp | hp
    · exact h.differ p hp
    · rwa [List.mem_singleton.mp hp]
  length := by simpa using hlength

theorem collectPages_ok {index : Nat} {before : List PointerPatch} {collected : List PageChange}
    (hbefore : Collected kernel memory before pages)
    (h : collectPages kernel memory index patches pages = .ok collected) :
    Collected kernel memory (before ++ patches) collected := by
  induction patches generalizing index before pages with
  | nil =>
    obtain rfl : pages = collected := Except.ok.inj h
    rwa [List.append_nil]
  | cons patch patches ih =>
    rw [collectPages] at h
    split at h
    · simp at h
    · next protection hinspect =>
      obtain ⟨hdiffer, hprotection⟩ := inspectPatch_ok hinspect
      rw [← List.singleton_append, ← List.append_assoc]
      dsimp only at h
      split at h
      · next page hfind =>
        split_ifs at h
        have hpage : pageOf kernel patch.address ∈ pages.map (·.address) :=
          List.mem_map.mpr ⟨page, List.mem_of_find?_eq_some hfind, by
            simpa using List.find?_some hfind⟩
        exact ih (hbefore.snoc hbefore.nodup hbefore.saved (List.Subset.refl _) hpage hdiffer
          (Nat.le_succ_of_le hbefore.length)) h
      · next hfind =>
        have hnew : pageOf kernel patch.address ∉ pages.map (·.address) := by
          intro hmem
          obtain ⟨page, hpage, heq⟩ := List.mem_map.mp hmem
          exact List.find?_eq_none.mp hfind page hpage (decide_eq_true heq)
        refine ih (hbefore.snoc ?_ ?_ ?_ ?_ hdiffer ?_) h
        · rw [List.map_append]
          exact List.nodup_append_comm.mp (List.nodup_cons.mpr ⟨hnew, hbefore.nodup⟩)
        · intro page hpage
          rcases List.mem_append.mp hpage with hpage | hpage
          · exact hbefore.saved page hpage
          · rw [List.mem_singleton.mp hpage]
            exact hprotection
        · rw [List.map_append]
          exact List.subset_append_left _ _
        · simp
        · simpa using hbefore.length

theorem collectPages_error {index : Nat} {result : Result}
    (h : collectPages kernel memory index patches pages = .error result) :
    result = .invalidArgument ∨ result = .protection := by
  induction patches generalizing index pages with
  | nil => cases h
  | cons patch patches ih =>
    rw [collectPages] at h
    split at h
    · next hinspect => exact Except.error.inj h ▸ inspectPatch_error hinspect
    · dsimp only at h
      split at h
      · split_ifs at h
        · exact .inr (Except.error.inj h).symm
        · exact ih h
      · exact ih h

end Collect

end HookSelf.ElfHook
