import HookSelf.InlineHook.RegistryLaws

/-! Any sequence of inline hook calls: which hooks share a patch address, what their patches leave of
the code, and what their handles resolve to. -/

namespace HookSelf.InlineHook

open Arm64 SlotTable Handles

section Run

def freeEntry : HookEntry where
  target := 0
  replacement := 0
  original := 0
  patchAddress := 0
  bridgeAddress := 0
  codePage := 0
  originalInstruction := 0
  patchInstruction := 0
  relocatedSize := 0
  infoFlags := InfoFlags.none
  handle := 0
  generation := 0
  state := .free

def initialRegistry (code : Code) : Registry := ⟨code, fun _ => freeEntry, 1⟩

/-- The registries a sequence of allowed calls reaches, with the hooks issued so far. -/
inductive Run (Allowed : Registry → Call → Prop) (start : Code) : List HookEntry → Registry → Prop
  | start : Run Allowed start [] (initialRegistry start)
  | call {hooks : List HookEntry} {registry : Registry} (run : Run Allowed start hooks registry)
      (call : Call) (hallowed : Allowed registry call) :
      Run Allowed start (hooks ++ call.issued registry) (call.run registry)

/-- An installation patches no address that a hook of another target has patched, and its generation
fits into a handle. -/
def Call.Apart (registry : Registry) (call : Call) : Prop :=
  ∀ target ∈ call.target,
    (∀ index, registry.Active index → (registry.entries index).target ≠ target →
      (registry.entries index).patchAddress ≠ patchAddressOf registry.code target) ∧
    registry.generation.toNat + 1 < generationLimit

end Run

def HookEntry.issued (entry : HookEntry) : HookEntry := { entry with state := .active }

/-- What holds of the registry and of code memory after any sequence of calls. -/
structure Consistent (start : Code) (hooks : List HookEntry) (registry : Registry) : Prop where
  distinct : ∀ left right, registry.Active left → registry.Active right →
    (registry.entries left).patchAddress = (registry.entries right).patchAddress → left = right
  patched : ∀ index, registry.Active index →
    registry.code (registry.entries index).patchAddress =
      some (registry.entries index).patchInstruction
  resolved : ∀ hook ∈ hooks, ∀ index, findHandleLocked registry hook.handle = some index →
    (registry.entries index).issued = hook
  refused : ∀ hook ∈ hooks, (∀ index, registry.Active index → registry.entries index ≠ hook) →
    ∀ host, hookselfInlineRemove host registry hook.handle = (.notFound, registry)
  removable : ∀ index, registry.Active index → ∀ host : PatchHost, host.Succeeds →
    (hookselfInlineRemove host registry (registry.entries index).handle).1 = .ok
  restored : (∀ index, ¬registry.Active index) → ∀ address word, start address = some word →
    registry.code address = some word

/-- The active hooks have patched distinct addresses, and the rest of the code is as at the start. -/
structure Patches (start : Code) (registry : Registry) : Prop where
  aligned : ∀ index, registry.Active index → (registry.entries index).patchAddress &&& 3 = 0
  distinct : ∀ left right, registry.Active left → registry.Active right →
    (registry.entries left).patchAddress = (registry.entries right).patchAddress → left = right
  patched : ∀ index, registry.Active index →
    registry.code (registry.entries index).patchAddress =
      some (registry.entries index).patchInstruction
  original : ∀ index, registry.Active index → ∀ word,
    start (registry.entries index).patchAddress = some word →
      (registry.entries index).originalInstruction = word
  untouched : ∀ address word, start address = some word →
    (∀ index, registry.Active index → (registry.entries index).patchAddress ≠ address) →
      registry.code address = some word

/-- Every hook has a handle and a generation of its own. -/
structure Issued (hooks : List HookEntry) (registry : Registry) : Prop where
  entries : ∀ index < kMaxHooks, (registry.entries index).state ≠ .free →
    (registry.entries index).handle = handle index (registry.entries index).generation ∧
      (registry.entries index).issued ∈ hooks
  issued : ∀ hook ∈ hooks, hook.generation.toNat ≤ registry.generation.toNat ∧
    ∃ index < kMaxHooks, hook.handle = handle index hook.generation
  unique : ∀ left ∈ hooks, ∀ right ∈ hooks, left.generation = right.generation → left = right
  generation : registry.generation.toNat < generationLimit

structure Inv (start : Code) (hooks : List HookEntry) (registry : Registry) : Prop where
  patches : Patches start registry
  issued : Issued hooks registry

section Changed

variable {start : Code} {hooks : List HookEntry} {registry : Registry} {code : Code} {index : Nat}
  {entry : HookEntry} {generation : BitVec 64}

/-- One entry is replaced, and the code may change. -/
def Registry.replace (registry : Registry) (index : Nat) (entry : HookEntry) (code : Code)
    (generation : BitVec 64) : Registry :=
  ⟨code, Function.update registry.entries index entry, generation⟩

theorem Registry.replace_self : (registry.replace index entry code generation).entries index = entry :=
  Function.update_self ..

theorem Registry.replace_of_ne {other : Nat} (h : other ≠ index) :
    (registry.replace index entry code generation).entries other = registry.entries other :=
  Function.update_of_ne h _ _

theorem Registry.Active.of_replace {other : Nat} (hne : other ≠ index) :
    (registry.replace index entry code generation).Active other ↔ registry.Active other := by
  rw [Registry.Active, Registry.Active, Registry.replace_of_ne hne]

theorem Registry.Active.ne_replaced {other : Nat} (hinactive : entry.state ≠ .active)
    (h : (registry.replace index entry code generation).Active other) : other ≠ index := by
  rintro rfl
  have hstate := h.2
  rw [Registry.replace_self] at hstate
  exact hinactive hstate

theorem Patches.removed (h : Patches start registry) (hactive : registry.Active index)
    (hentry : entry.state ≠ .active) :
    Patches start (registry.replace index entry (Function.update registry.code
      (registry.entries index).patchAddress (registry.entries index).originalInstruction)
      generation) := by
  set after := registry.replace index entry _ generation
  have hstill : ∀ other, after.Active other → after.entries other = registry.entries other ∧
      registry.Active other ∧
      (registry.entries other).patchAddress ≠ (registry.entries index).patchAddress := by
    intro other hafter
    have hne := hafter.ne_replaced hentry
    have hwas := (Registry.Active.of_replace hne).mp hafter
    exact ⟨Registry.replace_of_ne hne, hwas, fun hsame => hne (h.distinct other index hwas hactive hsame)⟩
  constructor
  case aligned =>
    intro other hafter
    obtain ⟨hsame, hwas, -⟩ := hstill other hafter
    exact hsame ▸ h.aligned other hwas
  case distinct =>
    intro left right hleft hright hshared
    obtain ⟨hsame, hwas, -⟩ := hstill left hleft
    obtain ⟨hsame', hwas', -⟩ := hstill right hright
    rw [hsame, hsame'] at hshared
    exact h.distinct left right hwas hwas' hshared
  case patched =>
    intro other hafter
    obtain ⟨hsame, hwas, haddress⟩ := hstill other hafter
    rw [hsame]
    exact (Function.update_of_ne haddress _ _).trans (h.patched other hwas)
  case original =>
    intro other hafter
    obtain ⟨hsame, hwas, -⟩ := hstill other hafter
    exact hsame ▸ h.original other hwas
  case untouched =>
    intro address word hword hnone
    by_cases hhere : address = (registry.entries index).patchAddress
    · subst hhere
      rw [← h.original index hactive word hword]
      exact Function.update_self ..
    · refine (Function.update_of_ne hhere _ _).trans (h.untouched address word hword ?_)
      intro other hwas hsame
      have hne : other ≠ index := by
        rintro rfl
        exact hhere hsame.symm
      refine hnone other ((Registry.Active.of_replace hne).mpr hwas) ?_
      rw [Registry.replace_of_ne hne]
      exact hsame

theorem Patches.published (h : Patches start registry) (hactive : entry.state = .active)
    (hindex : index < kMaxHooks) (hreusable : (registry.entries index).state ≠ .active)
    (hkeeps : Keeps registry.code code) (haligned : entry.patchAddress &&& 3 = 0)
    (horiginal : registry.code entry.patchAddress = some entry.originalInstruction)
    (hapart : ∀ other, registry.Active other →
      (registry.entries other).patchAddress ≠ entry.patchAddress) :
    Patches start (registry.replace index entry
      (Function.update code entry.patchAddress entry.patchInstruction) generation) := by
  set after := registry.replace index entry _ generation
  have hself : after.entries index = entry := Registry.replace_self
  -- Every active hook is the new one, or an old one that is kept and patches another address.
  have hcases : ∀ other, after.Active other → other = index ∨ other ≠ index ∧
      after.entries other = registry.entries other ∧ registry.Active other := by
    intro other hafter
    by_cases hne : other = index
    · exact .inl hne
    · exact .inr ⟨hne, Registry.replace_of_ne hne, (Registry.Active.of_replace hne).mp hafter⟩
  constructor
  case aligned =>
    intro other hafter
    obtain rfl | ⟨-, hsame, hwas⟩ := hcases other hafter
    · exact hself ▸ haligned
    · exact hsame ▸ h.aligned other hwas
  case distinct =>
    intro left right hleft hright hshared
    obtain rfl | ⟨-, hsame, hwas⟩ := hcases left hleft <;>
      obtain rfl | ⟨-, hsame', hwas'⟩ := hcases right hright
    · rfl
    · rw [hself, hsame'] at hshared
      exact absurd hshared.symm (hapart right hwas')
    · rw [hself, hsame] at hshared
      exact absurd hshared (hapart left hwas)
    · rw [hsame, hsame'] at hshared
      exact h.distinct left right hwas hwas' hshared
  case patched =>
    intro other hafter
    obtain rfl | ⟨-, hsame, hwas⟩ := hcases other hafter
    · rw [hself]
      exact Function.update_self ..
    · rw [hsame]
      exact (Function.update_of_ne (hapart other hwas) _ _).trans (hkeeps _ _ (h.patched other hwas))
  case original =>
    intro other hafter word hword
    obtain rfl | ⟨-, hsame, hwas⟩ := hcases other hafter
    · rw [hself] at hword ⊢
      exact Option.some.inj (horiginal.symm.trans (h.untouched _ word hword hapart))
    · rw [hsame] at hword ⊢
      exact h.original other hwas word hword
  case untouched =>
    intro address word hword hnone
    have hnew := hnone index ⟨hindex, hself ▸ hactive⟩
    rw [hself] at hnew
    refine (Function.update_of_ne hnew.symm _ _).trans
      (hkeeps _ _ (h.untouched address word hword fun other hwas => ?_))
    have hne : other ≠ index := by
      rintro rfl
      exact hreusable hwas.2
    have hother := hnone other ((Registry.Active.of_replace hne).mpr hwas)
    rwa [Registry.replace_of_ne hne] at hother

theorem Issued.removed (h : Issued hooks registry) (hactive : registry.Active index) (code : Code) :
    Issued hooks (registry.replace index { registry.entries index with state := .removed } code
      registry.generation) where
  entries other hlt hstate := by
    by_cases hne : other = index
    · subst hne
      rw [Registry.replace_self]
      exact h.entries other hlt (by rw [hactive.2]; nofun)
    · rw [Registry.replace_of_ne hne] at hstate ⊢
      exact h.entries other hlt hstate
  issued := h.issued
  unique := h.unique
  generation := h.generation

theorem nextGeneration_toNat {generation : BitVec 64} (h : generation.toNat + 1 < generationLimit) :
    (nextGeneration generation).toNat = generation.toNat + 1 := by
  have hsmall : generation.toNat + 1 < 2 ^ 64 := h.trans (by decide)
  have hnext : (generation + 1).toNat = generation.toNat + 1 := by
    rw [BitVec.toNat_add]
    exact Nat.mod_eq_of_lt hsmall
  rw [nextGeneration, if_neg, hnext]
  intro hzero
  rw [hzero] at hnext
  exact nomatch hnext

theorem Issued.published (h : Issued hooks registry) (prepared : PreparedHook)
    (hindex : index < kMaxHooks) (hgeneration : registry.generation.toNat + 1 < generationLimit)
    (code : Code) :
    Issued (hooks ++ [publishedEntry (nextGeneration registry.generation) index prepared])
      (registry.replace index (publishedEntry (nextGeneration registry.generation) index prepared)
        code (nextGeneration registry.generation)) := by
  have hnext := nextGeneration_toNat hgeneration
  have hnewer : ∀ hook ∈ hooks, hook.generation ≠ nextGeneration registry.generation := by
    intro hook hhook hsame
    have hle := (h.issued hook hhook).1
    rw [hsame, hnext] at hle
    omega
  constructor
  case entries =>
    intro other hlt hstate
    by_cases hne : other = index
    · rw [hne, Registry.replace_self]
      exact ⟨rfl, List.mem_append_right _ (List.mem_singleton.mpr rfl)⟩
    · rw [Registry.replace_of_ne hne] at hstate ⊢
      exact (h.entries other hlt hstate).imp_right (List.mem_append_left _)
  case issued =>
    refine List.forall_mem_append.mpr ⟨fun hook hhook => ?_, ?_⟩
    · obtain ⟨hle, hhandle⟩ := h.issued hook hhook
      exact ⟨hle.trans (show _ ≤ (nextGeneration registry.generation).toNat by omega), hhandle⟩
    · simp only [List.mem_singleton, forall_eq]
      exact ⟨Nat.le_refl _, index, hindex, rfl⟩
  case unique =>
    intro left hleft right hright hsame
    rcases List.mem_append.mp hleft with hleft | hleft <;>
      rcases List.mem_append.mp hright with hright | hright
    · exact h.unique left hleft right hright hsame
    · rw [List.mem_singleton.mp hright] at hsame
      exact absurd hsame (hnewer left hleft)
    · rw [List.mem_singleton.mp hleft] at hsame
      exact absurd hsame.symm (hnewer right hright)
    · rw [List.mem_singleton.mp hleft, List.mem_singleton.mp hright]
  case generation => exact hnext.trans_lt hgeneration

end Changed

namespace Inv

variable {start : Code} {hooks : List HookEntry} {registry : Registry}

theorem initial (start : Code) : Inv start [] (initialRegistry start) where
  patches := {
    aligned := fun _ h => nomatch h.2
    distinct := fun _ _ h => nomatch h.2
    patched := fun _ h => nomatch h.2
    original := fun _ h => nomatch h.2
    untouched := fun _ _ h _ => h }
  issued := {
    entries := fun _ _ h => absurd rfl h
    issued := nofun
    unique := nofun
    generation := show 1 < generationLimit by decide }

theorem idle (h : Inv start hooks registry) {code : Code} (hkeeps : Keeps registry.code code) :
    Inv start hooks { registry with code := code } where
  patches := { h.patches with
    patched := fun index hactive => hkeeps _ _ (h.patches.patched index hactive)
    untouched := fun address word hword hnone =>
      hkeeps _ _ (h.patches.untouched address word hword hnone) }
  issued := { h.issued with }

theorem step (h : Inv start hooks registry) {call : Call} (hlawful : call.Lawful registry)
    (hapart : call.Apart registry) :
    Inv start (hooks ++ call.issued registry) (call.run registry) := by
  have hchanges := call_changes hlawful h.patches.aligned fun index hactive => by
    rw [h.patches.patched index hactive]
    rfl
  revert hchanges
  generalize call.run registry = after
  generalize call.issued registry = issued
  rintro (⟨code, hkeeps⟩ | ⟨address, index, prepared, code, htarget, hindex, hreusable, hother, hkeeps,
    hprepared⟩ | ⟨index, hactive, hpatched⟩)
  · rw [List.append_nil]
    exact h.idle hkeeps
  · obtain ⟨hpatches, hgeneration⟩ := hapart address htarget
    have hfree : ∀ other, registry.Active other →
        (registry.entries other).patchAddress ≠ prepared.patchAddress := by
      intro other hactive
      rw [hprepared.patchAddress]
      exact hpatches other hactive (hother other hactive)
    exact ⟨@Patches.published start registry code index
      (publishedEntry (nextGeneration registry.generation) index prepared) _ h.patches rfl hindex
      hreusable hkeeps hprepared.aligned hprepared.original hfree,
      h.issued.published prepared hindex hgeneration _⟩
  · rw [List.append_nil]
    exact ⟨h.patches.removed hactive nofun, h.issued.removed hactive _⟩

theorem resolved (h : Inv start hooks registry) {hook : HookEntry} (hhook : hook ∈ hooks) {index : Nat}
    (hfound : findHandleLocked registry hook.handle = some index) :
    (registry.entries index).issued = hook := by
  obtain ⟨hlt, hhandle, hstate⟩ := findHandleLocked_some hfound
  obtain ⟨hencoded, hmember⟩ := h.issued.entries index hlt hstate
  obtain ⟨hle, slot, hslot, hissued⟩ := h.issued.issued hook hhook
  have hentry := (h.issued.issued _ hmember).1
  have hbound := h.issued.generation
  rw [hencoded, hissued] at hhandle
  simp only [kMaxHooks] at hlt hslot
  have hgeneration := handle_generation_inj (by omega) (by omega)
    (show (registry.entries index).generation.toNat < _ from hentry.trans_lt hbound)
    (hle.trans_lt hbound) hhandle
  exact h.issued.unique _ hmember hook hhook hgeneration

theorem findHandleLocked_active (h : Inv start hooks registry) {index : Nat}
    (hactive : registry.Active index) :
    (registry.entries index).handle ≠ 0 ∧
      findHandleLocked registry (registry.entries index).handle = some index := by
  have hstate : (registry.entries index).state ≠ .free := by
    rw [hactive.2]
    nofun
  have hencoded := (h.issued.entries index hactive.1 hstate).1
  have hslot : index + 1 < 2 ^ 16 := by
    have := hactive.1
    simp only [kMaxHooks] at this
    omega
  have hslotOf : handleIndex kMaxHooks (registry.entries index).handle = index := by
    rw [hencoded, handleIndex_handle hslot]
  refine ⟨hencoded ▸ handle_ne_zero hslot, ?_⟩
  rw [findHandleLocked, hslotOf]
  exact if_neg (by simp [not_le.mpr hactive.1, hstate])

theorem consistent (h : Inv start hooks registry) : Consistent start hooks registry where
  distinct := h.patches.distinct
  patched := h.patches.patched
  resolved _ hhook _ hfound := h.resolved hhook hfound
  refused hook hhook hgone host := by
    obtain ⟨-, slot, hslot, hencoded⟩ := h.issued.issued hook hhook
    simp only [kMaxHooks] at hslot
    rw [hookselfInlineRemove, if_neg (hencoded ▸ handle_ne_zero (by omega))]
    cases hfound : findHandleLocked registry hook.handle with
    | none => rfl
    | some index =>
      have hissued := h.resolved hhook hfound
      rw [removeEntryLocked]
      refine if_pos fun hstate => ?_
      refine hgone index ⟨(findHandleLocked_some hfound).1, hstate⟩ ?_
      rw [← hissued, HookEntry.issued, ← hstate]
  removable index hactive host hsucceeds := by
    obtain ⟨hnonzero, hfound⟩ := h.findHandleLocked_active hactive
    rw [hookselfInlineRemove, if_neg hnonzero, hfound, removeEntryLocked]
    dsimp only
    rw [if_neg (not_not.mpr hactive.2), patchExecutableInstruction_eq hsucceeds
      (h.patches.aligned index hactive) (h.patches.patched index hactive), if_pos rfl]
  restored hnone address word hword :=
    h.patches.untouched address word hword fun index hactive => absurd hactive (hnone index)

end Inv

theorem Run.inv {start : Code} {hooks : List HookEntry} {registry : Registry}
    (run : Run (fun registry call => call.Lawful registry ∧ call.Apart registry) start hooks registry) :
    Inv start hooks registry := by
  induction run with
  | start => exact .initial start
  | call _ call hallowed ih => exact ih.step hallowed.1 hallowed.2

section Sample

def landingPadCode : Code := fun address =>
  if address = 0x1000000 then some kBtiC else if address = 0x1000004 then some 0xd2800000 else none

/-- A system that grants every request, with pages of 4 KiB mapped where they are asked for. -/
def sampleHost (mapped : Address) : InstallHost where
  replacementExecutable := true
  readable := fun _ => true
  pageSize := 4096
  maps := some [⟨mapped, 0x1001000⟩]
  mapper := fun _ address _ => some address
  mprotectFails := false
  patch := ⟨true, true, fun _ => false⟩

theorem sampleHost_succeeds (mapped : Address) : (sampleHost mapped).patch.Succeeds :=
  ⟨rfl, rfl, fun _ => rfl⟩

def hookPad : Call := .install (sampleHost 0x1000000) 0x1000000 0x2000000 none true

def hookBehindPad : Call := .install (sampleHost 0xfff000) 0x1000004 0x3000000 none true

theorem sampleHost_codePage : (sampleHost 0x1000000).codePage 0x1000004 = some 0xfff000 ∧
    (sampleHost 0xfff000).codePage 0x1000004 = some 0xffe000 := by
  decide +kernel

theorem landingPadCode_none {address : Address} (h : address.toNat < 0x1000000) :
    landingPadCode address = none := by
  have h₀ : address ≠ 0x1000000 := by
    rintro rfl
    exact absurd h (by decide)
  have h₄ : address ≠ 0x1000004 := by
    rintro rfl
    exact absurd h (by decide)
  rw [landingPadCode, if_neg h₀, if_neg h₄]

theorem hookPad_lawful : hookPad.Lawful (initialRegistry landingPadCode) := by
  refine ⟨sampleHost_succeeds _, fun page hpage address hin => ?_⟩
  obtain rfl := Option.some.inj (sampleHost_codePage.1.symm.trans hpage)
  exact landingPadCode_none hin.2

theorem hookPad_code : ∃ buffer, (hookPad.run (initialRegistry landingPadCode)).code =
    Function.update (mapPage landingPadCode 0xfff000 4096 buffer) 0x1000004
      (some 0x143fffff) :=
  ⟨_, rfl⟩

theorem hookBehindPad_lawful :
    hookBehindPad.Lawful (hookPad.run (initialRegistry landingPadCode)) := by
  obtain ⟨buffer, hcode⟩ := hookPad_code
  refine ⟨sampleHost_succeeds _, fun page hpage address hin => ?_⟩
  have hbehind : patchAddressOf (hookPad.run (initialRegistry landingPadCode)).code 0x1000004 =
      0x1000004 := by
    rw [patchAddressOf, hcode, Function.update_self]
    decide
  rw [hbehind] at hpage
  obtain rfl := Option.some.inj (sampleHost_codePage.2.symm.trans hpage)
  have hhigh : address.toNat < 0xffe000 + 4096 := hin.2
  have hne : address ≠ 0x1000004 := by
    rintro rfl
    exact absurd hhigh (by decide)
  rw [hcode, Function.update_of_ne hne, mapPage, if_neg]
  · exact landingPadCode_none (by omega)
  · rintro ⟨hlow, -⟩
    have hstart : 0xfff000 ≤ address.toNat := hlow
    omega

theorem hookPad_apart : hookPad.Apart (initialRegistry landingPadCode) := by
  intro target _
  exact ⟨fun _ hactive => (nomatch hactive.2), show 1 + 1 < generationLimit by decide⟩

/-- Any sequence of calls that keep the patches of different targets apart and the generation within
the handle leaves the registry consistent. -/
theorem inlineHook_consistent (start : Code) (hooks : List HookEntry) (registry : Registry)
    (run : Run (fun registry call => call.Lawful registry ∧ call.Apart registry) start hooks registry) :
    Consistent start hooks registry :=
  run.inv.consistent

def unhookPad : Call := .unhook ⟨true, true, fun _ => false⟩ 0x1000000

/-- A function with a landing pad is hooked and unhooked again. -/
theorem inlineHook_consistent_pad :
    let hooked := hookPad.run (initialRegistry landingPadCode)
    hooked.Active 0 ∧ hooked.code 0x1000004 = some (hooked.entries 0).patchInstruction ∧
      (unhookPad.run hooked).code 0x1000004 = some 0xd2800000 := by
  have hhooked : Run (fun registry call => call.Lawful registry ∧ call.Apart registry)
      landingPadCode _ _ := .call .start hookPad ⟨hookPad_lawful, hookPad_apart⟩
  have hactive : (hookPad.run (initialRegistry landingPadCode)).Active 0 :=
    ⟨by decide, by decide +kernel⟩
  have hpatched := (inlineHook_consistent _ _ _ hhooked).patched 0 hactive
  have hunhooked := Run.call hhooked unhookPad ⟨⟨rfl, rfl, fun _ => rfl⟩, nofun⟩
  refine ⟨hactive, ?_, (inlineHook_consistent _ _ _ hunhooked).restored ?_ _ _ rfl⟩
  · rwa [show ((hookPad.run (initialRegistry landingPadCode)).entries 0).patchAddress = 0x1000004
      by decide +kernel] at hpatched
  · have hnone : ∀ index < kMaxHooks, ((unhookPad.run
        (hookPad.run (initialRegistry landingPadCode))).entries index).state ≠ .active := by
      decide +kernel
    exact fun index hactive => hnone index hactive.1 hactive.2

/-- A hook of the instruction behind the landing pad of a hooked function patches the same address:
the first hook's patch is gone, and the first hook cannot be removed. -/
theorem hookBehindPad_shares :
    ∃ hooks registry, Run (fun registry call => call.Lawful registry) landingPadCode hooks registry ∧
      registry.Active 0 ∧ registry.Active 1 ∧
      (registry.entries 0).patchAddress = (registry.entries 1).patchAddress ∧
      registry.code (registry.entries 0).patchAddress ≠
        some (registry.entries 0).patchInstruction ∧
      (hookselfInlineRemove ⟨true, true, fun _ => false⟩ registry (registry.entries 0).handle).1 =
        .conflict := by
  refine ⟨_, hookBehindPad.run (hookPad.run (initialRegistry landingPadCode)),
    .call (.call .start hookPad hookPad_lawful) hookBehindPad hookBehindPad_lawful, ?_⟩
  refine ⟨⟨by decide, ?_⟩, ⟨by decide, ?_⟩, ?_, ?_, ?_⟩
  all_goals decide +kernel

end Sample

end HookSelf.InlineHook
