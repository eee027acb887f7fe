import HookSelf.InlineHook.Registry

namespace HookSelf.InlineHook

open Arm64 SlotTable Handles

section Memory

variable {host : PatchHost} {code code' : Code} {address : Address} {word expected replacement : Word}

structure PatchHost.Succeeds (host : PatchHost) : Prop where
  regionFound : host.regionFound = true
  architectureFound : host.architectureFound = true
  mprotect : ∀ call, host.mprotectFails call = false

theorem patchExecutableInstruction_eq (h : host.Succeeds) (haligned : address &&& 3 = 0)
    (hword : code address = some word) (expected replacement : Word) :
    patchExecutableInstruction host code address expected replacement =
      if word = expected then (.ok, Function.update code address replacement)
      else (.conflict, code) := by
  rw [patchExecutableInstruction, if_neg (not_not.mpr haligned), hword]
  simp [h.regionFound, h.architectureFound, h.mprotect]

def Keeps (code code' : Code) : Prop := ∀ address word, code address = some word →
  code' address = some word

theorem Keeps.refl (code : Code) : Keeps code code := fun _ _ h => h

theorem Keeps.mapPage {page : Address} {pageSize : Nat}
    (hfresh : ∀ address, InPage page pageSize address → code address = none)
    (buffer : Buffer) : Keeps code (mapPage code page pageSize buffer) := by
  intro address word hword
  rw [InlineHook.mapPage, if_neg]
  · exact hword
  · intro hin
    rw [hfresh address hin] at hword
    exact nomatch hword

theorem Keeps.release {page : Address} {pageSize : Nat}
    (hfresh : ∀ address, InPage page pageSize address → code address = none) :
    Keeps code (releaseUnpublishedPage code page pageSize) := by
  intro address word hword
  rw [releaseUnpublishedPage, if_neg]
  · exact hword
  · intro hin
    rw [hfresh address hin] at hword
    exact nomatch hword

end Memory

section Prepare

variable {host : InstallHost} {code : Code} {target replacement : Address}

/-- The address a hook of `target` patches: behind a landing pad or a signing instruction. -/
def patchAddressOf (code : Code) (target : Address) : Address :=
  match code target with
  | none => target
  | some word => if isBti word ∨ (isPacEntry word).isSome then target + 4 else target

/-- The page for a hook of `target` was not mapped. -/
def InstallHost.MapsFresh (host : InstallHost) (code : Code) (target : Address) : Prop :=
  ∀ page, host.codePage (patchAddressOf code target) = some page →
    ∀ address, InPage page host.pageSize.toNat address → code address = none

theorem readExecutableInstruction_ok {address : Address} {word : Word}
    (h : readExecutableInstruction host code address = .ok word) :
    address &&& 3 = 0 ∧ code address = some word := by
  unfold readExecutableInstruction at h
  by_cases haligned : address &&& 3 = 0
  swap
  · rw [if_pos haligned] at h
    exact nomatch h
  rw [if_neg (not_not.mpr haligned)] at h
  cases hword : code address with
  | none =>
    rw [hword] at h
    exact nomatch h
  | some found =>
    rw [hword] at h
    dsimp only at h
    split_ifs at h
    rw [Except.ok.inj h]
    exact ⟨haligned, rfl⟩

theorem readBehind_ok {entry : Entry} {patched : Word → Entry}
    (h : (readExecutableInstruction host code (target + 4)).map patched = .ok entry)
    (haddress : ∀ word, (patched word).patchAddress = target + 4)
    (hpatched : ∀ word, (patched word).patchedInstruction = word) :
    entry.patchAddress = target + 4 ∧ entry.patchAddress &&& 3 = 0 ∧
      code entry.patchAddress = some entry.patchedInstruction := by
  cases hread : readExecutableInstruction host code (target + 4) with
  | error error =>
    rw [hread] at h
    exact nomatch h
  | ok word =>
    obtain ⟨haligned, hword⟩ := readExecutableInstruction_ok hread
    rw [hread] at h
    obtain rfl := Except.ok.inj h
    rw [haddress, hpatched]
    exact ⟨rfl, haligned, hword⟩

theorem readEntry_ok {entry : Entry} (h : readEntry host code target = .ok entry) :
    entry.patchAddress = patchAddressOf code target ∧ entry.patchAddress &&& 3 = 0 ∧
      code entry.patchAddress = some entry.patchedInstruction := by
  unfold readEntry at h
  cases hfirst : readExecutableInstruction host code target with
  | error error =>
    rw [hfirst] at h
    exact nomatch h
  | ok first =>
    obtain ⟨haligned, hword⟩ := readExecutableInstruction_ok hfirst
    rw [hfirst] at h
    dsimp only [bind, Except.bind] at h
    simp only [patchAddressOf, hword]
    by_cases hbti : isBti first = true
    · rw [if_pos hbti] at h
      rw [if_pos (.inl hbti)]
      exact readBehind_ok h (fun _ => rfl) fun _ => rfl
    rw [if_neg hbti] at h
    cases hpac : isPacEntry first with
    | some authenticate =>
      rw [hpac] at h
      rw [if_pos (.inr rfl)]
      exact readBehind_ok h (fun _ => rfl) fun _ => rfl
    | none =>
      rw [hpac] at h
      obtain rfl := Except.ok.inj h
      rw [if_neg (by simp [hbti])]
      exact ⟨rfl, haligned, hword⟩

theorem fillCodePage_ok {page : Address} {entry : Entry} {prepared : PreparedHook} {buffer : Buffer}
    (h : fillCodePage host target replacement page entry = .ok (prepared, buffer)) :
    prepared.patchAddress = entry.patchAddress ∧
      prepared.originalInstruction = entry.patchedInstruction := by
  unfold fillCodePage at h
  split at h
  swap
  · exact nomatch h
  split at h
  · exact nomatch h
  dsimp only at h
  split_ifs at h
  obtain ⟨rfl, -⟩ := Prod.mk.inj (Except.ok.inj h)
  exact ⟨rfl, rfl⟩

structure Prepared (code : Code) (target : Address) (prepared : PreparedHook) : Prop where
  patchAddress : prepared.patchAddress = patchAddressOf code target
  aligned : prepared.patchAddress &&& 3 = 0
  original : code prepared.patchAddress = some prepared.originalInstruction

theorem prepareHook_spec (replacement : Address) (hfresh : host.MapsFresh code target) :
    Keeps code (prepareHook host code target replacement).2 ∧
      ∀ prepared, (prepareHook host code target replacement).1 = .ok prepared →
        Prepared code target prepared := by
  unfold prepareHook
  split_ifs with hexecutable
  · cases hentry : readEntry host code target with
    | error error => exact ⟨.refl code, nofun⟩
    | ok entry =>
      obtain ⟨hshape, haligned, hword⟩ := readEntry_ok hentry
      dsimp only
      cases hpage : host.codePage entry.patchAddress with
      | none => exact ⟨.refl code, nofun⟩
      | some page =>
        have hunmapped := hfresh page (hshape ▸ hpage)
        dsimp only
        rcases hfill : fillCodePage host target replacement page entry with error | ⟨prepared, buffer⟩
        · exact ⟨.release hunmapped, nofun⟩
        · refine ⟨.mapPage hunmapped buffer, fun found hfound => ?_⟩
          obtain rfl := Except.ok.inj hfound
          obtain ⟨haddress, hinstruction⟩ := fillCodePage_ok hfill
          rw [← haddress] at hshape haligned hword
          rw [← hinstruction] at hword
          exact ⟨hshape, haligned, hword⟩
  · exact ⟨.refl code, nofun⟩

end Prepare

section Calls

def Registry.Active (registry : Registry) (index : Nat) : Prop :=
  index < kMaxHooks ∧ (registry.entries index).state = .active

inductive Call
  | install (host : InstallHost) (target replacement : Address) (options : Option InlineOptions)
      (wantsOriginal : Bool)
  | remove (host : PatchHost) (handle : BitVec 64)
  | unhook (host : PatchHost) (target : Address)

def Call.run (registry : Registry) : Call → Registry
  | .install host target replacement options wantsOriginal =>
    (hookselfInlineInstall host registry target replacement options wantsOriginal).registry
  | .remove host handle => (hookselfInlineRemove host registry handle).2
  | .unhook host target => (hookselfInlineUnhook host registry target).2

def Call.issued (registry : Registry) : Call → List HookEntry
  | .install host target replacement options wantsOriginal =>
    let outcome := hookselfInlineInstall host registry target replacement options wantsOriginal
    match outcome.handle with
    | none => []
    | some handle => [outcome.registry.entries (handleIndex kMaxHooks handle)]
  | .remove .. | .unhook .. => []

/-- Memory writes succeed, and new pages come from unmapped memory. -/
def Call.Lawful (registry : Registry) : Call → Prop
  | .install host target .. => host.patch.Succeeds ∧ host.MapsFresh registry.code target
  | .remove host _ | .unhook host _ => host.Succeeds

inductive Changes (registry : Registry) (target : Option Address) : Registry → List HookEntry → Prop
  | idle (code : Code) (hkeeps : Keeps registry.code code) :
      Changes registry target { registry with code := code } []
  | published (address : Address) (index : Nat) (prepared : PreparedHook)
      (code : Code) (htarget : target = some address) (hindex : index < kMaxHooks)
      (hreusable : (registry.entries index).state ≠ .active)
      (hother : ∀ other, registry.Active other → (registry.entries other).target ≠ address)
      (hkeeps : Keeps registry.code code)
      (hprepared : Prepared registry.code address prepared) :
      Changes registry target (publishEntry { registry with
          code := Function.update code prepared.patchAddress prepared.patchInstruction } index prepared)
        [publishedEntry (nextGeneration registry.generation) index prepared]
  | removed (index : Nat) (hactive : registry.Active index)
      (hpatched : registry.code (registry.entries index).patchAddress =
        some (registry.entries index).patchInstruction) :
      Changes registry target { registry with
        code := Function.update registry.code (registry.entries index).patchAddress
          (registry.entries index).originalInstruction
        entries := Function.update registry.entries index
          { registry.entries index with state := .removed } } []

variable {registry : Registry}

theorem Changes.same (registry : Registry) (target : Option Address) :
    Changes registry target registry [] := .idle registry.code (.refl _)

theorem installLocked_changes {host : InstallHost} {target replacement : Address} {wantsOriginal : Bool}
    (hpatch : host.patch.Succeeds) (hfresh : host.MapsFresh registry.code target) :
    let outcome := installLocked host registry target replacement wantsOriginal
    Changes registry (some target) outcome.registry (match outcome.handle with
      | none => []
      | some handle => [outcome.registry.entries (handleIndex kMaxHooks handle)]) := by
  intro outcome
  unfold outcome installLocked
  cases hfound : findActiveTargetLocked registry target with
  | some _ => exact .same registry _
  | none =>
    cases hindex : findReusableEntryLocked registry with
    | none => exact .same registry _
    | some index =>
      obtain ⟨hlt, hreusable⟩ := firstSlot_some hindex
      have hspec := prepareHook_spec replacement hfresh
      dsimp only
      revert hspec
      generalize prepareHook host registry.code target replacement = answer
      obtain ⟨result, code⟩ := answer
      rintro ⟨hkeeps, hprepared⟩
      cases result with
      | error error => exact .idle code hkeeps
      | ok prepared =>
        have hprep := hprepared prepared rfl
        have hword : code prepared.patchAddress = some prepared.originalInstruction :=
          hkeeps _ _ hprep.original
        have hwrite := patchExecutableInstruction_eq hpatch hprep.aligned hword
          prepared.originalInstruction prepared.patchInstruction
        rw [if_pos rfl] at hwrite
        dsimp only
        rw [hwrite]
        dsimp only
        rw [if_neg (not_not.mpr rfl)]
        have hslot : index + 1 < 2 ^ 16 := by
          simp only [kMaxHooks] at hlt
          omega
        have hissued : ∀ before : Registry, (publishEntry before index prepared).entries index =
            publishedEntry (nextGeneration before.generation) index prepared :=
          fun _ => Function.update_self ..
        rw [hissued]
        dsimp only [publishedEntry]
        rw [handleIndex_handle hslot, hissued]
        refine .published target index prepared code rfl hlt hreusable ?_ hkeeps hprep
        rintro other ⟨hother, hactive⟩ hsame
        exact firstSlot_none.mp hfound other hother ⟨hactive, hsame⟩

theorem removeEntryLocked_changes {host : PatchHost} (hpatch : host.Succeeds) {index : Option Nat}
    (hindex : ∀ found ∈ index, found < kMaxHooks)
    (haligned : ∀ index, registry.Active index → (registry.entries index).patchAddress &&& 3 = 0)
    (hmapped : ∀ index, registry.Active index →
      (registry.code (registry.entries index).patchAddress).isSome)
    (target : Option Address) :
    Changes registry target (removeEntryLocked host registry index).2 [] := by
  unfold removeEntryLocked
  cases index with
  | none => exact .same registry target
  | some index =>
    dsimp only
    by_cases hstate : (registry.entries index).state = .active
    swap
    · rw [if_pos hstate]
      exact .same registry target
    have hactive : registry.Active index := ⟨hindex index rfl, hstate⟩
    obtain ⟨word, hword⟩ := Option.isSome_iff_exists.mp (hmapped index hactive)
    rw [if_neg (not_not.mpr hstate),
      patchExecutableInstruction_eq hpatch (haligned index hactive) hword]
    by_cases hsame : word = (registry.entries index).patchInstruction
    · rw [if_pos hsame, if_pos rfl]
      exact .removed index hactive (hsame ▸ hword)
    · rw [if_neg hsame]
      exact .same registry target

theorem findHandleLocked_some {handle : BitVec 64} {index : Nat}
    (h : findHandleLocked registry handle = some index) :
    index < kMaxHooks ∧ (registry.entries index).handle = handle ∧
      (registry.entries index).state ≠ .free := by
  unfold findHandleLocked at h
  dsimp only at h
  split_ifs at h with hbad
  obtain rfl := Option.some.inj h
  push Not at hbad
  exact hbad

def Call.target : Call → Option Address
  | .install _ target .. => some target
  | .remove .. | .unhook .. => none

theorem call_changes {call : Call} (hlawful : call.Lawful registry)
    (haligned : ∀ index, registry.Active index → (registry.entries index).patchAddress &&& 3 = 0)
    (hmapped : ∀ index, registry.Active index →
      (registry.code (registry.entries index).patchAddress).isSome) :
    Changes registry call.target (call.run registry) (call.issued registry) := by
  cases call with
  | install host target replacement options wantsOriginal =>
    simp only [Call.run, Call.issued, Call.target, hookselfInlineInstall]
    by_cases harguments : target = 0 ∨ replacement = 0 ∨ target = replacement ∨ target &&& 3 ≠ 0 ∨
        replacement &&& 3 ≠ 0
    · rw [if_pos harguments]
      exact .same registry _
    rw [if_neg harguments]
    by_cases hoptions : hookselfInlineValidateOptions (options.getD hookselfInlineDefaultOptions) = .ok
    · rw [if_neg (not_not.mpr hoptions)]
      exact installLocked_changes hlawful.1 hlawful.2
    · rw [if_pos hoptions]
      exact .same registry _
  | remove host handle =>
    simp only [Call.run, Call.issued, Call.target, hookselfInlineRemove]
    split_ifs
    · exact .same registry _
    · exact removeEntryLocked_changes hlawful (fun _ hfound => (findHandleLocked_some hfound).1)
        haligned hmapped _
  | unhook host target =>
    simp only [Call.run, Call.issued, Call.target, hookselfInlineUnhook]
    split_ifs
    · exact .same registry _
    · exact removeEntryLocked_changes hlawful (fun _ hfound => (firstSlot_some hfound).1)
        haligned hmapped _

end Calls

end HookSelf.InlineHook
