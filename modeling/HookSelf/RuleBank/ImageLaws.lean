import HookSelf.RuleBank.Image

/-! What filling a bank in place leaves: a valid bank, or one that at most the checksum gives away. -/

namespace HookSelf.RuleBank

open PathState SlotTable Config

section Arena

variable {bank bank' : SharedRuleBank} {value : CharPtr} {ref : SharedStringRef}

structure InArena (bank : SharedRuleBank) (ref : SharedStringRef) : Prop where
  above : bank.arenaOffset ≤ ref.offset
  length_pos : 0 < ref.length
  inside : ref.offset + ref.length ≤ bank.arenaOffset + bank.arenaUsed
  terminated : bank.bytes (ref.offset + ref.length - 1) = 0

theorem InArena.mono (h : InArena bank ref) (he : Extends bank bank') : InArena bank' ref := by
  have hoffset := he.arenaOffset
  have hused := he.arenaUsed
  obtain ⟨habove, hpos, hinside, hnul⟩ := h
  refine ⟨by omega, hpos, by omega, ?_⟩
  rw [he.bytes _ (by omega), hnul]

structure Grows (bank bank' : SharedRuleBank) : Prop extends Extends bank bank' where
  arenaCapacity : bank'.arenaCapacity = bank.arenaCapacity
  generation : bank'.generation = bank.generation
  fits : bank.arenaUsed ≤ bank.arenaCapacity → bank'.arenaUsed ≤ bank.arenaCapacity

theorem Grows.refl (bank : SharedRuleBank) : Grows bank bank := ⟨.refl bank, rfl, rfl, id⟩

theorem Grows.trans {bank'' : SharedRuleBank} (h : Grows bank bank') (h' : Grows bank' bank'') :
    Grows bank bank'' := by
  refine ⟨h.toExtends.trans h'.toExtends, h'.arenaCapacity.trans h.arenaCapacity,
    h'.generation.trans h.generation, fun hfits => ?_⟩
  have hcapacity := h.arenaCapacity
  have hfits' := h'.fits (hcapacity.symm ▸ h.fits hfits)
  omega

theorem nul_of_stringLength (h : stringLength value pathCapacity ≠ pathCapacity) :
    value (stringLength value pathCapacity) = 0 := by
  unfold stringLength at h ⊢
  cases hslot : firstSlot pathCapacity fun i => value i = 0 with
  | none => simp [hslot] at h
  | some n => exact (firstSlot_some_iff.mp hslot).2.1

theorem writeArenaString_grows (h : writeArenaString bank value = some (bank', ref)) :
    Grows bank bank' ∧ InArena bank' ref := by
  have hextends := (writeArenaString_spec h).1
  simp only [writeArenaString, writeArenaBlob] at h
  split_ifs at h with hfull hroom
  obtain ⟨rfl, rfl⟩ := Prod.mk.inj (Option.some.inj h)
  have hnul := nul_of_stringLength hfull
  refine ⟨⟨hextends, rfl, rfl, fun _ => ?_⟩, ⟨Nat.le_add_right _ _, Nat.succ_pos _, ?_, ?_⟩⟩
  · dsimp only
    omega
  · exact (Nat.add_assoc _ _ _).le
  · dsimp only
    rw [if_pos (by omega), ← hnul]
    congr 1
    omega

end Arena

section Place

variable {bank bank' : SharedRuleBank} {α δ ρ : Type}
  {place : SharedRuleBank → α → Bool × SharedRuleBank}

theorem placeAll_cons (item : α) (items : List α) :
    placeAll place (item :: items) bank =
      if (place bank item).1 then placeAll place items (place bank item).2 else place bank item := by
  rw [placeAll]
  cases place bank item with
  | mk placed bank' => cases placed <;> rfl

structure Appends (descs : SharedRuleBank → List δ) (rest : SharedRuleBank → ρ)
    (Good : SharedRuleBank → δ → Prop) (bank : SharedRuleBank) (placed : Bool × SharedRuleBank) :
    Prop where
  grows : Grows bank placed.2
  rest : rest placed.2 = rest bank
  descs : ∃ desc, descs placed.2 = descs bank ++ [desc] ∧ (placed.1 → Good placed.2 desc)

structure AppendsAll (descs : SharedRuleBank → List δ) (rest : SharedRuleBank → ρ)
    (Good : SharedRuleBank → δ → Prop) (count : Nat) (bank : SharedRuleBank)
    (placed : Bool × SharedRuleBank) : Prop where
  grows : Grows bank placed.2
  rest : rest placed.2 = rest bank
  length : (descs placed.2).length ≤ (descs bank).length + count
  good : placed.1 → (∀ desc ∈ descs bank, Good bank desc) →
    ∀ desc ∈ descs placed.2, Good placed.2 desc

theorem placeAll_appends (descs : SharedRuleBank → List δ) (rest : SharedRuleBank → ρ)
    (Good : SharedRuleBank → δ → Prop)
    (hmono : ∀ bank bank' desc, Extends bank bank' → Good bank desc → Good bank' desc)
    (hplace : ∀ bank item, Appends descs rest Good bank (place bank item)) (items : List α) :
    AppendsAll descs rest Good items.length bank (placeAll place items bank) := by
  induction items generalizing bank with
  | nil => exact ⟨.refl bank, rfl, Nat.le_refl _, fun _ hgood => hgood⟩
  | cons item items ih =>
    have hfirst := hplace bank item
    obtain ⟨desc, hdescs, hgood⟩ := hfirst.descs
    have hlength : (descs (place bank item).2).length = (descs bank).length + 1 := by simp [hdescs]
    rw [placeAll_cons]
    split_ifs with hplaced
    · have hrest := @ih (place bank item).2
      refine ⟨hfirst.grows.trans hrest.grows, hrest.rest.trans hfirst.rest, ?_,
        fun hall hbank => hrest.good hall ?_⟩
      · have := hrest.length
        rw [List.length_cons]
        omega
      · rw [hdescs]
        refine List.forall_mem_append.mpr ⟨fun desc hdesc => ?_, ?_⟩
        · exact hmono _ _ _ hfirst.grows.toExtends (hbank desc hdesc)
        · simpa using hgood hplaced
    · refine ⟨hfirst.grows, hfirst.rest, ?_, fun hall => absurd hall hplaced⟩
      rw [List.length_cons]
      omega

theorem placeAll_eq_true {write : SharedRuleBank → α → Option SharedRuleBank}
    (hplace : ∀ bank item bank', place bank item = (true, bank') ↔ write bank item = some bank')
    {items : List α} :
    placeAll place items bank = (true, bank') ↔ items.foldlM write bank = some bank' := by
  induction items generalizing bank with
  | nil => simp [placeAll]
  | cons item items ih =>
    rw [placeAll_cons, List.foldlM_cons, Option.bind_eq_bind, Option.bind_eq_some_iff]
    split_ifs with hplaced
    · have hwrite := (hplace bank item _).mp (Prod.ext hplaced rfl)
      simp [hwrite, ih]
    · refine ⟨fun h => absurd (congrArg Prod.fst h) hplaced, fun ⟨mid, hmid, _⟩ => ?_⟩
      exact absurd (congrArg Prod.fst ((hplace bank item mid).mpr hmid)) hplaced

def PathInArena (bank : SharedRuleBank) (desc : SharedPathRuleDesc) : Prop :=
  InArena bank desc.guestPrefix ∧ InArena bank desc.hostPrefix

def FileInArena (bank : SharedRuleBank) (desc : SharedVirtualFileDesc) : Prop :=
  InArena bank desc.guestPath ∧ InArena bank desc.backingPath

theorem Grows.congr {bank'' : SharedRuleBank} (h : Grows bank bank')
    (hoffset : bank''.arenaOffset = bank'.arenaOffset) (hused : bank''.arenaUsed = bank'.arenaUsed)
    (hbytes : bank''.bytes = bank'.bytes) (hcapacity : bank''.arenaCapacity = bank'.arenaCapacity)
    (hgeneration : bank''.generation = bank'.generation) : Grows bank bank'' := by
  obtain ⟨⟨h₁, h₂, h₃⟩, h₄, h₅, h₆⟩ := h
  exact ⟨⟨hoffset.trans h₁, hused ▸ h₂, hbytes ▸ h₃⟩, hcapacity.trans h₄, hgeneration.trans h₅,
    hused ▸ h₆⟩

theorem placePathRule_appends (bank : SharedRuleBank) (rule : HookselfPathRule) :
    Appends (·.pathRules) (fun bank => (bank.syscallRules, bank.virtualFiles)) PathInArena bank
      (placePathRule bank rule) := by
  unfold placePathRule
  cases hguest : writeArenaString bank rule.guestPrefix with
  | none => exact ⟨(Grows.refl bank).congr rfl rfl rfl rfl rfl, rfl, _, rfl, nofun⟩
  | some written =>
    obtain ⟨bank₁, guest⟩ := written
    obtain ⟨hgrows₁, hin₁⟩ := writeArenaString_grows hguest
    obtain ⟨hpaths₁, hcalls₁, hfiles₁⟩ := (writeArenaString_spec hguest).2.2
    dsimp only
    cases hhost : writeArenaString bank₁ rule.hostPrefix with
    | none =>
      exact ⟨hgrows₁.congr rfl rfl rfl rfl rfl, Prod.ext hcalls₁ hfiles₁, _,
        congrArg (· ++ _) hpaths₁, nofun⟩
    | some written =>
      obtain ⟨bank₂, host⟩ := written
      obtain ⟨hgrows₂, hin₂⟩ := writeArenaString_grows hhost
      obtain ⟨hpaths₂, hcalls₂, hfiles₂⟩ := (writeArenaString_spec hhost).2.2
      have hguest₂ := hin₁.mono hgrows₂.toExtends
      exact ⟨(hgrows₁.trans hgrows₂).congr rfl rfl rfl rfl rfl,
        Prod.ext (hcalls₂.trans hcalls₁) (hfiles₂.trans hfiles₁), _,
        congrArg (· ++ _) (hpaths₂.trans hpaths₁),
        fun _ => ⟨⟨hguest₂.1, hguest₂.2, hguest₂.3, hguest₂.4⟩, ⟨hin₂.1, hin₂.2, hin₂.3, hin₂.4⟩⟩⟩

theorem placePathRule_eq_true {rule : HookselfPathRule} :
    placePathRule bank rule = (true, bank') ↔ writePathRule bank rule = some bank' := by
  unfold placePathRule writePathRule
  cases hguest : writeArenaString bank rule.guestPrefix with
  | none => simp
  | some written =>
    cases hhost : writeArenaString written.1 rule.hostPrefix <;> simp [hhost]

theorem placeVirtualFile_appends (backing : VirtualBacking) (bank : SharedRuleBank)
    (file : HookselfVirtualFile × Nat) :
    Appends (·.virtualFiles) (fun bank => (bank.pathRules, bank.syscallRules)) FileInArena bank
      (placeVirtualFile backing bank file) := by
  unfold placeVirtualFile
  cases hguest : writeArenaString bank file.1.guestPath with
  | none => exact ⟨(Grows.refl bank).congr rfl rfl rfl rfl rfl, rfl, _, rfl, nofun⟩
  | some written =>
    obtain ⟨bank₁, guest⟩ := written
    obtain ⟨hgrows₁, hin₁⟩ := writeArenaString_grows hguest
    obtain ⟨hpaths₁, hcalls₁, hfiles₁⟩ := (writeArenaString_spec hguest).2.2
    dsimp only
    cases backing.paths with
    | none =>
      exact ⟨hgrows₁.congr rfl rfl rfl rfl rfl, Prod.ext hpaths₁ hcalls₁, _,
        congrArg (· ++ _) hfiles₁, nofun⟩
    | some paths =>
      dsimp only
      cases hpath : writeArenaString bank₁ (paths file.2) with
      | none =>
        exact ⟨hgrows₁.congr rfl rfl rfl rfl rfl, Prod.ext hpaths₁ hcalls₁, _,
          congrArg (· ++ _) hfiles₁, nofun⟩
      | some written =>
        obtain ⟨bank₂, path⟩ := written
        obtain ⟨hgrows₂, hin₂⟩ := writeArenaString_grows hpath
        obtain ⟨hpaths₂, hcalls₂, hfiles₂⟩ := (writeArenaString_spec hpath).2.2
        have hguest₂ := hin₁.mono hgrows₂.toExtends
        exact ⟨(hgrows₁.trans hgrows₂).congr rfl rfl rfl rfl rfl,
          Prod.ext (hpaths₂.trans hpaths₁) (hcalls₂.trans hcalls₁), _,
          congrArg (· ++ _) (hfiles₂.trans hfiles₁),
          fun _ => ⟨⟨hguest₂.1, hguest₂.2, hguest₂.3, hguest₂.4⟩, ⟨hin₂.1, hin₂.2, hin₂.3, hin₂.4⟩⟩⟩

theorem placeVirtualFile_eq_true {backing : VirtualBacking} {file : HookselfVirtualFile × Nat} :
    placeVirtualFile backing bank file = (true, bank') ↔
      writeVirtualFile backing bank file = some bank' := by
  unfold placeVirtualFile writeVirtualFile
  cases hguest : writeArenaString bank file.1.guestPath with
  | none => simp
  | some written =>
    cases hpaths : backing.paths with
    | none => simp
    | some paths =>
      cases hpath : writeArenaString written.1 (paths file.2) with
      | none => simp [hpath]
      | some _ =>
        simp only [hpath, Option.bind_eq_bind, Option.bind_some, Prod.mk.injEq, true_and,
          Option.some.injEq]
        rfl

end Place

section Valid

variable {image : BankImage} {ref : SharedStringRef} {index : Nat}

structure Laid (image : BankImage) : Prop where
  bankSize : image.bankSize = sharedRuleBankBytes
  pathRulesOffset : image.pathRulesOffset = (initializeBankImage 0).pathRulesOffset
  syscallRulesOffset : image.syscallRulesOffset = (initializeBankImage 0).syscallRulesOffset
  virtualFilesOffset : image.virtualFilesOffset = (initializeBankImage 0).virtualFilesOffset
  arenaOffset : image.arenaOffset = descriptorBytes
  arenaCapacity : image.arenaCapacity = sharedRuleBankBytes - descriptorBytes
  arenaUsed : image.arenaUsed ≤ image.arenaCapacity
  pathRules : image.pathRules.length ≤ maxPathRules
  syscallRules : image.syscallRules.length ≤ maxSyscallRules
  virtualFiles : image.virtualFiles.length ≤ maxVirtualFiles
  pathRuleCount : image.pathRuleCount ≤ maxPathRules
  syscallRuleCount : image.syscallRuleCount ≤ maxSyscallRules
  virtualFileCount : image.virtualFileCount ≤ maxVirtualFiles

theorem arrayByte_none {α : Type} {bytes : α → List UInt8} {size offset : Nat} {descs : List α}
    (h : offset + size * descs.length ≤ index) (hsize : 0 < size) :
    arrayByte bytes size offset descs index = none := by
  have hlength : descs.length ≤ (index - offset) / size := by
    rw [Nat.le_div_iff_mul_le hsize, Nat.mul_comm]
    omega
  rw [arrayByte, List.getElem?_eq_none hlength]
  simp

theorem layout_eq : (initializeBankImage 0).pathRulesOffset = 128 ∧
    (initializeBankImage 0).syscallRulesOffset = 2688 ∧
    (initializeBankImage 0).virtualFilesOffset = 10880 ∧ descriptorBytes = 13440 ∧
    sharedRuleBankBytes = 147456 := by
  decide +kernel

theorem Laid.byte (h : Laid image) (hindex : descriptorBytes ≤ index) :
    image.byte index = image.bytes index := by
  obtain ⟨hpaths, hsyscalls, hfiles, harena, -⟩ := layout_eq
  have h₁ := h.pathRules
  have h₂ := h.syscallRules
  have h₃ := h.virtualFiles
  simp only [maxPathRules, maxSyscallRules, maxVirtualFiles] at h₁ h₂ h₃
  rw [BankImage.byte, h.pathRulesOffset, h.syscallRulesOffset, h.virtualFilesOffset, hpaths,
    hsyscalls, hfiles, arrayByte_none _ (by decide), arrayByte_none _ (by decide),
    arrayByte_none _ (by decide)]
  · rfl
  all_goals simp only [sizeofPathRuleDesc, sizeofSyscallRuleDesc, sizeofVirtualFileDesc]; omega

theorem Laid.referenceInsideArena (h : Laid image) (href : InArena image.toSharedRuleBank ref) :
    referenceInsideArena image ref = true := by
  obtain ⟨-, -, -, harena, hbank⟩ := layout_eq
  obtain ⟨habove, hpos, hinside, hnul⟩ := href
  have hsize := h.bankSize
  have hoffset := h.arenaOffset
  have hcapacity := h.arenaCapacity
  have hused := h.arenaUsed
  have hrange : rangeInsideBank ref.offset ref.length image.bankSize = true := by
    simp only [rangeInsideBank, decide_eq_true_eq]
    omega
  rw [RuleBank.referenceInsideArena, decide_eq_true_eq, h.byte (by omega), hrange]
  refine ⟨?_, hpos.ne', hnul⟩
  push Not
  exact ⟨habove, by simp, by omega, by omega⟩

theorem Laid.shape (h : Laid image) : bankShapeValid image sharedRuleBankBytes = true := by
  obtain ⟨hpaths, hsyscalls, hfiles, harena, hbank⟩ := layout_eq
  have hcapacity := h.arenaCapacity
  simp only [bankShapeValid, rangeInsideBank, decide_eq_true_eq, h.bankSize, h.pathRulesOffset,
    h.syscallRulesOffset, h.virtualFilesOffset, h.arenaOffset, hpaths, hsyscalls, hfiles, harena,
    hbank, hcapacity, maxPathRules, maxSyscallRules, maxVirtualFiles, sizeofPathRuleDesc,
    sizeofSyscallRuleDesc, sizeofVirtualFileDesc, true_and]
  exact ⟨h.pathRuleCount, h.syscallRuleCount, h.virtualFileCount, by decide, by decide, by decide,
    by decide, by have := h.arenaUsed; omega⟩

theorem Laid.bankLayoutValid (h : Laid image)
    (hpaths : ∀ desc ∈ image.pathRules.take image.pathRuleCount,
      PathInArena image.toSharedRuleBank desc)
    (hfiles : ∀ desc ∈ image.virtualFiles.take image.virtualFileCount,
      FileInArena image.toSharedRuleBank desc) :
    bankLayoutValid image sharedRuleBankBytes true = true ↔
      image.generation ≠ 0 ∧ image.checksum = image.hash := by
  have hpaths' : ((image.pathRules.take image.pathRuleCount).all fun desc =>
      RuleBank.referenceInsideArena image desc.guestPrefix ∧
        RuleBank.referenceInsideArena image desc.hostPrefix) = true := by
    refine List.all_eq_true.mpr fun desc hdesc => decide_eq_true ?_
    exact (hpaths desc hdesc).imp h.referenceInsideArena h.referenceInsideArena
  have hfiles' : ((image.virtualFiles.take image.virtualFileCount).all fun desc =>
      RuleBank.referenceInsideArena image desc.guestPath ∧
        RuleBank.referenceInsideArena image desc.backingPath) = true := by
    refine List.all_eq_true.mpr fun desc hdesc => decide_eq_true ?_
    exact (hfiles desc hdesc).imp h.referenceInsideArena h.referenceInsideArena
  rw [RuleBank.bankLayoutValid, if_neg (by simp [h.shape]), if_neg (by simp), decide_eq_true_eq]
  exact ⟨fun hvalid => hvalid.2.2, fun hsum => ⟨hpaths', hfiles', hsum⟩⟩

theorem Laid.withBank {bank : SharedRuleBank} (h : Laid image)
    (hgrows : Grows image.toSharedRuleBank bank) (hpaths : bank.pathRules.length ≤ maxPathRules)
    (hsyscalls : bank.syscallRules.length ≤ maxSyscallRules)
    (hfiles : bank.virtualFiles.length ≤ maxVirtualFiles) :
    Laid { image with toSharedRuleBank := bank } where
  bankSize := h.bankSize
  pathRulesOffset := h.pathRulesOffset
  syscallRulesOffset := h.syscallRulesOffset
  virtualFilesOffset := h.virtualFilesOffset
  arenaOffset := hgrows.arenaOffset.trans h.arenaOffset
  arenaCapacity := hgrows.arenaCapacity.trans h.arenaCapacity
  arenaUsed := (hgrows.fits h.arenaUsed).trans hgrows.arenaCapacity.ge
  pathRules := hpaths
  syscallRules := hsyscalls
  virtualFiles := hfiles
  pathRuleCount := h.pathRuleCount
  syscallRuleCount := h.syscallRuleCount
  virtualFileCount := h.virtualFileCount

theorem Laid.seal (h : Laid image) (checksum : BitVec 64) :
    Laid { image with checksum := checksum } :=
  ⟨h.1, h.2, h.3, h.4, h.5, h.6, h.7, h.8, h.9, h.10, h.11, h.12, h.13⟩

theorem BankImage.hash_seal (image : BankImage) (checksum : BitVec 64) :
    { image with checksum := checksum }.hash = image.hash := by
  unfold BankImage.hash
  rfl

end Valid

section Serialize

variable {config : HookselfConfig} {generation : Nat} {backing : VirtualBacking}

structure Serialized (generation : Nat) (result : Bool × BankImage) : Prop where
  laid : Laid result.2
  paths : ∀ desc ∈ result.2.pathRules.take result.2.pathRuleCount,
    PathInArena result.2.toSharedRuleBank desc
  files : ∀ desc ∈ result.2.virtualFiles.take result.2.virtualFileCount,
    FileInArena result.2.toSharedRuleBank desc
  generation : result.2.generation = generation
  checksum : result.2.checksum = if result.1 then result.2.hash else 0

theorem PathInArena.mono {bank bank' : SharedRuleBank} {desc : SharedPathRuleDesc}
    (he : Extends bank bank') (h : PathInArena bank desc) : PathInArena bank' desc :=
  h.imp (·.mono he) (·.mono he)

theorem FileInArena.mono {bank bank' : SharedRuleBank} {desc : SharedVirtualFileDesc}
    (he : Extends bank bank') (h : FileInArena bank desc) : FileInArena bank' desc :=
  h.imp (·.mono he) (·.mono he)

structure Unsealed (generation : Nat) (image : BankImage) : Prop where
  laid : Laid image
  paths : ∀ desc ∈ image.pathRules.take image.pathRuleCount,
    PathInArena image.toSharedRuleBank desc
  virtualFiles : image.virtualFiles = []
  virtualFileCount : image.virtualFileCount = 0
  generation : image.generation = generation
  checksum : image.checksum = 0

theorem Unsealed.serialized {image : BankImage} (h : Unsealed generation image) :
    Serialized generation (false, image) :=
  ⟨h.laid, h.paths, by simp [h.virtualFiles], h.generation, h.checksum⟩

theorem initializeBankImage_unsealed (generation : Nat) :
    Unsealed generation { initializeBankImage sharedRuleBankBytes with generation := generation } where
  laid := ⟨rfl, rfl, rfl, rfl, rfl, rfl, Nat.zero_le _, Nat.zero_le _, Nat.zero_le _, Nat.zero_le _,
    Nat.zero_le _, Nat.zero_le _, Nat.zero_le _⟩
  paths := by simp [initializeBankImage, initializeBankLayout]
  virtualFiles := rfl
  virtualFileCount := rfl
  generation := rfl
  checksum := rfl

theorem serializeRules_unsealed {image : BankImage} (h : WellShaped config)
    (himage : Unsealed generation image) (hnone : image.pathRules = [])
    (hcount : image.pathRuleCount = 0) : Unsealed generation (serializeRules config image).2 := by
  have hrules := config.pathRules.length_items_le.trans h.pathRules.1
  have hcalls := config.syscallRules.length_items_le.trans h.syscallRules.1
  have hplaced := @placeAll_appends image.toSharedRuleBank _ _ _ _ _ _ PathInArena
    (fun _ _ _ he => PathInArena.mono he) placePathRule_appends config.pathRules.items
  unfold serializeRules
  revert hplaced
  generalize placeAll placePathRule config.pathRules.items image.toSharedRuleBank = placed
  obtain ⟨placed, bank⟩ := placed
  intro hplaced
  obtain ⟨hkeptCalls, hkeptFiles⟩ := Prod.mk.inj hplaced.rest
  have hlength : bank.pathRules.length ≤ maxPathRules := by
    have := hplaced.length
    simp only [hnone, List.length_nil] at this
    omega
  have hgeneration := hplaced.grows.generation.trans himage.generation
  have hfiles := hkeptFiles.trans himage.virtualFiles
  cases placed with
  | false =>
    exact ⟨himage.laid.withBank hplaced.grows hlength (hkeptCalls ▸ himage.laid.syscallRules)
      (hkeptFiles ▸ himage.laid.virtualFiles), by simp [hcount], hfiles, himage.virtualFileCount,
      hgeneration, himage.checksum⟩
  | true =>
    have hgood := hplaced.good rfl (by simp [hnone])
    let bank' := { bank with syscallRules := config.syscallRules.items.map describeSyscallRule }
    have hlaid : Laid { image with toSharedRuleBank := bank' } :=
      himage.laid.withBank (hplaced.grows.congr rfl rfl rfl rfl rfl) hlength
        (by simpa [bank'] using hcalls) (hkeptFiles ▸ himage.laid.virtualFiles)
    refine ⟨{ hlaid with pathRuleCount := h.pathRules.1, syscallRuleCount := h.syscallRules.1 }, ?_,
      hfiles, himage.virtualFileCount, hgeneration, himage.checksum⟩
    have hextends : Extends bank bank' := ⟨rfl, Nat.le_refl _, fun _ _ => rfl⟩
    exact fun desc hdesc => (hgood desc (List.mem_of_mem_take hdesc)).mono hextends

theorem serializeVirtualFiles_serialized {image : BankImage} (h : WellShaped config)
    (himage : Unsealed generation image) (backing : VirtualBacking) :
    Serialized generation (serializeVirtualFiles config backing image) := by
  have hfiles : config.virtualFiles.items.zipIdx.length ≤ maxVirtualFiles := by
    rw [List.length_zipIdx]
    exact config.virtualFiles.length_items_le.trans h.virtualFiles.1
  have hplaced := @placeAll_appends image.toSharedRuleBank _ _ _ _ _ _ FileInArena
    (fun _ _ _ he => FileInArena.mono he) (placeVirtualFile_appends backing)
    config.virtualFiles.items.zipIdx
  unfold serializeVirtualFiles
  revert hplaced
  generalize placeAll (placeVirtualFile backing) config.virtualFiles.items.zipIdx
    image.toSharedRuleBank = placed
  obtain ⟨placed, bank⟩ := placed
  intro hplaced
  obtain ⟨hkeptPaths, hkeptCalls⟩ := Prod.mk.inj hplaced.rest
  have hlength : bank.virtualFiles.length ≤ maxVirtualFiles := by
    have := hplaced.length
    simp only [himage.virtualFiles, List.length_nil] at this
    omega
  have hlaid := himage.laid.withBank hplaced.grows (hkeptPaths ▸ himage.laid.pathRules)
    (hkeptCalls ▸ himage.laid.syscallRules) hlength
  have hpaths : ∀ desc ∈ bank.pathRules.take image.pathRuleCount, PathInArena bank desc := by
    rw [hkeptPaths]
    exact fun desc hdesc => (himage.paths desc hdesc).mono hplaced.grows.toExtends
  have hgeneration := hplaced.grows.generation.trans himage.generation
  cases placed with
  | false =>
    exact ⟨hlaid, hpaths, by simp [himage.virtualFileCount], hgeneration, himage.checksum⟩
  | true =>
    have hgood := hplaced.good rfl (by simp [himage.virtualFiles])
    have hlaid' : Laid { image with
        toSharedRuleBank := bank, virtualFileCount := config.virtualFiles.count } :=
      { hlaid with virtualFileCount := h.virtualFiles.1 }
    refine ⟨hlaid'.seal _, hpaths, fun desc hdesc => hgood desc (List.mem_of_mem_take hdesc),
      hgeneration, ?_⟩
    rw [if_pos rfl, BankImage.hash_seal]

theorem serializeInto_serialized (h : WellShaped config) (generation : Nat)
    (backing : VirtualBacking) :
    Serialized generation (serializeInto config generation sharedRuleBankBytes backing) := by
  have hrules := serializeRules_unsealed h (initializeBankImage_unsealed generation) rfl rfl
  unfold serializeInto
  revert hrules
  generalize serializeRules config
    { initializeBankImage sharedRuleBankBytes with generation := generation } = written
  obtain ⟨written, image⟩ := written
  intro hrules
  cases written with
  | false => exact hrules.serialized
  | true => exact serializeVirtualFiles_serialized h hrules backing

/-- A bank is valid after its serialisation succeeded; otherwise only if its content has hash zero. -/
theorem serializeInto_valid (h : WellShaped config) (hgeneration : generation ≠ 0)
    (backing : VirtualBacking) :
    bankLayoutValid (serializeInto config generation sharedRuleBankBytes backing).2
        sharedRuleBankBytes true = true ↔
      (serializeInto config generation sharedRuleBankBytes backing).1 = true ∨
        (serializeInto config generation sharedRuleBankBytes backing).2.hash = 0 := by
  have hresult := serializeInto_serialized h generation backing
  rw [hresult.laid.bankLayoutValid hresult.paths hresult.files, hresult.checksum,
    hresult.generation]
  split_ifs with hok
  · simp [hok, hgeneration]
  · simp [hok, hgeneration, eq_comm]

theorem serializeConfig_eq_some {bank : SharedRuleBank} :
    serializeConfig config generation backing = some bank ↔
      (serializeInto config generation sharedRuleBankBytes backing).1 = true ∧
        (serializeInto config generation sharedRuleBankBytes backing).2.toSharedRuleBank = bank := by
  simp only [serializeConfig, serializeInto, serializeRules, Option.bind_eq_bind,
    Option.bind_eq_some_iff, ← placeAll_eq_true fun _ _ _ => placePathRule_eq_true,
    ← placeAll_eq_true fun _ _ _ => placeVirtualFile_eq_true, initializeBankImage]
  generalize placeAll placePathRule config.pathRules.items
    { initializeBankLayout sharedRuleBankBytes with generation := generation } = placed
  obtain ⟨placed, bank⟩ := placed
  cases placed with
  | false => simp
  | true =>
    simp only [serializeVirtualFiles, Prod.mk.injEq, true_and, exists_eq_left']
    generalize placeAll (placeVirtualFile backing) config.virtualFiles.items.zipIdx
      { bank with syscallRules := config.syscallRules.items.map describeSyscallRule } = placed
    obtain ⟨placed, bank'⟩ := placed
    cases placed <;> simp

theorem serializeInto_ok (h : Accepted config) (generation : Nat) (backing : VirtualBacking) :
    (serializeInto config generation sharedRuleBankBytes backing).1 = true ↔
      Serializable config backing := by
  constructor
  · intro htrue
    by_contra hs
    have hbank := serializeConfig_eq_some.mpr ⟨htrue, rfl⟩
    rw [serializeConfig_none hs] at hbank
    cases hbank
  · intro hs
    obtain ⟨bank, hbank⟩ := serializeConfig_some h hs
    exact (serializeConfig_eq_some.mp hbank).1

end Serialize

end HookSelf.RuleBank
