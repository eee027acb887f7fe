import HookSelf.RuleBank.Bank

/-! What a reader of the bank gets back: the rules and virtual files with their strings. -/

namespace HookSelf.RuleBank

open PathState SlotTable Config

structure PathRuleContent where
  ruleId : Nat
  priority : Int
  action : Int
  operationMask : BitVec 32
  flags : BitVec 32
  denyErrno : Int
  guestPrefix : List UInt8
  hostPrefix : List UInt8
  deriving DecidableEq

structure SyscallRuleContent where
  ruleId : Nat
  syscallNumber : Int
  action : Int
  phaseMask : BitVec 32
  argumentIndex : Nat
  argumentMatchMask : BitVec 64
  argumentMatchValue : BitVec 64
  replacementValue : BitVec 64
  replacementSyscallNumber : Int
  denyErrno : Int
  flags : BitVec 32
  deriving DecidableEq

structure VirtualFileContent where
  fileId : Nat
  provider : Int
  mode : BitVec 32
  flags : BitVec 32
  targetFd : Int
  guestPath : List UInt8
  backingPath : List UInt8
  deriving DecidableEq

structure BankContent where
  pathRules : List PathRuleContent
  syscallRules : List SyscallRuleContent
  virtualFiles : List VirtualFileContent
  deriving DecidableEq

section Decode

def decodePathRule (bank : SharedRuleBank) (desc : SharedPathRuleDesc) : PathRuleContent where
  ruleId := desc.ruleId
  priority := desc.priority
  action := desc.action
  operationMask := desc.operationMask
  flags := desc.flags
  denyErrno := desc.denyErrno
  guestPrefix := bankString bank desc.guestPrefix
  hostPrefix := bankString bank desc.hostPrefix

def decodeSyscallRule (desc : SharedSyscallRuleDesc) : SyscallRuleContent where
  ruleId := desc.ruleId
  syscallNumber := desc.syscallNumber
  action := desc.action
  phaseMask := desc.phaseMask
  argumentIndex := desc.argumentIndex
  argumentMatchMask := desc.argumentMatchMask
  argumentMatchValue := desc.argumentMatchValue
  replacementValue := desc.replacementValue
  replacementSyscallNumber := desc.replacementSyscallNumber
  denyErrno := desc.denyErrno
  flags := desc.flags

def decodeVirtualFile (bank : SharedRuleBank) (desc : SharedVirtualFileDesc) :
    VirtualFileContent where
  fileId := desc.fileId
  provider := desc.provider
  mode := desc.mode
  flags := desc.flags
  targetFd := desc.targetFd
  guestPath := bankString bank desc.guestPath
  backingPath := bankString bank desc.backingPath

def decodeBank (bank : SharedRuleBank) : BankContent where
  pathRules := bank.pathRules.map (decodePathRule bank)
  syscallRules := bank.syscallRules.map decodeSyscallRule
  virtualFiles := bank.virtualFiles.map (decodeVirtualFile bank)

end Decode

section Content

def pathRuleContent (rule : HookselfPathRule) : PathRuleContent where
  ruleId := rule.ruleId
  priority := rule.priority
  action := rule.action
  operationMask := rule.operationMask
  flags := rule.flags
  denyErrno := rule.denyErrno
  guestPrefix := cString rule.guestPrefix
  hostPrefix := cString rule.hostPrefix

def syscallRuleContent (rule : HookselfSyscallRule) : SyscallRuleContent where
  ruleId := rule.ruleId
  syscallNumber := rule.syscallNumber
  action := rule.action
  phaseMask := rule.phaseMask
  argumentIndex := rule.argumentIndex
  argumentMatchMask := rule.argumentMatchMask
  argumentMatchValue := rule.argumentMatchValue
  replacementValue := rule.replacementValue
  replacementSyscallNumber := rule.replacementSyscallNumber
  denyErrno := rule.denyErrno
  flags := rule.flags

def VirtualBacking.path (backing : VirtualBacking) (index : Nat) : List UInt8 :=
  match backing.paths with
  | none => []
  | some paths => cString (paths index)

def virtualFileContent (backing : VirtualBacking) (file : HookselfVirtualFile × Nat) :
    VirtualFileContent where
  fileId := file.1.fileId
  provider := file.1.provider
  mode := file.1.mode
  flags := file.1.flags
  targetFd := backing.fd file.2
  guestPath := cString file.1.guestPath
  backingPath := backing.path file.2

def configContent (config : HookselfConfig) (backing : VirtualBacking) : BankContent where
  pathRules := config.pathRules.items.map pathRuleContent
  syscallRules := config.syscallRules.items.map syscallRuleContent
  virtualFiles := config.virtualFiles.items.zipIdx.map (virtualFileContent backing)

end Content

section Strings

def EndsInArray (value : CharPtr) : Prop := ∃ i < pathCapacity, value i = 0

instance (value : CharPtr) : Decidable (EndsInArray value) :=
  inferInstanceAs (Decidable (∃ i < pathCapacity, value i = 0))

variable {bank bank' : SharedRuleBank} {value : CharPtr} {ref : SharedStringRef}

theorem stringLength_lt (h : EndsInArray value) : stringLength value pathCapacity < pathCapacity := by
  obtain ⟨i, hi, hnul⟩ := h
  obtain ⟨n, -, hn⟩ := Terminated.of_nul hi hnul
  rw [stringLength_of_terminated hn]
  exact hn.lt

theorem stringLength_eq (h : ¬EndsInArray value) : stringLength value pathCapacity = pathCapacity := by
  unfold stringLength
  rw [firstSlot_none.mpr fun i hi hnul => h ⟨i, hi, hnul⟩, Option.getD_none]

def HasRoom (bank : SharedRuleBank) (strings : Nat) : Prop :=
  bank.arenaUsed + strings * pathCapacity ≤ bank.arenaCapacity

theorem writeArenaString_none (h : ¬EndsInArray value) : writeArenaString bank value = none := by
  rw [writeArenaString]
  exact if_pos (stringLength_eq h)

theorem writeArenaString_some {strings : Nat} (h : EndsInArray value)
    (hroom : HasRoom bank (strings + 1)) :
    ∃ bank' ref, writeArenaString bank value = some (bank', ref) ∧ HasRoom bank' strings := by
  have hlt := stringLength_lt h
  rw [HasRoom, Nat.succ_mul] at hroom
  have hfits : stringLength value pathCapacity + 1 ≤ bank.arenaCapacity - bank.arenaUsed := by omega
  rw [writeArenaString, if_neg hlt.ne, writeArenaBlob, if_neg (not_lt.mpr hfits)]
  refine ⟨_, _, rfl, ?_⟩
  rw [HasRoom]
  dsimp only
  omega

end Strings

section Success

variable {bank bank' : SharedRuleBank} {backing : VirtualBacking} {strings : Nat}

theorem writePathRule_some {rule : HookselfPathRule} (hguest : EndsInArray rule.guestPrefix)
    (hhost : EndsInArray rule.hostPrefix) (hroom : HasRoom bank (strings + 2)) :
    ∃ bank', writePathRule bank rule = some bank' ∧ HasRoom bank' strings := by
  have hroom' : HasRoom bank (strings + 1 + 1) := hroom
  obtain ⟨bank₁, guest, h₁, hroom₁⟩ := writeArenaString_some hguest hroom'
  obtain ⟨bank₂, host, h₂, hroom₂⟩ := writeArenaString_some hhost hroom₁
  simp only [writePathRule, h₁, h₂, Option.bind_eq_bind, Option.bind_some]
  exact ⟨_, rfl, hroom₂⟩

theorem writePathRule_none {rule : HookselfPathRule} (hhost : ¬EndsInArray rule.hostPrefix) :
    writePathRule bank rule = none := by
  simp only [writePathRule, Option.bind_eq_bind, Option.bind_eq_none_iff]
  rintro ⟨bank₁, guest⟩ - ⟨bank₂, host⟩ h
  rw [writeArenaString_none hhost] at h
  cases h

def VirtualBacking.Covers (backing : VirtualBacking) (index : Nat) : Prop :=
  ∃ paths, backing.paths = some paths ∧ EndsInArray (paths index)

theorem writeVirtualFile_some {file : HookselfVirtualFile × Nat}
    (hguest : EndsInArray file.1.guestPath) (hbacking : backing.Covers file.2)
    (hroom : HasRoom bank (strings + 2)) :
    ∃ bank', writeVirtualFile backing bank file = some bank' ∧ HasRoom bank' strings := by
  obtain ⟨paths, hpaths, hends⟩ := hbacking
  have hroom' : HasRoom bank (strings + 1 + 1) := hroom
  obtain ⟨bank₁, guest, h₁, hroom₁⟩ := writeArenaString_some hguest hroom'
  obtain ⟨bank₂, host, h₂, hroom₂⟩ := writeArenaString_some hends hroom₁
  simp only [writeVirtualFile, h₁, hpaths, h₂, Option.bind_eq_bind, Option.bind_some]
  exact ⟨_, rfl, hroom₂⟩

theorem writeVirtualFile_none {file : HookselfVirtualFile × Nat} (h : ¬backing.Covers file.2) :
    writeVirtualFile backing bank file = none := by
  simp only [writeVirtualFile, Option.bind_eq_bind, Option.bind_eq_none_iff]
  rintro ⟨bank₁, guest⟩ - paths hpaths ⟨bank₂, host⟩ hwrite
  rw [writeArenaString_none fun hends => h ⟨paths, hpaths, hends⟩] at hwrite
  cases hwrite

theorem foldlM_some {α : Type} {write : SharedRuleBank → α → Option SharedRuleBank} {items : List α}
    (hwrite : ∀ item ∈ items, ∀ {bank strings}, HasRoom bank (strings + 2) →
      ∃ bank', write bank item = some bank' ∧ HasRoom bank' strings)
    (hroom : HasRoom bank (strings + 2 * items.length)) :
    ∃ bank', items.foldlM write bank = some bank' ∧ HasRoom bank' strings := by
  induction items generalizing bank with
  | nil => exact ⟨bank, rfl, hroom⟩
  | cons item items ih =>
    have hroom₀ : HasRoom bank (strings + 2 * items.length + 2) := hroom
    obtain ⟨mid, hmid, hroom'⟩ := hwrite item List.mem_cons_self hroom₀
    obtain ⟨bank', hrest, hroom''⟩ :=
      ih (fun item hitem => hwrite item (List.mem_cons_of_mem _ hitem)) hroom'
    exact ⟨bank', by rw [List.foldlM_cons, hmid]; exact hrest, hroom''⟩

theorem foldlM_none {α : Type} {write : SharedRuleBank → α → Option SharedRuleBank} {items : List α}
    {item : α} (hitem : item ∈ items) (hwrite : ∀ bank, write bank item = none) :
    items.foldlM write bank = none := by
  induction items generalizing bank with
  | nil => cases hitem
  | cons first items ih =>
    rw [List.foldlM_cons, Option.bind_eq_bind, Option.bind_eq_none_iff]
    intro mid hmid
    rcases List.mem_cons.mp hitem with rfl | hitem
    · rw [hwrite] at hmid
      exact nomatch hmid
    · exact ih hitem

end Success

section RoundTrip

variable {bank : SharedRuleBank} {backing : VirtualBacking} {config : HookselfConfig}

theorem DescribesPath.decode {rule : HookselfPathRule} {desc : SharedPathRuleDesc}
    (h : DescribesPath bank rule desc) : decodePathRule bank desc = pathRuleContent rule := by
  simp only [decodePathRule, pathRuleContent, h.ruleId, h.priority, h.action, h.operationMask,
    h.flags, h.denyErrno, h.guest.bytes, h.host.bytes]

theorem DescribesFile.decode {file : HookselfVirtualFile × Nat} {desc : SharedVirtualFileDesc}
    (h : DescribesFile backing bank file desc) :
    decodeVirtualFile bank desc = virtualFileContent backing file := by
  obtain ⟨paths, hpaths, hholds⟩ := h.backing
  simp only [decodeVirtualFile, virtualFileContent, VirtualBacking.path, h.fileId, h.provider,
    h.mode, h.flags, h.targetFd, h.guest.bytes, hpaths, hholds.bytes]

theorem decodeSyscallRule_describe (rule : HookselfSyscallRule) :
    decodeSyscallRule (describeSyscallRule rule) = syscallRuleContent rule := rfl

theorem map_eq_of_forall₂ {α δ γ : Type} {R : α → δ → Prop} {f : α → γ} {g : δ → γ} {items : List α}
    {descs : List δ} (h : List.Forall₂ R items descs) (hR : ∀ item desc, R item desc → g desc = f item) :
    descs.map g = items.map f := by
  induction h with
  | nil => rfl
  | cons hfirst _ ih => rw [List.map_cons, List.map_cons, hR _ _ hfirst, ih]

theorem serializeConfig_decodes {generation : Nat}
    (h : serializeConfig config generation backing = some bank) :
    decodeBank bank = configContent config backing := by
  obtain ⟨hpaths, hsyscalls, hfiles⟩ := serializeConfig_describes h
  simp only [decodeBank, configContent, hsyscalls, List.map_map, Function.comp_def,
    decodeSyscallRule_describe, BankContent.mk.injEq, true_and]
  exact ⟨map_eq_of_forall₂ hpaths fun _ _ hd => hd.decode,
    map_eq_of_forall₂ hfiles fun _ _ hd => hd.decode⟩

end RoundTrip

section Total

variable {backing : VirtualBacking} {config : HookselfConfig}

/-- Every host prefix ends in its array, and every virtual file has a backing path that does. -/
def Serializable (config : HookselfConfig) (backing : VirtualBacking) : Prop :=
  (∀ rule ∈ config.pathRules.items, EndsInArray rule.hostPrefix) ∧
    ∀ file ∈ config.virtualFiles.items.zipIdx, backing.Covers file.2

theorem endsInArray_of_canonical {value : CharPtr} (h : CanonicalPath value) :
    EndsInArray value := by
  obtain ⟨n, hn⟩ := h.absolute.2
  exact ⟨n, hn.lt, hn.nul⟩

/-- The arena is large enough for every string of the largest configuration. -/
theorem initializeBankLayout_room (generation : Nat) :
    HasRoom { initializeBankLayout sharedRuleBankBytes with generation := generation }
      (2 * maxVirtualFiles + 2 * maxPathRules) := by
  show 0 + (2 * maxVirtualFiles + 2 * maxPathRules) * pathCapacity ≤
    sharedRuleBankBytes - descriptorBytes
  decide +kernel

theorem HasRoom.mono {bank : SharedRuleBank} {strings fewer : Nat} (h : HasRoom bank strings)
    (hle : fewer ≤ strings) : HasRoom bank fewer :=
  (Nat.add_le_add_left (Nat.mul_le_mul_right _ hle) _).trans h

theorem serializeConfig_some {generation : Nat} (h : Accepted config)
    (hs : Serializable config backing) :
    ∃ bank, serializeConfig config generation backing = some bank := by
  have hshape := h.wellShaped
  have hpaths := config.pathRules.length_items_le.trans hshape.pathRules.1
  have hfiles := config.virtualFiles.length_items_le.trans hshape.virtualFiles.1
  have hroom := (initializeBankLayout_room generation).mono
    (show 2 * config.virtualFiles.items.zipIdx.length + 2 * config.pathRules.items.length ≤ _ by
      rw [List.length_zipIdx]
      omega)
  obtain ⟨mid, hmid, hroom'⟩ := foldlM_some (fun rule hrule _ _ hroom => writePathRule_some
    (endsInArray_of_canonical (checkPathRule_guest (h.pathRule hrule))) (hs.1 rule hrule) hroom) hroom
  have hroom'' : HasRoom { mid with syscallRules := config.syscallRules.items.map describeSyscallRule }
      (0 + 2 * config.virtualFiles.items.zipIdx.length) := by
    rw [Nat.zero_add]
    exact hroom'
  obtain ⟨bank, hbank, -⟩ := foldlM_some (fun file hfile _ _ hroom => writeVirtualFile_some
    (endsInArray_of_canonical (h.virtualFile (List.fst_mem_of_mem_zipIdx hfile)))
    (hs.2 file hfile) hroom) hroom''
  refine ⟨bank, ?_⟩
  simp only [serializeConfig, Option.bind_eq_bind, hmid, Option.bind_some]
  exact hbank

theorem serializeConfig_none {generation : Nat} (h : ¬Serializable config backing) :
    serializeConfig config generation backing = none := by
  simp only [serializeConfig, Option.bind_eq_bind]
  rcases not_and_or.mp h with hpath | hfile
  · push Not at hpath
    obtain ⟨rule, hrule, hends⟩ := hpath
    rw [foldlM_none hrule fun bank => writePathRule_none hends, Option.bind_none]
  · push Not at hfile
    obtain ⟨file, hfile, hcovers⟩ := hfile
    refine Option.bind_eq_none_iff.mpr fun mid _ => ?_
    exact foldlM_none hfile fun bank => writeVirtualFile_none hcovers

/-- An accepted configuration round trips through the bank exactly when its host prefixes and the
backing paths end in their arrays. -/
theorem serializeConfig_roundTrip (config : HookselfConfig)
    (hok : hookselfValidateConfig (some config) = .ok) (generation : Nat)
    (backing : VirtualBacking) :
    (∃ bank, serializeConfig config generation backing = some bank ∧
        decodeBank bank = configContent config backing) ↔ Serializable config backing := by
  constructor
  · rintro ⟨bank, hbank, -⟩
    by_contra hs
    rw [serializeConfig_none hs] at hbank
    exact nomatch hbank
  · intro hs
    obtain ⟨bank, hbank⟩ := serializeConfig_some (hookselfValidateConfig_ok.mp hok) hs
    exact ⟨bank, hbank, serializeConfig_decodes hbank⟩

def pathA : CharPtr := ofBytes [slash, 97]

def pathB : CharPtr := ofBytes [slash, 98]

/-- A redirection of `/a` to `/b`, a rule that denies system call 56, and a virtual file `/a`. -/
def sampleConfig : HookselfConfig :=
  { hookselfDefaultConfig with
    failureMode := failureFailClosed
    flags := enablePathRedirect ||| enableVirtualFiles
    virtualBackingDir := pathB
    pathRules := ⟨1, some fun _ =>
      ⟨sizeofPathRule, 7, -1, pathRedirect, pathOpAll, 0, 0, pathA, pathB⟩⟩
    syscallRules := ⟨1, some fun _ =>
      ⟨sizeofSyscallRule, 8, 56, syscallDeny, phaseEntry, 0, 0, 0, 0, 0, 13, 0⟩⟩
    virtualFiles := ⟨1, some fun _ => ⟨sizeofVirtualFile, 9, vfileStatic, 0o444, 0, 0, none, pathA⟩⟩ }

def sampleBacking : VirtualBacking := ⟨some fun _ => 5, some fun _ => pathB⟩

def sampleContent : BankContent where
  pathRules := [⟨7, -1, pathRedirect, pathOpAll, 0, 0, [slash, 97], [slash, 98]⟩]
  syscallRules := [⟨8, 56, syscallDeny, phaseEntry, 0, 0, 0, 0, 0, 13, 0⟩]
  virtualFiles := [⟨9, vfileStatic, 0o444, 0, 5, [slash, 97], [slash, 98]⟩]

theorem sampleConfig_ok : hookselfValidateConfig (some sampleConfig) = .ok := by decide +kernel

theorem sampleConfig_serializable : Serializable sampleConfig sampleBacking := by
  have hends : EndsInArray pathB := by decide +kernel
  refine ⟨fun rule hrule => ?_, fun file _ => ⟨_, rfl, hends⟩⟩
  obtain rfl := List.mem_singleton.mp hrule
  exact hends

theorem configContent_sample : configContent sampleConfig sampleBacking = sampleContent := by
  decide +kernel

theorem serializeConfig_roundTrip_sample :
    hookselfValidateConfig (some sampleConfig) = .ok ∧
      ∃ bank, serializeConfig sampleConfig 1 sampleBacking = some bank ∧
        decodeBank bank = sampleContent :=
  ⟨sampleConfig_ok, configContent_sample ▸
    (serializeConfig_roundTrip sampleConfig sampleConfig_ok 1 sampleBacking).mpr
      sampleConfig_serializable⟩

def unterminatedHostRule : HookselfPathRule where
  structSize := sizeofPathRule
  ruleId := 1
  priority := 0
  action := pathPass
  operationMask := pathOpAll
  flags := 0
  denyErrno := 0
  guestPrefix := rootPath
  hostPrefix := fun _ => 120

def unterminatedHostConfig : HookselfConfig :=
  { hookselfDefaultConfig with pathRules := ⟨1, some fun _ => unterminatedHostRule⟩ }

theorem unterminatedHostConfig_rejected :
    hookselfValidateConfig (some unterminatedHostConfig) = .ok ∧
      serializeConfig unterminatedHostConfig 1 ⟨none, none⟩ = none := by
  refine ⟨by decide +kernel, serializeConfig_none fun hs => ?_⟩
  obtain ⟨i, -, hnul⟩ := hs.1 unterminatedHostRule List.mem_cons_self
  exact absurd hnul (show (120 : UInt8) ≠ 0 by decide)

end Total

end HookSelf.RuleBank
