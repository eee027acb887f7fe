import HookSelf.Config.Validate

/-! The shared rule bank: descriptors, a string arena, and the serialisation that fills them. -/

namespace HookSelf.RuleBank

open PathState SlotTable Config

/-- A string in the arena; the length counts the terminator. -/
structure SharedStringRef where
  offset : Nat
  length : Nat
  deriving DecidableEq

structure SharedPathRuleDesc where
  ruleId : Nat
  priority : Int
  action : Int
  operationMask : BitVec 32
  flags : BitVec 32
  denyErrno : Int
  guestPrefix : SharedStringRef
  hostPrefix : SharedStringRef
  deriving DecidableEq

structure SharedSyscallRuleDesc where
  ruleId : Nat
  syscallNumber : Int
  action : Int
  phaseMask : BitVec 32
  argumentIndex : Nat
  argumentMatchMask : BitVec 64
  argumentMatchValue : BitVec 64
  replacementValue : BitVec 64
  replacementSyscallNumber : Int
  denyErrno : Int
  flags : BitVec 32
  deriving DecidableEq

structure SharedVirtualFileDesc where
  fileId : Nat
  provider : Int
  mode : BitVec 32
  flags : BitVec 32
  targetFd : Int
  guestPath : SharedStringRef
  backingPath : SharedStringRef
  deriving DecidableEq

structure SharedRuleBank where
  generation : Nat
  arenaOffset : Nat
  arenaCapacity : Nat
  arenaUsed : Nat
  bytes : Nat → UInt8
  pathRules : List SharedPathRuleDesc
  syscallRules : List SharedSyscallRuleDesc
  virtualFiles : List SharedVirtualFileDesc

section Layout

def alignUp (value alignment : Nat) : Nat := (value + alignment - 1) / alignment * alignment

def sizeofBankHeader : Nat := 128
def sizeofPathRuleDesc : Nat := 40
def sizeofSyscallRuleDesc : Nat := 64
def sizeofVirtualFileDesc : Nat := 40

def descriptorBytes : Nat :=
  let offset := alignUp sizeofBankHeader 64 + sizeofPathRuleDesc * maxPathRules
  let offset := alignUp offset 8 + sizeofSyscallRuleDesc * maxSyscallRules
  let offset := alignUp offset 4 + sizeofVirtualFileDesc * maxVirtualFiles
  alignUp offset 64

def sharedRuleBankBytes : Nat :=
  alignUp (descriptorBytes + (maxPathRules * pathCapacity * 2 + maxVirtualFiles * pathCapacity * 2))
    4096

def initializeBankLayout (bankSize : Nat) : SharedRuleBank where
  generation := 0
  arenaOffset := descriptorBytes
  arenaCapacity := bankSize - descriptorBytes
  arenaUsed := 0
  bytes := fun _ => 0
  pathRules := []
  syscallRules := []
  virtualFiles := []

end Layout

section Serialize

def stringLength (value : CharPtr) (capacity : Nat) : Nat :=
  (firstSlot capacity fun i => value i = 0).getD capacity

def writeArenaBlob (bank : SharedRuleBank) (data : CharPtr) (size : Nat) :
    Option (SharedRuleBank × SharedStringRef) :=
  if size > bank.arenaCapacity - bank.arenaUsed then none
  else
    let offset := bank.arenaOffset + bank.arenaUsed
    some ({ bank with
        bytes := fun i => if offset ≤ i ∧ i < offset + size then data (i - offset) else bank.bytes i
        arenaUsed := bank.arenaUsed + size },
      { offset := offset, length := size })

def writeArenaString (bank : SharedRuleBank) (value : CharPtr) :
    Option (SharedRuleBank × SharedStringRef) :=
  let length := stringLength value pathCapacity
  if length = pathCapacity then none else writeArenaBlob bank value (length + 1)

def describePathRule (source : HookselfPathRule) (guestPrefix hostPrefix : SharedStringRef) :
    SharedPathRuleDesc where
  ruleId := source.ruleId
  priority := source.priority
  action := source.action
  operationMask := source.operationMask
  flags := source.flags
  denyErrno := source.denyErrno
  guestPrefix := guestPrefix
  hostPrefix := hostPrefix

def writePathRule (bank : SharedRuleBank) (source : HookselfPathRule) : Option SharedRuleBank := do
  let (bank, guestPrefix) ← writeArenaString bank source.guestPrefix
  let (bank, hostPrefix) ← writeArenaString bank source.hostPrefix
  some { bank with
    pathRules := bank.pathRules ++ [describePathRule source guestPrefix hostPrefix] }

def describeSyscallRule (source : HookselfSyscallRule) : SharedSyscallRuleDesc where
  ruleId := source.ruleId
  syscallNumber := source.syscallNumber
  action := source.action
  phaseMask := source.phaseMask
  argumentIndex := source.argumentIndex
  argumentMatchMask := source.argumentMatchMask
  argumentMatchValue := source.argumentMatchValue
  replacementValue := source.replacementValue
  replacementSyscallNumber := source.replacementSyscallNumber
  denyErrno := source.denyErrno
  flags := source.flags

/-- The descriptor and the backing path the runtime opened for each virtual file. -/
structure VirtualBacking where
  fds : Option (Nat → Int)
  paths : Option (Nat → CharPtr)

def writeVirtualFile (backing : VirtualBacking) (bank : SharedRuleBank)
    (source : HookselfVirtualFile × Nat) : Option SharedRuleBank := do
  let (bank, guestPath) ← writeArenaString bank source.1.guestPath
  let paths ← backing.paths
  let (bank, backingPath) ← writeArenaString bank (paths source.2)
  some { bank with virtualFiles := bank.virtualFiles ++ [{
    fileId := source.1.fileId
    provider := source.1.provider
    mode := source.1.mode
    flags := source.1.flags
    targetFd := match backing.fds with | none => -1 | some fds => fds source.2
    guestPath := guestPath
    backingPath := backingPath }] }

def serializeConfig (config : HookselfConfig) (generation : Nat) (backing : VirtualBacking) :
    Option SharedRuleBank := do
  let bank := { initializeBankLayout sharedRuleBankBytes with generation := generation }
  let bank ← config.pathRules.items.foldlM writePathRule bank
  let bank := { bank with syscallRules := config.syscallRules.items.map describeSyscallRule }
  config.virtualFiles.items.zipIdx.foldlM (writeVirtualFile backing) bank

end Serialize

def bankString (bank : SharedRuleBank) (ref : SharedStringRef) : List UInt8 :=
  (List.range (ref.length - 1)).map fun i => bank.bytes (ref.offset + i)

@[simp] theorem bankString_length (bank : SharedRuleBank) (ref : SharedStringRef) :
    (bankString bank ref).length = ref.length - 1 := by
  simp [bankString]

section Laws

variable {bank bank' : SharedRuleBank} {value : CharPtr} {ref : SharedStringRef}

def cString (value : CharPtr) : List UInt8 :=
  (List.range (stringLength value pathCapacity)).map value

/-- A later bank: the part of the arena in use is unchanged. -/
structure Extends (bank bank' : SharedRuleBank) : Prop where
  arenaOffset : bank'.arenaOffset = bank.arenaOffset
  arenaUsed : bank.arenaUsed ≤ bank'.arenaUsed
  bytes : ∀ i < bank.arenaOffset + bank.arenaUsed, bank'.bytes i = bank.bytes i

theorem Extends.refl (bank : SharedRuleBank) : Extends bank bank := ⟨rfl, le_rfl, fun _ _ => rfl⟩

theorem Extends.trans {bank'' : SharedRuleBank} (h : Extends bank bank') (h' : Extends bank' bank'') :
    Extends bank bank'' := by
  refine ⟨h'.arenaOffset.trans h.arenaOffset, h.arenaUsed.trans h'.arenaUsed, fun i hi => ?_⟩
  rw [h'.bytes i (by have := h.arenaOffset; have := h.arenaUsed; omega), h.bytes i hi]

/-- The arena holds `value`, terminator included, at `ref`. -/
structure HoldsString (bank : SharedRuleBank) (ref : SharedStringRef) (value : CharPtr) : Prop where
  length_pos : 0 < ref.length
  inside : ref.offset + ref.length ≤ bank.arenaOffset + bank.arenaUsed
  bytes : bankString bank ref = cString value

theorem HoldsString.mono (h : HoldsString bank ref value) (he : Extends bank bank') :
    HoldsString bank' ref value := by
  have hin := h.inside
  refine ⟨h.length_pos, ?_, ?_⟩
  · have := he.arenaOffset
    have := he.arenaUsed
    omega
  · rw [← h.bytes]
    refine List.map_congr_left fun i hi => he.bytes _ ?_
    have := List.mem_range.mp hi
    omega

theorem writeArenaString_spec (h : writeArenaString bank value = some (bank', ref)) :
    Extends bank bank' ∧ HoldsString bank' ref value ∧ bank'.pathRules = bank.pathRules ∧
      bank'.syscallRules = bank.syscallRules ∧ bank'.virtualFiles = bank.virtualFiles := by
  simp only [writeArenaString, writeArenaBlob] at h
  split_ifs at h with hfull hroom
  obtain ⟨rfl, rfl⟩ := Prod.mk.inj (Option.some.inj h)
  refine ⟨⟨rfl, Nat.le_add_right _ _, fun i hi => ?_⟩, ⟨by simp, ?_, ?_⟩, rfl, rfl, rfl⟩
  · exact if_neg (by omega)
  · exact (Nat.add_assoc _ _ _).le
  · refine List.map_congr_left fun i hi => ?_
    have hlt := List.mem_range.mp hi
    simp only [Nat.add_sub_cancel] at hlt
    dsimp only
    rw [if_pos (by omega)]
    congr 1
    omega

/-- A bank descriptor carries a rule of the configuration. -/
structure DescribesPath (bank : SharedRuleBank) (rule : HookselfPathRule) (desc : SharedPathRuleDesc) :
    Prop where
  ruleId : desc.ruleId = rule.ruleId
  priority : desc.priority = rule.priority
  action : desc.action = rule.action
  operationMask : desc.operationMask = rule.operationMask
  flags : desc.flags = rule.flags
  denyErrno : desc.denyErrno = rule.denyErrno
  guest : HoldsString bank desc.guestPrefix rule.guestPrefix
  host : HoldsString bank desc.hostPrefix rule.hostPrefix

theorem DescribesPath.mono {rule : HookselfPathRule} {desc : SharedPathRuleDesc}
    (h : DescribesPath bank rule desc) (he : Extends bank bank') : DescribesPath bank' rule desc :=
  { h with guest := h.guest.mono he, host := h.host.mono he }

theorem writePathRule_spec {rule : HookselfPathRule} (h : writePathRule bank rule = some bank') :
    Extends bank bank' ∧ bank'.virtualFiles = bank.virtualFiles ∧
      ∃ desc, bank'.pathRules = bank.pathRules ++ [desc] ∧ DescribesPath bank' rule desc := by
  simp only [writePathRule, Option.bind_eq_bind, Option.bind_eq_some_iff, Prod.exists] at h
  obtain ⟨bank₁, guest, h₁, bank₂, host, h₂, h⟩ := h
  obtain ⟨he₁, hs₁, hp₁, -, hv₁⟩ := writeArenaString_spec h₁
  obtain ⟨he₂, hs₂, hp₂, -, hv₂⟩ := writeArenaString_spec h₂
  obtain rfl := Option.some.inj h
  have hg := hs₁.mono he₂
  have he := he₁.trans he₂
  refine ⟨⟨he.1, he.2, he.3⟩, hv₂.trans hv₁, _, congrArg (· ++ _) (hp₂.trans hp₁), ?_⟩
  exact ⟨rfl, rfl, rfl, rfl, rfl, rfl, ⟨hg.1, hg.2, hg.3⟩, ⟨hs₂.1, hs₂.2, hs₂.3⟩⟩

def VirtualBacking.fd (backing : VirtualBacking) (index : Nat) : Int :=
  match backing.fds with
  | none => -1
  | some fds => fds index

structure DescribesFile (backing : VirtualBacking) (bank : SharedRuleBank)
    (file : HookselfVirtualFile × Nat) (desc : SharedVirtualFileDesc) : Prop where
  fileId : desc.fileId = file.1.fileId
  provider : desc.provider = file.1.provider
  mode : desc.mode = file.1.mode
  flags : desc.flags = file.1.flags
  targetFd : desc.targetFd = backing.fd file.2
  guest : HoldsString bank desc.guestPath file.1.guestPath
  backing : ∃ paths, backing.paths = some paths ∧ HoldsString bank desc.backingPath (paths file.2)

theorem DescribesFile.mono {backing : VirtualBacking} {file : HookselfVirtualFile × Nat}
    {desc : SharedVirtualFileDesc} (h : DescribesFile backing bank file desc)
    (he : Extends bank bank') : DescribesFile backing bank' file desc := by
  obtain ⟨paths, hpaths, hholds⟩ := h.backing
  exact { h with guest := h.guest.mono he, backing := ⟨paths, hpaths, hholds.mono he⟩ }

theorem writeVirtualFile_spec {backing : VirtualBacking} {file : HookselfVirtualFile × Nat}
    (h : writeVirtualFile backing bank file = some bank') :
    Extends bank bank' ∧
      (bank'.pathRules, bank'.syscallRules) = (bank.pathRules, bank.syscallRules) ∧
      ∃ desc, bank'.virtualFiles = bank.virtualFiles ++ [desc] ∧
        DescribesFile backing bank' file desc := by
  simp only [writeVirtualFile, Option.bind_eq_bind, Option.bind_eq_some_iff, Prod.exists] at h
  obtain ⟨bank₁, guest, h₁, paths, hpaths, bank₂, host, h₂, h⟩ := h
  obtain ⟨he₁, hs₁, hp₁, hc₁, hv₁⟩ := writeArenaString_spec h₁
  obtain ⟨he₂, hs₂, hp₂, hc₂, hv₂⟩ := writeArenaString_spec h₂
  obtain rfl := Option.some.inj h
  have hg := hs₁.mono he₂
  have he := he₁.trans he₂
  refine ⟨⟨he.1, he.2, he.3⟩, Prod.ext (hp₂.trans hp₁) (hc₂.trans hc₁), _,
    congrArg (· ++ _) (hv₂.trans hv₁), ?_⟩
  exact ⟨rfl, rfl, rfl, rfl, rfl, ⟨hg.1, hg.2, hg.3⟩, paths, hpaths, ⟨hs₂.1, hs₂.2, hs₂.3⟩⟩

/-- Writing a list of items appends a descriptor for each and keeps the rest of the bank. -/
theorem foldlM_describes {α δ ρ : Type} {write : SharedRuleBank → α → Option SharedRuleBank}
    (descs : SharedRuleBank → List δ) (rest : SharedRuleBank → ρ)
    (Describes : SharedRuleBank → α → δ → Prop)
    (hmono : ∀ bank bank' item desc, Extends bank bank' → Describes bank item desc →
      Describes bank' item desc)
    (hwrite : ∀ bank bank' item, write bank item = some bank' → Extends bank bank' ∧
      rest bank' = rest bank ∧ ∃ desc, descs bank' = descs bank ++ [desc] ∧ Describes bank' item desc)
    {items : List α} (done : List α) (h : items.foldlM write bank = some bank')
    (hdone : List.Forall₂ (Describes bank) done (descs bank)) :
    Extends bank bank' ∧ rest bank' = rest bank ∧
      List.Forall₂ (Describes bank') (done ++ items) (descs bank') := by
  induction items generalizing bank done with
  | nil =>
    obtain rfl := Option.some.inj h
    exact ⟨.refl _, rfl, by simpa using hdone⟩
  | cons item items ih =>
    rw [List.foldlM_cons, Option.bind_eq_bind, Option.bind_eq_some_iff] at h
    obtain ⟨mid, hmid, h⟩ := h
    obtain ⟨he, hrest, desc, hdescs, hdesc⟩ := hwrite _ _ _ hmid
    have hmids : List.Forall₂ (Describes mid) (done ++ [item]) (descs mid) := by
      rw [hdescs]
      exact List.rel_append (hdone.imp fun _ _ hd => hmono _ _ _ _ he hd) (.cons hdesc .nil)
    obtain ⟨he', hrest', hall⟩ := ih _ h hmids
    exact ⟨he.trans he', hrest'.trans hrest, by simpa using hall⟩

theorem serializeConfig_describes {config : HookselfConfig} {generation : Nat}
    {backing : VirtualBacking} (h : serializeConfig config generation backing = some bank) :
    List.Forall₂ (DescribesPath bank) config.pathRules.items bank.pathRules ∧
      bank.syscallRules = config.syscallRules.items.map describeSyscallRule ∧
      List.Forall₂ (DescribesFile backing bank) config.virtualFiles.items.zipIdx
        bank.virtualFiles := by
  simp only [serializeConfig, Option.bind_eq_bind, Option.bind_eq_some_iff] at h
  obtain ⟨mid, hmid, h⟩ := h
  obtain ⟨-, hnone, hrules⟩ := foldlM_describes (·.pathRules) (·.virtualFiles) DescribesPath
    (fun _ _ _ _ he hd => hd.mono he) (fun _ _ _ hwrite => writePathRule_spec hwrite) [] hmid .nil
  have hempty : mid.virtualFiles = [] := hnone
  obtain ⟨he, hkept, hfiles⟩ := foldlM_describes (·.virtualFiles)
    (fun bank => (bank.pathRules, bank.syscallRules)) (DescribesFile backing)
    (fun _ _ _ _ he hd => hd.mono he) (fun _ _ _ hwrite => writeVirtualFile_spec hwrite) [] h
    (show List.Forall₂ _ [] mid.virtualFiles by rw [hempty]; exact .nil)
  obtain ⟨hpaths, hcalls⟩ := Prod.mk.inj hkept
  refine ⟨?_, hcalls, hfiles⟩
  rw [hpaths]
  exact hrules.imp fun _ _ hd => hd.mono ⟨he.1, he.2, he.3⟩

theorem stringLength_of_terminated {n : Nat} (h : Terminated value n) :
    stringLength value pathCapacity = n := by
  unfold stringLength
  rw [firstSlot_some_iff.mpr ⟨h.lt, h.nul, h.ne_nul⟩, Option.getD_some]

theorem cString_head (h : AbsolutePath value) : (cString value).head? = some slash := by
  obtain ⟨n, hn⟩ := h.2
  rw [cString, stringLength_of_terminated hn]
  cases n with
  | zero => exact absurd (h.length_pos hn) (lt_irrefl 0)
  | succ n => simp [List.range_succ_eq_map, h.1]

/-- A bank that `CreateSharedSession` or `PublishSharedConfig` fills. -/
def Published (bank : SharedRuleBank) : Prop :=
  ∃ config generation backing, hookselfValidateConfig (some config) = .ok ∧
    serializeConfig config generation backing = some bank

theorem Published.describes (h : Published bank) {desc : SharedPathRuleDesc}
    (hdesc : desc ∈ bank.pathRules) :
    ∃ rule, checkPathRule rule = .ok ∧ DescribesPath bank rule desc := by
  obtain ⟨config, generation, backing, hok, hser⟩ := h
  obtain ⟨hrules, -⟩ := serializeConfig_describes hser
  obtain ⟨i, hi, rfl⟩ := List.mem_iff_getElem.mp hdesc
  have hi' : i < config.pathRules.items.length := hrules.length_eq ▸ hi
  exact ⟨_, (hookselfValidateConfig_ok.mp hok).pathRule (List.getElem_mem hi'), hrules.get hi' hi⟩

theorem Published.guest_head (h : Published bank) {desc : SharedPathRuleDesc}
    (hdesc : desc ∈ bank.pathRules) :
    (bankString bank desc.guestPrefix).head? = some slash := by
  obtain ⟨rule, hok, hd⟩ := h.describes hdesc
  rw [hd.guest.bytes]
  exact cString_head (checkPathRule_guest hok).absolute

theorem Published.host_head (h : Published bank) {desc : SharedPathRuleDesc}
    (hdesc : desc ∈ bank.pathRules) (hact : desc.action = pathRedirect) :
    (bankString bank desc.hostPrefix).head? = some slash := by
  obtain ⟨rule, hok, hd⟩ := h.describes hdesc
  rw [hd.host.bytes]
  exact cString_head (checkPathRule_host hok (hd.action ▸ hact)).absolute

end Laws

end HookSelf.RuleBank
