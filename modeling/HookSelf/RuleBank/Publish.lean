import HookSelf.RuleBank.SessionLaws

namespace HookSelf.RuleBank

open PathState SlotTable Config EventRing Fnv

variable {session : SharedSession} {config : HookselfConfig}

section Publication

theorem ValidSession.active_le (h : ValidSession session) : session.control.activeRuleBank ≤ 1 :=
  activeRuleBank_le h.controlValid

/-- The conditions under which a publication reaches the bank. -/
structure Ready (config : HookselfConfig) (session : SharedSession) : Prop where
  accepted : Accepted config
  state : Publishable session.control.tracerState
  generation : session.control.publishedGeneration ≠ uint64Max

def publishedBank (config : HookselfConfig) (backing : VirtualBacking) (session : SharedSession) :
    Bool × BankImage :=
  serializeInto config (session.control.publishedGeneration + 1) sharedRuleBankBytes backing

/-- The session once the serialised bank is the active one. -/
def switchBank (config : HookselfConfig) (session : SharedSession) (bank : BankImage) :
    SharedSession :=
  { writeRuleBank session (1 - session.control.activeRuleBank) bank with
    control := { session.control with
      configFlags := config.flags
      failureMode := config.failureMode
      logLevel := config.logLevel
      backend := config.backend
      publishedGeneration := session.control.publishedGeneration + 1
      activeRuleBank := 1 - session.control.activeRuleBank } }

theorem publishSharedConfig_ready (h : ValidSession session) (hready : Ready config session)
    (backing : VirtualBacking) :
    (Serializable config backing → publishSharedConfig config backing session =
        (.ok, switchBank config session (publishedBank config backing session).2)) ∧
      (¬Serializable config backing → publishSharedConfig config backing session =
        (.capacity, writeRuleBank session (1 - session.control.activeRuleBank)
          (publishedBank config backing session).2)) := by
  have hbank := h.ruleBank (show 1 - session.control.activeRuleBank < 2 by omega)
  have hsize := (h.regions.2.2 (1 - session.control.activeRuleBank) (by omega)).2
  have hserialized : (publishedBank config backing session).1 = true ↔ Serializable config backing :=
    serializeInto_ok hready.accepted _ backing
  have hactive := h.active_le
  simp only [publishSharedConfig, hookselfValidateConfig_ok.mpr hready.accepted,
    validateSharedSession_iff.mpr h, hready.state, hready.generation, hbank, hsize, ne_eq, not_true,
    if_false, or_false, not_lt.mpr hactive]
  revert hserialized
  unfold publishedBank
  generalize serializeInto config _ sharedRuleBankBytes backing = result
  obtain ⟨written, bank⟩ := result
  cases written <;> simp +contextual [eq_comm, switchBank]

theorem publishSharedConfig_refused (h : ValidSession session) (hready : ¬Ready config session)
    (backing : VirtualBacking) :
    (publishSharedConfig config backing session).1 ≠ .ok ∧
      (publishSharedConfig config backing session).2 = session := by
  unfold publishSharedConfig
  by_cases hconfig : hookselfValidateConfig (some config) = .ok
  swap
  · rw [if_pos hconfig]
    exact ⟨hconfig, rfl⟩
  rw [if_neg (not_not.mpr hconfig), if_neg (not_not.mpr (validateSharedSession_iff.mpr h))]
  by_cases hstate : Publishable session.control.tracerState
  swap
  · rw [if_pos hstate]
    exact ⟨nofun, rfl⟩
  have hmax : session.control.publishedGeneration = uint64Max := by
    by_contra hmax
    exact hready ⟨hookselfValidateConfig_ok.mp hconfig, hstate, hmax⟩
  rw [if_neg (not_not.mpr hstate), if_pos (.inr hmax)]
  exact ⟨nofun, rfl⟩

def SharedSession.withTracerState (session : SharedSession) (state : Nat) : SharedSession :=
  { session with control := { session.control with tracerState := state } }

theorem ValidSession.withTracerState (h : ValidSession session) (state : Nat) :
    ValidSession (session.withTracerState state) where
  header := h.header
  layout := h.layout
  ringValid := h.ringValid
  controlValid := h.controlValid
  generation := h.generation
  active := h.active
  inactive := h.inactive

/-- A failed publication did no harm: the session is valid, what is published is unchanged, and any
accepted configuration that can be serialised can still be published in a publishable state. -/
structure Harmless (session after : SharedSession) : Prop where
  valid : validateSharedSession after = true
  control : after.control = session.control
  activeBank : after.activeBank = session.activeBank
  later : ∀ state config backing, Publishable state → hookselfValidateConfig (some config) = .ok →
    Serializable config backing →
      (publishSharedConfig config backing (after.withTracerState state)).1 = .ok

/-- Writing the inactive bank leaves a valid session exactly if the bank is valid. -/
theorem ValidSession.writeInactive (h : ValidSession session) {bank : BankImage}
    (hbank : bank.generation ≠ 0) :
    ValidSession (writeRuleBank session (1 - session.control.activeRuleBank) bank) ↔
      bankLayoutValid bank sharedRuleBankBytes true = true := by
  have hactive := h.active_le
  have hkept : (writeRuleBank session (1 - session.control.activeRuleBank) bank).activeBank =
      session.activeBank :=
    Function.update_of_ne (show session.control.activeRuleBank ≠ _ by omega) _ _
  have hwritten : (writeRuleBank session (1 - session.control.activeRuleBank) bank).inactiveBank =
      bank := Function.update_self ..
  constructor
  · intro hvalid
    have hother := hvalid.inactive
    rwa [hwritten, decide_eq_true hbank] at hother
  · intro hvalid
    exact {
      header := h.header
      layout := h.layout
      ringValid := h.ringValid
      controlValid := h.controlValid
      generation := by rw [hkept]; exact h.generation
      active := hkept ▸ h.active
      inactive := by rwa [hwritten, decide_eq_true hbank] }

theorem harmless_of_valid {after : SharedSession} (h : ValidSession after)
    (hcontrol : after.control = session.control) (hbank : after.activeBank = session.activeBank)
    (hmax : session.control.publishedGeneration ≠ uint64Max) : Harmless session after := by
  refine ⟨validateSharedSession_iff.mpr h, hcontrol, hbank, ?_⟩
  intro state config backing hstate hconfig hserializable
  have hready : Ready config (after.withTracerState state) :=
    ⟨hookselfValidateConfig_ok.mp hconfig, hstate,
      show after.control.publishedGeneration ≠ uint64Max from hcontrol ▸ hmax⟩
  rw [(publishSharedConfig_ready (h.withTracerState state) hready backing).1 hserializable]

theorem Harmless.generation {after : SharedSession} (h : Harmless session after) :
    session.control.publishedGeneration ≠ uint64Max := by
  intro hmax
  have hvalid := validateSharedSession_iff.mp h.valid
  have hok := h.later stateStopped hookselfDefaultConfig ⟨none, none⟩ (.inr rfl)
    hookselfDefaultConfig_ok ⟨nofun, nofun⟩
  refine (publishSharedConfig_refused (hvalid.withTracerState stateStopped) (fun hready => ?_) _).1 hok
  rw [← h.control] at hmax
  exact hready.generation hmax

end Publication

section Leftover

def segment (image : BankImage) (start length : Nat) : List UInt8 :=
  (List.range length).map fun index => image.byte (start + index)

theorem segment_add (image : BankImage) (start first rest : Nat) :
    segment image start (first + rest) =
      segment image start first ++ segment image (start + first) rest := by
  simp only [segment, List.range_add, List.map_append, List.map_map]
  congr 2
  funext index
  simp [Nat.add_assoc]

theorem segment_zeros {image : BankImage} {start length : Nat}
    (h : ∀ index, start ≤ index → index < start + length → image.byte index = 0) :
    segment image start length = List.replicate length 0 := by
  rw [segment, List.eq_replicate_iff]
  refine ⟨by simp, fun byte hbyte => ?_⟩
  obtain ⟨index, hindex, rfl⟩ := List.mem_map.mp hbyte
  have := List.mem_range.mp hindex
  exact h _ (by omega) (by omega)

/-- What publishing a rule whose host prefix is not terminated leaves in the bank. -/
def leftoverBank (generation : Nat) : BankImage :=
  { initializeBankImage sharedRuleBankBytes with
    generation := generation
    arenaUsed := 2
    bytes := fun i => if descriptorBytes ≤ i ∧ i < descriptorBytes + 2 then
      rootPath (i - descriptorBytes) else 0
    pathRules := [describePathRule unterminatedHostRule ⟨descriptorBytes, 2⟩ zeroRef] }

theorem serializeInto_leftover (generation : Nat) :
    serializeInto unterminatedHostConfig generation sharedRuleBankBytes ⟨none, none⟩ =
      (false, leftoverBank generation) := by
  let start := { initializeBankLayout sharedRuleBankBytes with generation := generation }
  let guestWritten := { start with arenaUsed := 2, bytes := (leftoverBank generation).bytes }
  have hlength : stringLength unterminatedHostRule.guestPrefix pathCapacity = 1 := by decide +kernel
  have hroom : ¬1 + 1 > start.arenaCapacity - start.arenaUsed :=
    show ¬1 + 1 > sharedRuleBankBytes - descriptorBytes - 0 by decide +kernel
  have hguest : writeArenaString start unterminatedHostRule.guestPrefix =
      some (guestWritten, ⟨descriptorBytes, 2⟩) := by
    rw [writeArenaString, hlength, if_neg (by decide +kernel), writeArenaBlob, if_neg hroom]
    simp only [start, guestWritten, initializeBankLayout, leftoverBank, Nat.add_zero, Nat.zero_add,
      Nat.reduceAdd, unterminatedHostRule]
    rfl
  have hends : ¬EndsInArray unterminatedHostRule.hostPrefix := by
    rintro ⟨_, _, hnul⟩
    exact absurd hnul (show (120 : UInt8) ≠ 0 by decide)
  have hplace : placePathRule start unterminatedHostRule =
      (false, (leftoverBank generation).toSharedRuleBank) := by
    simp only [placePathRule, hguest, writeArenaString_none hends]
    rfl
  have hitems : unterminatedHostConfig.pathRules.items = [unterminatedHostRule] := rfl
  have hall : placeAll placePathRule [unterminatedHostRule] start =
      (false, (leftoverBank generation).toSharedRuleBank) := by
    rw [placeAll_cons, hplace]
    rfl
  rw [serializeInto, serializeRules, hitems]
  dsimp only [initializeBankImage]
  rw [hall]
  rfl

theorem leftoverBank_byte (generation : Nat) {index : Nat}
    (h : sizeofBankHeader + sizeofPathRuleDesc ≤ index) :
    (leftoverBank generation).byte index = (leftoverBank generation).bytes index := by
  have hpaths : arrayByte pathRuleBytes sizeofPathRuleDesc (leftoverBank generation).pathRulesOffset
      (leftoverBank generation).pathRules index = none :=
    arrayByte_none (by simpa [leftoverBank, initializeBankImage, alignUp, sizeofBankHeader,
      sizeofPathRuleDesc] using h) (by decide)
  rw [BankImage.byte, hpaths]
  simp [arrayByte, leftoverBank, initializeBankImage, initializeBankLayout]

theorem leftoverBank_segment (generation : Nat) :
    segment (leftoverBank generation) sizeofBankHeader (sharedRuleBankBytes - sizeofBankHeader) =
      pathRuleBytes (describePathRule unterminatedHostRule ⟨descriptorBytes, 2⟩ zeroRef) ++
        (List.replicate 13272 0 ++ ([slash] ++ List.replicate 134015 0)) := by
  have hsize : sharedRuleBankBytes - sizeofBankHeader = 40 + (13272 + (1 + 134015)) := by decide +kernel
  have harena : descriptorBytes = 13440 := layout_eq.2.2.2.1
  have hbytes : ∀ index, 168 ≤ index → (leftoverBank generation).byte index =
      if 13440 ≤ index ∧ index < 13442 then rootPath (index - 13440) else 0 := by
    intro index hindex
    rw [leftoverBank_byte generation hindex, leftoverBank]
    simp only [harena]
  rw [hsize, segment_add, segment_add, segment_add]
  refine congrArg₂ _ ?_ (congrArg₂ _ ?_ (congrArg₂ _ ?_ ?_))
  · show segment (leftoverBank 0) sizeofBankHeader 40 = _
    decide +kernel
  · refine segment_zeros fun index hlow hhigh => ?_
    simp only [sizeofBankHeader] at hlow hhigh
    rw [hbytes index (by omega), if_neg (by omega)]
  · show [(leftoverBank generation).byte 13440] = _
    rw [hbytes 13440 (by omega)]
    rfl
  · refine segment_zeros fun index hlow hhigh => ?_
    simp only [sizeofBankHeader] at hlow hhigh
    rw [hbytes index (by omega)]
    split_ifs with hinside
    · obtain rfl : index = 13441 := by omega
      rfl
    · rfl

theorem leftoverBank_hash (generation : Nat) : (leftoverBank generation).hash ≠ 0 := by
  have hbody : (leftoverBank generation).hash = fnv1a64 (segment (leftoverBank generation)
      sizeofBankHeader (sharedRuleBankBytes - sizeofBankHeader)) := rfl
  rw [hbody, leftoverBank_segment, fnv1a64, List.foldl_append, List.foldl_append, List.foldl_append,
    foldl_zeros, foldl_zeros, ne_eq, mul_prime_pow_eq_zero, List.foldl_cons, List.foldl_nil,
    step_eq_zero]
  intro h
  have hnat := congrArg BitVec.toNat h
  rw [BitVec.toNat_mul, BitVec.toNat_pow] at hnat
  revert hnat
  decide +kernel

end Leftover

section Sample

def smallPageHost : SessionHost where
  pageValue := 4096
  memfdCreate := .ok 3
  identityCaptured := true
  ftruncate := .ok ()
  mmapPrefix := .ok 0x10000
  mmapScratch := .ok 0x200000

def sampleTarget : SessionTarget := ⟨100, 100, 1, 1⟩

theorem createSharedSession_sample :
    ∃ session, createSharedSession smallPageHost sampleTarget hookselfDefaultConfig ⟨none, none⟩ =
      .ok session ∧ ValidSession session ∧ session.control = initialControl hookselfDefaultConfig := by
  have hserialized := (serializeInto_ok (hookselfValidateConfig_ok.mp hookselfDefaultConfig_ok) 1
    ⟨none, none⟩).mpr ⟨nofun, nofun⟩
  have hbank : serializeInto hookselfDefaultConfig 1 sharedRuleBankBytes ⟨none, none⟩ =
      (true, (serializeInto hookselfDefaultConfig 1 sharedRuleBankBytes ⟨none, none⟩).2) :=
    Prod.ext hserialized rfl
  generalize (serializeInto hookselfDefaultConfig 1 sharedRuleBankBytes ⟨none, none⟩).2 = bank at hbank
  have hring : initializeEventRing (sessionRegions 4096 256).eventRing.size 256 =
      some ⟨kEventRingMagic, kEventRingVersion, 256, sizeofEvent, 0, 0, 0⟩ := by
    rw [initializeEventRing, if_neg (by decide +kernel)]
  have hcreate : ∃ session, createSharedSession smallPageHost sampleTarget hookselfDefaultConfig
      ⟨none, none⟩ = .ok session ∧ session.prefixMapping = 0x10000 ∧
        session.traceeScratchMapping = 0x200000 ∧ session.header.pageSize = 4096 := by
    unfold createSharedSession
    dsimp only
    rw [if_neg (by decide +kernel), if_neg (by decide +kernel), if_neg (by decide +kernel),
      if_neg (by decide +kernel)]
    have hopen : openSessionMemory smallPageHost = .ok (3, 0x10000, 0x200000) := rfl
    have hpage : smallPageHost.pageValue.toNat = 4096 := rfl
    have hevents : hookselfDefaultConfig.eventCapacity = 256 := rfl
    have hsize : (sessionRegions 4096 256).bank0.size = sharedRuleBankBytes := rfl
    rw [hopen, hpage, hevents, hring, hsize, hbank]
    exact ⟨_, rfl, rfl, rfl, rfl⟩
  obtain ⟨session, hcreated, hmapping, hscratch, hpage⟩ := hcreate
  have hsession := createSharedSession_created hcreated
  refine ⟨session, hcreated, hsession.valid ?_ ?_ ?_, hsession.control⟩
  · rw [hmapping]
    decide
  · rw [hscratch]
    decide
  · rw [hpage]
    decide +kernel

/-- Generations are left, and the configuration never reaches the bank or can be serialised. -/
def Safe (config : HookselfConfig) (backing : VirtualBacking) (session : SharedSession) : Prop :=
  session.control.publishedGeneration ≠ uint64Max ∧
    (hookselfValidateConfig (some config) ≠ .ok ∨ ¬Publishable session.control.tracerState ∨
      Serializable config backing)

theorem Ready.of_not_safe {backing : VirtualBacking} (h : ¬Safe config backing session)
    (hmax : session.control.publishedGeneration ≠ uint64Max) :
    Ready config session ∧ ¬Serializable config backing := by
  have hcond := not_or.mp (not_and.mp h hmax)
  obtain ⟨hstate, hserializable⟩ := not_or.mp hcond.2
  exact ⟨⟨hookselfValidateConfig_ok.mp (not_not.mp hcond.1), not_not.mp hstate, hmax⟩,
    hserializable⟩

theorem harmless_of_safe {backing : VirtualBacking} (h : ValidSession session)
    (hsafe : Safe config backing session)
    (hfails : (publishSharedConfig config backing session).1 ≠ .ok) :
    Harmless session (publishSharedConfig config backing session).2 := by
  by_cases hready : Ready config session
  · refine absurd (congrArg Prod.fst ((publishSharedConfig_ready h hready backing).1 ?_)) hfails
    rcases hsafe.2 with hconfig | hstate | hserializable
    · exact absurd (hookselfValidateConfig_ok.mpr hready.accepted) hconfig
    · exact absurd hready.state hstate
    · exact hserializable
  · rw [(publishSharedConfig_refused h hready backing).2]
    exact harmless_of_valid h rfl rfl hsafe.1

/-- An unfinished bank passes for a complete one only if its content hashes to the checksum zero. -/
theorem harmless_unfinished_iff {backing : VirtualBacking} (h : ValidSession session)
    (hready : Ready config session) (hserializable : ¬Serializable config backing) :
    Harmless session (publishSharedConfig config backing session).2 ↔
      (publishSharedConfig config backing session).2.inactiveBank.hash = 0 := by
  have hleft := congrArg Prod.snd ((publishSharedConfig_ready h hready backing).2 hserializable)
  have hwritten : (publishSharedConfig config backing session).2.inactiveBank =
      (publishedBank config backing session).2 := by
    rw [hleft]
    exact Function.update_self ..
  have hgeneration : (publishedBank config backing session).2.generation ≠ 0 := by
    rw [publishedBank, (serializeInto_serialized hready.accepted.wellShaped _ backing).generation]
    exact Nat.succ_ne_zero _
  have hbank : bankLayoutValid (publishedBank config backing session).2 sharedRuleBankBytes true =
      true ↔ (publishedBank config backing session).2.hash = 0 := by
    rw [publishedBank, serializeInto_valid hready.accepted.wellShaped (Nat.succ_ne_zero _) backing,
      serializeInto_ok hready.accepted _ backing]
    simp [hserializable]
  rw [hwritten, hleft, ← hbank, ← h.writeInactive hgeneration]
  have hactive := h.active_le
  refine ⟨fun hharmless => validateSharedSession_iff.mp hharmless.valid, fun hafter => ?_⟩
  refine harmless_of_valid hafter rfl ?_ hready.generation
  exact Function.update_of_ne (show session.control.activeRuleBank ≠ _ by omega) _ _

/-- A failing publication is harmless under the condition on its input. In every other case the
call fails, and it does harm but for an unfinished bank whose content hashes to zero. -/
theorem publishSharedConfig_failure (session : SharedSession)
    (hvalid : validateSharedSession session = true) (config : HookselfConfig)
    (backing : VirtualBacking) :
    (Safe config backing session → (publishSharedConfig config backing session).1 ≠ .ok →
      Harmless session (publishSharedConfig config backing session).2) ∧
    (¬Safe config backing session → (publishSharedConfig config backing session).1 ≠ .ok ∧
      (Harmless session (publishSharedConfig config backing session).2 ↔
        session.control.publishedGeneration ≠ uint64Max ∧
          (publishSharedConfig config backing session).2.inactiveBank.hash = 0)) := by
  have h := validateSharedSession_iff.mp hvalid
  refine ⟨harmless_of_safe h, fun hunsafe => ?_⟩
  by_cases hmax : session.control.publishedGeneration = uint64Max
  · have hready : ¬Ready config session := fun hready => hready.generation hmax
    refine ⟨(publishSharedConfig_refused h hready backing).1, fun hharmless => ?_, fun hhash => ?_⟩
    · exact absurd hmax hharmless.generation
    · exact absurd hmax hhash.1
  · obtain ⟨hready, hserializable⟩ := Ready.of_not_safe hunsafe hmax
    rw [harmless_unfinished_iff h hready hserializable]
    refine ⟨?_, (and_iff_right hmax).symm⟩
    rw [(publishSharedConfig_ready h hready backing).2 hserializable]
    exact nofun

theorem publishSharedConfig_failure_rejected :
    ∃ session, createSharedSession smallPageHost sampleTarget hookselfDefaultConfig ⟨none, none⟩ =
        .ok session ∧
      let config := { hookselfDefaultConfig with structSize := 0 }
      ((publishSharedConfig config ⟨none, none⟩ session).1 ≠ .ok →
        Harmless session (publishSharedConfig config ⟨none, none⟩ session).2) := by
  obtain ⟨session, hcreated, hvalid, hcontrol⟩ := createSharedSession_sample
  refine ⟨session, hcreated, ?_⟩
  refine (publishSharedConfig_failure session (validateSharedSession_iff.mpr hvalid) _ _).1
    ⟨?_, .inl ?_⟩
  · rw [hcontrol]
    decide
  · decide +kernel

/-- A configuration with an unterminated host prefix, which the validator of configurations accepts,
spoils the session for every later publication. -/
theorem publishSharedConfig_spoils :
    ∃ session, createSharedSession smallPageHost sampleTarget hookselfDefaultConfig ⟨none, none⟩ =
        .ok session ∧
      validateSharedSession session = true ∧
      (publishSharedConfig unterminatedHostConfig ⟨none, none⟩ session).1 = .capacity ∧
      validateSharedSession (publishSharedConfig unterminatedHostConfig ⟨none, none⟩ session).2 =
        false ∧
      (publishSharedConfig hookselfDefaultConfig ⟨none, none⟩
        (publishSharedConfig unterminatedHostConfig ⟨none, none⟩ session).2).1 = .internal := by
  obtain ⟨session, hcreated, hvalid, hcontrol⟩ := createSharedSession_sample
  have hready : Ready unterminatedHostConfig session :=
    ⟨hookselfValidateConfig_ok.mp (by decide +kernel), by rw [hcontrol]; exact .inl rfl,
      by rw [hcontrol]; decide⟩
  have hbank : publishedBank unterminatedHostConfig ⟨none, none⟩ session = (false, leftoverBank 2) := by
    rw [publishedBank, hcontrol]
    exact serializeInto_leftover 2
  have hserializable : ¬Serializable unterminatedHostConfig ⟨none, none⟩ := by
    rw [← serializeInto_ok hready.accepted (session.control.publishedGeneration + 1)]
    exact fun h => nomatch (congrArg Prod.fst hbank).symm.trans h
  have hleft := (publishSharedConfig_ready hvalid hready ⟨none, none⟩).2 hserializable
  have hspoilt : validateSharedSession
      (publishSharedConfig unterminatedHostConfig ⟨none, none⟩ session).2 = false := by
    rw [Bool.eq_false_iff, ne_eq, validateSharedSession_iff, hleft, hbank,
      hvalid.writeInactive (Nat.succ_ne_zero 1)]
    intro hlayout
    have hinto := serializeInto_valid hready.accepted.wellShaped (Nat.succ_ne_zero 1) ⟨none, none⟩
    rw [serializeInto_leftover] at hinto
    exact (hinto.mp hlayout).elim (nomatch ·) (leftoverBank_hash 2)
  refine ⟨session, hcreated, validateSharedSession_iff.mpr hvalid, by rw [hleft], hspoilt, ?_⟩
  rw [publishSharedConfig, if_neg (not_not.mpr hookselfDefaultConfig_ok), if_pos (by simp [hspoilt])]

end Sample

end HookSelf.RuleBank
