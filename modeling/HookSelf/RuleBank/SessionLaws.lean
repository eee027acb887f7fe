import HookSelf.RuleBank.Session

namespace HookSelf.RuleBank

open PathState SlotTable Config EventRing

variable {session : SharedSession} {config : HookselfConfig}

def SharedSession.activeBank (session : SharedSession) : BankImage :=
  session.ruleBanks session.control.activeRuleBank

def SharedSession.inactiveBank (session : SharedSession) : BankImage :=
  session.ruleBanks (1 - session.control.activeRuleBank)

structure Mapped (session : SharedSession) : Prop where
  header : getSharedHeader session = some session.header
  layout : sessionLayoutValid session session.header = true

namespace Mapped

theorem regions (h : Mapped session) :
    regionInsidePrefix session session.header.control = true ∧
      regionInsidePrefix session session.header.eventRing = true ∧
      ∀ index < 2, regionInsidePrefix session (session.header.ruleBanks index) = true ∧
        (session.header.ruleBanks index).size = sharedRuleBankBytes := by
  have hlayout := h.layout
  simp only [sessionLayoutValid, decide_eq_true_eq, not_or, not_not] at hlayout
  obtain ⟨-, -, -, -, -, -, -, -, -, -, -, -, -, -, hcontrol, hring, h₀, h₁, -, hs₀, hs₁, -⟩ := hlayout
  refine ⟨hcontrol, hring, fun index hindex => ?_⟩
  interval_cases index
  · exact ⟨h₀, hs₀⟩
  · exact ⟨h₁, hs₁⟩

theorem control (h : Mapped session) : getSharedControl session = some session.control := by
  rw [getSharedControl, h.header, Option.bind_some, if_pos h.regions.1]

theorem eventRing (h : Mapped session) : getSharedEventRing session = some session.eventRing := by
  rw [getSharedEventRing, h.header, Option.bind_some, if_pos h.regions.2.1]

theorem ruleBank (h : Mapped session) {index : Nat} (hindex : index < 2) :
    getSharedRuleBank session index = some (session.ruleBanks index) := by
  rw [getSharedRuleBank, h.header, Option.bind_some,
    if_pos ⟨hindex, (h.regions.2.2 index hindex).1⟩]

end Mapped

structure Framed (session : SharedSession) : Prop extends Mapped session where
  ringValid : sessionRingValid session.eventRing session.header = true
  controlValid : sessionControlValid session.control = true

theorem activeRuleBank_le {control : SharedControlPage} (h : sessionControlValid control = true) :
    control.activeRuleBank ≤ 1 := by
  simp only [sessionControlValid, decide_eq_true_eq, not_or, not_lt] at h
  exact h.1.1

/-- Validity as what the frame and each bank must satisfy. -/
structure ValidSession (session : SharedSession) : Prop extends Framed session where
  generation : session.activeBank.generation = session.control.publishedGeneration
  active : bankLayoutValid session.activeBank sharedRuleBankBytes true = true
  inactive : bankLayoutValid session.inactiveBank sharedRuleBankBytes
    (session.inactiveBank.generation ≠ 0) = true

theorem Mapped.validate (h : Mapped session) :
    validateSharedSession session = true ↔ ValidSession session := by
  simp only [validateSharedSession, h.header, h.layout, h.eventRing, h.control, not_true,
    if_false]
  split_ifs with hbad
  · refine ⟨(nomatch ·), fun hvalid => ?_⟩
    simp [hvalid.ringValid, hvalid.controlValid] at hbad
  · obtain ⟨hring, hcontrol⟩ := not_or.mp hbad
    have hactive := activeRuleBank_le (not_not.mp hcontrol)
    rw [h.ruleBank (by omega), h.ruleBank (by omega)]
    simp only [decide_eq_true_eq, (h.regions.2.2 _ (Nat.lt_succ_of_le hactive)).2,
      (h.regions.2.2 (1 - session.control.activeRuleBank) (by omega)).2]
    exact ⟨fun ⟨hgeneration, hvalid, hother⟩ =>
      ⟨⟨h, not_not.mp hring, not_not.mp hcontrol⟩, hgeneration, hvalid, hother⟩,
      fun hvalid => ⟨hvalid.generation, hvalid.active, hvalid.inactive⟩⟩

theorem validateSharedSession_iff : validateSharedSession session = true ↔ ValidSession session := by
  by_cases hmapped : Mapped session
  · exact hmapped.validate
  · refine ⟨fun h => absurd ?_ hmapped, fun h => absurd h.toMapped hmapped⟩
    unfold validateSharedSession at h
    cases hheader : getSharedHeader session with
    | none => simp [hheader] at h
    | some header =>
      have heq : header = session.header := by
        unfold getSharedHeader at hheader
        split_ifs at hheader
        exact (Option.some.inj hheader).symm
      subst heq
      refine ⟨hheader, ?_⟩
      by_contra hlayout
      simp [hheader, hlayout] at h

section Creation

theorem le_alignUp {value alignment : Nat} (h : 0 < alignment) : value ≤ alignUp value alignment := by
  have hdiv := Nat.div_add_mod (value + alignment - 1) alignment
  have hmod := Nat.mod_lt (value + alignment - 1) h
  rw [alignUp, Nat.mul_comm]
  omega

theorem sessionRegions_ordered {pageSize : Nat} (h : 0 < pageSize) (eventCapacity : Nat) :
    let regions := sessionRegions pageSize eventCapacity
    pageSize + pageSize ≤ regions.eventRing.offset ∧
      regions.eventRing.offset + regions.eventRing.size ≤ regions.bank0.offset ∧
      regions.bank1.offset = regions.bank0.offset + sharedRuleBankBytes ∧
      regions.bank1.offset + sharedRuleBankBytes ≤ regions.prefixSize ∧
      eventRingBytes eventCapacity ≤ regions.eventRing.size :=
  ⟨le_alignUp h, le_alignUp h, rfl, le_alignUp h, le_alignUp h⟩

structure Created (host : SessionHost) (target : SessionTarget) (config : HookselfConfig)
    (backing : VirtualBacking) (session : SharedSession) : Prop where
  accepted : Accepted config
  page : 0 < session.header.pageSize ∧ session.header.pageSize &&& (session.header.pageSize - 1) = 0
  header : session.header = initialHeader target session.header.pageSize
    session.traceeScratchMapping (sessionRegions session.header.pageSize config.eventCapacity)
  fd : 0 ≤ session.fd ∧ session.fdObjectUnchanged = true
  sizes : session.prefixSize =
      (sessionRegions session.header.pageSize config.eventCapacity).prefixSize ∧
    session.scratchSize = sharedScratchBytes ∧
    session.totalSize = session.prefixSize + sharedScratchBytes
  control : session.control = initialControl config
  eventRing : initializeEventRing
    (sessionRegions session.header.pageSize config.eventCapacity).eventRing.size
    config.eventCapacity = some session.eventRing
  bank0 : serializeInto config 1 sharedRuleBankBytes backing = (true, session.ruleBanks 0)
  bank1 : session.ruleBanks 1 = initializeBankImage sharedRuleBankBytes

theorem createSharedSession_created {host : SessionHost} {target : SessionTarget}
    {backing : VirtualBacking} (h : createSharedSession host target config backing = .ok session) :
    Created host target config backing session := by
  unfold createSharedSession at h
  dsimp only at h
  by_cases htarget : target.pid ≤ 0 ∨ target.bootstrapTid ≤ 0
  · rw [if_pos htarget] at h
    exact nomatch h
  rw [if_neg htarget] at h
  by_cases hconfig : hookselfValidateConfig (some config) = .ok
  swap
  · rw [if_pos hconfig] at h
    exact nomatch h
  rw [if_neg (not_not.mpr hconfig)] at h
  split_ifs at h with hpage htotal
  push Not at hpage
  cases hopen : openSessionMemory host with
  | error error => simp [hopen] at h
  | ok memory =>
    obtain ⟨fd, prefixMapping, scratchMapping⟩ := memory
    rw [hopen] at h
    dsimp only at h
    split at h
    · rename_i eventRing bank hring hbank
      obtain rfl := Except.ok.inj h
      exact ⟨hookselfValidateConfig_ok.mp hconfig, ⟨Int.lt_toNat.mpr hpage.1, hpage.2⟩, rfl,
        ⟨Int.natCast_nonneg _, rfl⟩, ⟨rfl, rfl, rfl⟩, rfl, hring, hbank, rfl⟩
    · exact nomatch h

namespace Created

variable {host : SessionHost} {target : SessionTarget} {backing : VirtualBacking}

theorem layout (h : Created host target config backing session)
    (hmapping : session.prefixMapping ≠ 0)
    (hscratch : session.traceeScratchMapping ≠ 0) :
    sessionLayoutValid session session.header = true ↔
      session.header.pageSize ∣ sharedScratchBytes := by
  have hordered := sessionRegions_ordered h.page.1 config.eventCapacity
  obtain ⟨hprefixSize, hscratchSize, htotalSize⟩ := h.sizes
  have hpage := h.page
  have hheader := h.header
  generalize session.header.pageSize = pageSize at *
  obtain ⟨hring, hbank₀, hbank₁, hend, -⟩ := hordered
  have hinside : ∀ region : SharedRegion, region.offset + region.size ≤ session.prefixSize →
      regionInsidePrefix session region = true := by
    intro region hregion
    simp only [regionInsidePrefix, decide_eq_true_eq]
    exact ⟨hmapping, by omega, by omega⟩
  have hcontrol := hinside (sessionRegions pageSize config.eventCapacity).control
    (show pageSize + pageSize ≤ _ by omega)
  have hregion := hinside (sessionRegions pageSize config.eventCapacity).eventRing (by omega)
  have hregion₀ := hinside (sessionRegions pageSize config.eventCapacity).bank0
    (show _ + sharedRuleBankBytes ≤ _ by omega)
  have hregion₁ := hinside (sessionRegions pageSize config.eventCapacity).bank1
    (show _ + sharedRuleBankBytes ≤ _ by omega)
  have haligned : session.prefixSize % pageSize = 0 := by
    rw [hprefixSize]
    exact Nat.mul_mod_left ..
  have hsize₀ : (sessionRegions pageSize config.eventCapacity).bank0.size = sharedRuleBankBytes := rfl
  have hsize₁ : (sessionRegions pageSize config.eventCapacity).bank1.size = sharedRuleBankBytes := rfl
  have hsizeControl : (sessionRegions pageSize config.eventCapacity).control.size = pageSize := rfl
  rw [hheader]
  simp [sessionLayoutValid, initialHeader, h.fd.1, h.fd.2, hscratch, hpage.1.ne', hpage.2,
    hscratchSize, htotalSize, haligned, hcontrol, hregion, hregion₀, hregion₁, hsize₀, hsize₁, 
    hsizeControl, ← hprefixSize, Nat.dvd_iff_mod_eq_zero]

theorem valid (h : Created host target config backing session)
    (hmapping : session.prefixMapping ≠ 0)
    (hscratch : session.traceeScratchMapping ≠ 0)
    (hpage : session.header.pageSize ∣ sharedScratchBytes) : ValidSession session where
  header := by
    have hend := (sessionRegions_ordered h.page.1 config.eventCapacity).2.2.2.1
    have hsize : sizeofSharedHeader ≤ sharedRuleBankBytes := by decide +kernel
    rw [getSharedHeader, if_neg]
    push Not
    exact ⟨hmapping, by have := h.sizes.1; omega⟩
  layout := (h.layout hmapping hscratch).mpr hpage
  ringValid := by
    have hring := h.eventRing
    have hfits := (sessionRegions_ordered h.page.1 config.eventCapacity).2.2.2.2
    unfold initializeEventRing at hring
    split_ifs at hring with hbad
    have hcapacity : ¬(config.eventCapacity = 0 ∨ config.eventCapacity > maxEventCapacity) :=
      fun hout => hbad (.inl (if_pos hout))
    rw [← Option.some.inj hring, h.header]
    simp only [sessionRingValid, initialHeader, decide_eq_true_eq, ne_eq, not_true, false_or]
    rw [← or_assoc]
    exact not_or.mpr ⟨hcapacity, not_lt.mpr hfits⟩
  controlValid := by
    rw [h.control]
    simp [sessionControlValid, initialControl, kMaxProtectedFds, fdOperationComplete,
      selectiveInstallAmbiguousFatal]
  generation := by
    have hserialized := serializeInto_serialized h.accepted.wellShaped 1 backing
    rw [h.bank0] at hserialized
    rw [SharedSession.activeBank, h.control]
    exact hserialized.generation
  active := by
    have hvalid := serializeInto_valid h.accepted.wellShaped one_ne_zero backing
    rw [h.bank0] at hvalid
    rw [SharedSession.activeBank, h.control]
    exact hvalid.mpr (.inl rfl)
  inactive := by
    have hbank : session.inactiveBank = initializeBankImage sharedRuleBankBytes := by
      rw [SharedSession.inactiveBank, h.control]
      exact h.bank1
    rw [hbank]
    decide +kernel

end Created

end Creation

end HookSelf.RuleBank
