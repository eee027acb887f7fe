import HookSelf.Collections.Refinement
import HookSelf.RuleBank.Publish

/-! Runs of publications: to its readers a session is a store of the last published configuration. -/

namespace HookSelf.RuleBank

open PathState Config Refinement

/-- What the readers of a session are given, and the state that decides on the next publication. -/
@[ext]
structure Store where
  content : BankContent
  flags : BitVec 32
  failureMode : Int
  logLevel : Int
  backend : Int
  generation : Nat
  tracerState : Nat
  deriving DecidableEq

def Store.replace (config : HookselfConfig) (backing : VirtualBacking) (store : Store) : Store where
  content := configContent config backing
  flags := config.flags
  failureMode := config.failureMode
  logLevel := config.logLevel
  backend := config.backend
  generation := store.generation + 1
  tracerState := store.tracerState

def Store.publish (config : HookselfConfig) (backing : VirtualBacking) (store : Store) :
    HookselfResult × Store :=
  if hookselfValidateConfig (some config) ≠ .ok then (hookselfValidateConfig (some config), store)
  else if ¬Publishable store.tracerState then (.invalidState, store)
  else if store.generation = uint64Max then (.internal, store)
  else (.ok, store.replace config backing)

def SharedSession.store (session : SharedSession) : Store where
  content := decodeBank session.activeBank.toSharedRuleBank
  flags := session.control.configFlags
  failureMode := session.control.failureMode
  logLevel := session.control.logLevel
  backend := session.control.backend
  generation := session.control.publishedGeneration
  tracerState := session.control.tracerState

inductive SessionCall
  | publish (config : HookselfConfig) (backing : VirtualBacking)
  | setTracerState (state : Nat)

/-- A configuration that would be accepted has strings that end in their arrays. -/
def SessionCall.Terminated : SessionCall → Prop
  | .publish config backing => hookselfValidateConfig (some config) = .ok →
    Serializable config backing
  | .setTracerState _ => True

def SessionCall.run (session : SharedSession) : SessionCall → HookselfResult × SharedSession
  | .publish config backing => publishSharedConfig config backing session
  | .setTracerState state => (.ok, session.withTracerState state)

def SessionCall.runStore (store : Store) : SessionCall → HookselfResult × Store
  | .publish config backing => store.publish config backing
  | .setTracerState state => (.ok, { store with tracerState := state })

variable {session : SharedSession} {config : HookselfConfig} {backing : VirtualBacking}

theorem activeBank_switchBank (config : HookselfConfig) (session : SharedSession)
    (bank : BankImage) : (switchBank config session bank).activeBank = bank :=
  Function.update_self ..

theorem ValidSession.switchBank (h : ValidSession session) {bank : BankImage}
    (hgeneration : bank.generation = session.control.publishedGeneration + 1)
    (hbank : bankLayoutValid bank sharedRuleBankBytes true = true) :
    ValidSession (switchBank config session bank) := by
  have hle := h.active_le
  have hcontrol := h.controlValid
  simp only [sessionControlValid, decide_eq_true_eq, not_or] at hcontrol
  obtain ⟨⟨-, hpositive, hrest⟩, hbypass⟩ := hcontrol
  have hold : (RuleBank.switchBank config session bank).inactiveBank = session.activeBank := by
    have hback : 1 - (1 - session.control.activeRuleBank) = session.control.activeRuleBank := by
      omega
    rw [SharedSession.inactiveBank, SharedSession.activeBank]
    show Function.update session.ruleBanks (1 - session.control.activeRuleBank) bank
      (1 - (1 - session.control.activeRuleBank)) = _
    rw [hback]
    exact Function.update_of_ne (by omega) _ _
  exact {
    header := h.header
    layout := h.layout
    ringValid := h.ringValid
    controlValid := by
      simp only [sessionControlValid, decide_eq_true_eq, not_or]
      exact ⟨⟨show ¬1 - session.control.activeRuleBank > 1 by omega, Nat.succ_ne_zero _, hrest⟩,
        hbypass⟩
    generation := by
      rw [activeBank_switchBank]
      exact hgeneration
    active := (activeBank_switchBank config session bank).symm ▸ hbank
    inactive := by
      rw [hold, decide_eq_true (by rw [h.generation]; exact hpositive)]
      exact h.active }

theorem publish_refused (h : ValidSession session) (hready : ¬Ready config session) :
    publishSharedConfig config backing session =
      ((session.store.publish config backing).1, session) ∧
    (session.store.publish config backing).2 = session.store := by
  by_cases hconfig : hookselfValidateConfig (some config) = .ok
  swap
  · rw [publishSharedConfig, Store.publish, if_pos hconfig, if_pos hconfig]
    exact ⟨rfl, rfl⟩
  have hvalid := validateSharedSession_iff.mpr h
  rw [publishSharedConfig, Store.publish, if_neg (not_not.mpr hconfig),
    if_neg (not_not.mpr hconfig), if_neg (not_not.mpr hvalid)]
  by_cases hstate : Publishable session.control.tracerState
  swap
  · rw [if_pos hstate, if_pos (show ¬Publishable session.store.tracerState from hstate)]
    exact ⟨rfl, rfl⟩
  have hmax : session.control.publishedGeneration = uint64Max := by
    by_contra hmax
    exact hready ⟨hookselfValidateConfig_ok.mp hconfig, hstate, hmax⟩
  rw [if_neg (not_not.mpr hstate), if_pos (.inr hmax),
    if_neg (not_not.mpr (show Publishable session.store.tracerState from hstate)),
    if_pos (show session.store.generation = uint64Max from hmax)]
  exact ⟨rfl, rfl⟩

theorem publish_refines (h : ValidSession session)
    (hterminated : (SessionCall.publish config backing).Terminated) :
    Refines ValidSession SharedSession.store (publishSharedConfig config backing session)
      (session.store.publish config backing) := by
  by_cases hready : Ready config session
  · have hconfig := hookselfValidateConfig_ok.mpr hready.accepted
    have hshape := hready.accepted.wellShaped
    have hserialized := (serializeInto_ok hready.accepted
      (session.control.publishedGeneration + 1) backing).mpr (hterminated hconfig)
    have hpublish : session.store.publish config backing =
        (.ok, session.store.replace config backing) := by
      rw [Store.publish, if_neg (not_not.mpr hconfig)]
      exact (if_neg (not_not.mpr hready.state)).trans (if_neg hready.generation)
    rw [(publishSharedConfig_ready h hready backing).1 (hterminated hconfig), hpublish]
    refine ⟨h.switchBank (serializeInto_serialized hshape _ backing).generation
      ((serializeInto_valid hshape (Nat.succ_ne_zero _) backing).mpr (.inl hserialized)), rfl, ?_⟩
    refine Store.ext ?_ rfl rfl rfl rfl rfl rfl
    show decodeBank (switchBank config session _).activeBank.toSharedRuleBank = _
    rw [activeBank_switchBank]
    exact serializeConfig_decodes (serializeConfig_eq_some.mpr ⟨hserialized, rfl⟩)
  · obtain ⟨hrefused, hkept⟩ := @publish_refused session config backing h hready
    rw [hrefused]
    exact ⟨h, rfl, hkept.symm⟩

end HookSelf.RuleBank
