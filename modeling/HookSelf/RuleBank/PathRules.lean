import HookSelf.Collections.Selection
import HookSelf.RuleBank.Bank

namespace HookSelf.RuleBank

open PathState Config Selection

section Model

def PrefixMatches (path pfx : List UInt8) : Prop :=
  pfx <+: path ∧
    (pfx = [slash] ∨ pfx.length = path.length ∨ path[pfx.length]? = some slash)

instance (path pfx : List UInt8) : Decidable (PrefixMatches path pfx) :=
  inferInstanceAs (Decidable (_ ∧ _))

/-- One iteration of a selection loop: `rule` against the rule selected so far, by the length of
the prefix matched and then by priority. -/
def considerRule (eligible : SharedPathRuleDesc → Prop) [DecidablePred eligible]
    (matched : SharedPathRuleDesc → SharedStringRef)
    (selected : Option (SharedPathRuleDesc × Nat)) (rule : SharedPathRuleDesc × Nat) :
    Option (SharedPathRuleDesc × Nat) :=
  if ¬eligible rule.1 then selected
  else
    match selected with
    | none => some rule
    | some best =>
      if (matched rule.1).length - 1 > (matched best.1).length - 1 ∨
          ((matched rule.1).length - 1 = (matched best.1).length - 1 ∧
            rule.1.priority ≥ best.1.priority) then some rule
      else some best

def selectRule (eligible : SharedPathRuleDesc → Prop) [DecidablePred eligible]
    (matched : SharedPathRuleDesc → SharedStringRef) (rules : List SharedPathRuleDesc) :
    Option (SharedPathRuleDesc × Nat) :=
  rules.zipIdx.foldl (considerRule eligible matched) none

def AppliesTo (bank : SharedRuleBank) (path : List UInt8) (operations : BitVec 32)
    (rule : SharedPathRuleDesc) : Prop :=
  rule.operationMask &&& operations ≠ 0 ∧ PrefixMatches path (bankString bank rule.guestPrefix)

instance (bank : SharedRuleBank) (path : List UInt8) (operations : BitVec 32) :
    DecidablePred (AppliesTo bank path operations) :=
  fun _ => inferInstanceAs (Decidable (_ ∧ _))

def selectPathRule (bank : Option SharedRuleBank) (path : List UInt8) (operations : BitVec 32) :
    Option (SharedPathRuleDesc × Nat) :=
  match bank with
  | none => none
  | some bank => selectRule (AppliesTo bank path operations) (·.guestPrefix) bank.pathRules

def pushByte (capacity : Nat) (output : List UInt8) (byte : UInt8) : Option (List UInt8) :=
  if output.length + 1 ≥ capacity then none else some (output ++ [byte])

def pushBytes (capacity : Nat) (output bytes : List UInt8) : Option (List UInt8) :=
  bytes.foldlM (pushByte capacity) output

/-- Both translations: `input` with its first `matchedLength` bytes replaced by `replacement`. -/
def splicePath (matchedLength : Nat) (replacement input : List UInt8) (capacity : Nat) :
    Option (List UInt8) := do
  let output ← pushBytes capacity [] replacement
  let output ←
    if matchedLength = 1 ∧ matchedLength < input.length ∧ replacement ≠ [slash] then
      pushByte capacity output slash
    else some output
  let suffixStart :=
    if matchedLength ≠ 1 ∧ matchedLength < input.length ∧ replacement = [slash] then
      matchedLength + 1
    else matchedLength
  pushBytes capacity output (input.drop suffixStart)

def translatePath (bank : SharedRuleBank) (rule : SharedPathRuleDesc) (input : List UInt8)
    (outputCapacity : Nat) : Option (List UInt8) :=
  splicePath (rule.guestPrefix.length - 1) (bankString bank rule.hostPrefix) input outputCapacity

def RevealsPath (bank : SharedRuleBank) (hostPath : List UInt8) (rule : SharedPathRuleDesc) : Prop :=
  rule.action = pathRedirect ∧ rule.flags &&& pathRuleReverseVisible ≠ 0 ∧
    rule.hostPrefix.length ≠ 0 ∧ PrefixMatches hostPath (bankString bank rule.hostPrefix)

instance (bank : SharedRuleBank) (hostPath : List UInt8) :
    DecidablePred (RevealsPath bank hostPath) :=
  fun _ => inferInstanceAs (Decidable (_ ∧ _))

def selectReverseRule (bank : Option SharedRuleBank) (hostPath : List UInt8) :
    Option (SharedPathRuleDesc × Nat) :=
  match bank with
  | none => none
  | some bank => selectRule (RevealsPath bank hostPath) (·.hostPrefix) bank.pathRules

structure ReversePath where
  guestPath : List UInt8
  translated : Bool
  ruleId : Nat
  deriving DecidableEq

def reverseTranslatePath (bank : Option SharedRuleBank) (hostPath : List UInt8)
    (guestCapacity : Nat) : Except Errno ReversePath :=
  if guestCapacity = 0 then .error .einval
  else
    match bank, selectReverseRule bank hostPath with
    | some bank, some (selected, _) =>
      match splicePath (selected.hostPrefix.length - 1) (bankString bank selected.guestPrefix)
          hostPath guestCapacity with
      | none => .error .enametoolong
      | some guestPath => .ok ⟨guestPath, true, selected.ruleId⟩
    | _, _ =>
      if hostPath.length + 1 > guestCapacity then .error .enametoolong
      else .ok ⟨hostPath, false, 0⟩

end Model

section Selection

variable {eligible : SharedPathRuleDesc → Prop} [DecidablePred eligible]
  {matched : SharedPathRuleDesc → SharedStringRef}

def ruleRank (matched : SharedPathRuleDesc → SharedStringRef) (rule : SharedPathRuleDesc) : Nat ×ₗ Int :=
  toLex ((matched rule).length - 1, rule.priority)

theorem considerRule_eq : considerRule eligible matched =
    keepBest (fun x => eligible x.1) fun x y => ruleRank matched x.1 ≤ ruleRank matched y.1 := by
  funext selected rule
  by_cases h : eligible rule.1
  · cases selected with
    | none => simp [considerRule, keepBest, h]
    | some best =>
      simp only [considerRule, keepBest, h, ruleRank, Prod.Lex.toLex_le_toLex, not_true_eq_false,
        if_true, if_false, gt_iff_lt, ge_iff_le, eq_comm]
  · simp [considerRule, keepBest, h]

theorem selectRule_eq (rules : List SharedPathRuleDesc) :
    selectRule eligible matched rules = lastMaxAt eligible (ruleRank matched) rules := by
  rw [selectRule, considerRule_eq]
  rfl

end Selection

section Splicing

variable {capacity : Nat} {out bytes old new path : List UInt8}

theorem pushBytes_eq_some : pushBytes capacity out bytes = some path ↔
    path = out ++ bytes ∧ (bytes = [] ∨ out.length + bytes.length < capacity) := by
  induction bytes generalizing out with
  | nil => simp [pushBytes, eq_comm]
  | cons b bs ih =>
    rw [pushBytes, List.foldlM_cons, Option.bind_eq_bind, Option.bind_eq_some_iff]
    simp only [pushByte]
    constructor
    · rintro ⟨mid, hmid, h⟩
      split_ifs at hmid with hfull
      obtain rfl := Option.some.inj hmid
      obtain ⟨rfl, hroom⟩ := ih.mp h
      refine ⟨by simp, .inr ?_⟩
      rcases hroom with rfl | hroom
      · simpa using hfull
      · simp only [List.length_append, List.length_cons, List.length_nil] at hroom ⊢
        omega
    · rintro ⟨rfl, hroom⟩
      have hlt : out.length + (bs.length + 1) < capacity := by simpa using hroom
      refine ⟨out ++ [b], if_neg (by omega), ih.mpr ⟨by simp, .inr ?_⟩⟩
      simp only [List.length_append, List.length_cons, List.length_nil]
      omega

def suffixUnder (pfx path : List UInt8) : List UInt8 :=
  if pfx = [slash] then (if path.length = 1 then [] else path) else path.drop pfx.length

/-- A suffix put below a prefix; below the root the suffix's own slash is the root. -/
def graft (pfx suffix : List UInt8) : List UInt8 :=
  if pfx = [slash] ∧ suffix ≠ [] then suffix else pfx ++ suffix

theorem PrefixMatches.eq_append (h : PrefixMatches path old) : path = old ++ path.drop old.length :=
  List.prefix_iff_eq_append.mp h.1 |>.symm

theorem PrefixMatches.drop (h : PrefixMatches path old) (hroot : old ≠ [slash]) :
    path.drop old.length = [] ∨
      path.drop old.length = slash :: path.drop (old.length + 1) := by
  rcases h.2 with hone | hlen | hslash
  · exact absurd hone hroot
  · exact .inl (by simp [hlen])
  · obtain ⟨hlt, hget⟩ := List.getElem?_eq_some_iff.mp hslash
    exact .inr (by rw [List.drop_eq_getElem_cons hlt, hget])

theorem PrefixMatches.suffixUnder_boundary (h : PrefixMatches path old) :
    suffixUnder old path = [] ∨ (suffixUnder old path).head? = some slash := by
  by_cases hroot : old = [slash]
  · subst hroot
    have hpath := h.eq_append
    rw [suffixUnder, if_pos rfl]
    split_ifs
    · exact .inl rfl
    · exact .inr (by rw [hpath]; rfl)
  · rw [suffixUnder, if_neg hroot]
    exact (h.drop hroot).imp_right fun hd => by rw [hd]; rfl

theorem PrefixMatches.graft_suffixUnder (h : PrefixMatches path old) :
    graft old (suffixUnder old path) = path := by
  have hpath := h.eq_append
  by_cases hroot : old = [slash]
  · subst hroot
    simp only [suffixUnder, graft, if_true, true_and]
    by_cases hlen : path.length = 1
    · obtain ⟨b, rfl⟩ := List.length_eq_one_iff.mp hlen
      simpa using hpath.symm
    · have hne : path ≠ [] := by rw [hpath]; simp
      simp [hlen, hne]
  · simp [suffixUnder, graft, hroot, ← hpath]

theorem pushBytes_bind (capacity : Nat) (out a b : List UInt8) :
    (pushBytes capacity out a >>= fun mid => pushBytes capacity mid b) =
      pushBytes capacity out (a ++ b) := by
  simp [pushBytes, List.foldlM_append]

theorem splicePath_eq (n : Nat) (new path : List UInt8) (capacity : Nat) :
    splicePath n new path capacity = pushBytes capacity [] (new ++
      ((if n = 1 ∧ n < path.length ∧ new ≠ [slash] then [slash] else []) ++
        path.drop (if n ≠ 1 ∧ n < path.length ∧ new = [slash] then n + 1 else n))) := by
  rw [← pushBytes_bind]
  refine congrArg (_ >>= ·) (funext fun mid => ?_)
  rw [← pushBytes_bind]
  split_ifs with h <;> simp [pushBytes]

theorem PrefixMatches.spliced_eq_graft (h : PrefixMatches path old)
    (habs : old.head? = some slash) (new : List UInt8) :
    new ++ ((if old.length = 1 ∧ old.length < path.length ∧ new ≠ [slash] then [slash] else []) ++
      path.drop (if old.length ≠ 1 ∧ old.length < path.length ∧ new = [slash] then old.length + 1
        else old.length)) = graft new (suffixUnder old path) := by
  by_cases hroot : old = [slash]
  · subst hroot
    obtain ⟨rest, rfl⟩ : ∃ rest, path = slash :: rest := ⟨_, h.eq_append⟩
    cases rest with
    | nil => simp [suffixUnder, graft]
    | cons b rest =>
      by_cases hnew : new = [slash]
      · simp [suffixUnder, graft, hnew]
      · simp [suffixUnder, graft, hnew]
  · have hlen : old.length ≠ 1 := by
      intro hone
      obtain ⟨b, rfl⟩ := List.length_eq_one_iff.mp hone
      exact hroot (by simpa using habs)
    rw [suffixUnder, if_neg hroot, graft, if_neg (fun hc => hlen hc.1), List.nil_append]
    rcases h.drop hroot with hnil | hcons
    · have hle := List.drop_eq_nil_iff.mp hnil
      rw [if_neg (fun hc => absurd hc.2.1 (by omega)), hnil, if_neg (fun hc => hc.2 rfl)]
    · have hlt : old.length < path.length := by
        by_contra hge
        rw [List.drop_eq_nil_of_le (not_lt.mp hge)] at hcons
        exact absurd hcons (by simp)
      by_cases hnew : new = [slash]
      · rw [if_pos ⟨hlen, hlt, hnew⟩, hcons, if_pos ⟨hnew, by simp⟩, hnew]
        rfl
      · rw [if_neg (fun hc => hnew hc.2.2), if_neg (fun hc => hnew hc.1)]

theorem splicePath_eq_some (h : PrefixMatches path old) (habs : old.head? = some slash) :
    splicePath old.length new path capacity = some out ↔
      out = graft new (suffixUnder old path) ∧ (out = [] ∨ out.length < capacity) := by
  rw [splicePath_eq, h.spliced_eq_graft habs, pushBytes_eq_some, List.nil_append]
  refine and_congr_right fun hout => ?_
  rw [hout]
  simp

theorem suffixUnder_graft (pfx suffix : List UInt8) : suffixUnder pfx (graft pfx suffix) =
    if pfx = [slash] ∧ suffix.length = 1 then [] else suffix := by
  by_cases hroot : pfx = [slash]
  · cases suffix with
    | nil => simp [suffixUnder, graft, hroot]
    | cons b suffix => simp [suffixUnder, graft, hroot]
  · simp [suffixUnder, graft, hroot]

/-- Translating the translation back gives the path itself, or the path without the slash it
ended in. -/
theorem PrefixMatches.graft_back (h : PrefixMatches path old) (new : List UInt8) :
    graft old (suffixUnder new (graft new (suffixUnder old path))) = path ∨
      graft old (suffixUnder new (graft new (suffixUnder old path))) ++ [slash] = path := by
  have hpath := h.graft_suffixUnder
  rw [suffixUnder_graft]
  split_ifs with hlost
  · refine .inr ?_
    obtain ⟨b, hb⟩ := List.length_eq_one_iff.mp hlost.2
    have hslash : suffixUnder old path = [slash] := by
      have hhead := h.suffixUnder_boundary
      rw [hb] at hhead ⊢
      simpa using hhead
    have hroot : old ≠ [slash] := by
      rintro rfl
      simp only [suffixUnder, if_true] at hslash
      split_ifs at hslash with hlen
      exact hlen (by simp [hslash])
    rw [hslash] at hpath
    simpa [graft, hroot] using hpath
  · exact .inl hpath

end Splicing

section Policy

variable {bank : SharedRuleBank} {path hostPath : List UInt8} {operations : BitVec 32}
  {rule : SharedPathRuleDesc} {index : Nat}

theorem selectReverseRule_reveals (h : selectReverseRule (some bank) hostPath = some (rule, index)) :
    rule ∈ bank.pathRules ∧ RevealsPath bank hostPath rule := by
  rw [selectReverseRule, selectRule_eq] at h
  obtain ⟨hget, hreveals, -⟩ := lastMaxAt_max h
  exact ⟨List.mem_of_getElem? hget, hreveals⟩

theorem Published.reverseTranslatePath_eq (hbank : Published bank) {guestCapacity : Nat}
    (hsel : selectReverseRule (some bank) hostPath = some (rule, index))
    (hroom : (graft (bankString bank rule.guestPrefix)
      (suffixUnder (bankString bank rule.hostPrefix) hostPath)).length < guestCapacity) :
    reverseTranslatePath (some bank) hostPath guestCapacity =
      .ok ⟨graft (bankString bank rule.guestPrefix)
        (suffixUnder (bankString bank rule.hostPrefix) hostPath), true, rule.ruleId⟩ := by
  obtain ⟨hrule, haction, -, -, hmatch⟩ := selectReverseRule_reveals hsel
  have hsplice := (splicePath_eq_some hmatch (hbank.host_head hrule haction)).mpr ⟨rfl, .inr hroom⟩
  rw [bankString_length] at hsplice
  simp only [reverseTranslatePath, if_neg (Nat.ne_of_gt (Nat.zero_lt_of_lt hroom)), hsel, hsplice]

theorem Published.reverseTranslatePath_graft (hbank : Published bank)
    (hmatch : PrefixMatches path (bankString bank rule.guestPrefix)) {guestCapacity : Nat}
    (hroom : path.length < guestCapacity)
    (hsame : selectReverseRule (some bank) (graft (bankString bank rule.hostPrefix)
      (suffixUnder (bankString bank rule.guestPrefix) path)) = some (rule, index)) :
    ∃ guest, reverseTranslatePath (some bank) (graft (bankString bank rule.hostPrefix)
        (suffixUnder (bankString bank rule.guestPrefix) path)) guestCapacity =
          .ok ⟨guest, true, rule.ruleId⟩ ∧ (guest = path ∨ guest ++ [slash] = path) := by
  have hback := hmatch.graft_back (bankString bank rule.hostPrefix)
  refine ⟨_, hbank.reverseTranslatePath_eq hsame (lt_of_le_of_lt ?_ hroom), hback⟩
  rcases hback with h | h
  · exact (congrArg List.length h).le
  · have := congrArg List.length h
    simp only [List.length_append] at this
    omega

/-- The longest matching guest prefix wins, then the priority, then the later rule; its
translation puts the same suffix below the host prefix, and the reverse translation by the same
rule gives the path back up to a trailing slash. -/
theorem selectPathRule_translates_and_reverses (hbank : Published bank) (path : List UInt8)
    (operations : BitVec 32) :
    (∀ rule index, selectPathRule (some bank) path operations = some (rule, index) ↔
      bank.pathRules[index]? = some rule ∧ AppliesTo bank path operations rule ∧
        ∀ j other, bank.pathRules[j]? = some other → AppliesTo bank path operations other →
          toLex (ruleRank (·.guestPrefix) other, j) ≤ toLex (ruleRank (·.guestPrefix) rule, index)) ∧
    (selectPathRule (some bank) path operations = none ↔
      ∀ rule ∈ bank.pathRules, ¬AppliesTo bank path operations rule) ∧
    ∀ rule index, selectPathRule (some bank) path operations = some (rule, index) →
      ∃ suffix, (suffix = [] ∨ suffix.head? = some slash) ∧
        path = graft (bankString bank rule.guestPrefix) suffix ∧
        (∀ capacity out, translatePath bank rule path capacity = some out ↔
          out = graft (bankString bank rule.hostPrefix) suffix ∧
            (out = [] ∨ out.length < capacity)) ∧
        ∀ guestCapacity, path.length < guestCapacity →
          selectReverseRule (some bank) (graft (bankString bank rule.hostPrefix) suffix) =
            some (rule, index) →
          ∃ guest, reverseTranslatePath (some bank)
              (graft (bankString bank rule.hostPrefix) suffix) guestCapacity =
                .ok ⟨guest, true, rule.ruleId⟩ ∧ (guest = path ∨ guest ++ [slash] = path) := by
  simp only [selectPathRule, selectRule_eq]
  refine ⟨fun _ _ => lastMaxAt_eq_some_iff, ?_, fun rule index h => ?_⟩
  · rw [lastMaxAt_eq_none_iff]
    exact ⟨fun h rule hrule => (List.getElem?_of_mem hrule).elim fun j hj => h j rule hj,
      fun h j rule hj => h rule (List.mem_of_getElem? hj)⟩
  · obtain ⟨hget, ⟨-, hmatch⟩, -⟩ := lastMaxAt_max h
    have hrule := List.mem_of_getElem? hget
    refine ⟨_, hmatch.suffixUnder_boundary, hmatch.graft_suffixUnder.symm, fun capacity out => ?_,
      fun guestCapacity hroom hsame => hbank.reverseTranslatePath_graft hmatch hroom hsame⟩
    rw [translatePath, ← bankString_length bank rule.guestPrefix]
    exact splicePath_eq_some hmatch (hbank.guest_head hrule)

def rootRedirectConfig : HookselfConfig :=
  { hookselfDefaultConfig with
    pathRules := ⟨1, some fun _ =>
      { structSize := sizeofPathRule, ruleId := 1, priority := 0, action := pathRedirect,
        operationMask := pathOpAll, flags := pathRuleReverseVisible, denyErrno := 0,
        guestPrefix := ofBytes [slash, 97], hostPrefix := rootPath }⟩ }

def rootRedirectBank : SharedRuleBank :=
  (serializeConfig rootRedirectConfig 1 ⟨none, none⟩).getD (initializeBankLayout 0)

theorem rootRedirectBank_published : Published rootRedirectBank := by
  have hsome : (serializeConfig rootRedirectConfig 1 ⟨none, none⟩).isSome := by decide +kernel
  obtain ⟨bank, hbank⟩ := Option.isSome_iff_exists.mp hsome
  refine ⟨rootRedirectConfig, 1, ⟨none, none⟩, by decide +kernel, ?_⟩
  rw [rootRedirectBank, hbank, Option.getD_some]

theorem rootRedirect_translates_and_reverses :
    ∃ rule, selectPathRule (some rootRedirectBank) [slash, 97, slash] pathOpRead = some (rule, 0) ∧
      ∃ suffix, [slash, 97, slash] = graft (bankString rootRedirectBank rule.guestPrefix) suffix ∧
        ∃ guest, reverseTranslatePath (some rootRedirectBank)
            (graft (bankString rootRedirectBank rule.hostPrefix) suffix) 512 =
              .ok ⟨guest, true, rule.ruleId⟩ ∧
            (guest = [slash, 97, slash] ∨ guest ++ [slash] = [slash, 97, slash]) := by
  have hsel : selectPathRule (some rootRedirectBank) [slash, 97, slash] pathOpRead =
      some (rootRedirectBank.pathRules.head (by decide +kernel), 0) := by decide +kernel
  obtain ⟨suffix, -, hpath, htranslate, hreverse⟩ :=
    (selectPathRule_translates_and_reverses rootRedirectBank_published [slash, 97, slash]
      pathOpRead).2.2 _ _ hsel
  have hout := (htranslate 512 [slash]).mp (by decide +kernel)
  refine ⟨_, hsel, suffix, hpath, hreverse 512 (by decide) ?_⟩
  rw [← hout.1]
  decide +kernel

end Policy

end HookSelf.RuleBank
