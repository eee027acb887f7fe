import HookSelf.Collections.Selection
import HookSelf.ProcVirtual.Text

/-! The rewritten view holds the mappings that meet no hidden range, in order, with their paths
translated. -/

namespace HookSelf.ProcVirtual

open Buffer Lines ProcText Selection

section Header

variable {text : List UInt8} {start stop : ℕ}

def IsMapHeader (text : List UInt8) (start stop : ℕ) (front path : List UInt8) : Prop :=
  text = front ++ path ∧ StartsField path ∧ start < stop ∧
    ∃ startText stopText rest blanks, text = startText ++ dash :: stopText ++ rest ∧
      IsHex startText start ∧ IsHex stopText stop ∧ StartsBlank rest ∧
      Fields 4 rest (blanks ++ path) ∧ ∀ c ∈ blanks, isSpace c = true

theorem IsMapHeader.parse {front path : List UInt8} (h : IsMapHeader text start stop front path) :
    parseMapHeader text = some ⟨start, stop, front.length⟩ := by
  obtain ⟨hfront, hpath, hlt, startText, stopText, rest, blanks, htext, hstart, hstop, hrest,
    hfields, hblanks⟩ := h
  have hspace : ∀ c ∈ startText ++ dash :: stopText, isSpace c = false := by
    intro c hc
    rcases List.mem_append.mp hc with hc | hc
    · exact hstart.not_isSpace c hc
    · rcases List.mem_cons.mp hc with rfl | hc
      · rfl
      · exact hstop.not_isSpace c hc
  have hrange : text.takeWhile (!isSpace ·) = startText ++ dash :: stopText := by
    rw [htext, (takeWhile_field hspace hrest).1]
  have hdash : (startText ++ dash :: stopText).takeWhile (· ≠ dash) = startText :=
    line_append_cons hstart.dash_not_mem
  have hafter : text.drop (startText ++ dash :: stopText).length = rest := by
    rw [htext, List.drop_left]
  have hpos := List.length_pos_iff.mpr hstop.1
  unfold parseMapHeader
  dsimp only
  rw [hrange, hdash, hafter, if_neg, parseHex_eq_some.mpr hstart, Option.bind_some]
  · rw [← List.singleton_append, ← List.append_assoc, List.drop_left' (by simp),
      parseHex_eq_some.mpr hstop, Option.bind_some, if_neg (by omega),
      afterFields_eq_some.mpr hfields, Option.map_some, dropWhile_blanks hblanks hpath, hfront,
      List.length_append, Nat.add_sub_cancel]
  · simp only [hstart.1, List.length_append, List.length_cons, false_or]
    omega

theorem exists_isMapHeader {header : ParsedMapHeader} (h : parseMapHeader text = some header) :
    ∃ start stop front path, IsMapHeader text start stop front path := by
  have htext : text.takeWhile (!isSpace ·) ++ text.dropWhile (!isSpace ·) = text :=
    List.takeWhile_append_dropWhile
  have hdrop : text.drop (text.takeWhile (!isSpace ·)).length = text.dropWhile (!isSpace ·) := by
    have hleft := @List.drop_left _ (text.takeWhile (!isSpace ·)) (text.dropWhile (!isSpace ·))
    rwa [htext] at hleft
  have hrest := startsBlank_dropWhile text
  unfold parseMapHeader at h
  dsimp only at h
  rw [hdrop] at h
  generalize text.takeWhile (!isSpace ·) = range at *
  generalize text.dropWhile (!isSpace ·) = tail at *
  cases range using Components.split_induction dash with
  | last l hl =>
    have hline : range.takeWhile (· ≠ dash) = range := line_of_not_mem hl
    rw [hline, if_pos (Or.inr (Nat.le_succ _))] at h
    exact nomatch h
  | cons l r hl =>
    have hline : (l ++ dash :: r).takeWhile (· ≠ dash) = l := line_append_cons hl
    have hstopText : (l ++ dash :: r).drop (l.length + 1) = r := by simp
    rw [hline, hstopText] at h
    split_ifs at h
    simp only [Option.bind_eq_some_iff, parseHex_eq_some] at h
    obtain ⟨start, hstart, stop, hstop, h⟩ := h
    split_ifs at h with hle
    obtain ⟨rest, hfields, -⟩ := Option.map_eq_some_iff.mp h
    rw [afterFields_eq_some] at hfields
    obtain ⟨front, rfl⟩ := hfields.exists_append
    have hpath := @List.takeWhile_append_dropWhile _ isSpace rest
    refine ⟨start, stop, l ++ dash :: r ++ front ++ rest.takeWhile isSpace, rest.dropWhile isSpace,
      ?_, startsField_dropWhile rest, Nat.not_le.mp hle, l, r, _, rest.takeWhile isSpace,
      htext.symm, hstart, hstop, hrest, ?_, fun c hc => List.mem_takeWhile_imp hc⟩
    · rw [List.append_assoc _ (rest.takeWhile _), hpath, List.append_assoc, htext]
    · rwa [hpath]

theorem parseMapHeader_eq_none
    (h : ∀ start stop front path, ¬IsMapHeader text start stop front path) :
    parseMapHeader text = none := by
  cases hparse : parseMapHeader text with
  | none => rfl
  | some header =>
    obtain ⟨start, stop, front, path, hheader⟩ := exists_isMapHeader hparse
    exact absurd hheader (h start stop front path)

end Header

section Translation

variable {path host guest : List UInt8} {rule : ProcReversePathRule}

def visiblePart (path : List UInt8) : List UInt8 := path.take (visiblePathLength path)

def deletedPart (path : List UInt8) : List UInt8 := path.drop (visiblePathLength path)

def under (directory : List UInt8) : Option (List UInt8) → List UInt8
  | none => directory
  | some rest => if directory = [slash] then slash :: rest else directory ++ slash :: rest

def restBelow (directory path : List UInt8) : Option (List UInt8) :=
  if path = directory then none
  else some (path.drop (if directory = [slash] then 1 else directory.length + 1))

def relocated (path : List UInt8) (rule : ProcReversePathRule) : List UInt8 :=
  under rule.guestPrefix (restBelow rule.hostPrefix (visiblePart path)) ++ deletedPart path

def translatedPath (path : List UInt8) (rule : ProcReversePathRule) : List UInt8 :=
  rule.guestPrefix ++ path.drop (joinedSuffixOffset path rule)

theorem visiblePart_append_deletedPart : visiblePart path ++ deletedPart path = path :=
  List.take_append_drop _ _

theorem visiblePathLength_le : visiblePathLength path ≤ path.length := by
  unfold visiblePathLength
  split_ifs
  · exact Nat.sub_le _ _
  · exact le_rfl

theorem visiblePart_length : (visiblePart path).length = visiblePathLength path :=
  List.length_take_of_le visiblePathLength_le

theorem deletedPart_head? : (deletedPart path).head? ≠ some slash := by
  unfold deletedPart visiblePathLength
  split_ifs with h
  · rw [h.2]
    decide
  · simp

theorem isCanonicalAbsolutePrefix_head? (h : isCanonicalAbsolutePrefix path = true) :
    path.head? = some slash := by
  unfold isCanonicalAbsolutePrefix at h
  by_contra hhead
  rw [if_pos (Or.inl hhead)] at h
  exact nomatch h

theorem isCanonicalAbsolutePrefix_length (h : isCanonicalAbsolutePrefix path = true) :
    path.length = 1 ↔ path = [slash] := by
  have hhead := isCanonicalAbsolutePrefix_head? h
  constructor
  · intro hlength
    obtain ⟨c, rfl⟩ := List.length_eq_one_iff.mp hlength
    simpa using hhead
  · rintro rfl
    rfl

theorem isCanonicalAbsolutePrefix_getLast? (h : isCanonicalAbsolutePrefix path = true) :
    path.getLast? = some slash ↔ path = [slash] := by
  constructor
  · intro hlast
    rw [← isCanonicalAbsolutePrefix_length h]
    have hne : path ≠ [] := by
      rintro rfl
      exact nomatch hlast
    have hpos := List.length_pos_iff.mpr hne
    by_contra hlength
    unfold isCanonicalAbsolutePrefix at h
    rw [if_pos (Or.inr ⟨by omega, hlast⟩)] at h
    exact nomatch h
  · rintro rfl
    rfl

theorem prefixMatches_append {tail : List UInt8} : prefixMatches (host ++ tail) host = true ↔
    host = [slash] ∨ tail = [] ∨ tail.head? = some slash := by
  have htail : (host ++ tail)[host.length]? = tail.head? := by
    rw [List.getElem?_append_right le_rfl, Nat.sub_self, List.head?_eq_getElem?]
  rw [prefixMatches, if_neg (by simp), htail]
  simp

theorem exists_append_of_prefixMatches (h : prefixMatches path host = true) :
    ∃ tail, path = host ++ tail := by
  unfold prefixMatches at h
  split_ifs at h with hnot
  rw [not_or, not_not] at hnot
  exact ⟨path.drop host.length, by rw [← List.take_append_drop host.length path, hnot.2]; simp⟩

theorem under_restBelow (hmatch : prefixMatches path host = true) :
    under host (restBelow host path) = path := by
  obtain ⟨tail, rfl⟩ := exists_append_of_prefixMatches hmatch
  unfold restBelow
  by_cases hsame : host ++ tail = host
  · rw [if_pos hsame, under, hsame]
  rw [if_neg hsame, under]
  split_ifs with hroot
  · rw [hroot]
    rfl
  · rcases prefixMatches_append.mp hmatch with hhost | rfl | hslash
    · exact absurd hhost hroot
    · exact absurd (List.append_nil host) hsame
    · obtain ⟨rest, rfl⟩ := List.head?_eq_some_iff.mp hslash
      simp

def below : Option (List UInt8) → List UInt8
  | none => []
  | some rest => slash :: rest

theorem drop_translationSuffixOffset (hhost : isCanonicalAbsolutePrefix rule.hostPrefix = true)
    (hmatch : prefixMatches (visiblePart path) rule.hostPrefix = true) :
    path.drop (translationSuffixOffset path rule) =
      below (restBelow rule.hostPrefix (visiblePart path)) ++ deletedPart path := by
  have hpath := @visiblePart_append_deletedPart path
  have hlength := isCanonicalAbsolutePrefix_length hhost
  have hunder := under_restBelow hmatch
  have hvisible := @visiblePart_length path
  unfold translationSuffixOffset
  cases hrest : restBelow rule.hostPrefix (visiblePart path) with
  | none =>
    rw [hrest, under] at hunder
    rw [← hunder] at hvisible
    rw [if_neg (by omega), hvisible]
    rfl
  | some rest =>
    rw [hrest, under] at hunder
    split_ifs at hunder with hroot
    · have hne : rest ≠ [] := by
        rintro rfl
        rw [restBelow, hroot, if_pos hunder.symm] at hrest
        exact nomatch hrest
      have hpos := List.length_pos_iff.mpr hne
      rw [← hunder, List.length_cons] at hvisible
      rw [if_pos ⟨hlength.mpr hroot, by omega⟩]
      exact hpath.symm.trans (by rw [← hunder]; rfl)
    · have hsplit : path = rule.hostPrefix ++ (slash :: rest ++ deletedPart path) :=
        hpath.symm.trans (by rw [← hunder, List.append_assoc])
      have hdrop := congrArg (List.drop rule.hostPrefix.length) hsplit
      rw [List.drop_left] at hdrop
      rw [if_neg fun h => hroot (hlength.mp h.1), hdrop]
      rfl

theorem translationSuffixOffset_le
    (hmatch : prefixMatches (visiblePart path) rule.hostPrefix = true) :
    translationSuffixOffset path rule ≤ path.length := by
  obtain ⟨tail, htail⟩ := exists_append_of_prefixMatches hmatch
  have hvisible := congrArg List.length htail
  rw [visiblePart_length, List.length_append] at hvisible
  have hle := @visiblePathLength_le path
  unfold translationSuffixOffset
  split_ifs
  · exact Nat.zero_le _
  · omega

theorem translatedPath_eq (hhost : isCanonicalAbsolutePrefix rule.hostPrefix = true)
    (hguest : isCanonicalAbsolutePrefix rule.guestPrefix = true)
    (hmatch : prefixMatches (visiblePart path) rule.hostPrefix = true) :
    translatedPath path rule = relocated path rule := by
  have hsuffix := drop_translationSuffixOffset hhost hmatch
  have hdeleted := @deletedPart_head? path
  rw [translatedPath, relocated, joinedSuffixOffset, ← List.head?_drop]
  simp only [isCanonicalAbsolutePrefix_getLast? hguest, hsuffix]
  cases hrest : restBelow rule.hostPrefix (visiblePart path) with
  | none =>
    rw [hrest] at hsuffix
    rw [if_neg fun h => hdeleted h.2, hsuffix]
    rfl
  | some rest =>
    rw [hrest] at hsuffix
    rw [under]
    by_cases hroot : rule.guestPrefix = [slash]
    · rw [if_pos ⟨hroot, rfl⟩, if_pos hroot, ← List.drop_drop, hsuffix, hroot]
      rfl
    · rw [if_neg fun h => hroot h.1, if_neg hroot, hsuffix, below, List.append_assoc]

/-- A rule that may be shown, and whose host prefix is a directory of the path. -/
def Applies (path : List UInt8) (rule : ProcReversePathRule) : Prop :=
  rule.flags &&& reversePathRuleVisible ≠ 0 ∧
    prefixMatches (visiblePart path) rule.hostPrefix = true

instance (path : List UInt8) : DecidablePred (Applies path) :=
  fun _ => inferInstanceAs (Decidable (_ ∧ _))

def ProcReversePathRule.rank (rule : ProcReversePathRule) : ℕ ×ₗ ℤ :=
  toLex (rule.hostPrefix.length, rule.priority)

theorem keepReverseRule_eq :
    keepReverseRule path = keepBest (Applies path) fun x y => x.rank < y.rank := by
  funext selected rule
  unfold keepReverseRule keepBest
  by_cases happlies : Applies path rule
  · rw [if_pos happlies, if_neg (by simpa [Applies, visiblePart] using happlies)]
    cases selected with
    | none => rfl
    | some other =>
      refine if_congr ?_ rfl rfl
      dsimp only [ProcReversePathRule.rank]
      rw [Prod.Lex.toLex_lt_toLex, gt_iff_lt, gt_iff_lt, eq_comm]
  · rw [if_neg happlies, if_pos]
    by_contra hnot
    rw [not_or, not_not] at hnot
    exact happlies hnot

/-- The rule selected has the longest host prefix, then the highest priority, then comes first. -/
theorem selectReverseRule_spec (hpath : path.head? = some slash) (rules : List ProcReversePathRule) :
    (selectReverseRule path rules = none → ∀ rule ∈ rules, ¬Applies path rule) ∧
    ∀ rule, selectReverseRule path rules = some rule →
      IsBest (Applies path) (fun x y => x.rank < y.rank) rules rule := by
  rw [selectReverseRule, if_neg (not_not.mpr hpath), keepReverseRule_eq]
  exact ⟨(best_eq_none_iff (ranked_lt _)).mp, fun _ => best_eq_some (ranked_lt _)⟩

theorem selectReverseRule_applies {rules : List ProcReversePathRule}
    (h : selectReverseRule path rules = some rule) : rule ∈ rules ∧ Applies path rule := by
  have hpath : path.head? = some slash := by
    by_contra hhead
    rw [selectReverseRule, if_pos hhead] at h
    exact nomatch h
  obtain ⟨before, after, rfl, happlies, -⟩ := (selectReverseRule_spec hpath rules).2 rule h
  exact ⟨by simp, happlies⟩

end Translation

end HookSelf.ProcVirtual
