import HookSelf.PathState.CharPtr

namespace HookSelf.PathState

open SlotTable

variable {p q r out : CharPtr} {n m : Nat}

theorem bind_eq_ok {ε α β : Type} {x : Except ε α} {f : α → Except ε β} {b : β} :
    x >>= f = .ok b ↔ ∃ a, x = .ok a ∧ f a = .ok b := by
  cases x with
  | error e => simp [bind, Except.bind]
  | ok a => simp [bind, Except.bind]

structure Terminated (p : CharPtr) (n : Nat) : Prop where
  lt : n < pathCapacity
  nul : p n = 0
  ne_nul : ∀ i < n, p i ≠ 0

theorem Terminated.unique (h : Terminated p n) (h' : Terminated p m) : n = m := by
  rcases Nat.lt_trichotomy n m with hlt | heq | hgt
  · exact absurd h.nul (h'.ne_nul n hlt)
  · exact heq
  · exact absurd h'.nul (h.ne_nul m hgt)

theorem pathLength_ok : pathLength (some p) = .ok n ↔ Terminated p n := by
  simp only [pathLength]
  rcases h : firstSlot pathCapacity fun i => p i = 0 with _ | i
  · rw [firstSlot_none] at h
    simp only [reduceCtorEq, false_iff]
    exact fun ht => h n ht.lt ht.nul
  · rw [firstSlot_some_iff] at h
    have ht : Terminated p i := ⟨h.1, h.2.1, h.2.2⟩
    simp only [Except.ok.injEq]
    exact ⟨fun hin => hin ▸ ht, fun hn => ht.unique hn⟩

theorem Terminated.of_nul (hn : n < pathCapacity) (h : p n = 0) : ∃ m ≤ n, Terminated p m := by
  rcases hf : firstSlot pathCapacity fun i => p i = 0 with _ | i
  · exact absurd h (firstSlot_none.mp hf n hn)
  · obtain ⟨hi, hnul, hmin⟩ := firstSlot_some_iff.mp hf
    exact ⟨i, not_lt.mp fun hlt => hmin n hlt h, hi, hnul, hmin⟩

def AbsolutePath (p : CharPtr) : Prop := p 0 = slash ∧ ∃ n, Terminated p n

theorem AbsolutePath.length_pos (h : AbsolutePath p) (hn : Terminated p n) : 0 < n := by
  rcases Nat.eq_zero_or_pos n with rfl | hpos
  · have h0 := hn.nul
    rw [h.1] at h0
    exact absurd h0 (by decide)
  · exact hpos

def IsEnd (c : UInt8) : Prop := c = 0 ∨ c = slash

/-- The segment after the slash at `j` is neither empty nor `.` nor `..`. -/
structure GoodSegment (p : CharPtr) (j : Nat) : Prop where
  nonempty : ¬IsEnd (p (j + 1))
  not_dot : p (j + 1) = dot → ¬IsEnd (p (j + 2))
  not_dotdot : p (j + 1) = dot → p (j + 2) = dot → ¬IsEnd (p (j + 3))

/-- The paths `ValidateCanonicalPath` accepts, said slash by slash. -/
structure CanonicalPath (p : CharPtr) : Prop where
  absolute : AbsolutePath p
  segments : Terminated p 1 ∨ ∀ n, Terminated p n → ∀ j < n, p j = slash → GoodSegment p j

/-- Scanning from the segment at `start`: everything before it is good, and no slash follows. -/
structure ScanInv (p : CharPtr) (n k start : Nat) : Prop where
  pos : 1 ≤ start
  le : start ≤ k + 1
  starts : start ≤ n → p (start - 1) = slash
  unclosed : ∀ i, start ≤ i → i ≤ k → p i ≠ slash
  good : ∀ j, j + 1 < start → p j = slash → GoodSegment p j
  done : 0 < k → k = n → start = n + 1

theorem goodSegment_iff {start i : Nat} (hle : start + 1 ≤ i)
    (hopen : ∀ x, start + 1 ≤ x → x < i → ¬IsEnd (p x)) (hend : IsEnd (p i)) :
    (i - (start + 1) = 0 ∨ (i - (start + 1) = 1 ∧ p (start + 1) = dot) ∨
      (i - (start + 1) = 2 ∧ p (start + 1) = dot ∧ p (start + 1 + 1) = dot)) ↔
      ¬GoodSegment p start := by
  have hend_iff : ∀ x, start + 1 ≤ x → x ≤ i → (IsEnd (p x) ↔ x = i) := by
    intro x h1 h2
    constructor
    · intro hx
      by_contra hne
      exact hopen x h1 (by omega) hx
    · rintro rfl
      exact hend
  constructor
  · rintro (h | ⟨h, hd⟩ | ⟨h, hd, hd2⟩) hg
    · exact hg.nonempty ((hend_iff _ le_rfl (by omega)).mpr (by omega))
    · exact hg.not_dot hd ((hend_iff _ (by omega) (by omega)).mpr (by omega))
    · exact hg.not_dotdot hd hd2 ((hend_iff _ (by omega) (by omega)).mpr (by omega))
  · intro hg
    by_contra hno
    push Not at hno
    obtain ⟨h0, h1, h2⟩ := hno
    refine hg ⟨?_, ?_, ?_⟩
    · rw [hend_iff _ le_rfl (by omega)]
      omega
    · intro hd
      have := mt (fun h => h1 h hd) (by simp)
      rw [hend_iff _ (by omega) (by omega)]
      omega
    · intro hd hd2
      have h3 := mt (fun h => h1 h hd) (by simp)
      have h4 := mt (fun h => h2 h hd hd2) (by simp)
      rw [hend_iff _ (by omega) (by omega)]
      omega

theorem ScanInv.step {k start : Nat} (hn : Terminated p n) (hk : k < n)
    (h : ScanInv p n k start) :
    Ends (ScanInv p n (k + 1)) (fun _ _ => ∃ j < n, p j = slash ∧ ¬GoodSegment p j)
      (scanSegment p n k start) := by
  obtain ⟨j, rfl⟩ : ∃ j, start = j + 1 := ⟨start - 1, by have := h.pos; omega⟩
  have hle := h.le
  have hj : p j = slash := h.starts (by omega)
  simp only [scanSegment]
  by_cases hmid : k + 1 ≠ n ∧ p (k + 1) ≠ slash
  · rw [if_pos hmid]
    refine ⟨h.pos, by omega, h.starts, fun i h1 h2 => ?_, h.good, fun _ he => absurd he hmid.1⟩
    rcases Nat.lt_succ_iff_lt_or_eq.mp (Nat.lt_succ_of_le h2) with hlt | rfl
    · exact h.unclosed i h1 (by omega)
    · exact hmid.2
  · rw [if_neg hmid]
    have hend : IsEnd (p (k + 1)) := by
      by_cases heq : k + 1 = n
      · exact .inl (heq ▸ hn.nul)
      · exact .inr (by tauto)
    have hopen : ∀ x, j + 1 ≤ x → x < k + 1 → ¬IsEnd (p x) := by
      rintro x h1 h2 (hx | hx)
      · exact hn.ne_nul x (by omega) hx
      · exact h.unclosed x h1 (by omega) hx
    have hiff := goodSegment_iff (by omega) hopen hend
    by_cases hgood : GoodSegment p j
    · rw [if_neg (by rw [hiff]; exact not_not.mpr hgood)]
      refine ⟨by omega, le_rfl, fun hlt => ?_, fun i h1 h2 => by omega, fun i hi hs => ?_,
        fun _ he => by omega⟩
      · rcases hend with hnul | hs
        · exact absurd hnul (hn.ne_nul _ (by omega))
        · exact hs
      · rcases Nat.lt_trichotomy i j with hlt | rfl | hgt
        · exact h.good i (by omega) hs
        · exact hgood
        · exact absurd hs (h.unclosed i (by omega) (by omega))
    · rw [if_pos (hiff.mpr hgood)]
      exact ⟨j, by omega, hj, hgood⟩

theorem scanSegments_ok (hn : Terminated p n) (h0 : p 0 = slash) :
    (tryForSlots (scanSegment p n) n 1).2 = .ok () ↔ ∀ j < n, p j = slash → GoodSegment p j := by
  have init : ScanInv p n 0 1 :=
    ⟨le_rfl, le_rfl, fun _ => h0, fun i h1 h2 => by omega, fun j hj => by omega,
      fun h => absurd h (lt_irrefl 0)⟩
  have loop := tryForSlots_induct (ScanInv p n) _ init fun k hk _ hb => hb.step hn hk
  have hpos : 0 < n := AbsolutePath.length_pos ⟨h0, n, hn⟩ hn
  rcases hres : tryForSlots (scanSegment p n) n 1 with ⟨start, e | _⟩
  · rw [hres] at loop
    obtain ⟨j, hj, hs, hbad⟩ := loop
    simp only [reduceCtorEq, false_iff]
    exact fun hall => hbad (hall j hj hs)
  · rw [hres] at loop
    have hstart := loop.done hpos rfl
    simp only [true_iff]
    intro j hj hs
    exact loop.good j (by omega) hs

theorem validateCanonicalPath_ok :
    validateCanonicalPath (some p) = .ok () ↔ CanonicalPath p := by
  simp only [validateCanonicalPath, bind_eq_ok, pathLength_ok]
  constructor
  · rintro ⟨n, hn, h⟩
    split_ifs at h with hbad h1
    · push Not at hbad
      subst h1
      exact ⟨⟨hbad.2.1, 1, hn⟩, .inl hn⟩
    · push Not at hbad
      refine ⟨⟨hbad.2.1, n, hn⟩, .inr fun m hm => ?_⟩
      rw [hm.unique hn]
      exact (scanSegments_ok hn hbad.2.1).mp h
  · intro h
    obtain ⟨n, hn⟩ := h.absolute.2
    have hpos := h.absolute.length_pos hn
    have good : n = 1 ∨ ∀ j < n, p j = slash → GoodSegment p j :=
      h.segments.imp (fun h1 => hn.unique h1) fun hall => hall n hn
    refine ⟨n, hn, ?_⟩
    rw [if_neg, ite_eq_left_iff]
    · intro h1
      exact (scanSegments_ok hn h.absolute.1).mpr (good.resolve_left h1)
    · rintro (h0 | h0 | ⟨hlt, hlast⟩)
      · omega
      · exact h0 h.absolute.1
      · rcases good with rfl | hall
        · omega
        · refine (hall (n - 1) (by omega) hlast).nonempty (.inl ?_)
          rw [show n - 1 + 1 = n by omega]
          exact hn.nul

end HookSelf.PathState
