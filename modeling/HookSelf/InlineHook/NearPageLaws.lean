import HookSelf.Collections.Alignment
import HookSelf.Collections.Stateful
import HookSelf.InlineHook.NearPage

namespace HookSelf.InlineHook.NearPage

open Arm64 Stateful HookSelf.Alignment

variable {mapper : Mapper} {pageSize reference : Address} {range : BitVec 64} {search : Search}

/-- The page sizes of the platform: powers of two from 4096 to 65536. -/
structure IsPageSize (pageSize : Address) : Prop where
  pow : ∃ k, pageSize.toNat = 2 ^ k
  low : 4096 ≤ pageSize.toNat
  high : pageSize.toNat ≤ 65536

theorem add_after {a b : Address} (h : a.toNat + b.toNat < 2 ^ 64) :
    After (add a b) search fun sum after => after = search ∧ sum.toNat = a.toNat + b.toNat := by
  refine ⟨?_, ?_⟩
  · have hfits : ¬2 ^ 64 ≤ a.toNat + b.toNat := by omega
    show (⟨search.calls, search.wrapped || decide _⟩ : Search) = search
    rw [decide_eq_false hfits, Bool.or_false]
  · show (a + b).toNat = _
    rw [BitVec.toNat_add, Nat.mod_eq_of_lt h]

theorem sub_after {a b : Address} (h : b.toNat ≤ a.toNat) :
    After (sub a b) search fun difference after =>
      after = search ∧ difference.toNat = a.toNat - b.toNat := by
  refine ⟨?_, ?_⟩
  · have hle : ¬a < b := by bv_omega
    simp [sub, hle]
  · show (a - b).toNat = _
    exact BitVec.toNat_sub_of_le (BitVec.le_def.mpr h)

theorem mask_after (hpage : IsPageSize pageSize) :
    After (sub pageSize 1) search fun mask after =>
      after = search ∧ mask.toNat = pageSize.toNat - 1 :=
  sub_after (show (1 : Address).toNat ≤ pageSize.toNat from le_trans (by decide) hpage.low)

theorem alignDown_after (hpage : IsPageSize pageSize) (value : Address) :
    After (alignDown value pageSize) search fun down after => after = search ∧
      pageSize.toNat ∣ down.toNat ∧ down.toNat ≤ value.toNat ∧
        value.toNat < down.toNat + pageSize.toNat := by
  obtain ⟨k, hk⟩ := hpage.pow
  refine (mask_after hpage).bind fun mask after ⟨hafter, hmask⟩ => ?_
  have hdown := @toNat_and_not_mask 64 k value mask (hk ▸ hmask)
  have hpos := hpage.low
  refine After.pure ⟨hafter, ?_, ?_, ?_⟩ <;> rw [hdown, ← hk]
  · exact Nat.dvd_sub_mod _
  · exact Nat.sub_le _ _
  · exact lt_sub_mod_add (by omega) _

theorem alignUp_after (hpage : IsPageSize pageSize) (value : Address) :
    After (alignUp value pageSize) search fun up after => after = search ∧
      (value.toNat + pageSize.toNat ≤ 2 ^ 64 → pageSize.toNat ∣ up.toNat ∧
        value.toNat ≤ up.toNat ∧ up.toNat < value.toNat + pageSize.toNat) ∧
      (2 ^ 64 < value.toNat + pageSize.toNat → up = 0) := by
  obtain ⟨k, hk⟩ := hpage.pow
  have hlow := hpage.low
  have hhigh := hpage.high
  have hmax : lastAddress.toNat = 2 ^ 64 - 1 := by decide
  refine (mask_after hpage).bind fun mask after ⟨hafter, hmask⟩ => ?_
  refine (sub_after (show mask.toNat ≤ lastAddress.toNat by omega)).bind
    fun limit later ⟨hlater, hlimit⟩ => ?_
  subst hafter hlater
  refine After.ite (fun habove => ?_) (fun hbelow => ?_)
  · have hover : limit.toNat < value.toNat := habove
    exact After.pure ⟨rfl, fun h => by omega, fun _ => rfl⟩
  · have hfits : value.toNat ≤ limit.toNat := by
      have : ¬limit.toNat < value.toNat := hbelow
      omega
    refine (add_after (show value.toNat + mask.toNat < 2 ^ 64 by omega)).bind
      fun sum final ⟨hfinal, hsum⟩ => ?_
    subst hfinal
    have hup := @toNat_and_not_mask 64 k sum mask (hk ▸ hmask)
    have hround := lt_sub_mod_add (show 0 < pageSize.toNat by omega) sum.toNat
    refine After.pure ⟨rfl, fun _ => ?_, fun h => by omega⟩
    rw [hup, ← hk]
    exact ⟨Nat.dvd_sub_mod _, by omega, by omega⟩

structure Extends (allowed : Call → Prop) (search after : Search) : Prop where
  wrapped : after.wrapped = search.wrapped
  calls : ∃ more, after.calls = search.calls ++ more ∧ ∀ call ∈ more, allowed call

variable {allowed : Call → Prop}

theorem Extends.refl (search : Search) : Extends allowed search search :=
  ⟨rfl, [], by simp⟩

theorem Extends.trans {middle after : Search} (h : Extends allowed search middle)
    (hafter : Extends allowed middle after) : Extends allowed search after := by
  obtain ⟨more, hmore, hallowed⟩ := h.calls
  obtain ⟨rest, hrest, hallowed'⟩ := hafter.calls
  exact ⟨hafter.wrapped.trans h.wrapped, more ++ rest, by rw [hrest, hmore, List.append_assoc],
    List.forall_mem_append.mpr ⟨hallowed, hallowed'⟩⟩

theorem Extends.call {call : Call} (h : allowed call) :
    Extends allowed search { search with calls := search.calls ++ [call] } :=
  ⟨rfl, [call], rfl, by simpa using h⟩

theorem rawMmap_after {address : Address} {fixedNoreplace : Bool}
    (h : allowed (.mmap address fixedNoreplace)) :
    After (rawMmap mapper address fixedNoreplace) search fun mapped after =>
      mapped = mapper search.calls address fixedNoreplace ∧ Extends allowed search after :=
  ⟨rfl, .call h⟩

theorem rawMunmap_after {address : Address} (h : allowed (.munmap address)) :
    After (rawMunmap address) search fun _ after => Extends allowed search after :=
  Extends.call h

def Near (reference : Address) (range : BitVec 64) (page : Address) : Prop :=
  page.toNat < reference.toNat + range.toNat ∧ reference.toNat < page.toNat + range.toNat

instance (reference : Address) (range : BitVec 64) (page : Address) :
    Decidable (Near reference range page) :=
  inferInstanceAs (Decidable (_ ∧ _))

def Accepted (pageSize reference : Address) (range : BitVec 64) (page : Address) : Prop :=
  pageSize.toNat ∣ page.toNat ∧ Near reference range page

theorem distance_after (range : BitVec 64) (address : Address) :
    After (distance reference address) search fun apart after => after = search ∧
      (apart.toNat < range.toNat ↔ Near reference range address) := by
  unfold distance Near
  refine After.ite (fun habove => ?_) (fun hbelow => ?_)
  · have hle : reference.toNat ≤ address.toNat := habove
    exact (sub_after hle).imp fun apart after ⟨hafter, hapart⟩ => ⟨hafter, by omega⟩
  · have hlt : ¬reference.toNat ≤ address.toNat := hbelow
    exact (sub_after (show address.toNat ≤ reference.toNat by omega)).imp
      fun apart after ⟨hafter, hapart⟩ => ⟨hafter, by omega⟩

theorem acceptPage_after (hpage : IsPageSize pageSize)
    (hunmap : ∀ address, allowed (.munmap address)) (address : Address) :
    After (acceptPage pageSize reference range address) search fun mapped after =>
      Extends allowed search after ∧ (∀ page, mapped = some page →
        page = address ∧ Accepted pageSize reference range page) ∧
      (Accepted pageSize reference range address → mapped = some address) := by
  obtain ⟨k, hk⟩ := hpage.pow
  refine (distance_after range address).bind fun apart after ⟨hafter, hapart⟩ => ?_
  refine (mask_after hpage).bind fun mask later ⟨hlater, hmask⟩ => ?_
  subst hafter hlater
  have haligned : address &&& mask = 0 ↔ pageSize.toNat ∣ address.toNat := by
    rw [← BitVec.toNat_inj, @toNat_and_mask 64 k address mask (hk ▸ hmask), hk]
    exact Nat.dvd_iff_mod_eq_zero.symm
  refine After.ite (fun hreject => ?_) (fun haccept => ?_)
  · refine (rawMunmap_after (hunmap address)).bind fun _ final hfinal => ?_
    refine After.pure ⟨hfinal, fun page hnone => (nomatch hnone), fun ⟨hdvd, hnear⟩ => ?_⟩
    have hfar : range.toNat ≤ apart.toNat :=
      hreject.resolve_left (not_not.mpr (haligned.mpr hdvd))
    exact absurd (hapart.mpr hnear) (by omega)
  · obtain ⟨hmask0, hnear⟩ := not_or.mp haccept
    have hnear' : ¬range.toNat ≤ apart.toNat := hnear
    have haccepted : Accepted pageSize reference range address :=
      ⟨haligned.mp (not_not.mp hmask0), hapart.mp (by omega)⟩
    exact After.pure ⟨.refl _, fun page hpage' => Option.some.inj hpage' ▸ ⟨rfl, haccepted⟩,
      fun _ => rfl⟩

def Sound (allowed : Call → Prop) (pageSize reference : Address) (range : BitVec 64)
    (search : Search) (mapped : Option Address) (after : Search) : Prop :=
  Extends allowed search after ∧ ∀ page, mapped = some page → Accepted pageSize reference range page

theorem Sound.none : Sound allowed pageSize reference range search none search :=
  ⟨.refl _, fun _ h => nomatch h⟩

theorem Sound.after {middle after : Search} {mapped : Option Address}
    (h : Extends allowed search middle)
    (hafter : Sound allowed pageSize reference range middle mapped after) :
    Sound allowed pageSize reference range search mapped after :=
  ⟨h.trans hafter.1, hafter.2⟩

section Attempts

variable (hpage : IsPageSize pageSize) (hunmap : ∀ address, allowed (.munmap address))

include hpage hunmap

theorem tryMapAt_after {candidate : Address} (hmap : ∀ fixed, allowed (.mmap candidate fixed)) :
    After (tryMapAt mapper pageSize reference range candidate) search fun mapped after =>
      Sound allowed pageSize reference range search mapped after ∧
      (mapper search.calls candidate true = some candidate →
        Accepted pageSize reference range candidate → mapped ≠ none) := by
  have haccept {middle : Search} (h : Extends allowed search middle) (address : Address) :
      After (acceptPage pageSize reference range address) middle fun mapped after =>
        Sound allowed pageSize reference range search mapped after ∧
        (Accepted pageSize reference range address → mapped = some address) :=
    (acceptPage_after hpage hunmap address).imp fun mapped after ⟨hextends, hsome, hmapped⟩ =>
      ⟨⟨h.trans hextends, fun page heq => (hsome page heq).2⟩, hmapped⟩
  refine (rawMmap_after (hmap true)).bind fun mapped middle ⟨hmapped, hmiddle⟩ => ?_
  cases mapped with
  | some address =>
    refine (haccept hmiddle address).imp fun mapped after ⟨hsound, haccepted⟩ =>
      ⟨hsound, fun hcandidate hok => ?_⟩
    obtain rfl : address = candidate := Option.some.inj (hmapped.trans hcandidate)
    simp [haccepted hok]
  | none =>
    refine (rawMmap_after (hmap false)).bind fun mapped later ⟨_, hlater⟩ => ?_
    have hfailed : mapper search.calls candidate true ≠ some candidate := by simp [← hmapped]
    cases mapped with
    | some address =>
      exact (haccept (hmiddle.trans hlater) address).imp fun mapped after ⟨hsound, _⟩ =>
        ⟨hsound, fun hcandidate => absurd hcandidate hfailed⟩
    | none =>
      exact After.pure ⟨⟨hmiddle.trans hlater, fun page hnone => (nomatch hnone)⟩,
        fun hcandidate => absurd hcandidate hfailed⟩

theorem orTryMapAt_after {candidate : Address} (hmap : ∀ fixed, allowed (.mmap candidate fixed))
    {middle : Search} {mapped : Option Address} (again : Bool)
    (h : Sound allowed pageSize reference range search mapped middle) :
    After (orTryMapAt mapper pageSize reference range mapped again candidate) middle
      fun mapped' after => Sound allowed pageSize reference range search mapped' after ∧
        (mapped ≠ none → mapped' ≠ none) := by
  cases mapped with
  | some address => exact After.pure ⟨h, fun hsome => hsome⟩
  | none =>
    refine After.ite (fun _ => ?_) (fun _ => After.pure ⟨h, fun hsome => hsome⟩)
    exact (tryMapAt_after hpage hunmap hmap).imp fun mapped after ⟨hsound, _⟩ =>
      ⟨.after h.1 hsound, fun hsome => absurd rfl hsome⟩

omit hunmap in
theorem closest_after {first last : Address} (hfirst : pageSize.toNat ∣ first.toNat)
    (hlast : pageSize.toNat ∣ last.toNat) (hle : first.toNat ≤ last.toNat)
    (hrange : pageSize.toNat ≤ range.toNat) :
    After (closest pageSize reference first last) search fun candidate after => after = search ∧
      pageSize.toNat ∣ candidate.toNat ∧ first.toNat ≤ candidate.toNat ∧
      candidate.toNat ≤ last.toNat ∧ ∀ page : Address, first.toNat ≤ page.toNat →
        page.toNat ≤ last.toNat → Near reference range page → Near reference range candidate := by
  have hlow := hpage.low
  unfold closest
  refine After.ite (fun hinside => ?_)
    (fun houtside => After.ite (fun habove => ?_) fun hbelow => ?_)
  · have hbegin : first.toNat ≤ reference.toNat := hinside.1
    have hend : reference.toNat ≤ last.toNat := hinside.2
    refine (alignDown_after hpage reference).imp fun candidate after ⟨hafter, hdvd, hdown, hlt⟩ =>
      ⟨hafter, hdvd, ?_, by omega, fun page _ _ _ => ⟨by omega, by omega⟩⟩
    exact Nat.le_of_lt_add_of_dvd (by omega) hfirst hdvd
  · have hlt : last.toNat < reference.toNat := habove
    exact After.pure ⟨rfl, hlast, hle, le_rfl,
      fun page _ hpage' hnear => ⟨by omega, by have := hnear.2; omega⟩⟩
  · have hnot : ¬last.toNat < reference.toNat := hbelow
    have hbefore : reference.toNat < first.toNat := by
      by_contra hge
      exact houtside ⟨show first.toNat ≤ reference.toNat by omega,
        show reference.toNat ≤ last.toNat by omega⟩
    exact After.pure ⟨rfl, hfirst, le_rfl, hle,
      fun page hpage' _ hnear => ⟨by have := hnear.1; omega, by omega⟩⟩

def Placed (mapper : Mapper) (page : Address) : Prop := ∀ calls, mapper calls page true = some page

def Inside (pageSize gapStart gapEnd page : Address) : Prop :=
  pageSize.toNat ∣ page.toNat ∧ gapStart.toNat ≤ page.toNat ∧
    page.toNat + pageSize.toNat ≤ gapEnd.toNat

theorem tryCandidates_after {first last : Address} (hfirst : pageSize.toNat ∣ first.toNat)
    (hlast : pageSize.toNat ∣ last.toNat) (hle : first.toNat ≤ last.toNat)
    (hrange : pageSize.toNat ≤ range.toNat)
    (hmap : ∀ page fixed, pageSize.toNat ∣ page.toNat → first.toNat ≤ page.toNat →
      page.toNat ≤ last.toNat → allowed (.mmap page fixed)) :
    After (tryCandidates mapper pageSize reference range first last) search fun mapped after =>
      Sound allowed pageSize reference range search mapped after ∧
      ∀ page : Address, pageSize.toNat ∣ page.toNat → first.toNat ≤ page.toNat →
        page.toNat ≤ last.toNat → Near reference range page →
        (∀ other : Address, pageSize.toNat ∣ other.toNat → first.toNat ≤ other.toNat →
          other.toNat ≤ last.toNat → Placed mapper other) → mapped ≠ none := by
  refine (closest_after hpage hfirst hlast hle hrange).bind
    fun candidate middle ⟨hmiddle, hdvd, hbegin, hend, hnearest⟩ => ?_
  subst hmiddle
  refine (tryMapAt_after hpage hunmap fun fixed => hmap candidate fixed hdvd hbegin hend).bind
    fun mapped after ⟨hsound, hhit⟩ => ?_
  refine (orTryMapAt_after hpage hunmap (fun fixed => hmap first fixed hfirst le_rfl hle) _
    hsound).bind fun mapped' after' ⟨hsound', hkeep⟩ => ?_
  refine (orTryMapAt_after hpage hunmap (fun fixed => hmap last fixed hlast hle le_rfl) _
    hsound').imp fun mapped'' after'' ⟨hsound'', hkeep'⟩ => ⟨hsound'', ?_⟩
  intro page _ hpage' hpage'' hnear hplaced
  exact hkeep' (hkeep (hhit (hplaced candidate hdvd hbegin hend _)
    ⟨hdvd, hnearest page hpage' hpage'' hnear⟩))

theorem tryMapGap_after {gapStart gapEnd : Address} (hstart : gapStart ≠ 0)
    (hrange : pageSize.toNat ≤ range.toNat)
    (hmap : ∀ page fixed, Inside pageSize gapStart gapEnd page → allowed (.mmap page fixed)) :
    After (tryMapGap mapper pageSize reference range gapStart gapEnd) search fun mapped after =>
      Sound allowed pageSize reference range search mapped after ∧
      ∀ page : Address, Inside pageSize gapStart gapEnd page → Near reference range page →
        (∀ other : Address, Inside pageSize gapStart gapEnd other → Placed mapper other) →
        mapped ≠ none := by
  have hpos : gapStart.toNat ≠ 0 := fun h => hstart (BitVec.eq_of_toNat_eq h)
  have hend := gapEnd.isLt
  refine (alignUp_after hpage gapStart).bind fun first middle ⟨hmiddle, hup, hover⟩ => ?_
  subst hmiddle
  refine After.ite (fun hnone => ?_) (fun hsome => ?_)
  · refine After.pure ⟨.none, fun page ⟨_, hbegin, hfits⟩ _ _ => ?_⟩
    obtain hzero | hshort := hnone
    · have hroom := hup (by omega)
      rw [hzero] at hroom
      exact absurd hroom.2.1 (by simp [hpos])
    · have hless : gapEnd.toNat < pageSize.toNat := hshort
      omega
  · obtain ⟨hne, hlong⟩ := not_or.mp hsome
    have hlong' : ¬gapEnd.toNat < pageSize.toNat := hlong
    refine (sub_after (show pageSize.toNat ≤ gapEnd.toNat by omega)).bind
      fun room middle ⟨hmiddle, hroom⟩ => ?_
    subst hmiddle
    obtain ⟨hfirst, hge, hlt⟩ := hup (by
      by_contra hgt
      exact hne (hover (by omega)))
    refine After.ite (fun hout => ?_) (fun hin => ?_)
    · have hgt : room.toNat < first.toNat := hout
      refine After.pure ⟨.none, fun page ⟨hdvd, hbegin, hfits⟩ _ _ => ?_⟩
      have hle := Nat.le_of_lt_add_of_dvd (by omega : first.toNat < page.toNat + pageSize.toNat)
        hfirst hdvd
      omega
    · have hle : ¬room.toNat < first.toNat := hin
      refine (alignDown_after hpage room).bind fun last middle ⟨hmiddle, hlast, hdown, hup'⟩ => ?_
      subst hmiddle
      have hordered : first.toNat ≤ last.toNat :=
        Nat.le_of_lt_add_of_dvd (by omega) hfirst hlast
      refine (tryCandidates_after hpage hunmap hfirst hlast hordered hrange
        fun page fixed hdvd hbegin hend' => hmap page fixed ⟨hdvd, by omega, by omega⟩).imp
        fun mapped after ⟨hsound, hhit⟩ =>
          ⟨hsound, fun page ⟨hdvd, hbegin, hfits⟩ hnear hplaced => ?_⟩
      refine hhit page hdvd (Nat.le_of_lt_add_of_dvd (by omega) hfirst hdvd)
        (Nat.le_of_lt_add_of_dvd (by omega) hdvd hlast) hnear fun other hdvd' hbegin' hend' => ?_
      exact hplaced other ⟨hdvd', by omega, by omega⟩

end Attempts

structure Sorted (regions : List MemoryRegion) : Prop where
  ordered : regions.Pairwise fun region other => region.stop.toNat ≤ other.start.toNat
  proper : ∀ region ∈ regions, region.start.toNat ≤ region.stop.toNat

theorem Sorted.tail {region : MemoryRegion} {regions : List MemoryRegion}
    (h : Sorted (region :: regions)) : Sorted regions :=
  ⟨h.ordered.tail, fun other hother => h.proper other (.tail _ hother)⟩

def Unmapped (pageSize : Address) (regions : List MemoryRegion) (page : Address) : Prop :=
  ∀ region ∈ regions, page.toNat + pageSize.toNat ≤ region.start.toNat ∨
    region.stop.toNat ≤ page.toNat

instance (pageSize : Address) (regions : List MemoryRegion) (page : Address) :
    Decidable (Unmapped pageSize regions page) :=
  inferInstanceAs (Decidable (∀ region ∈ regions, _ ∨ _))

structure Free (pageSize lower upper previousEnd : Address) (regions : List MemoryRegion)
    (page : Address) : Prop where
  aligned : pageSize.toNat ∣ page.toNat
  behind : previousEnd.toNat ≤ page.toNat
  low : lower.toNat ≤ page.toNat
  high : page.toNat ≤ upper.toNat
  unmapped : Unmapped pageSize regions page

section Gaps

variable {lower upper previousEnd : Address} {regions : List MemoryRegion} {current : MemoryRegion}

theorem toNat_ite_lt (a b : Address) :
    (if a > b then a else b).toNat = max a.toNat b.toNat := by
  by_cases h : a > b
  · have hlt : b.toNat < a.toNat := h
    rw [if_pos h]
    omega
  · have hge : ¬b.toNat < a.toNat := h
    rw [if_neg h]
    omega

theorem toNat_ite_gt (a b : Address) :
    (if a < b then a else b).toNat = min a.toNat b.toNat := by
  by_cases h : a < b
  · have hlt : a.toNat < b.toNat := h
    rw [if_pos h]
    omega
  · have hge : ¬a.toNat < b.toNat := h
    rw [if_neg h]
    omega

theorem inside_iff_free (hsorted : Sorted (current :: regions)) {gapStart gapEnd page : Address}
    (hstart : gapStart.toNat = max previousEnd.toNat lower.toNat)
    (hend : gapEnd.toNat = min current.start.toNat (upper.toNat + pageSize.toNat)) :
    Inside pageSize gapStart gapEnd page ↔
      Free pageSize lower upper previousEnd (current :: regions) page ∧
        page.toNat + pageSize.toNat ≤ current.start.toNat := by
  constructor
  · rintro ⟨hdvd, hbegin, hfits⟩
    refine ⟨⟨hdvd, by omega, by omega, by omega, ?_⟩, by omega⟩
    intro region hregion
    obtain rfl | hregion := List.mem_cons.mp hregion
    · exact .inl (by omega)
    · have horder := List.rel_of_pairwise_cons hsorted.ordered hregion
      have hproper := hsorted.proper current List.mem_cons_self
      exact .inl (by omega)
  · rintro ⟨hfree, hfits⟩
    have := hfree.behind
    have := hfree.low
    have := hfree.high
    exact ⟨hfree.aligned, by omega, by omega⟩

theorem free_cons_iff {next page : Address} (hnext : next.toNat =
    max current.stop.toNat previousEnd.toNat) (hstop : current.stop.toNat ≤ page.toNat) :
    Free pageSize lower upper previousEnd (current :: regions) page ↔
      Free pageSize lower upper next regions page := by
  constructor
  · intro h
    have := h.behind
    exact ⟨h.aligned, by omega, h.low, h.high,
      fun region hregion => h.unmapped region (.tail _ hregion)⟩
  · intro h
    have := h.behind
    refine ⟨h.aligned, by omega, h.low, h.high, fun region hregion => ?_⟩
    obtain rfl | hregion := List.mem_cons.mp hregion
    · exact .inr hstop
    · exact h.unmapped region hregion

theorem ne_zero_of_le {a b : Address} (ha : a ≠ 0) (h : a.toNat ≤ b.toNat) : b ≠ 0 := by
  rintro rfl
  exact ha (BitVec.eq_of_toNat_eq (Nat.le_zero.mp h))

def Searches (mapper : Mapper) (allowed : Call → Prop) (pageSize reference : Address)
    (range : BitVec 64) (free : Address → Prop) (search : Search) (mapped : Option Address)
    (after : Search) : Prop :=
  Sound allowed pageSize reference range search mapped after ∧
    ∀ page, free page → Near reference range page →
      (∀ other, free other → Placed mapper other) → mapped ≠ none

theorem searchGaps_after (hpage : IsPageSize pageSize)
    (hunmap : ∀ address, allowed (.munmap address)) (hrange : pageSize.toNat ≤ range.toNat)
    (hupper : upper.toNat + pageSize.toNat < 2 ^ 64) (hsorted : Sorted regions)
    (hprevious : previousEnd ≠ 0)
    (hmap : ∀ page fixed, Free pageSize lower upper previousEnd regions page →
      allowed (.mmap page fixed)) :
    After (searchGaps mapper pageSize reference range lower upper previousEnd regions) search
      (Searches mapper allowed pageSize reference range
        (Free pageSize lower upper previousEnd regions) search) := by
  induction regions generalizing previousEnd search with
  | nil =>
    refine After.ite (fun hle => ?_) (fun hgt => ?_)
    · refine (add_after hupper).bind fun limit middle ⟨hmiddle, hlimit⟩ => ?_
      subst hmiddle
      have hstart := toNat_ite_lt previousEnd lower
      have hfree (page : Address) : Inside pageSize (if previousEnd > lower then previousEnd
          else lower) limit page ↔ Free pageSize lower upper previousEnd [] page := by
        constructor
        · rintro ⟨hdvd, hbegin, hfits⟩
          exact ⟨hdvd, by omega, by omega, by omega, fun region hregion => nomatch hregion⟩
        · rintro ⟨hdvd, hbehind, hlow, hhigh, _⟩
          exact ⟨hdvd, by omega, by omega⟩
      refine (tryMapGap_after hpage hunmap (ne_zero_of_le hprevious (by omega)) hrange
        fun page fixed hinside => hmap page fixed ((hfree page).mp hinside)).imp
          fun mapped after ⟨hsound, hhit⟩ =>
          ⟨hsound, fun page hpage' hnear hplaced => ?_⟩
      exact hhit page ((hfree page).mpr hpage') hnear fun other hother =>
        hplaced other ((hfree other).mp hother)
    · have hgt' : ¬previousEnd.toNat ≤ upper.toNat := hgt
      exact After.pure ⟨.none, fun page hfree => absurd hfree.high (by have := hfree.behind; omega)⟩
  | cons current regions ih =>
    refine (add_after hupper).bind fun limit middle ⟨hmiddle, hlimit⟩ => ?_
    subst hmiddle
    have hstart := toNat_ite_lt previousEnd lower
    have hend := toNat_ite_gt current.start limit
    rw [hlimit] at hend
    have hinside (page : Address) := @inside_iff_free pageSize lower upper previousEnd regions
      current hsorted _ _ page hstart hend
    have hgap : After (tryNonemptyGap mapper pageSize reference range
          (if previousEnd > lower then previousEnd else lower)
          (if current.start < limit then current.start else limit)) middle
        (Searches mapper allowed pageSize reference range
          (fun page => Free pageSize lower upper previousEnd (current :: regions) page ∧
            page.toNat + pageSize.toNat ≤ current.start.toNat) middle) := by
      refine After.ite (fun _ => ?_) (fun hempty => After.pure ⟨.none, fun page hpage' => ?_⟩)
      · refine (tryMapGap_after hpage hunmap (ne_zero_of_le hprevious (by omega)) hrange
          fun page fixed hpage' => hmap page fixed ((hinside page).mp hpage').1).imp
            fun mapped after ⟨hsound, hhit⟩ => ⟨hsound, fun page hpage' hnear hplaced => ?_⟩
        exact hhit page ((hinside page).mpr hpage') hnear fun other hother =>
          hplaced other ((hinside other).mp hother)
      · obtain ⟨-, hbegin, hfits⟩ := (hinside page).mpr hpage'
        have hlow := hpage.low
        exact absurd (show _ < _ by rw [BitVec.lt_def]; omega) hempty
    refine hgap.bind fun mapped after ⟨hsound, hhit⟩ => ?_
    cases mapped with
    | some address => exact After.pure ⟨hsound, fun page _ _ _ hnone => nomatch hnone⟩
    | none =>
      have hnext := toNat_ite_lt current.stop previousEnd
      have hbehind {page : Address} (hpage' : Free pageSize lower upper previousEnd
          (current :: regions) page) (hnear : Near reference range page)
          (hplaced : ∀ other, Free pageSize lower upper previousEnd (current :: regions) other →
            Placed mapper other) : current.stop.toNat ≤ page.toNat :=
        (hpage'.unmapped current List.mem_cons_self).resolve_left fun hfits =>
          hhit page ⟨hpage', hfits⟩ hnear (fun other hother => hplaced other hother.1) rfl
      refine After.ite (fun hdone => ?_) (fun hmore => ?_)
      · have hover : upper.toNat < (if current.stop > previousEnd then current.stop
            else previousEnd).toNat := hdone
        refine After.pure ⟨hsound, fun page hpage' hnear hplaced => ?_⟩
        have hstop := hbehind hpage' hnear hplaced
        exact absurd hpage'.high (by have := hpage'.behind; omega)
      · refine (ih hsorted.tail (ne_zero_of_le hprevious (by omega)) fun page fixed hfree => ?_).imp
          fun mapped final ⟨hsound', hhit'⟩ => ⟨.after hsound.1 hsound', ?_⟩
        · exact hmap page fixed ((free_cons_iff hnext (by have := hfree.behind; omega)).mpr hfree)
        · intro page hpage' hnear hplaced
          have hstop := hbehind hpage' hnear hplaced
          refine hhit' page ((free_cons_iff hnext hstop).mp hpage') hnear fun other hother => ?_
          exact hplaced other ((free_cons_iff hnext (by have := hother.behind; omega)).mpr hother)

end Gaps

theorem lowerBound_after (hpage : IsPageSize pageSize) (hrange : pageSize.toNat < range.toNat) :
    After (lowerBound pageSize reference range) search fun lower after => after = search ∧
      lower ≠ 0 ∧ ∀ page : Address, pageSize.toNat ∣ page.toNat →
        kMinimumUserAddress.toNat ≤ page.toNat → reference.toNat < page.toNat + range.toNat →
        lower.toNat ≤ page.toNat := by
  have hlow := hpage.low
  have hlt := reference.isLt
  refine After.ite (fun habove => ?_) (fun _ => ?_)
  · have hgt : range.toNat < reference.toNat := habove
    refine (sub_after hgt.le).bind fun start middle ⟨hmiddle, hstart⟩ => ?_
    subst hmiddle
    refine (alignUp_after hpage start).imp fun lower after ⟨hafter, hup, _⟩ => ?_
    obtain ⟨hdvd, hge, hlt'⟩ := hup (by omega)
    refine ⟨hafter, ?_, fun page hpage' _ hnear => ?_⟩
    · rintro rfl
      exact absurd hge (by simp; omega)
    · exact Nat.le_of_lt_add_of_dvd (by omega) hdvd hpage'
  · exact After.pure ⟨rfl, by decide, fun page _ hmin _ => hmin⟩

theorem upperBound_after (hpage : IsPageSize pageSize) (hrange : pageSize.toNat < range.toNat) :
    After (upperBound pageSize reference range) search fun upper after => after = search ∧
      upper.toNat + pageSize.toNat < 2 ^ 64 ∧ ∀ page : Address, pageSize.toNat ∣ page.toNat →
        page.toNat + pageSize.toNat ≤ reference.toNat + range.toNat →
        page.toNat + pageSize.toNat < 2 ^ 64 → page.toNat ≤ upper.toNat := by
  have hmax : lastAddress.toNat = 2 ^ 64 - 1 := by decide
  have hhigh := hpage.high
  have hround {unaligned : Address} {middle : Search} (hfits : unaligned.toNat + pageSize.toNat <
        2 ^ 64) (hall : ∀ page : Address,
        page.toNat + pageSize.toNat ≤ reference.toNat + range.toNat →
        page.toNat + pageSize.toNat < 2 ^ 64 → page.toNat ≤ unaligned.toNat) :
      After (alignDown unaligned pageSize) middle fun upper after => after = middle ∧
        upper.toNat + pageSize.toNat < 2 ^ 64 ∧ ∀ page : Address, pageSize.toNat ∣ page.toNat →
          page.toNat + pageSize.toNat ≤ reference.toNat + range.toNat →
          page.toNat + pageSize.toNat < 2 ^ 64 → page.toNat ≤ upper.toNat :=
    (alignDown_after hpage unaligned).imp fun upper after ⟨hafter, hdvd, hdown, hup⟩ =>
      ⟨hafter, by omega, fun page hpage' hend hlast =>
        Nat.le_of_lt_add_of_dvd (by have := hall page hend hlast; omega) hpage' hdvd⟩
  refine (sub_after (show range.toNat ≤ lastAddress.toNat by omega)).bind
    fun limit middle ⟨hmiddle, hlimit⟩ => ?_
  subst hmiddle
  refine After.ite (fun habove => ?_) (fun hbelow => ?_)
  · refine (sub_after (show pageSize.toNat ≤ lastAddress.toNat by omega)).bind
      fun unaligned after ⟨hafter, hunaligned⟩ => ?_
    subst hafter
    exact hround (by omega) fun page _ hlast => by omega
  · have hle : ¬limit.toNat < reference.toNat := hbelow
    refine (add_after (show reference.toNat + range.toNat < 2 ^ 64 by omega)).bind
      fun sum after ⟨hafter, hsum⟩ => ?_
    refine (sub_after (show pageSize.toNat ≤ sum.toNat by omega)).bind
      fun unaligned later ⟨hlater, hunaligned⟩ => ?_
    subst hafter hlater
    exact hround (by omega) fun page hend _ => by omega

/-- A page that the search looks for: unmapped, in user space, and near with its last byte. -/
structure Reachable (pageSize reference : Address) (range : BitVec 64)
    (regions : List MemoryRegion) (page : Address) : Prop where
  aligned : pageSize.toNat ∣ page.toNat
  unmapped : Unmapped pageSize regions page
  near : Near reference range page
  user : kMinimumUserAddress.toNat ≤ page.toNat
  within : page.toNat + pageSize.toNat ≤ reference.toNat + range.toNat
  last : page.toNat + pageSize.toNat < 2 ^ 64

def InGap (pageSize : Address) (regions : List MemoryRegion) : Call → Prop
  | .mmap address _ => pageSize.toNat ∣ address.toNat ∧ Unmapped pageSize regions address
  | .munmap _ => True

theorem allocateNearCodePage_after (hpage : IsPageSize pageSize)
    (hrange : pageSize.toNat < range.toNat) {regions : List MemoryRegion}
    (hsorted : Sorted regions) :
    After (allocateNearCodePage mapper pageSize reference range (some regions)) search
      fun mapped after => Sound (InGap pageSize regions) pageSize reference range search mapped
        after ∧ (kMinimumUserAddress.toNat ≤ reference.toNat →
          (∀ page, pageSize.toNat ∣ page.toNat → Unmapped pageSize regions page →
            Placed mapper page) →
          ∀ page, Reachable pageSize reference range regions page → mapped ≠ none) := by
  refine After.ite (fun hrefused => ?_) (fun _ => ?_)
  · refine After.pure ⟨.none, fun hmin => absurd hrefused ?_⟩
    rintro (hlow | hshort)
    · exact absurd (show reference.toNat < kMinimumUserAddress.toNat from hlow) (by omega)
    · exact absurd (show range.toNat ≤ pageSize.toNat from hshort) (by omega)
  · refine (lowerBound_after hpage hrange).bind fun lower middle ⟨hmiddle, hnonzero, hlower⟩ => ?_
    refine (upperBound_after hpage hrange).bind fun upper after ⟨hafter, hfits, hupper⟩ => ?_
    subst hmiddle hafter
    refine After.ite (fun hempty => ?_) (fun _ => ?_)
    · refine After.pure ⟨.none, fun _ _ page hreach => ?_⟩
      have hgt : upper.toNat < lower.toNat := hempty.resolve_left hnonzero
      have := hlower page hreach.aligned hreach.user hreach.near.2
      have := hupper page hreach.aligned hreach.within hreach.last
      omega
    · refine (searchGaps_after hpage (fun _ => trivial) hrange.le hfits hsorted (by decide)
        fun page fixed hfree => ⟨hfree.aligned, hfree.unmapped⟩).imp
        fun mapped final ⟨hsound, hhit⟩ => ⟨hsound, fun _ hplaced page hreach => ?_⟩
      exact hhit page ⟨hreach.aligned, hreach.user,
        hlower page hreach.aligned hreach.user hreach.near.2,
        hupper page hreach.aligned hreach.within hreach.last, hreach.unmapped⟩ hreach.near
        fun other hother => hplaced other hother.aligned hother.unmapped

theorem allocateNearCodePage_finds (mapper : Mapper) {pageSize : Address}
    (hpage : IsPageSize pageSize) (reference : Address) {regions : List MemoryRegion}
    (hsorted : Sorted regions) :
    After (allocateNearCodePage mapper pageSize reference kNearAllocationRange (some regions))
      ⟨[], false⟩ fun mapped after =>
        after.wrapped = false ∧ (∀ call ∈ after.calls, InGap pageSize regions call) ∧
        (∀ page, mapped = some page → reference.toNat ≤ page.toNat + 2 ^ 27 ∧
          page.toNat + pageSize.toNat ≤ reference.toNat + 2 ^ 27) ∧
        (kMinimumUserAddress.toNat ≤ reference.toNat →
          (∀ page, pageSize.toNat ∣ page.toNat → Unmapped pageSize regions page →
            Placed mapper page) → mapped = none →
          ∀ page, ¬Reachable pageSize reference kNearAllocationRange regions page) := by
  have hrange : kNearAllocationRange.toNat = 125829120 := by decide
  have hhigh := hpage.high
  refine (allocateNearCodePage_after hpage (by omega) hsorted).imp
    fun mapped after ⟨⟨hextends, haccepted⟩, hhit⟩ => ⟨hextends.wrapped, ?_, ?_, ?_⟩
  · obtain ⟨more, hcalls, hallowed⟩ := hextends.calls
    rwa [hcalls, List.nil_append]
  · intro page hmapped
    obtain ⟨-, hbefore, hbehind⟩ := haccepted page hmapped
    omega
  · intro hmin hplaced hnone page hreach
    exact hhit hmin hplaced page hreach hnone

/-- Between the mapping of the reference and the next one there is a gap. -/
theorem allocateNearCodePage_finds_sample :
    After (allocateNearCodePage (fun _ address _ => some address) 4096 0x1fffc
      kNearAllocationRange (some [⟨0x10000, 0x20000⟩, ⟨0x30000, 0x80000000⟩])) ⟨[], false⟩
      fun mapped after => after.wrapped = false ∧
        (∀ call ∈ after.calls, InGap 4096 [⟨0x10000, 0x20000⟩, ⟨0x30000, 0x80000000⟩] call) ∧
        ∃ page, mapped = some page ∧ page.toNat + 4096 ≤ 0x1fffc + 2 ^ 27 := by
  have hpage : IsPageSize 4096 := ⟨⟨12, by decide⟩, by decide, by decide⟩
  have hsorted : Sorted [⟨0x10000, 0x20000⟩, ⟨0x30000, 0x80000000⟩] := ⟨by decide, by decide⟩
  refine (allocateNearCodePage_finds (fun _ address _ => some address) hpage 0x1fffc hsorted).imp
    fun mapped after ⟨hwrapped, hcalls, hnear, hfound⟩ => ⟨hwrapped, hcalls, ?_⟩
  cases mapped with
  | none =>
    refine absurd ?_ (hfound (by decide) (fun page _ _ _ => rfl) rfl 0x20000)
    exact ⟨by decide, by decide, by decide, by decide, by decide, by decide⟩
  | some page => exact ⟨page, rfl, (hnear page rfl).2⟩

/-- A reference and mappings for which the search fails although every fixed mapping succeeds and
some unmapped page starts near enough. -/
def Missed (reference page : Address) (regions : List MemoryRegion) : Prop :=
  Sorted regions ∧
    (allocateNearCodePage (fun _ address _ => some address) 4096 reference kNearAllocationRange
      (some regions) ⟨[], false⟩).1 = none ∧
    4096 ∣ page.toNat ∧ Unmapped 4096 regions page ∧ Near reference kNearAllocationRange page

/-- Not searched are the addresses below user space, a page that ends behind the range, and the last
page of the address space; nor is there a search for a reference below user space. -/
theorem allocateNearCodePage_misses :
    Missed 0x10000 0x1000 [⟨0x10000, 0x10000000⟩] ∧
    Missed 0x20004 (0x20000 + kNearAllocationRange) [⟨0x10000, 0x20000 + kNearAllocationRange⟩] ∧
    Missed 0xfffffffffffffffc 0xfffffffffffff000 [⟨0x10000, 0xfffffffffffff000⟩] ∧
    Missed 0x1000 0x10000 [] := by
  refine ⟨⟨⟨?_, ?_⟩, ?_⟩, ⟨⟨?_, ?_⟩, ?_⟩, ⟨⟨?_, ?_⟩, ?_⟩, ⟨⟨?_, ?_⟩, ?_⟩⟩ <;> decide

end HookSelf.InlineHook.NearPage
