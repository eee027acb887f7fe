import HookSelf.CloseRange.ReplayLaws

/-! Every replay runs to its end and covers the range without the protected descriptors. -/

namespace HookSelf.CloseRange

open Gaps

theorem unshareRequested_le (flags : BitVec 32) : unshareRequested flags ≤ 1 := by
  unfold unshareRequested
  split_ifs <;> omega

namespace CloseRangeReplayCursor

def remaining (cursor : CloseRangeReplayCursor) : List (Nat × Nat) :=
  gaps cursor.originalLast cursor.nextFirst
    (points (cursor.protectedFds.drop cursor.protectedIndex))

structure Running (cursor : CloseRangeReplayCursor) : Prop where
  header : cursor.HeaderValid
  fds : cursor.FdsValid
  limit : cursor.originalLast ≤ uint32Max
  incomplete : cursor.complete = 0
  settled : cursor.unsharePending = 0
  progress : cursor.ProgressValid
  emitted : cursor.segmentCount ≤ cursor.protectedIndex + unshareRequested cursor.originalFlags ∨
    cursor.nextFirst = cursor.protectedFd cursor.protectedIndex ∧
      cursor.segmentCount ≤ cursor.protectedIndex + 1 + unshareRequested cursor.originalFlags

structure Finished (cursor : CloseRangeReplayCursor) : Prop where
  valid : cursor.Valid
  complete : cursor.complete ≠ 0

theorem Finished.next {cursor : CloseRangeReplayCursor} (h : cursor.Finished) :
    nextCloseRangeReplaySegment cursor = .ok (cursor, none) := by
  rw [nextCloseRangeReplaySegment, if_neg (not_not.mpr h.valid), if_pos h.complete]

variable {cursor : CloseRangeReplayCursor}

theorem Running.valid (h : cursor.Running) : cursor.Valid :=
  ⟨h.header, h.fds, by rw [if_neg (not_not.mpr h.incomplete)]; exact h.progress⟩

theorem FdsValid.sorted (h : cursor.FdsValid) : cursor.protectedFds.Pairwise (· < ·) :=
  List.isChain_iff_pairwise.mp h.2

theorem Valid.next_unshare (h : cursor.Valid) (hincomplete : cursor.complete = 0)
    (hpending : cursor.unsharePending ≠ 0) :
    nextCloseRangeReplaySegment cursor =
      .ok ({ cursor with segmentCount := cursor.segmentCount + 1, unsharePending := 0 },
        some (unshareSegment cursor)) := by
  rw [nextCloseRangeReplaySegment, if_neg (not_not.mpr h), if_neg (not_not.mpr hincomplete),
    if_pos hpending]

theorem protectedFd_eq {index : Nat} (h : index < cursor.protectedFds.length) :
    cursor.protectedFd index = cursor.protectedFds[index].toNat := by
  rw [protectedFd, List.getD_eq_getElem _ _ h]

theorem Running.drop_eq (h : cursor.Running) :
    ∃ fd, cursor.protectedFds.drop cursor.protectedIndex =
      fd :: cursor.protectedFds.drop (cursor.protectedIndex + 1) ∧
      cursor.protectedFd cursor.protectedIndex = fd.toNat := by
  have hindex : cursor.protectedIndex < cursor.protectedFds.length := h.progress.1
  exact ⟨_, List.drop_eq_getElem_cons hindex, protectedFd_eq hindex⟩

theorem points_sorted {first last : Nat} {fds : List Int} (hsorted : fds.Pairwise (· < ·))
    (hrange : ∀ fd ∈ fds, FdInRange fd first last) : (points fds).Pairwise (· < ·) := by
  refine List.pairwise_map.mpr (hsorted.imp_of_mem fun {fd other} hfd hother hlt => ?_)
  have := (hrange fd hfd).1
  have := (hrange other hother).1
  omega

theorem Running.ascending (h : cursor.Running) :
    Ascending cursor.originalLast cursor.nextFirst
      (points (cursor.protectedFds.drop cursor.protectedIndex)) := by
  have hrange : ∀ fd ∈ cursor.protectedFds.drop cursor.protectedIndex,
      FdInRange fd cursor.originalFirst cursor.originalLast :=
    fun fd hfd => h.fds.1 fd (List.mem_of_mem_drop hfd)
  have hsorted := points_sorted (h.fds.sorted.sublist (List.drop_sublist _ _)) hrange
  obtain ⟨fd, hdrop, hfd⟩ := h.drop_eq
  have hnext : cursor.nextFirst ≤ fd.toNat := hfd ▸ h.progress.2.2.2.2.1
  refine ⟨hsorted, fun point hpoint => ?_, fun point hpoint => ?_⟩
  · rw [hdrop] at hsorted hpoint
    rcases List.mem_cons.mp hpoint with rfl | hmem
    · exact hnext
    · exact hnext.trans (List.rel_of_pairwise_cons hsorted hmem).le
  · obtain ⟨other, hother, rfl⟩ := List.mem_map.mp hpoint
    exact (hrange other hother).2.2

/-- The cursor after a segment that ends below a protected descriptor. -/
abbrev stopBefore (cursor : CloseRangeReplayCursor) (protectedFd index : Nat) :
    CloseRangeReplayCursor :=
  { cursor with
    nextFirst := protectedFd
    protectedIndex := index
    segmentCount := cursor.segmentCount + 1 }

theorem Running.counted (h : cursor.Running)
    (hunshare : unshareRequested cursor.originalFlags ≠ 0) : cursor.segmentCount ≠ 0 := by
  intro hzero
  obtain ⟨_, _, _, _, _, hstage⟩ := h.progress
  rw [if_pos hzero] at hstage
  exact hunshare (hstage.2.2.symm.trans h.settled)

theorem Running.stopBefore (h : cursor.Running) {skipped rest : List Int} {fd : Int}
    (hdrop : cursor.protectedFds.drop cursor.protectedIndex = skipped ++ fd :: rest)
    (hmore : cursor.nextFirst = cursor.protectedFd cursor.protectedIndex → skipped ≠ []) :
    (cursor.stopBefore fd.toNat (cursor.protectedIndex + skipped.length)).Running ∧
      (cursor.stopBefore fd.toNat (cursor.protectedIndex + skipped.length)).remaining =
        gaps cursor.originalLast fd.toNat (points (fd :: rest)) := by
  obtain ⟨hmagic, hversion, hactive, hcomplete, hpending, hnonempty, hcapacity, _, _, hheader⟩ :=
    h.header
  have hrest : cursor.protectedFds.drop (cursor.protectedIndex + skipped.length) = fd :: rest := by
    rw [← List.drop_drop, hdrop, List.drop_left]
  have hindex : cursor.protectedIndex + skipped.length < cursor.protectedFds.length := by
    have hlength := congrArg List.length hrest
    rw [List.length_drop, List.length_cons] at hlength
    omega
  have hfd : cursor.protectedFd (cursor.protectedIndex + skipped.length) = fd.toNat := by
    rw [protectedFd_eq hindex]
    rw [List.drop_eq_getElem_cons hindex] at hrest
    rw [(List.cons.inj hrest).1]
  have hsplit := List.take_append_drop (cursor.protectedIndex + skipped.length) cursor.protectedFds
  have hmem : fd ∈ cursor.protectedFds := by
    rw [← hsplit, hrest]
    exact List.mem_append_right _ List.mem_cons_self
  have hrange := h.fds.1 fd hmem
  have hone := unshareRequested_le cursor.originalFlags
  have hemitted : cursor.segmentCount + 1 ≤
      cursor.protectedIndex + skipped.length + 1 + unshareRequested cursor.originalFlags := by
    rcases h.emitted with hfew | ⟨hnext, hfew⟩
    · omega
    · have := List.length_pos_iff.mpr (hmore hnext)
      omega
  refine ⟨{ h with
    header := ⟨hmagic, hversion, hactive, hcomplete, hpending, hnonempty, hcapacity, hindex.le, ?_,
      hheader⟩
    fds := h.fds
    progress := ⟨hindex, hrange.2.1, hrange.2.2, ?_, hfd.ge, ?_⟩
    emitted := .inr ⟨hfd.symm, hemitted⟩ }, ?_⟩
  · show cursor.segmentCount + 1 ≤ cursor.protectedFds.length + 2
    omega
  · intro other hother
    have hsorted := h.fds.sorted
    rw [← hsplit, hrest] at hsorted
    have hlt := (List.pairwise_append.mp hsorted).2.2 other hother fd List.mem_cons_self
    have := (h.fds.1 other (List.mem_of_mem_take hother)).1
    show other.toNat < fd.toNat
    omega
  · rw [if_neg (Nat.succ_ne_zero _), if_neg]
    · exact ⟨h.settled, hfd⟩
    · rintro ⟨hunshare, hone⟩
      exact h.counted hunshare (Nat.succ.inj hone)
  · rw [remaining]
    show gaps _ _ (points (cursor.protectedFds.drop _)) = _
    rw [hrest]

theorem Running.complete (h : cursor.Running) (next : Nat) {count : Nat}
    (hcount : count ≤ cursor.segmentCount + 1) :
    Finished { cursor with
      active := 0
      complete := 1
      nextFirst := next
      protectedIndex := cursor.protectedCount
      segmentCount := count } := by
  obtain ⟨hmagic, hversion, _, _, hpending, hnonempty, hcapacity, _, _, hordered, hflags, _⟩ :=
    h.header
  have hindex : cursor.protectedIndex < cursor.protectedCount := h.progress.1
  have hfew : count ≤ cursor.protectedCount + 2 := by
    have hone := unshareRequested_le cursor.originalFlags
    rcases h.emitted with hfew | ⟨_, hfew⟩ <;> omega
  exact ⟨⟨⟨hmagic, hversion, Nat.zero_le _, le_rfl, hpending, hnonempty, hcapacity, le_rfl, hfew,
    hordered, hflags, rfl⟩, h.fds, rfl, rfl, h.settled⟩, Nat.one_ne_zero⟩

theorem Running.next (h : cursor.Running) :
    (∃ final, nextCloseRangeReplaySegment cursor = .ok (final, none) ∧ final.Finished ∧
      cursor.remaining = []) ∨
    ∃ cursor' first last, nextCloseRangeReplaySegment cursor =
        .ok (cursor', some (rangeSegment cursor first last)) ∧
      cursor'.originalFlags = cursor.originalFlags ∧
      (cursor'.Running ∧ cursor.remaining = (first, last) :: cursor'.remaining ∨
        cursor'.Finished ∧ cursor.remaining = [(first, last)]) := by
  have hmatches := findSegment_matches h.limit h.ascending cursor.protectedIndex
  rw [nextCloseRangeReplaySegment, if_neg (not_not.mpr h.valid),
    if_neg (not_not.mpr h.incomplete), if_neg (not_not.mpr h.settled)]
  cases hfound : findSegment cursor.originalLast
      (cursor.protectedFds.drop cursor.protectedIndex) cursor.protectedIndex cursor.nextFirst with
  | before first protectedFd index =>
    rw [hfound] at hmatches
    obtain ⟨skipped, fd, rest, hdrop, rfl, rfl, _, _, hmore, hgaps⟩ := hmatches
    obtain ⟨head, hhead, hfd⟩ := h.drop_eq
    have hskipped : cursor.nextFirst = cursor.protectedFd cursor.protectedIndex → skipped ≠ [] := by
      intro hnext
      refine hmore ?_
      rw [hhead, hnext, hfd]
      rfl
    obtain ⟨hrunning, hremaining⟩ := h.stopBefore hdrop hskipped
    exact .inr ⟨_, _, _, rfl, rfl, .inl ⟨hrunning, hremaining ▸ hgaps⟩⟩
  | tail first =>
    rw [hfound] at hmatches
    exact .inr ⟨_, _, _, rfl, rfl, .inr ⟨h.complete first le_rfl, hmatches.2⟩⟩
  | finished =>
    rw [hfound] at hmatches
    refine .inl ⟨_, rfl, ?_, hmatches⟩
    have hmark : cursor.markComplete = { cursor with
        active := 0
        complete := 1
        nextFirst := 0
        protectedIndex := cursor.protectedCount } := by simp [markComplete, h.settled]
    rw [hmark]
    exact h.complete 0 (Nat.le_succ _)

end CloseRangeReplayCursor

inductive Replays : CloseRangeReplayCursor → List CloseRangeReplaySegment →
    CloseRangeReplayCursor → Prop
  | done {cursor final : CloseRangeReplayCursor}
      (call : nextCloseRangeReplaySegment cursor = .ok (final, none)) : Replays cursor [] final
  | emit {cursor cursor' final : CloseRangeReplayCursor} {segment : CloseRangeReplaySegment}
      {segments : List CloseRangeReplaySegment}
      (call : nextCloseRangeReplaySegment cursor = .ok (cursor', some segment))
      (rest : Replays cursor' segments final) : Replays cursor (segment :: segments) final

theorem CloseRangeReplayCursor.Running.replays {cursor : CloseRangeReplayCursor}
    (h : cursor.Running) :
    ∃ segments final, Replays cursor segments final ∧ final.Finished ∧
      segments.map (fun segment => (segment.first, segment.last)) = cursor.remaining ∧
      ∀ segment ∈ segments, segment.flags = cursor.originalFlags &&& kCloseRangeReplayCloexec := by
  generalize hremaining : cursor.remaining = remaining
  induction remaining generalizing cursor with
  | nil =>
    rcases h.next with ⟨final, hcall, hfinished, _⟩ | ⟨_, _, _, _, _, ⟨_, hgaps⟩ | ⟨_, hgaps⟩⟩
    · exact ⟨[], final, .done hcall, hfinished, rfl, nofun⟩
    · exact absurd (hgaps.symm.trans hremaining) (List.cons_ne_nil _ _)
    · exact absurd (hgaps.symm.trans hremaining) (List.cons_ne_nil _ _)
  | cons gap remaining ih =>
    rcases h.next with ⟨_, _, _, hgaps⟩ | ⟨cursor', first, last, hcall, hflags, hnext⟩
    · exact absurd (hremaining.symm.trans hgaps) (List.cons_ne_nil _ _)
    · rcases hnext with ⟨hrunning, hgaps⟩ | ⟨hfinished, hgaps⟩
      · obtain ⟨rfl, hrest⟩ := List.cons.inj (hgaps.symm.trans hremaining)
        obtain ⟨segments, final, hreplays, hfinished, hsegments, hall⟩ := ih hrunning hrest
        refine ⟨_, final, .emit hcall hreplays, hfinished, congrArg ((first, last) :: ·) hsegments,
          fun segment hsegment => ?_⟩
        rcases List.mem_cons.mp hsegment with rfl | hmem
        · rfl
        · exact hflags ▸ hall segment hmem
      · obtain ⟨rfl, hrest⟩ := List.cons.inj (hgaps.symm.trans hremaining)
        refine ⟨_, cursor', .emit hcall (.done hfinished.next), hfinished, ?_,
          fun segment hsegment => ?_⟩
        · rw [← hrest]
          rfl
        · obtain rfl := List.mem_singleton.mp hsegment
          rfl

structure Registry (first last : Nat) (fds : List Int) : Prop where
  sorted : fds.Pairwise (· < ·)
  range : ∀ fd ∈ fds, FdInRange fd first last
  nonempty : fds ≠ []
  capacity : fds.length ≤ kCloseRangeReplayProtectedCapacity

section Start

variable {first last : Nat} {flags : BitVec 32} {fds : List Int} {count pending : Nat}

def startCursor (first last : Nat) (flags : BitVec 32) (fds : List Int) (count pending : Nat) :
    CloseRangeReplayCursor :=
  { newCursor first last flags fds with
    active := 1
    segmentCount := count
    unsharePending := pending }

theorem Registry.startCursor_valid (h : Registry first last fds) (hordered : first ≤ last)
    (hflags : flags &&& ~~~kCloseRangeReplayKnownFlags = 0)
    (hstage : count = 0 ∧ pending = unshareRequested flags ∨
      count = unshareRequested flags ∧ pending = 0) :
    (startCursor first last flags fds count pending).HeaderValid ∧
      (startCursor first last flags fds count pending).FdsValid ∧
      (startCursor first last flags fds count pending).ProgressValid := by
  have hlength := List.length_pos_iff.mpr h.nonempty
  have hone := unshareRequested_le flags
  have hfirst : first ≤ (startCursor first last flags fds count pending).protectedFd 0 := by
    rw [CloseRangeReplayCursor.protectedFd_eq (by exact hlength)]
    exact (h.range _ (List.getElem_mem hlength)).2.1
  refine ⟨⟨rfl, rfl, le_rfl, Nat.zero_le _, ?_, hlength.ne', h.capacity, Nat.zero_le _, ?_,
    hordered, hflags, rfl⟩, ⟨h.range, List.isChain_iff_pairwise.mpr h.sorted⟩,
    ⟨hlength, le_rfl, hordered, nofun, hfirst, ?_⟩⟩
  · show pending ≤ 1
    omega
  · show count ≤ fds.length + 2
    omega
  · show if count = 0 then _ else _
    by_cases hcount : count = 0
    · rw [if_pos hcount]
      refine ⟨rfl, rfl, ?_⟩
      show pending = unshareRequested flags
      omega
    · rw [if_neg hcount, if_pos]
      · refine ⟨?_, rfl, rfl⟩
        show pending = 0
        omega
      · show unshareRequested flags ≠ 0 ∧ count = 1
        omega

theorem Registry.startCursor_running (h : Registry first last fds) (hordered : first ≤ last)
    (hlimit : last ≤ uint32Max) (hflags : flags &&& ~~~kCloseRangeReplayKnownFlags = 0) :
    (startCursor first last flags fds (unshareRequested flags) 0).Running := by
  obtain ⟨hheader, hfds, hprogress⟩ := h.startCursor_valid hordered hflags (.inr ⟨rfl, rfl⟩)
  exact ⟨hheader, hfds, hlimit, rfl, rfl, hprogress, .inl (Nat.le_add_left _ _)⟩

end Start

/-- Segments that close a range but for its protected descriptors. -/
structure Covers (first last : Nat) (flags : BitVec 32) (protectedFds : List Int)
    (segments : List CloseRangeReplaySegment) : Prop where
  nonempty : ∀ segment ∈ segments, segment.first ≤ segment.last
  ascending : segments.Pairwise fun segment segment' => segment.last < segment'.first
  union : ∀ number : Nat,
    (∃ segment ∈ segments, segment.first ≤ number ∧ number ≤ segment.last) ↔
      first ≤ number ∧ number ≤ last ∧ (number : Int) ∉ protectedFds
  maximal : ∀ segment ∈ segments,
    (segment.first = first ∨ (segment.first : Int) - 1 ∈ protectedFds) ∧
      (segment.last = last ∨ (segment.last : Int) + 1 ∈ protectedFds)
  cloexec : ∀ segment ∈ segments, segment.flags = flags &&& kCloseRangeReplayCloexec

theorem Registry.ascending {first last : Nat} {fds : List Int} (h : Registry first last fds) :
    Ascending last first (points fds) := by
  refine ⟨CloseRangeReplayCursor.points_sorted h.sorted h.range, fun point hpoint => ?_,
    fun point hpoint => ?_⟩
  · obtain ⟨fd, hfd, rfl⟩ := List.mem_map.mp hpoint
    exact (h.range fd hfd).2.1
  · obtain ⟨fd, hfd, rfl⟩ := List.mem_map.mp hpoint
    exact (h.range fd hfd).2.2

theorem Registry.mem_points {first last : Nat} {fds : List Int} (h : Registry first last fds)
    {number : Nat} : number ∈ points fds ↔ (number : Int) ∈ fds := by
  constructor
  · intro hmem
    obtain ⟨fd, hfd, rfl⟩ := List.mem_map.mp hmem
    rwa [Int.toNat_of_nonneg (h.range fd hfd).1]
  · intro hmem
    exact List.mem_map.mpr ⟨number, hmem, Int.toNat_natCast number⟩

theorem Registry.covers {first last : Nat} {flags : BitVec 32} {fds protectedFds : List Int}
    (h : Registry first last fds)
    (hmem : ∀ fd, fd ∈ fds ↔ fd ∈ protectedFds ∧ FdInRange fd first last)
    {segments : List CloseRangeReplaySegment}
    (hgaps : segments.map (fun segment => (segment.first, segment.last)) =
      gaps last first (points fds))
    (hflags : ∀ segment ∈ segments, segment.flags = flags &&& kCloseRangeReplayCloexec) :
    Covers first last flags protectedFds segments := by
  have hgap : ∀ segment ∈ segments, (segment.first, segment.last) ∈ gaps last first (points fds) :=
    fun segment hsegment => hgaps ▸ List.mem_map_of_mem hsegment
  have hprotected : ∀ fd ∈ fds, fd ∈ protectedFds := fun fd hfd => ((hmem fd).mp hfd).1
  refine ⟨fun segment hsegment => (gaps_bounds h.ascending (hgap segment hsegment)).2.1, ?_, ?_, ?_,
    hflags⟩
  · have hpairwise := gaps_pairwise h.ascending
    rw [← hgaps, List.pairwise_map] at hpairwise
    exact hpairwise.imp fun {segment segment'} hlt => by omega
  · intro number
    have hunion := mem_gaps h.ascending number
    rw [h.mem_points, hmem, ← hgaps] at hunion
    simp only [List.mem_map, exists_exists_and_eq_and] at hunion
    refine hunion.trans ?_
    have hrange : first ≤ number → number ≤ last → FdInRange number first last :=
      fun hfirst hlast => ⟨Int.natCast_nonneg _, hfirst, hlast⟩
    constructor
    · rintro ⟨hfirst, hlast, hnot⟩
      exact ⟨hfirst, hlast, fun hfd => hnot ⟨hfd, hrange hfirst hlast⟩⟩
    · rintro ⟨hfirst, hlast, hnot⟩
      exact ⟨hfirst, hlast, fun hfd => hnot hfd.1⟩
  · intro segment hsegment
    obtain ⟨hfirst, hlast⟩ := gaps_maximal h.ascending (hgap segment hsegment)
    refine ⟨hfirst.imp_right ?_, hlast.imp_right fun hpoint => ?_⟩
    · rintro ⟨point, hpoint, heq⟩
      have hcast : (segment.first : Int) - 1 = point := by
        have heq' : segment.first = point + 1 := heq
        omega
      rw [hcast]
      exact hprotected _ (h.mem_points.mp hpoint)
    · exact hprotected _ (h.mem_points.mp hpoint)

theorem prepareCloseRangeReplay_ok {first last : Nat} (hordered : first ≤ last) {flags : BitVec 32}
    (hflags : flags &&& ~~~kCloseRangeReplayKnownFlags = 0) {protectedFds : List Int}
    (hcapacity : protectedFds.length ≤ kCloseRangeReplayProtectedCapacity) :
    (∀ fd ∈ protectedFds, ¬FdInRange fd first last) ∧
        prepareCloseRangeReplay first last flags protectedFds = .ok (.passthrough,
          { newCursor first last flags [] with complete := 1, unsharePending := 0 }) ∨
      ∃ fds, Registry first last fds ∧
        (∀ fd, fd ∈ fds ↔ fd ∈ protectedFds ∧ FdInRange fd first last) ∧
        prepareCloseRangeReplay first last flags protectedFds = .ok (.replay,
          startCursor first last flags fds 0 (unshareRequested flags)) := by
  obtain ⟨fds, hcollect, hsorted, hlength, hmem⟩ :=
    @collectProtected_some first last protectedFds [] List.Pairwise.nil
      (by rw [List.length_nil, Nat.zero_add]; exact hcapacity)
  have hprotected : ∀ fd, fd ∈ fds ↔ fd ∈ protectedFds ∧ FdInRange fd first last := fun fd =>
    (hmem fd).trans (or_iff_right List.not_mem_nil)
  rw [prepareCloseRangeReplay, if_neg (not_or.mpr ⟨by omega, not_not.mpr hflags⟩),
    if_neg (by omega), hcollect]
  by_cases hempty : fds = []
  · subst hempty
    exact .inl ⟨fun fd hfd hrange => List.not_mem_nil ((hprotected fd).mpr ⟨hfd, hrange⟩), rfl⟩
  · have hrange : ∀ fd ∈ fds, FdInRange fd first last := fun fd hfd => ((hprotected fd).mp hfd).2
    exact .inr ⟨fds, ⟨hsorted, hrange, hempty, hlength⟩, hprotected,
      if_neg (mt List.length_eq_zero_iff.mp hempty)⟩

theorem Registry.replays {first last : Nat} {flags : BitVec 32} {fds : List Int}
    (h : Registry first last fds) (hordered : first ≤ last) (hlimit : last ≤ uint32Max)
    (hflags : flags &&& ~~~kCloseRangeReplayKnownFlags = 0) :
    ∃ unshares segments final,
      Replays (startCursor first last flags fds 0 (unshareRequested flags)) (unshares ++ segments)
        final ∧ final.Finished ∧
      unshares = (if flags &&& kCloseRangeReplayUnshare ≠ 0 then
        [⟨uint32Max, uint32Max, flags &&& kCloseRangeReplayCloexec ||| kCloseRangeReplayUnshare, 1⟩]
        else []) ∧
      segments.map (fun segment => (segment.first, segment.last)) = gaps last first (points fds) ∧
      ∀ segment ∈ segments, segment.flags = flags &&& kCloseRangeReplayCloexec := by
  obtain ⟨segments, final, hreplays, hfinished, hgaps, hcloexec⟩ :=
    (h.startCursor_running hordered hlimit hflags).replays
  by_cases hunshare : flags &&& kCloseRangeReplayUnshare ≠ 0
  · have hone : unshareRequested flags = 1 := if_pos hunshare
    rw [hone] at hreplays
    refine ⟨_, segments, final, .emit ?_ hreplays, hfinished, (if_pos hunshare).symm, hgaps,
      hcloexec⟩
    obtain ⟨hheader, hfds, hprogress⟩ :=
      h.startCursor_valid hordered hflags (.inl ⟨rfl, rfl⟩)
    have hvalid : (startCursor first last flags fds 0 (unshareRequested flags)).Valid :=
      ⟨hheader, hfds, hprogress⟩
    exact hvalid.next_unshare rfl (hone.trans_ne Nat.one_ne_zero)
  · have hzero : unshareRequested flags = 0 := if_neg hunshare
    rw [hzero] at hreplays ⊢
    exact ⟨[], segments, final, hreplays, hfinished, (if_neg hunshare).symm, hgaps, hcloexec⟩

/-- A range without protected descriptors passes through; any other is replayed to its end. -/
theorem closeRangeReplay_covers {first last : Nat} (hordered : first ≤ last)
    (hlimit : last ≤ uint32Max) {flags : BitVec 32}
    (hflags : flags &&& ~~~kCloseRangeReplayKnownFlags = 0) {protectedFds : List Int}
    (hcapacity : protectedFds.length ≤ kCloseRangeReplayProtectedCapacity) :
    ∃ disposition cursor,
      prepareCloseRangeReplay first last flags protectedFds = .ok (disposition, cursor) ∧
      (disposition = .passthrough ↔ ∀ fd ∈ protectedFds, ¬FdInRange fd first last) ∧
      (disposition ≠ .passthrough → ∃ unshares segments final,
        Replays cursor (unshares ++ segments) final ∧
        nextCloseRangeReplaySegment final = .ok (final, none) ∧
        unshares = (if flags &&& kCloseRangeReplayUnshare ≠ 0 then
          [⟨uint32Max, uint32Max, flags &&& kCloseRangeReplayCloexec ||| kCloseRangeReplayUnshare,
            1⟩] else []) ∧
        Covers first last flags protectedFds segments) := by
  rcases prepareCloseRangeReplay_ok hordered hflags hcapacity with
    ⟨hnone, hprepare⟩ | ⟨fds, hregistry, hmem, hprepare⟩
  · exact ⟨_, _, hprepare, iff_of_true rfl hnone, fun hreplay => absurd rfl hreplay⟩
  · refine ⟨_, _, hprepare, iff_of_false nofun fun hnone => ?_, fun _ => ?_⟩
    · obtain ⟨hprotected, hrange⟩ := (hmem _).mp (List.head_mem hregistry.nonempty)
      exact hnone _ hprotected hrange
    · obtain ⟨unshares, segments, final, hreplays, hfinished, hunshares, hgaps, hcloexec⟩ :=
        hregistry.replays hordered hlimit hflags
      exact ⟨unshares, segments, final, hreplays, hfinished.next, hunshares,
        hregistry.covers hmem hgaps hcloexec⟩

/-- Two protected descriptors, given with repetitions and others outside the range, split a range
that is unshared and marked close-on-exec. -/
theorem closeRangeReplay_covers_all :
    ∃ cursor unshare segments final,
      prepareCloseRangeReplay 3 uint32Max 6 [9, -1, 5, 9, 2] = .ok (.replay, cursor) ∧
      Replays cursor (unshare :: segments) final ∧
      nextCloseRangeReplaySegment final = .ok (final, none) ∧
      Covers 3 uint32Max 6 [9, -1, 5, 9, 2] segments := by
  obtain ⟨disposition, cursor, hprepare, hiff, hreplay⟩ :=
    @closeRangeReplay_covers 3 uint32Max (by decide) le_rfl 6 (by decide) [9, -1, 5, 9, 2]
      (by decide)
  have hprotected : disposition ≠ .passthrough := fun hpass =>
    hiff.mp hpass 5 (by decide) (by decide)
  obtain ⟨unshares, segments, final, hreplays, hfinal, hunshares, hcovers⟩ := hreplay hprotected
  obtain rfl : disposition = .replay := by
    cases disposition with
    | passthrough => exact absurd rfl hprotected
    | replay => rfl
  rw [hunshares] at hreplays
  exact ⟨cursor, _, segments, final, hprepare, hreplays, hfinal, hcovers⟩

end HookSelf.CloseRange
