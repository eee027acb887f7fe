import HookSelf.Framework.Control

/-! Which calls, leases and destroys a framework counts, and when it is finalized. -/

namespace HookSelf.Framework

open Config SlotTable

namespace Activity

def isLease : Activity → Bool
  | .leased _ _ => true
  | _ => false

def ownsLifecycle : Activity → Bool
  | .leased _ after => after.keepsBusy
  | .detached _ | .creating _ _ | .created _ _ _ | .failed _ | .finishing => true
  | _ => false

def isDestroyer (activity : Activity) : Bool := !activity.isCall

def finalizes : Activity → Bool
  | .destroying _ | .finalizing => true
  | _ => false

def owned : Activity → Option HookselfRuntime
  | .detached runtime | .created runtime _ _ | .discarding runtime => some runtime
  | .failed runtime | .destroying runtime => runtime
  | _ => none

end Activity

section Invariant

open Activity

/-- The numbers a framework keeps are those of the activities under way. -/
structure Counted (lifetime : Lifetime) (activities : List Activity) : Prop where
  activeCalls : lifetime.control.activeCalls = activities.countP isCall
  runtimeUsers : lifetime.control.runtimeUsers = activities.countP isLease
  busy : activities.countP ownsLifecycle = lifetime.control.lifecycleBusy.toNat
  destroyer : activities.countP isDestroyer + lifetime.control.deferredDestroy.toNat +
    lifetime.finalized = lifetime.control.closing.toNat
  waiter : lifetime.control.destroyWaiter →
    lifetime.control.closing ∧ lifetime.control.deferredDestroy = false
  deferred : lifetime.control.deferredDestroy → 0 < lifetime.control.activeCalls
  quiet : 0 < activities.countP finalizes + lifetime.finalized →
    lifetime.control.activeCalls = 0

def runtimeIds (lifetime : Lifetime) (activities : List Activity) : List Nat :=
  (lifetime.control.runtime.map (·.id)).toList ++ activities.filterMap fun a => a.owned.map (·.id)

structure Owned (lifetime : Lifetime) (activities : List Activity) : Prop where
  nodup : (runtimeIds lifetime activities).Nodup
  live : ∀ id ∈ runtimeIds lifetime activities, id < lifetime.created ∧ id ∉ lifetime.destroyed
  past : ∀ id ∈ lifetime.destroyed, id < lifetime.created
  leased : ∀ lease after, Activity.leased lease after ∈ activities →
    lifetime.control.runtime = some lease.runtime

structure Inv (lifetime : Lifetime) (activities : List Activity) : Prop where
  counted : Counted lifetime activities
  owned : Owned lifetime activities

variable {lifetime lifetime' : Lifetime} {activities activities' rest : List Activity}
  {activity next : Activity}

theorem Counted.perm (h : Counted lifetime activities) (hperm : activities.Perm activities') :
    Counted lifetime activities' where
  activeCalls := h.activeCalls.trans (hperm.countP_eq _)
  runtimeUsers := h.runtimeUsers.trans (hperm.countP_eq _)
  busy := (hperm.countP_eq _).symm.trans h.busy
  destroyer := by rw [← hperm.countP_eq]; exact h.destroyer
  waiter := h.waiter
  deferred := h.deferred
  quiet := by rw [← hperm.countP_eq]; exact h.quiet

theorem Owned.perm (h : Owned lifetime activities) (hperm : activities.Perm activities') :
    Owned lifetime activities' := by
  have hids : (runtimeIds lifetime activities).Perm (runtimeIds lifetime activities') :=
    (hperm.filterMap _).append_left _
  exact ⟨hids.nodup_iff.mp h.nodup, fun id hid => h.live id (hids.mem_iff.mpr hid), h.past,
    fun lease after hmem => h.leased lease after (hperm.mem_iff.mpr hmem)⟩

theorem Inv.perm (h : Inv lifetime activities) (hperm : activities.Perm activities') :
    Inv lifetime activities' := ⟨h.counted.perm hperm, h.owned.perm hperm⟩

theorem Owned.without (gone : Option Nat) (h : Owned lifetime activities)
    (hids : (runtimeIds lifetime activities).Perm (gone.toList ++ runtimeIds lifetime' activities'))
    (hcreated : lifetime'.created = lifetime.created)
    (hdestroyed : lifetime'.destroyed = gone.toList ++ lifetime.destroyed)
    (hleased : ∀ lease after, Activity.leased lease after ∈ activities' →
      lifetime'.control.runtime = some lease.runtime) : Owned lifetime' activities' := by
  have hnodup := hids.nodup_iff.mp h.nodup
  have hlive : ∀ id ∈ gone.toList ++ runtimeIds lifetime' activities',
      id < lifetime.created ∧ id ∉ lifetime.destroyed :=
    fun id hid => h.live id (hids.mem_iff.mpr hid)
  obtain ⟨-, hrest, hapart⟩ := List.nodup_append.mp hnodup
  refine ⟨hrest, fun id hid => ?_, fun id hid => ?_, hleased⟩
  · obtain ⟨hlt, hnew⟩ := hlive id (List.mem_append_right _ hid)
    rw [hcreated, hdestroyed, List.mem_append, not_or]
    exact ⟨hlt, fun hgone => hapart id hgone id hid rfl, hnew⟩
  · rw [hdestroyed, List.mem_append] at hid
    rw [hcreated]
    rcases hid with hid | hid
    · exact (hlive id (List.mem_append_left _ hid)).1
    · exact h.past id hid

theorem Owned.same (h : Owned lifetime activities)
    (hids : runtimeIds lifetime activities = runtimeIds lifetime' activities')
    (hcreated : lifetime'.created = lifetime.created)
    (hdestroyed : lifetime'.destroyed = lifetime.destroyed)
    (hleased : ∀ lease after, Activity.leased lease after ∈ activities' →
      lifetime'.control.runtime = some lease.runtime) : Owned lifetime' activities' :=
  h.without none (.of_eq hids) hcreated hdestroyed hleased

end Invariant

section Step

open Activity

variable {lifetime lifetime' : Lifetime} {rest : List Activity} {activity next : Activity}

theorem Counted.entered {operation : Operation} {control : Control}
    (h : Counted lifetime (.begun operation :: rest)) (he : Entered lifetime.control control next) :
    Counted (lifetime.withControl control) (next :: rest) := by
  obtain ⟨hactive, husers, hbusy, hdestroyer, hwaiter, hdeferred, hquiet⟩ := h
  cases he with
  | ended => exact ⟨hactive, husers, hbusy, hdestroyer, hwaiter, hdeferred, hquiet⟩
  | forward hruntime =>
    refine ⟨hactive, ?_, hbusy, hdestroyer, hwaiter, hdeferred, hquiet⟩
    simpa [Lifetime.withControl, List.countP_cons, isLease] using husers
  | busy hruntime hidle hafter =>
    refine ⟨hactive, ?_, ?_, hdestroyer, hwaiter, hdeferred, hquiet⟩
    · simpa [Lifetime.withControl, List.countP_cons, isLease] using husers
    · simpa [Lifetime.withControl, List.countP_cons, ownsLifecycle, hidle, hafter] using hbusy
  | detach hruntime hidle hunused =>
    refine ⟨hactive, husers, ?_, hdestroyer, hwaiter, hdeferred, hquiet⟩
    simpa [Lifetime.withControl, List.countP_cons, ownsLifecycle, hidle] using hbusy
  | build hruntime hidle =>
    refine ⟨hactive, husers, ?_, hdestroyer, hwaiter, hdeferred, hquiet⟩
    simpa [Lifetime.withControl, List.countP_cons, ownsLifecycle, hidle] using hbusy

theorem Counted.sole_owner (h : Counted lifetime (activity :: rest)) (ha : activity.ownsLifecycle) :
    rest.countP ownsLifecycle = 0 := by
  have hbusy := h.busy
  have hle := Bool.toNat_le lifetime.control.lifecycleBusy
  rw [List.countP_cons_of_pos ha] at hbusy
  omega

theorem Counted.closing (h : Counted lifetime rest)
    (hdestroy : 0 < rest.countP isDestroyer + lifetime.finalized) : lifetime.control.closing := by
  have hcount := h.destroyer
  by_contra hopen
  rw [Bool.eq_false_iff.mpr hopen, Bool.toNat_false] at hcount
  omega

theorem countP_finalizes_le (activities : List Activity) :
    activities.countP finalizes ≤ activities.countP isDestroyer := by
  refine List.countP_mono_left fun activity _ h => ?_
  cases activity <;> first | rfl | exact nomatch h

theorem Counted.users (h : Counted lifetime (activity :: rest)) (ha : activity.isLease) :
    lifetime.control.runtimeUsers - 1 = rest.countP isLease := by
  rw [h.runtimeUsers, List.countP_cons_of_pos ha, Nat.add_sub_cancel]

theorem Counted.calls (h : Counted lifetime (activity :: rest)) (ha : activity.isCall) :
    lifetime.control.activeCalls - 1 = rest.countP isCall := by
  rw [h.activeCalls, List.countP_cons_of_pos ha, Nat.add_sub_cancel]

theorem Counted.advances {next : Option Activity} (h : Counted lifetime (activity :: rest))
    (ha : Advances lifetime activity lifetime' next) : Counted lifetime' (next.toList ++ rest) := by
  have hc := h
  obtain ⟨hactive, husers, hbusy, hdestroyer, hwaiter, hdeferred, hquiet⟩ := h
  cases ha with
  | enter he => exact hc.entered he
  | forwarded =>
    exact ⟨hactive, hc.users rfl, hbusy, hdestroyer, hwaiter, hdeferred, hquiet⟩
  | released =>
    exact ⟨hactive, hc.users rfl, hbusy, hdestroyer, hwaiter, hdeferred, hquiet⟩
  | settled hafter =>
    exact ⟨hactive, hc.users rfl, hc.sole_owner hafter, hdestroyer, hwaiter, hdeferred, hquiet⟩
  | refused =>
    exact ⟨hactive, husers, hc.sole_owner rfl, hdestroyer, hwaiter, hdeferred, hquiet⟩
  | published hruntime =>
    exact ⟨hactive, husers, hc.sole_owner rfl, hdestroyer, hwaiter, hdeferred, hquiet⟩
  | finished =>
    exact ⟨hactive, husers, hc.sole_owner rfl, hdestroyer, hwaiter, hdeferred, hquiet⟩
  | last hlast =>
    obtain ⟨hclosing, hnone, hleft, hwait⟩ := hlast
    refine ⟨hc.calls rfl, husers, hbusy, ?_, fun hw => absurd hw hwait, (nomatch ·), fun _ => hnone⟩
    simpa [isDestroyer, isCall, hleft, Lifetime.withControl, List.countP_cons, Nat.add_right_comm]
      using hdestroyer
  | left hlast =>
    have hremain (hleft : lifetime.control.deferredDestroy = true) :
        0 < lifetime.control.activeCalls - 1 := by
      by_contra hzero
      have hclosing : lifetime.control.closing = true := by
        by_contra hopen
        rw [hleft, Bool.eq_false_iff.mpr hopen, Bool.toNat_true, Bool.toNat_false] at hdestroyer
        omega
      refine hlast ⟨hclosing, by omega, hleft, fun hw => ?_⟩
      exact absurd hleft (by simp [(hwaiter hw).2])
    have hstays (hfinal : 0 < rest.countP finalizes + lifetime.finalized) :
        lifetime.control.activeCalls - 1 = 0 := by
      have := hquiet hfinal
      omega
    exact ⟨hc.calls rfl, husers, hbusy, hdestroyer, hwaiter, hremain, hstays⟩
  | waits => exact hc
  | wakes hzero =>
    exact ⟨hactive, husers, hbusy, hdestroyer, hwaiter, hdeferred, fun _ => hzero⟩
  | finalized =>
    have hcount : rest.countP isDestroyer + lifetime.control.deferredDestroy.toNat +
        (lifetime.finalized + 1) = lifetime.control.closing.toNat := by
      rw [List.countP_cons_of_pos rfl] at hdestroyer
      omega
    exact ⟨hactive, husers, hbusy, hcount, hwaiter, hdeferred, fun _ => hquiet (by simp [finalizes])⟩
  | dropped | created | notCreated | notStarted | failed | discarded | destroyed =>
    exact ⟨hactive, husers, hbusy, hdestroyer, hwaiter, hdeferred, hquiet⟩

theorem Owned.rest_leased (h : Owned lifetime (activity :: rest)) {lease : RuntimeLease}
    {after : AfterLease} (hmem : Activity.leased lease after ∈ rest) :
    lifetime.control.runtime = some lease.runtime :=
  h.leased lease after (List.mem_cons_of_mem _ hmem)

theorem Counted.not_leased (h : Counted lifetime (activity :: rest))
    (hzero : lifetime.control.activeCalls = 0) {lease : RuntimeLease} {after : AfterLease}
    (hmem : Activity.leased lease after ∈ rest) : False := by
  have hcalls := h.activeCalls.symm.trans hzero
  exact absurd rfl (List.countP_eq_zero.mp hcalls _ (List.mem_cons_of_mem _ hmem))

theorem leased_mem_cons {lease : RuntimeLease} {after : AfterLease}
    (hmem : Activity.leased lease after ∈ activity :: rest) (hlease : activity.isLease = false) :
    Activity.leased lease after ∈ rest := by
  rcases List.mem_cons.mp hmem with rfl | hmem
  · exact nomatch hlease
  · exact hmem

theorem Owned.move (h : Owned lifetime (activity :: rest))
    (hruntime : lifetime'.control.runtime = lifetime.control.runtime)
    (hcreated : lifetime'.created = lifetime.created)
    (hdestroyed : lifetime'.destroyed = lifetime.destroyed) (howned : next.owned = activity.owned)
    (hlease : next.isLease = false) : Owned lifetime' (next :: rest) := by
  refine h.same ?_ hcreated hdestroyed fun lease after hmem => ?_
  · simp only [runtimeIds, List.filterMap_cons, hruntime, howned]
  · exact hruntime.trans (h.rest_leased (leased_mem_cons hmem hlease))

theorem Owned.entered {operation : Operation} {control : Control}
    (h : Owned lifetime (.begun operation :: rest)) (hc : Counted lifetime (.begun operation :: rest))
    (he : Entered lifetime.control control next) :
    Owned (lifetime.withControl control) (next :: rest) := by
  cases he with
  | ended => exact h.move rfl rfl rfl rfl rfl
  | forward hruntime =>
    refine h.same rfl rfl rfl fun lease after hmem => ?_
    rcases List.mem_cons.mp hmem with heq | hmem
    · cases heq
      exact hruntime
    · exact h.rest_leased hmem
  | busy hruntime hidle hafter =>
    refine h.same rfl rfl rfl fun lease after hmem => ?_
    rcases List.mem_cons.mp hmem with heq | hmem
    · cases heq
      exact hruntime
    · exact h.rest_leased hmem
  | detach hruntime hidle hunused =>
    refine h.same ?_ rfl rfl fun lease after hmem => ?_
    · simp [runtimeIds, hruntime, owned, Lifetime.withControl]
    · have husers := hc.runtimeUsers.symm.trans hunused
      exact absurd rfl (List.countP_eq_zero.mp husers _
        (List.mem_cons_of_mem _ (leased_mem_cons hmem rfl)))
  | build hruntime hidle => exact h.move rfl rfl rfl rfl rfl

theorem Owned.destroy {runtime : Option HookselfRuntime} (h : Owned lifetime (activity :: rest))
    (howned : activity.owned = runtime) (hnext : next.owned = none) (hlease : next.isLease = false) :
    Owned (lifetime.destroy runtime) (next :: rest) := by
  refine h.without (runtime.map (·.id)) ?_ rfl rfl fun lease after hmem => ?_
  · simp only [runtimeIds, List.filterMap_cons, howned, hnext, Lifetime.destroy]
    cases runtime with
    | none => exact .refl _
    | some runtime => exact List.perm_middle
  · exact h.rest_leased (leased_mem_cons hmem hlease)

theorem Owned.advances {next : Option Activity} (h : Owned lifetime (activity :: rest))
    (hc : Counted lifetime (activity :: rest)) (ha : Advances lifetime activity lifetime' next) :
    Owned lifetime' (next.toList ++ rest) := by
  cases ha with
  | enter he => exact h.entered hc he
  | dropped => exact h.destroy rfl rfl rfl
  | failed => exact h.destroy rfl rfl rfl
  | discarded => exact h.destroy rfl rfl rfl
  | destroyed => exact h.destroy rfl rfl rfl
  | created =>
    have hids : ∀ id ∈ runtimeIds lifetime rest, id < lifetime.created ∧ id ∉ lifetime.destroyed :=
      h.live
    refine ⟨?_, fun id hid => ?_, fun id hid => Nat.lt_succ_of_lt (h.past id hid),
      fun lease after hmem => h.rest_leased (leased_mem_cons hmem rfl)⟩
    · refine (List.perm_middle.nodup_iff).mpr (List.nodup_cons.mpr ⟨fun hmem => ?_, h.nodup⟩)
      exact (hids _ hmem).1.ne rfl
    · rcases List.mem_cons.mp (List.perm_middle.mem_iff.mp hid) with rfl | hid
      · exact ⟨Nat.lt_succ_self _, fun hmem => (h.past _ hmem).ne rfl⟩
      · exact ⟨Nat.lt_succ_of_lt (hids id hid).1, (hids id hid).2⟩
  | published hruntime =>
    refine h.same ?_ rfl rfl fun lease after hmem => ?_
    · simp [runtimeIds, hruntime, owned, Lifetime.withControl]
    · exact nomatch hruntime.symm.trans (h.rest_leased (leased_mem_cons hmem rfl))
  | wakes hzero =>
    refine h.same ?_ rfl rfl fun lease after hmem => ?_
    · cases hruntime : lifetime.control.runtime <;>
        simp [runtimeIds, owned, Lifetime.withControl, hruntime]
    · exact (hc.not_leased hzero (leased_mem_cons hmem rfl)).elim
  | finalized =>
    refine h.without (lifetime.control.runtime.map (·.id)) (.refl _) rfl rfl fun lease after hmem => ?_
    exact (hc.not_leased (hc.quiet (by simp [finalizes])) hmem).elim
  | left => exact h.same rfl rfl rfl fun lease after hmem => h.rest_leased hmem
  | waits => exact h
  | forwarded | released | settled | notCreated | notStarted | refused | finished | last =>
    exact h.move rfl rfl rfl rfl rfl

theorem Inv.advances {next : Option Activity} (h : Inv lifetime (activity :: rest))
    (ha : Advances lifetime activity lifetime' next) : Inv lifetime' (next.toList ++ rest) :=
  ⟨h.counted.advances ha, h.owned.advances h.counted ha⟩

end Step

end HookSelf.Framework
