import HookSelf.Framework.Lifetime

/-! Every interleaving of calls and destroys finalizes a destroyed framework once. -/

namespace HookSelf.Framework

open Config SlotTable Activity

section Frames

variable {thread : Nat} {frames before after : List Frame} {activity : Activity}

theorem splitTop_eq_some (h : splitTop thread frames = some (before, activity, after)) :
    frames = before ++ ⟨thread, activity⟩ :: after ∧ ∀ frame ∈ before, frame.thread ≠ thread := by
  induction frames generalizing before with
  | nil => exact nomatch h
  | cons frame frames ih =>
    unfold splitTop at h
    split_ifs at h with hthread
    · obtain ⟨rfl, rfl, rfl⟩ : [] = before ∧ frame.activity = activity ∧ frames = after := by
        simpa using h
      subst hthread
      exact ⟨rfl, by simp⟩
    · obtain ⟨⟨before', activity', after'⟩, hsplit, heq⟩ := Option.map_eq_some_iff.mp h
      obtain ⟨rfl, rfl, rfl⟩ : frame :: before' = before ∧ activity' = activity ∧ after' = after := by
        simpa using heq
      obtain ⟨rfl, hbefore⟩ := ih hsplit
      refine ⟨rfl, fun other hother => ?_⟩
      rcases List.mem_cons.mp hother with rfl | hother
      exacts [hthread, hbefore other hother]

theorem splitTop_eq_none (h : splitTop thread frames = none) :
    ∀ frame ∈ frames, frame.thread ≠ thread := by
  induction frames with
  | nil => simp
  | cons frame frames ih =>
    unfold splitTop at h
    split_ifs at h with hthread
    intro other hother
    rcases List.mem_cons.mp hother with rfl | hother
    exacts [hthread, ih (Option.map_eq_none_iff.mp h) other hother]

def activities (frames : List Frame) : List Activity := frames.map (·.activity)

theorem activities_split (before after : List Frame) (thread : Nat) (activity : Activity) :
    (activities (before ++ ⟨thread, activity⟩ :: after)).Perm
      (activity :: activities (before ++ after)) := by
  simp only [activities, List.map_append, List.map_cons]
  exact List.perm_middle

theorem activities_next (before after : List Frame) (thread : Nat) (next : Option Activity) :
    (activities (before ++ (next.map (Frame.mk thread)).toList ++ after)).Perm
      (next.toList ++ activities (before ++ after)) := by
  cases next with
  | none => simp
  | some next =>
    simpa using activities_split before after thread next

end Frames

section Preservation

variable {lifetime lifetime' : Lifetime} {activity : Activity} {next : Option Activity}

theorem Entered.closing {control control' : Control} {next : Activity}
    (h : Entered control control' next) : control'.closing = control.closing := by
  cases h <;> rfl

theorem Entered.isCall {control control' : Control} {next : Activity}
    (h : Entered control control' next) : next.isCall := by
  cases h <;> rfl

theorem Advances.closing (h : Advances lifetime activity lifetime' next) :
    lifetime'.control.closing = lifetime.control.closing := by
  cases h with
  | enter he => exact he.closing
  | _ => rfl

theorem Advances.isCall (h : Advances lifetime activity lifetime' next) {later : Activity}
    (hnext : next = some later) :
    (later.isCall → activity.isCall) ∧ (later = .waiting → activity = .waiting) := by
  subst hnext
  cases h with
  | enter he => exact ⟨fun _ => rfl, fun hw => by simpa [hw, Activity.isCall] using he.isCall⟩
  | waits => exact ⟨id, id⟩
  | _ => simp [Activity.isCall]

structure System.Inv (system : System) : Prop where
  lifetime : Framework.Inv system.shared.lifetime (activities system.frames)
  registered : system.registered = !system.shared.framework.closing
  waiting : ∀ frame ∈ system.frames, frame.activity = .waiting →
    ¬threadHasFrameworkCall frame.thread system.frames

variable {system : System}

theorem countP_activities_pos {thread : Nat} {frames : List Frame}
    (h : threadHasFrameworkCall thread frames) : 0 < (activities frames).countP Activity.isCall := by
  obtain ⟨frame, hmem, -, hcall⟩ := h
  exact List.countP_pos_iff.mpr ⟨_, List.mem_map_of_mem hmem, hcall⟩

theorem beginFrameworkCall_cases (system : System) (thread : Nat) (operation : Operation) :
    beginFrameworkCall system thread operation = system ∨
      operation.accepted ∧
        (system.shared.framework.closing → threadHasFrameworkCall thread system.frames) ∧
        beginFrameworkCall system thread operation =
          { system with
            shared := system.shared.withFramework
              { system.shared.framework with
                activeCalls := system.shared.framework.activeCalls + 1 }
            frames := ⟨thread, .begun operation⟩ :: system.frames } := by
  unfold beginFrameworkCall
  dsimp only
  split_ifs with haccepted _ hclosing
  · exact .inl rfl
  · exact .inl rfl
  · exact .inl rfl
  · exact .inr ⟨haccepted, fun hc => not_not.mp fun hn => hclosing ⟨hc, hn⟩, rfl⟩
  · exact .inl rfl

theorem Counted.begin {lifetime : Lifetime} {activities : List Activity} {operation : Operation}
    (h : Counted lifetime activities)
    (hopen : lifetime.control.closing → 0 < activities.countP Activity.isCall) :
    Counted (lifetime.withControl
      { lifetime.control with activeCalls := lifetime.control.activeCalls + 1 })
      (.begun operation :: activities) := by
  have hcalls : lifetime.control.activeCalls + 1 =
      (Activity.begun operation :: activities).countP Activity.isCall := by
    rw [List.countP_cons_of_pos rfl, h.activeCalls]
  refine ⟨hcalls, h.runtimeUsers, h.busy, h.destroyer, h.waiter, fun _ => Nat.succ_pos _,
    fun hfinal => ?_⟩
  have hzero : lifetime.control.activeCalls = 0 := h.quiet hfinal
  have hdestroy : 0 < activities.countP isDestroyer + lifetime.finalized :=
    lt_of_lt_of_le hfinal (Nat.add_le_add_right (countP_finalizes_le activities) _)
  have hsome := hopen (h.closing hdestroy)
  rw [← h.activeCalls] at hsome
  omega

theorem System.Inv.begin (h : system.Inv) (thread : Nat) (operation : Operation) :
    (beginFrameworkCall system thread operation).Inv := by
  rcases beginFrameworkCall_cases system thread operation with heq | ⟨-, hopen, heq⟩
  · rwa [heq]
  · rw [heq]
    refine ⟨⟨h.lifetime.counted.begin fun hc => countP_activities_pos (hopen hc), ?_⟩,
      h.registered, fun frame hmem hw hcall => ?_⟩
    · exact h.lifetime.owned.same rfl rfl rfl fun lease after hmem =>
        h.lifetime.owned.leased lease after (leased_mem_cons hmem rfl)
    · have hmem : frame ∈ system.frames := by
        rcases List.mem_cons.mp hmem with rfl | hmem
        exacts [(nomatch hw), hmem]
      obtain ⟨other, hother, hthread, hisCall⟩ := hcall
      rcases List.mem_cons.mp hother with rfl | hother
      · refine h.waiting frame hmem hw (hthread ▸ hopen (h.lifetime.counted.closing ?_))
        exact Nat.add_pos_left (List.countP_pos_iff.mpr
          ⟨_, List.mem_map_of_mem hmem, by simp [hw, isDestroyer, Activity.isCall]⟩) _
      · exact h.waiting frame hmem hw ⟨other, hother, hthread, hisCall⟩

theorem Counted.open_none {lifetime : Lifetime} {activities : List Activity}
    (h : Counted lifetime activities) (hopen : lifetime.control.closing = false) :
    activities.countP isDestroyer = 0 ∧ lifetime.control.deferredDestroy = false ∧
      lifetime.finalized = 0 ∧ lifetime.control.destroyWaiter = false := by
  have hcount := h.destroyer
  rw [hopen, Bool.toNat_false] at hcount
  refine ⟨by omega, Bool.toNat_eq_zero.mp (by omega), by omega, ?_⟩
  by_contra hw
  exact nomatch hopen.symm.trans (h.waiter (Bool.not_eq_false _ ▸ hw)).1

theorem Counted.defer {lifetime : Lifetime} {activities : List Activity}
    (h : Counted lifetime activities) (hopen : lifetime.control.closing = false)
    (hcall : 0 < activities.countP Activity.isCall) :
    Counted (lifetime.withControl
      { lifetime.control with closing := true, deferredDestroy := true }) activities := by
  obtain ⟨hnone, -, hfinal, hwaiter⟩ := h.open_none hopen
  have hactive : 0 < lifetime.control.activeCalls := h.activeCalls ▸ hcall
  have hcount : activities.countP isDestroyer + Bool.toNat true + lifetime.finalized =
      Bool.toNat true := by
    rw [hnone, hfinal]
    rfl
  exact ⟨h.activeCalls, h.runtimeUsers, h.busy, hcount,
    fun hw => (nomatch hwaiter.symm.trans hw), fun _ => hactive, h.quiet⟩

theorem Counted.wait {lifetime : Lifetime} {activities : List Activity}
    (h : Counted lifetime activities) (hopen : lifetime.control.closing = false) :
    Counted (lifetime.withControl
      { lifetime.control with closing := true, destroyWaiter := true })
      (.waiting :: activities) := by
  obtain ⟨hnone, hdeferred, hfinal, -⟩ := h.open_none hopen
  have hcount : (Activity.waiting :: activities).countP isDestroyer +
      lifetime.control.deferredDestroy.toNat + lifetime.finalized = Bool.toNat true := by
    rw [List.countP_cons_of_pos rfl, hnone, hdeferred, hfinal]
    rfl
  exact ⟨h.activeCalls, h.runtimeUsers, h.busy, hcount, fun _ => ⟨rfl, hdeferred⟩, h.deferred,
    h.quiet⟩

theorem System.Inv.destroy (h : system.Inv) (thread : Nat) :
    (hookselfFrameworkDestroy system thread).Inv := by
  by_cases hregistered : system.registered
  · have hopen : system.shared.lifetime.control.closing = false := by
      have := h.registered
      rw [hregistered] at this
      exact (Bool.not_eq_true' _).mp this.symm
    have howned := h.lifetime.owned
    by_cases hcall : threadHasFrameworkCall thread system.frames
    · simp only [hookselfFrameworkDestroy, hregistered, not_true_eq_false, if_false, if_pos hcall]
      exact ⟨⟨h.lifetime.counted.defer hopen (countP_activities_pos hcall),
        howned.same rfl rfl rfl howned.leased⟩, rfl, h.waiting⟩
    · simp only [hookselfFrameworkDestroy, hregistered, not_true_eq_false, if_false, if_neg hcall]
      refine ⟨⟨h.lifetime.counted.wait hopen, howned.same rfl rfl rfl fun lease after hmem =>
        howned.leased lease after (leased_mem_cons hmem rfl)⟩, rfl, fun frame hmem hw hother => ?_⟩
      obtain ⟨other, hother, hthread, hisCall⟩ := hother
      have hother : other ∈ system.frames := by
        rcases List.mem_cons.mp hother with rfl | hother
        exacts [(nomatch hisCall), hother]
      rcases List.mem_cons.mp hmem with rfl | hmem
      · exact hcall ⟨other, hother, hthread, hisCall⟩
      · exact h.waiting frame hmem hw ⟨other, hother, hthread, hisCall⟩
  · simp only [hookselfFrameworkDestroy, hregistered]
    exact h

theorem System.Inv.advance (h : system.Inv) (thread : Nat) (answers : Answers) :
    (step system (.advance thread answers)).Inv := by
  unfold step
  dsimp only
  rcases hsplit : splitTop thread system.frames with _ | ⟨before, activity, after⟩
  · exact h
  · obtain ⟨hframes, hbefore⟩ := splitTop_eq_some hsplit
    have hadvances := advance_advances system.shared answers activity
    have hinv := h.lifetime
    rw [hframes] at hinv
    refine ⟨?_, ?_, ?_⟩
    · exact ((hinv.perm (activities_split _ _ _ _)).advances hadvances).perm
        (activities_next _ _ _ _).symm
    · exact h.registered.trans (congrArg (! ·) hadvances.closing.symm)
    · have hold : ∀ frame ∈ before ++ ((Framework.advance system.shared answers activity).2.map
          (Frame.mk thread)).toList ++ after, ∃ old ∈ system.frames, old.thread = frame.thread ∧
          (frame.activity.isCall → old.activity.isCall) ∧
          (frame.activity = .waiting → old.activity = .waiting) := by
        rw [hframes]
        intro frame hmem
        rcases List.mem_append.mp hmem with hmem | hmem
        · rcases List.mem_append.mp hmem with hmem | hmem
          · exact ⟨frame, by simp [hmem], rfl, id, id⟩
          · obtain ⟨next, hnext, rfl⟩ := Option.map_eq_some_iff.mp (Option.mem_toList.mp hmem)
            exact ⟨⟨thread, activity⟩, by simp, rfl, hadvances.isCall hnext⟩
        · exact ⟨frame, by simp [hmem], rfl, id, id⟩
      rintro frame hmem hw ⟨other, hother, hthread, hcall⟩
      obtain ⟨old, hmem', hthread', -, hw'⟩ := hold frame hmem
      obtain ⟨old', hother', hthread'', hcall', -⟩ := hold other hother
      refine h.waiting old hmem' (hw' hw) ⟨old', hother', ?_, hcall' hcall⟩
      rw [hthread'', hthread, hthread']

theorem System.Inv.step (h : system.Inv) (event : Event) : (Framework.step system event).Inv := by
  cases event with
  | call thread operation => exact h.begin thread operation
  | destroy thread => exact h.destroy thread
  | advance thread answers => exact h.advance thread answers

theorem System.Inv.run (h : system.Inv) (events : List Event) : (Framework.run system events).Inv := by
  induction events generalizing system with
  | nil => exact h
  | cons event events ih => exact ih (h.step event)

theorem System.Inv.step_closing (h : system.Inv) (event : Event) :
    (Framework.step system event).shared.framework.closing ↔
      system.shared.framework.closing ∨ ∃ thread, .destroy thread = event := by
  cases event with
  | call thread operation =>
    rcases beginFrameworkCall_cases system thread operation with heq | ⟨-, -, heq⟩ <;>
      simp [Framework.step, heq, Shared.withFramework]
  | destroy thread =>
    by_cases hregistered : system.registered
    · simp only [Framework.step, hookselfFrameworkDestroy, hregistered, not_true_eq_false, if_false]
      split_ifs <;> simp [Shared.withFramework]
    · have hclosing : system.shared.framework.closing = true := by
        simpa [h.registered] using hregistered
      simp [Framework.step, hookselfFrameworkDestroy, hregistered, hclosing]
  | advance thread answers =>
    rcases hsplit : splitTop thread system.frames with _ | ⟨before, activity, after⟩
    · simp [Framework.step, hsplit]
    · have hclosing : (Framework.advance system.shared answers activity).1.framework.closing =
          system.shared.framework.closing :=
        (advance_advances system.shared answers activity).closing
      simp [Framework.step, hsplit, hclosing]

/-- A framework is closing as soon as, and only when, it was destroyed. -/
theorem System.Inv.run_closing (h : system.Inv) (events : List Event) :
    (Framework.run system events).shared.framework.closing ↔
      system.shared.framework.closing ∨ ∃ thread, .destroy thread ∈ events := by
  induction events generalizing system with
  | nil => simp [Framework.run]
  | cons event events ih =>
    rw [Framework.run, List.foldl_cons]
    refine (ih (h.step event)).trans ?_
    simp only [h.step_closing event, List.mem_cons, exists_or, or_assoc]

theorem control_adoptRules
    {put : Nat → HookselfFramework → Nat → HookselfRuleHandle → Bool → HookselfFramework}
    (hput : ∀ index framework slot handle enabled,
      (put index framework slot handle enabled).control = framework.control)
    (count : Nat) (framework : HookselfFramework) :
    (adoptRules put count framework).control = framework.control :=
  forSlots_inv (fun adopted : HookselfFramework => adopted.control = framework.control) rfl
    fun _ _ _ hprev => (hput _ _ _ _ _).trans hprev

theorem control_hookselfFrameworkCreate {config : Option HookselfConfig}
    {framework : HookselfFramework} (h : hookselfFrameworkCreate config = .ok framework) :
    framework.control = (emptyFramework hookselfDefaultConfig).control := by
  obtain ⟨accepted, -, -, rfl⟩ := hookselfFrameworkCreate_ok.mp h
  refine (control_adoptRules ?_ _ _).trans (control_adoptRules ?_ _ _)
  · exact fun _ framework => control_putSyscallRule framework _
  · exact fun _ framework => control_putPathRule framework _ _

theorem initialSystem_open {config : Option HookselfConfig} {framework : HookselfFramework}
    (h : hookselfFrameworkCreate config = .ok framework) : framework.closing = false :=
  congrArg Control.closing (control_hookselfFrameworkCreate h)

theorem initialSystem_inv {config : Option HookselfConfig} {framework : HookselfFramework}
    (h : hookselfFrameworkCreate config = .ok framework) : (initialSystem framework).Inv := by
  have hlifetime : (initialSystem framework).shared.lifetime =
      ⟨(emptyFramework hookselfDefaultConfig).control, 0, [], 0⟩ := by
    rw [← control_hookselfFrameworkCreate h]
    rfl
  refine ⟨?_, ?_, by simp [initialSystem]⟩
  · rw [hlifetime]
    refine ⟨⟨rfl, rfl, rfl, rfl, (nomatch ·), (nomatch ·), fun _ => rfl⟩, ⟨?_, ?_, ?_, ?_⟩⟩
    · exact List.nodup_nil
    · exact fun id hid => nomatch hid
    · exact fun id hid => nomatch hid
    · exact fun lease after hmem => nomatch hmem
  · simp [initialSystem, initialSystem_open h]

end Preservation

section Completion

variable {lifetime lifetime' : Lifetime} {activity : Activity} {next : Option Activity}

def remaining : Activity → Nat
  | .begun _ => 9
  | .creating _ _ => 8
  | .created _ _ _ => 7
  | .leased _ _ | .detached _ | .failed _ => 6
  | .discarding _ | .finishing => 5
  | .returning => 4
  | .waiting => 3
  | .destroying _ => 2
  | .finalizing => 1

theorem Advances.remaining_lt (h : Advances lifetime activity lifetime' next)
    (hmoves : activity = .waiting → lifetime.control.activeCalls = 0) :
    (next.toList.map remaining).sum < remaining activity := by
  cases h with
  | enter he => cases he <;> simp [remaining]
  | waits hactive => exact absurd (hmoves rfl) hactive
  | _ => simp [remaining]

def work (frames : List Frame) : Nat := ((activities frames).map remaining).sum

variable {system : System}

theorem exists_work_lt (h : system.Inv) (hframes : system.frames ≠ [])
    (answers : Answers) :
    ∃ thread, work (step system (.advance thread answers)).frames < work system.frames := by
  have hadvance : ∀ thread before activity after,
      splitTop thread system.frames = some (before, activity, after) →
      (activity = .waiting → system.shared.lifetime.control.activeCalls = 0) →
      work (step system (.advance thread answers)).frames < work system.frames := by
    intro thread before activity after hsplit hmoves
    have hlt := (advance_advances system.shared answers activity).remaining_lt hmoves
    have hnext := ((activities_next before after thread
      (advance system.shared answers activity).2).map remaining).sum_eq
    have hold := ((activities_split before after thread activity).map remaining).sum_eq
    rw [← (splitTop_eq_some hsplit).1] at hold
    simp only [step, hsplit, work]
    rw [hnext, hold, List.map_append, List.sum_append, List.map_cons, List.sum_cons]
    omega
  by_cases hactive : system.shared.lifetime.control.activeCalls = 0
  · obtain ⟨frame, frames, hcons⟩ := List.exists_cons_of_ne_nil hframes
    refine ⟨frame.thread, hadvance frame.thread [] frame.activity frames ?_ fun _ => hactive⟩
    simp [hcons, splitTop]
  · rw [h.lifetime.counted.activeCalls, List.countP_eq_zero] at hactive
    push Not at hactive
    obtain ⟨activity, hmem, hcall⟩ := hactive
    obtain ⟨frame, hframe, rfl⟩ := List.mem_map.mp hmem
    rcases hsplit : splitTop frame.thread system.frames with _ | ⟨before, top, after⟩
    · exact absurd rfl (splitTop_eq_none hsplit frame hframe)
    · refine ⟨frame.thread, hadvance _ before top after hsplit fun hw => ?_⟩
      have htop : (⟨frame.thread, top⟩ : Frame) ∈ system.frames := by
        rw [(splitTop_eq_some hsplit).1]
        simp
      exact absurd ⟨frame, hframe, rfl, hcall⟩ (h.waiting _ htop hw)

def Event.IsAdvance : Event → Prop
  | .advance _ _ => True
  | _ => False

/-- The calls under way can all be brought to their end. -/
theorem exists_completion (h : system.Inv) (answers : Answers) :
    ∃ events, (∀ event ∈ events, event.IsAdvance) ∧ (run system events).frames = [] := by
  induction hwork : work system.frames using Nat.strong_induction_on generalizing system with
  | _ n ih =>
    by_cases hframes : system.frames = []
    · exact ⟨[], by simp, hframes⟩
    · obtain ⟨thread, hlt⟩ := exists_work_lt h hframes answers
      obtain ⟨events, hevents, hdone⟩ := ih _ (hwork ▸ hlt) (h.step _) rfl
      refine ⟨.advance thread answers :: events, fun event hmem => ?_, hdone⟩
      rcases List.mem_cons.mp hmem with rfl | hmem
      exacts [trivial, hevents event hmem]

end Completion

section Finalized

theorem Advances.finalizing {lifetime lifetime' : Lifetime} {activity : Activity}
    {next : Option Activity} (h : Advances lifetime activity lifetime' next)
    (hlt : lifetime.finalized < lifetime'.finalized) : activity = .finalizing := by
  cases h <;> first | rfl | exact absurd hlt (lt_irrefl _)

theorem finalizing_of_step {system : System} {event : Event}
    (hlt : system.shared.finalized < (step system event).shared.finalized) :
    .finalizing ∈ activities system.frames := by
  cases event with
  | call thread operation =>
    rcases beginFrameworkCall_cases system thread operation with heq | ⟨-, -, heq⟩ <;>
      simp [step, heq, Shared.withFramework] at hlt
  | destroy thread =>
    simp only [step, hookselfFrameworkDestroy] at hlt
    split_ifs at hlt <;> exact absurd hlt (lt_irrefl _)
  | advance thread answers =>
    rcases hsplit : splitTop thread system.frames with _ | ⟨before, activity, after⟩
    · simp [step, hsplit] at hlt
    · simp only [step, hsplit] at hlt
      have hfinal := (advance_advances system.shared answers activity).finalizing hlt
      rw [(splitTop_eq_some hsplit).1, hfinal]
      simp [activities]

theorem finalized_of_frames_nil {system : System} (h : system.Inv)
    (hclosing : system.shared.framework.closing) (hnone : system.frames = []) :
    system.shared.finalized = 1 := by
  have hcount := h.lifetime.counted.destroyer
  have hactive : system.shared.lifetime.control.activeCalls = 0 := by
    rw [h.lifetime.counted.activeCalls, hnone]
    rfl
  have hdeferred : system.shared.lifetime.control.deferredDestroy = false := by
    by_contra hleft
    have := h.lifetime.counted.deferred (Bool.not_eq_false _ ▸ hleft)
    omega
  have hclosed : system.shared.lifetime.control.closing = true := hclosing
  rw [hnone, hdeferred, hclosed] at hcount
  have hone : 0 + 0 + system.shared.finalized = 1 := hcount
  omega

/-- However calls and destroys interleave, a framework is closing from its first destroy on, it is
finalized at most once, only while it is closing and no call is active; once it is closing no call
begins but inside another, every call can be brought to its end, and when all have returned a
destroyed framework is finalized; and no runtime is destroyed under a lease. -/
theorem destroyed_framework_finalized_once {config : Option HookselfConfig}
    {framework : HookselfFramework} (hcreate : hookselfFrameworkCreate config = .ok framework)
    (events : List Event) :
    let system := run (initialSystem framework) events
    (system.shared.framework.closing ↔ ∃ thread, .destroy thread ∈ events) ∧
      system.shared.finalized ≤ 1 ∧
      (∀ event, system.shared.finalized < (step system event).shared.finalized →
        system.shared.framework.closing ∧ system.shared.framework.activeCalls = 0 ∧
          ∀ frame ∈ system.frames, frame.activity.isCall = false) ∧
      (∀ thread operation, system.shared.framework.closing →
        ¬threadHasFrameworkCall thread system.frames →
          step system (.call thread operation) = system) ∧
      (system.shared.framework.closing → system.frames = [] → system.shared.finalized = 1) ∧
      (∃ later, (∀ event ∈ later, event.IsAdvance) ∧ (run system later).frames = [] ∧
        (system.shared.framework.closing → (run system later).shared.finalized = 1)) ∧
      ∀ frame ∈ system.frames, ∀ lease after, frame.activity = .leased lease after →
        system.shared.framework.runtime = some lease.runtime ∧
          lease.runtime.id ∉ system.shared.destroyed := by
  intro system
  have h : system.Inv := (initialSystem_inv hcreate).run events
  refine ⟨?_, ?_, fun event hfinal => ?_, fun thread operation hclosing hnested => ?_,
    finalized_of_frames_nil h, ?_, ?_⟩
  · have hopen : (initialSystem framework).shared.framework.closing = false :=
      initialSystem_open hcreate
    simpa [hopen] using (initialSystem_inv hcreate).run_closing events
  · have hle := Bool.toNat_le system.shared.lifetime.control.closing
    exact (Nat.le_add_left _ _).trans (h.lifetime.counted.destroyer.le.trans hle)
  · have hmem := finalizing_of_step hfinal
    have hfinalizes : 0 < (activities system.frames).countP finalizes :=
      List.countP_pos_iff.mpr ⟨_, hmem, rfl⟩
    have hzero := h.lifetime.counted.quiet (Nat.add_pos_left hfinalizes _)
    refine ⟨h.lifetime.counted.closing ?_, hzero, fun frame hframe => ?_⟩
    · exact Nat.add_pos_left (hfinalizes.trans_le (countP_finalizes_le _)) _
    · have hnone := List.countP_eq_zero.mp (h.lifetime.counted.activeCalls.symm.trans hzero) _
        (List.mem_map_of_mem hframe)
      exact Bool.eq_false_iff.mpr hnone
  · rcases beginFrameworkCall_cases system thread operation with heq | ⟨-, hopen, -⟩
    · exact heq
    · exact absurd (hopen hclosing) hnested
  · obtain ⟨later, hlater, hdone⟩ :=
      exists_completion h ⟨(.ok, .idle), (.ok, .idle), .ok, false, true⟩
    refine ⟨later, hlater, hdone, fun hclosing => ?_⟩
    exact finalized_of_frames_nil (h.run later) ((h.run_closing later).mpr (.inl hclosing)) hdone
  · intro frame hframe lease after hlease
    have hruntime := h.lifetime.owned.leased lease after
      (hlease ▸ List.mem_map_of_mem hframe)
    refine ⟨hruntime, (h.lifetime.owned.live _ ?_).2⟩
    simp [runtimeIds, hruntime]

/-- A destroy that waits for a call of another thread, and finalizes when the call has returned. -/
theorem defaultFramework_finalized_once : ∃ framework,
    hookselfFrameworkCreate (some hookselfDefaultConfig) = .ok framework ∧
      ∀ answers, (run (initialSystem framework) [.call 1 .getState, .destroy 2, .advance 2 answers,
        .advance 1 answers, .advance 1 answers, .advance 2 answers, .advance 2 answers,
        .advance 2 answers]).shared.finalized = 1 := by
  have hcreate : hookselfFrameworkCreate (some hookselfDefaultConfig) = .ok _ :=
    hookselfFrameworkCreate_ok.mpr ⟨_, rfl, hookselfDefaultConfig_ok, rfl⟩
  refine ⟨_, hcreate, fun answers => ?_⟩
  have hcontrol := control_hookselfFrameworkCreate hcreate
  have hfacts := destroyed_framework_finalized_once hcreate [.call 1 .getState, .destroy 2,
    .advance 2 answers, .advance 1 answers, .advance 1 answers, .advance 2 answers,
    .advance 2 answers, .advance 2 answers]
  generalize createdFramework hookselfDefaultConfig = framework at hcontrol hfacts ⊢
  have hactive : framework.activeCalls = 0 := congrArg Control.activeCalls hcontrol
  have hruntime : framework.runtime = none := congrArg Control.runtime hcontrol
  have hopen : framework.closing = false := congrArg Control.closing hcontrol
  have hdeferred : framework.deferredDestroy = false := congrArg Control.deferredDestroy hcontrol
  refine hfacts.2.2.2.2.1 (hfacts.1.mpr ⟨2, by simp⟩) ?_
  simp [run, step, initialSystem, beginFrameworkCall, hookselfFrameworkDestroy, splitTop, advance,
    runOperation, Shared.enter, Shared.withFramework, forwardLocked, acquireLocked, hruntime,
    hactive, hopen, hdeferred, threadHasFrameworkCall, Operation.accepted, Activity.isCall,
    endFrameworkCall, uint32Max, Shared.destroy, finalizeFramework]

end Finalized

end HookSelf.Framework
