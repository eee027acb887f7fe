import HookSelf.InlineHook.RelocatorLaws

/-! The bridge and the trampoline of a code page: each has space enough, and they do not meet. -/

namespace HookSelf.InlineHook.CodePage

open Arm64 Fallible

section Writing

variable {writer : CodeWriter} {cost : Nat} {E : InlineResult → CodeWriter → Prop}

theorem Build.write_yields {operation : CodeWriter → Option CodeWriter}
    (h : CodeWriter.Operates operation cost) (hspace : writer.size + cost ≤ writer.capacity) :
    Yields (Build.write operation) writer (fun _ after => operation writer = some after ∧
      writer.Grown after cost) E := by
  obtain ⟨hsome, hnone⟩ := h writer (by omega)
  cases hoperation : operation writer with
  | none => exact absurd (hnone hoperation) (by omega)
  | some after =>
    have hrun : (Build.write operation).run writer = (.ok (), after) := by
      simp only [Build.write, ExceptT.run, hoperation]
    exact Yields.of_ok hrun ⟨rfl, hsome after hoperation⟩

theorem Build.get_yields :
    Yields (get : Build CodeWriter) writer
      (fun value after => writer = value ∧ writer = after) E :=
  ⟨rfl, rfl⟩

theorem Build.emitFarBranch_yields (destination : Address) (hroomy : writer.Roomy 20)
    (hdvd : 4 ∣ writer.size) :
    Yields (Build.emitFarBranch destination) writer
      (fun _ after => writer.Grown after 20) E := by
  have hspace := hroomy.space
  refine Build.get_yields.bind_ok fun value middle ⟨hvalue, hmiddle⟩ => ?_
  subst hvalue hmiddle
  refine (Build.write_yields (CodeWriter.emit32_operates 0) (by omega)).bind_ok
    fun _ load ⟨hemit, hload⟩ => ?_
  have hloadSize : load.size = writer.size + 4 := CodeWriter.emit_size hemit
  have hloadCapacity := hload.capacity
  refine (Build.write_yields (CodeWriter.emit32_operates kBrX17) (by omega)).bind_ok
    fun _ jump ⟨_, hjump⟩ => ?_
  have hjumped := hload.trans hjump
  have hjumpSize := hjumped.bounded
  have hjumpCapacity := hjumped.capacity
  refine (Build.write_yields CodeWriter.align8_operates (by omega)).bind_ok
    fun _ aligned ⟨_, haligned⟩ => ?_
  have hplaced := hjumped.trans haligned
  have hplacedSize := hplaced.bounded
  have hplacedCapacity := hplaced.capacity
  refine Build.get_yields.bind_ok fun value middle ⟨hvalue, hmiddle⟩ => ?_
  subst hvalue hmiddle
  refine (Build.write_yields (CodeWriter.emit64_operates destination) (by omega)).bind_ok
    fun _ written ⟨_, hwritten⟩ => ?_
  have hall := hplaced.trans hwritten
  refine Build.get_yields.bind_ok fun value middle ⟨hvalue, hmiddle⟩ => ?_
  subst hvalue hmiddle
  have hbehind : writer.size + 4 ≤ aligned.size := by
    have := hjump.grows
    have := haligned.grows
    omega
  have hunwrapped := hroomy.unwrapped
  have hnear := hroomy.near
  obtain ⟨word, hword⟩ := encodeLdrLiteralX_near (show (17 : Word) ≤ 31 by decide)
    (by omega : writer.size ≤ aligned.size) (by omega)
    (Nat.dvd_sub (hplaced.aligned hdvd) hdvd)
    (by omega : writer.base.toNat + aligned.size < 2 ^ 64)
  have haddress : aligned.address = writer.base + BitVec.ofNat 64 aligned.size := by
    rw [CodeWriter.address, CodeWriter.addressAt, hplaced.base]
  have hloadAddress :
      written.addressAt writer.size = writer.base + BitVec.ofNat 64 writer.size := by
    rw [CodeWriter.addressAt, hall.base]
  obtain ⟨after, hpatch, hpatched⟩ := CodeWriter.patch32_grown word hall.fits
    (show writer.size + 4 ≤ written.size from hbehind.trans hwritten.grows)
  have hrun : (Build.write (·.patch32 writer.size word)).run written = (.ok (), after) := by
    simp only [Build.write, ExceptT.run, hpatch]
  simp only [haddress, hloadAddress, hword]
  exact Yields.of_ok hrun (hall.trans hpatched)

theorem Build.emitBranch_yields (replacement : Address) (hroomy : writer.Roomy 20)
    (hdvd : 4 ∣ writer.size) :
    Yields (do
      match encodeBranch (← get).address replacement false (some 0) with
      | (true, some branch) => do
        Build.write (·.emit32 branch)
        return false
      | _ => do
        Build.emitFarBranch replacement
        return true : Build Bool) writer (fun _ after => writer.Grown after 20) E := by
  refine Build.get_yields.bind_ok fun value middle ⟨hvalue, hmiddle⟩ => ?_
  subst hvalue hmiddle
  have hspace := hroomy.space
  split
  · exact (Build.write_yields (CodeWriter.emit32_operates _) (by omega)).bind_ok
      fun _ after ⟨_, hafter⟩ => Yields.pure (hafter.mono (by omega))
  · exact (Build.emitFarBranch_yields replacement hroomy hdvd).bind_ok
      fun _ after hafter => Yields.pure hafter

theorem Build.emitBridge_yields (replacement : Address) (authenticate : Word)
    (hroomy : writer.Roomy 24) (hdvd : 4 ∣ writer.size) :
    Yields (Build.emitBridge replacement authenticate) writer
      (fun _ after => writer.Grown after 24) E := by
  have hspace := hroomy.space
  unfold Build.emitBridge
  refine Yields.ite (fun _ => ?_) (fun _ => ?_)
  · refine (Build.write_yields (CodeWriter.emit32_operates _) (by omega)).bind_ok
      fun _ start ⟨_, hstart⟩ => ?_
    exact (Build.emitBranch_yields replacement (hroomy.rest hstart) (hstart.aligned hdvd)).imp
      (fun _ _ hrest => hstart.trans hrest) fun _ _ h => h
  · exact (Build.emitBranch_yields replacement (hroomy.mono (by omega)) hdvd).imp
      (fun _ _ hrest => hrest.mono (by omega)) fun _ _ h => h

theorem Build.emitPrefix_yields (target patchAddress : Address) (firstInstruction : Word)
    (copiedInstructionCount : Nat) (hspace : writer.size + 8 ≤ writer.capacity) :
    Yields (Build.emitPrefix target patchAddress firstInstruction copiedInstructionCount) writer
      (fun _ after => writer.Grown after 8) E := by
  unfold Build.emitPrefix
  refine (Build.write_yields (CodeWriter.emit32_operates _) (by omega)).bind_ok
    fun _ pad ⟨_, hpad⟩ => ?_
  refine Build.get_yields.bind_ok fun value middle ⟨hvalue, hmiddle⟩ => ?_
  subst hvalue hmiddle
  have hpadSize := hpad.bounded
  have hpadCapacity := hpad.capacity
  refine Yields.ite (fun _ => ?_) fun _ => Yields.pure (hpad.mono (by omega))
  refine (Build.write_yields (CodeWriter.emit32_operates _) (by omega)).bind_ok
    fun _ copied ⟨_, hcopied⟩ => ?_
  refine Build.get_yields.bind_ok fun value middle ⟨hvalue, hmiddle⟩ => ?_
  subst hvalue hmiddle
  exact Yields.pure (hpad.trans hcopied)

end Writing

section Pages

variable {page : Buffer} {pageAddress : Address}

theorem init_roomy {buffer : Buffer} {capacity cost : Nat} {base : Address}
    (hunwrapped : base.toNat + capacity < 2 ^ 64) (hcost : cost ≤ capacity)
    (hsmall : capacity < 2 ^ 20) : (CodeWriter.init buffer capacity base).Roomy cost :=
  ⟨hunwrapped, (Nat.zero_add cost).trans_le hcost,
    ((Nat.zero_add cost).trans_le hcost).trans_lt hsmall⟩

theorem buildBridge_ok (hpage : pageAddress.toNat + 256 < 2 ^ 64) (replacement : Address)
    (authenticate : Word) (flags : InfoFlags) :
    ∃ buffer bridge, buildBridge page pageAddress replacement authenticate flags =
        (.ok, buffer, some bridge) ∧ bridge.bridgeAddress = pageAddress ∧
      bridge.usedSize ≤ kBridgeCapacity ∧
      ∀ index, kBridgeCapacity ≤ index → buffer index = page index := by
  have hroomy : (CodeWriter.init page kBridgeCapacity pageAddress).Roomy 24 :=
    init_roomy (show pageAddress.toNat + 64 < 2 ^ 64 by omega) (by decide) (by decide)
  have hyields := Build.emitBridge_yields (E := fun _ _ => False) replacement authenticate hroomy
    (Nat.dvd_zero 4)
  unfold buildBridge
  unfold Yields at hyields
  rcases hrun : (Build.emitBridge replacement authenticate).run
      (.init page kBridgeCapacity pageAddress) with ⟨result | usesX17, writer⟩
  · rw [hrun] at hyields
    exact hyields.elim
  · rw [hrun] at hyields
    exact ⟨_, _, rfl, rfl, hyields.fits.trans_eq hyields.capacity, hyields.confined⟩

theorem spliced_shifted (buffer : Buffer) {offset index : Nat} (part : Buffer) {bound : Nat}
    (hbound : offset ≤ bound)
    (hpart : ∀ place, bound - offset ≤ place → part place = shifted buffer offset place)
    (hindex : index < offset ∨ bound ≤ index) :
    spliced buffer offset part index = buffer index := by
  unfold spliced
  split_ifs with hle
  · rw [hpart _ (by omega), shifted]
    congr 1
    omega
  · rfl

variable {target patchAddress : Address} {firstInstruction patchedInstruction : Word}
  {copiedInstructionCount : Nat}

theorem trampolineRequest_roomy {maps : List AddressMap} {start writer : CodeWriter}
    (hwriter : start.Grown writer 8) (hstart : start.size = 0)
    (hbase : start.base.toNat + kOriginalCapacity < 2 ^ 64) :
    (Relocation.init (trampolineRequest target patchAddress patchedInstruction
      copiedInstructionCount maps writer)).writer.Roomy 44 := by
  have hsize := hwriter.bounded
  have hconstant : kOriginalCapacity = 192 := rfl
  have haddress : writer.address.toNat = start.base.toNat + writer.size := by
    rw [CodeWriter.address, CodeWriter.addressAt, hwriter.base, BitVec.toNat_add,
      BitVec.toNat_ofNat, Nat.mod_eq_of_lt (by omega : writer.size < 2 ^ 64),
      Nat.mod_eq_of_lt (by omega)]
  exact init_roomy (show writer.address.toNat + (kOriginalCapacity - writer.size) < 2 ^ 64 by
    omega) (show 44 ≤ kOriginalCapacity - writer.size by omega)
    (show kOriginalCapacity - writer.size < 2 ^ 20 by omega)

def trampolineWriter (page : Buffer) (pageAddress : Address) : CodeWriter :=
  .init (shifted page kOriginalOffset) kOriginalCapacity
    (pageAddress + BitVec.ofNat 64 kOriginalOffset)

theorem trampoline_confined {writer : CodeWriter} {part : Buffer}
    (hwriter : (trampolineWriter page pageAddress).Grown writer 8)
    (hpart : ∀ place, kOriginalCapacity - writer.size ≤ place →
      part place = shifted writer.buffer writer.size place) {index : Nat}
    (hindex : index < kOriginalOffset ∨ kOriginalOffset + kOriginalCapacity ≤ index) :
    spliced page kOriginalOffset (spliced writer.buffer writer.size part) index = page index := by
  have hsize : writer.size ≤ kOriginalCapacity := hwriter.fits.trans_eq hwriter.capacity
  refine spliced_shifted page _ (Nat.le_add_right _ _) (fun place hplace => ?_) hindex
  have hplace : kOriginalCapacity ≤ place := by omega
  rw [spliced_shifted writer.buffer part hsize hpart (.inr hplace)]
  exact hwriter.confined place hplace

/-- A trampoline that is not built is refused for its arguments, for its instruction, or because a
branch cannot reach; what is written of it stays in its part of the page. -/
theorem buildOriginalTrampoline_cases (hpage : pageAddress.toNat + 256 < 2 ^ 64)
    (flags : InfoFlags) :
    ∃ result buffer trampoline, buildOriginalTrampoline page pageAddress target patchAddress
        firstInstruction patchedInstruction copiedInstructionCount flags =
          (result, buffer, trampoline) ∧
      result ≠ .internal ∧
      (∀ index, index < kOriginalOffset ∨ kOriginalOffset + kOriginalCapacity ≤ index →
        buffer index = page index) ∧
      (result = .range → ∃ maps writer,
        (Build.emitPrefix target patchAddress firstInstruction copiedInstructionCount).run
          (trampolineWriter page pageAddress) = (.ok maps, writer) ∧
        (trampolineRequest target patchAddress patchedInstruction copiedInstructionCount maps
          writer).OutOfReach) := by
  unfold buildOriginalTrampoline
  split_ifs with hcount
  · exact ⟨_, _, _, rfl, by decide, fun _ _ => rfl, by simp⟩
  have hbase : (trampolineWriter page pageAddress).base.toNat + kOriginalCapacity < 2 ^ 64 := by
    show (pageAddress + BitVec.ofNat 64 64).toNat + 192 < 2 ^ 64
    rw [BitVec.toNat_add, BitVec.toNat_ofNat]
    omega
  have hyields : Yields (Build.emitPrefix target patchAddress firstInstruction
      copiedInstructionCount) (trampolineWriter page pageAddress) (fun _ after =>
        (trampolineWriter page pageAddress).Grown after 8) fun _ _ => False :=
    Build.emitPrefix_yields _ _ _ _ (show 0 + 8 ≤ 192 by omega)
  unfold Yields at hyields
  rcases hrun : (Build.emitPrefix target patchAddress firstInstruction copiedInstructionCount).run
      (trampolineWriter page pageAddress) with ⟨result | maps, writer⟩
  · rw [hrun] at hyields
    exact hyields.elim
  · rw [hrun] at hyields
    have hroomy := @trampolineRequest_roomy target patchAddress patchedInstruction
      copiedInstructionCount maps _ writer hyields rfl hbase
    unfold trampolineWriter at hrun
    simp only [hrun]
    cases hinvalid : (trampolineRequest target patchAddress patchedInstruction
        copiedInstructionCount maps writer).invalid with
    | true =>
      rw [relocateOneAndContinue, hinvalid]
      exact ⟨.invalidArgument, _, _, rfl, by decide,
        fun _ hindex => trampoline_confined hyields (fun _ _ => rfl) hindex, by simp⟩
    | false =>
      obtain ⟨-, hrelocate⟩ | ⟨-, status, part, relocation, hrelocate, -, hpart, hblamed⟩ :=
        relocateOneAndContinue_cases hinvalid
      · rw [hrelocate]
        exact ⟨.relocation, _, _, rfl, by decide,
          fun _ hindex => trampoline_confined hyields (fun _ _ => rfl) hindex, by simp⟩
      · rw [hrelocate]
        obtain rfl | ⟨rfl, hfar⟩ := hblamed hroomy
        · exact ⟨.ok, _, _, rfl, by decide,
            fun _ hindex => trampoline_confined hyields hpart hindex, by simp⟩
        · exact ⟨.range, _, _, rfl, by decide,
            fun _ hindex => trampoline_confined hyields hpart hindex,
            fun _ => ⟨maps, writer, rfl, hfar⟩⟩

/-- Relocated code stays in its buffer and nothing is written for a refused instruction; a literal
load is refused for its literal when that is overwritten; the two parts of a code page have space
for every bridge and every trampoline. -/
theorem codePage_fits :
    (∀ request : RelocationRequest,
      (∀ index, request.outputCapacity ≤ index →
        (relocateOneAndContinue request).2.1 index = request.output index) ∧
      ((relocateOneAndContinue request).1 = .unsupported →
        (relocateOneAndContinue request).2.1 = request.output)) ∧
    (∀ (request : RelocationRequest) (literal : Address),
      OfKind request.instruction .literalLoad →
      literal = architecturalTarget request.instruction request.sourcePc .literalLoad →
      literal.toNat + literalBytes request.instruction < 2 ^ 64 →
      request.overwrittenStart.toNat + request.overwrittenSize.toNat < 2 ^ 64 →
      (overlapsOverwrittenBytes request request.instruction literal = true ↔
        request.Intersects literal) ∧
      (request.invalid = false →
        ((relocateOneAndContinue request).1 = .unsupported ↔ request.Intersects literal ∨
          literalMemoryBase request.instruction = none ∧
            ¬Reachable .literalLoad request.outputAddress literal))) ∧
    ∀ (page : Buffer) (pageAddress : Address) (flags : InfoFlags),
      pageAddress.toNat + 256 < 2 ^ 64 →
      (∀ (replacement : Address) (authenticate : Word), ∃ buffer bridge,
        buildBridge page pageAddress replacement authenticate flags = (.ok, buffer, some bridge) ∧
        bridge.bridgeAddress = pageAddress ∧ bridge.usedSize ≤ kBridgeCapacity ∧
        ∀ index, kBridgeCapacity ≤ index → buffer index = page index) ∧
      ∀ (target patchAddress : Address) (firstInstruction patchedInstruction : Word)
        (copiedInstructionCount : Nat), ∃ result buffer trampoline,
        buildOriginalTrampoline page pageAddress target patchAddress firstInstruction
          patchedInstruction copiedInstructionCount flags = (result, buffer, trampoline) ∧
        result ≠ .internal ∧
        (∀ index, index < kBridgeCapacity ∨ 256 ≤ index → buffer index = page index) ∧
        (result = .range → ∃ maps writer,
          (Build.emitPrefix target patchAddress firstInstruction copiedInstructionCount).run
            (trampolineWriter page pageAddress) = (.ok maps, writer) ∧
          (trampolineRequest target patchAddress patchedInstruction copiedInstructionCount maps
            writer).OutOfReach) := by
  refine ⟨fun request => ?_, fun request literal hkind htarget hliteral hoverwritten => ?_,
    fun page pageAddress flags hpage => ⟨fun replacement authenticate =>
      buildBridge_ok hpage replacement authenticate flags, fun _ _ _ _ _ =>
        buildOriginalTrampoline_cases hpage flags⟩⟩
  · exact relocateOneAndContinue_confined request
  · rw [← decodePcRelativeTarget_eq hkind] at htarget
    subst htarget
    have hoverlap := overlapsOverwrittenBytes_iff hliteral hoverwritten
    exact ⟨hoverlap, fun hvalid => by
      rw [relocateOneAndContinue_unsupported hvalid, literalLoad_refused hkind, hoverlap]⟩

def selfLoad : RelocationRequest where
  instruction := 0x58000000
  sourcePc := 0x4000
  continuation := 0x4004
  overwrittenStart := 0x4000
  overwrittenSize := 4
  internalMaps := []
  output := fun _ => 0
  outputCapacity := 184
  outputAddress := 0x10044

theorem codePage_fits_selfLoad :
    OfKind selfLoad.instruction .literalLoad ∧
      (relocateOneAndContinue selfLoad).1 = .unsupported ∧
      ∃ buffer bridge, buildBridge (fun _ => 0) 0x10000 0x7fff00000000 0
        ⟨false, false, false, false, false, false⟩ = (.ok, buffer, some bridge) ∧
        bridge.bridgeAddress = 0x10000 ∧ bridge.usedSize ≤ kBridgeCapacity ∧
        ∀ index, kBridgeCapacity ≤ index → buffer index = 0 := by
  have hkind : OfKind selfLoad.instruction .literalLoad := by decide
  obtain ⟨-, hliteral, hpage⟩ := codePage_fits
  have hliteral := hliteral selfLoad 0x4000 hkind (by decide) (by decide) (by decide)
  exact ⟨hkind, (hliteral.2 (by decide)).mpr (.inl ⟨0x4000, by decide, by decide, by decide,
    by decide⟩), (hpage (fun _ => 0) 0x10000 ⟨false, false, false, false, false, false⟩
      (by decide)).1 0x7fff00000000 0⟩

end Pages

end HookSelf.InlineHook.CodePage
