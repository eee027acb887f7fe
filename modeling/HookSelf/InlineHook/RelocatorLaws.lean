import HookSelf.Collections.Fallible
import HookSelf.InlineHook.EncodingLaws
import HookSelf.InlineHook.Relocator

/-! What relocation writes, how much of it, and which instructions it refuses. -/

namespace HookSelf.InlineHook.Arm64

open Fallible

section Writer

variable {writer after : CodeWriter} {cost : Nat}

structure CodeWriter.Grown (writer after : CodeWriter) (cost : Nat) : Prop where
  capacity : after.capacity = writer.capacity
  base : after.base = writer.base
  confined : ∀ index, writer.capacity ≤ index → after.buffer index = writer.buffer index
  grows : writer.size ≤ after.size
  bounded : after.size ≤ writer.size + cost
  fits : after.size ≤ after.capacity
  aligned : 4 ∣ writer.size → 4 ∣ after.size

namespace CodeWriter

theorem Grown.refl (hfits : writer.size ≤ writer.capacity) : writer.Grown writer 0 :=
  ⟨rfl, rfl, fun _ _ => rfl, Nat.le_refl _, Nat.le_refl _, hfits, id⟩

theorem Grown.trans {final : CodeWriter} {more : Nat} (h : writer.Grown after cost)
    (hmore : after.Grown final more) : writer.Grown final (cost + more) where
  capacity := hmore.capacity.trans h.capacity
  base := hmore.base.trans h.base
  confined index hindex :=
    (hmore.confined index (h.capacity ▸ hindex)).trans (h.confined index hindex)
  grows := h.grows.trans hmore.grows
  bounded := by
    have := h.bounded
    have := hmore.bounded
    omega
  fits := hmore.fits
  aligned hdvd := hmore.aligned (h.aligned hdvd)

theorem Grown.mono {more : Nat} (h : writer.Grown after cost) (hle : cost ≤ more) :
    writer.Grown after more :=
  { h with bounded := h.bounded.trans (by omega) }

def Operates (operation : CodeWriter → Option CodeWriter) (cost : Nat) : Prop :=
  ∀ writer : CodeWriter, writer.size ≤ writer.capacity →
    (∀ after, operation writer = some after → writer.Grown after cost) ∧
      (operation writer = none → writer.capacity < writer.size + cost)

theorem store_of_le {buffer : Buffer} {offset index : Nat} {bytes : List UInt8}
    (h : offset + bytes.length ≤ index) : store buffer offset bytes index = buffer index := by
  rw [store, if_neg (by omega)]

theorem emit_operates (bytes : List UInt8) (hdvd : 4 ∣ bytes.length) :
    Operates (·.emit bytes) bytes.length := by
  intro writer hfits
  by_cases hfull : writer.size > writer.capacity ∨ writer.capacity - writer.size < bytes.length
  · simp only [emit, if_pos hfull]
    exact ⟨fun _ h => (nomatch h), fun _ => by omega⟩
  · simp only [emit, if_neg hfull]
    refine ⟨fun after h => ?_, fun h => nomatch h⟩
    obtain rfl := Option.some.inj h
    exact {
      capacity := rfl
      base := rfl
      confined := fun index hindex => store_of_le (by omega)
      grows := Nat.le_add_right _ _
      bounded := Nat.le_refl _
      fits := by show writer.size + bytes.length ≤ writer.capacity; omega
      aligned := fun h => Nat.dvd_add h hdvd }

theorem emit_size {bytes : List UInt8} (h : writer.emit bytes = some after) :
    after.size = writer.size + bytes.length := by
  unfold emit at h
  split_ifs at h
  exact Option.some.inj h ▸ rfl

theorem emit32_operates (value : Word) : Operates (·.emit32 value) 4 :=
  emit_operates (LittleEndian.unsigned 4 value.toNat) (by simp)

theorem emit64_operates (value : BitVec 64) : Operates (·.emit64 value) 8 :=
  emit_operates (LittleEndian.unsigned 8 value.toNat) (by simp)

theorem align8_operates : Operates align8 4 := by
  intro writer hfits
  by_cases haligned : writer.address &&& 7 = 0
  · simp only [align8, if_pos haligned]
    refine ⟨fun after h => ?_, fun h => nomatch h⟩
    obtain rfl := Option.some.inj h
    exact (Grown.refl hfits).mono (by omega)
  · simp only [align8, if_neg haligned]
    exact emit32_operates kNop writer hfits

theorem patch32_grown {offset : Nat} (value : Word) (hfits : writer.size ≤ writer.capacity)
    (hoffset : offset + 4 ≤ writer.size) :
    ∃ after, writer.patch32 offset value = some after ∧ writer.Grown after 0 := by
  refine ⟨_, if_neg (by omega), ?_⟩
  exact {
    capacity := rfl
    base := rfl
    confined := fun index hindex => store_of_le (by
      rw [LittleEndian.unsigned_length]
      omega)
    grows := Nat.le_refl _
    bounded := Nat.le_refl _
    fits := hfits
    aligned := id }

end CodeWriter

theorem encodeLdrLiteralX_near {reg : Word} {base : Address} {offset literal : Nat}
    (hreg : reg ≤ 31) (hle : offset ≤ literal) (hnear : literal < offset + 2 ^ 20)
    (hdvd : 4 ∣ literal - offset) (hbase : base.toNat + literal < 2 ^ 64) :
    ∃ word, encodeLdrLiteralX reg (base + BitVec.ofNat 64 offset)
      (base + BitVec.ofNat 64 literal) (some 0) = (true, some word) := by
  have hsmall : reg.toNat ≤ 31 := hreg
  have hkind : OfKind (0x58000000 ||| reg) .literalLoad := by
    have htop : (0x58000000 ||| reg).extractLsb' 24 8 = 0x58 := by
      rw [BitVec.extractLsb'_or, show reg.extractLsb' 24 8 = 0 from BitVec.eq_of_toNat_eq (by
        rw [BitVec.extractLsb'_toNat, Nat.shiftRight_eq_div_pow, Nat.div_eq_of_lt (by omega)]
        rfl)]
      rfl
    rw [OfKind, htop]
    decide
  have hplace (place : Nat) (hplace : place ≤ literal) :
      (base + BitVec.ofNat 64 place).toNat = base.toNat + place := by
    rw [BitVec.toNat_add, BitVec.toNat_ofNat, Nat.mod_eq_of_lt (by omega : place < 2 ^ 64),
      Nat.mod_eq_of_lt (by omega)]
  have hreach : Reachable .literalLoad (base + BitVec.ofNat 64 offset)
      (base + BitVec.ofNat 64 literal) := by
    have hdistance : distance .literalLoad (base + BitVec.ofNat 64 offset)
        (base + BitVec.ofNat 64 literal) = ((literal - offset : Nat) : Int) := by
      show ((base + BitVec.ofNat 64 literal).toNat : Int) -
        (base + BitVec.ofNat 64 offset).toNat = _
      rw [hplace literal (Nat.le_refl _), hplace offset hle]
      omega
    rw [Reachable, hdistance]
    refine ⟨Int.natCast_dvd_natCast.mpr hdvd, ?_, ?_⟩
    · show -(2 ^ 20 : Int) ≤ _
      omega
    · show _ < (2 ^ 20 : Int)
      omega
  have hallowed : ¬reg > 31 := by
    have : (31 : Word).toNat = 31 := by decide
    show ¬(31 : Word).toNat < reg.toNat
    omega
  rw [encodeLdrLiteralX, if_neg hallowed, encodePcRelative_eq hkind, if_pos hreach]
  exact ⟨_, rfl⟩

end Writer

section Emission

variable {request : RelocationRequest} {relocation after : Relocation}
  {cost more fixes others : Nat} {α β : Type}

structure LiteralFixup.Valid (fixup : LiteralFixup) (size : Nat) : Prop where
  aligned : 4 ∣ fixup.instructionOffset
  written : fixup.instructionOffset + 4 ≤ size
  reg : fixup.reg ≤ 31

structure Relocation.Inv (request : RelocationRequest) (relocation : Relocation) : Prop where
  capacity : relocation.writer.capacity = request.outputCapacity
  base : relocation.writer.base = request.outputAddress
  fits : relocation.writer.size ≤ relocation.writer.capacity
  aligned : 4 ∣ relocation.writer.size
  fixups : ∀ fixup ∈ relocation.fixups, fixup.Valid relocation.writer.size

/-- The invariant is kept by what only grows the code. -/
theorem Relocation.Inv.grown (h : relocation.Inv request) {writer : CodeWriter}
    (hgrown : relocation.writer.Grown writer cost) :
    Relocation.Inv request { relocation with writer } where
  capacity := hgrown.capacity.trans h.capacity
  base := hgrown.base.trans h.base
  fits := hgrown.fits
  aligned := hgrown.aligned h.aligned
  fixups fixup hfixup :=
    have hvalid := h.fixups fixup hfixup
    ⟨hvalid.aligned, hvalid.written.trans hgrown.grows, hvalid.reg⟩

structure Relocation.Steps (request : RelocationRequest) (relocation after : Relocation)
    (cost fixes : Nat) : Prop where
  inv : after.Inv request
  writer : relocation.writer.Grown after.writer cost
  fixups : after.fixups.length ≤ relocation.fixups.length + fixes

theorem Relocation.Inv.steps (h : relocation.Inv request) :
    Relocation.Steps request relocation relocation 0 0 :=
  ⟨h, .refl h.fits, Nat.le_refl _⟩

theorem Relocation.Steps.trans {final : Relocation}
    (h : Relocation.Steps request relocation after cost fixes)
    (hmore : Relocation.Steps request after final more others) :
    Relocation.Steps request relocation final (cost + more) (fixes + others) :=
  ⟨hmore.inv, h.writer.trans hmore.writer, by
    have := h.fixups
    have := hmore.fixups
    omega⟩

theorem Relocation.Steps.mono (h : Relocation.Steps request relocation after cost fixes)
    (hcost : cost ≤ more) (hfixes : fixes ≤ others) :
    Relocation.Steps request relocation after more others :=
  ⟨h.inv, h.writer.mono hcost, h.fixups.trans (by omega)⟩

structure CodeWriter.Roomy (writer : CodeWriter) (cost : Nat) : Prop where
  unwrapped : writer.base.toNat + writer.capacity < 2 ^ 64
  space : writer.size + cost ≤ writer.capacity
  near : writer.size + cost < 2 ^ 20

theorem CodeWriter.Roomy.mono {writer : CodeWriter} (h : writer.Roomy more) (hle : cost ≤ more) :
    writer.Roomy cost :=
  ⟨h.unwrapped, (Nat.add_le_add_left hle _).trans h.space,
    (Nat.add_le_add_left hle _).trans_lt h.near⟩

theorem CodeWriter.Roomy.rest {writer after : CodeWriter} (h : writer.Roomy (cost + more))
    (hgrown : writer.Grown after cost) : after.Roomy more := by
  have := hgrown.bounded
  have := h.space
  have := h.near
  exact ⟨hgrown.base ▸ hgrown.capacity ▸ h.unwrapped, by rw [hgrown.capacity]; omega, by omega⟩

/-- A branch from the relocated code, to where the instruction went or to where the code goes on,
is too long. -/
def RelocationRequest.OutOfReach (request : RelocationRequest) : Prop :=
  ∃ offset ≤ request.outputCapacity, ∃ target,
    (target = request.continuation ∨ target = mapInternalTarget request
      (decodePcRelativeTarget request.instruction request.sourcePc)) ∧
    ¬Reachable .b (request.outputAddress + BitVec.ofNat 64 offset) target

structure Blamed (request : RelocationRequest) (relocation : Relocation) (cost : Nat)
    (status : RelocationStatus) : Prop where
  supported : status ≠ .unsupported
  space : relocation.writer.Roomy cost → status = .range ∧ request.OutOfReach

def Emits (request : RelocationRequest) (x : Relocate α) (cost fixes : Nat) : Prop :=
  ∀ relocation : Relocation, relocation.Inv request → relocation.fixups.length + fixes ≤ 2 →
    Yields x relocation (fun _ after => Relocation.Steps request relocation after cost fixes)
      (fun status after =>
        relocation.writer.Grown after.writer cost ∧ Blamed request relocation cost status)

theorem Emits.mono {x : Relocate α} (h : Emits request x cost fixes) (hcost : cost ≤ more)
    (hfixes : fixes ≤ others) : Emits request x more others := fun relocation hinv hroom =>
  (h relocation hinv (by omega)).imp (fun _ _ hsteps => hsteps.mono hcost hfixes)
    fun _ _ ⟨hgrown, hblamed⟩ => ⟨hgrown.mono hcost, hblamed.supported,
      fun hroomy => hblamed.space (hroomy.mono hcost)⟩

theorem Emits.pure (a : α) : Emits request (Pure.pure a : Relocate α) 0 0 :=
  fun _ hinv _ => hinv.steps

theorem Emits.bind {x : Relocate α} {f : α → Relocate β} (hx : Emits request x cost fixes)
    (hf : ∀ a, Emits request (f a) more others) :
    Emits request (x >>= f) (cost + more) (fixes + others) := by
  intro relocation hinv hroom
  refine (hx relocation hinv (by omega)).bind
    (fun status after ⟨hgrown, hblamed⟩ => ⟨hgrown.mono (by omega), hblamed.supported,
      fun hroomy => hblamed.space (hroomy.mono (by omega))⟩) fun a after hsteps => ?_
  have hfixups := hsteps.fixups
  refine (hf a after hsteps.inv (by omega)).imp (fun _ _ hmore => hsteps.trans hmore)
    fun status final ⟨hmore, hblamed⟩ => ⟨hsteps.writer.trans hmore, hblamed.supported,
      fun hroomy => hblamed.space (hroomy.rest hsteps.writer)⟩

theorem Emits.ite {c : Prop} [Decidable c] {x y : Relocate α} (hx : c → Emits request x cost fixes)
    (hy : ¬c → Emits request y cost fixes) : Emits request (if c then x else y) cost fixes := by
  split_ifs with hc
  · exact hx hc
  · exact hy hc

open Relocate

theorem here_yields {E : RelocationStatus → Relocation → Prop} :
    Yields here relocation
      (fun address after => address = relocation.writer.address ∧ relocation = after) E :=
  ⟨rfl, rfl⟩

theorem get_yields {E : RelocationStatus → Relocation → Prop} :
    Yields (get : Relocate Relocation) relocation
      (fun value after => relocation = value ∧ relocation = after) E :=
  ⟨rfl, rfl⟩

theorem Emits.here {f : Address → Relocate α} (hf : ∀ offset ≤ request.outputCapacity,
      Emits request (f (request.outputAddress + BitVec.ofNat 64 offset)) cost fixes) :
    Emits request (Relocate.here >>= f) cost fixes := by
  intro relocation hinv hroom
  refine here_yields.bind_ok fun address after ⟨haddress, hafter⟩ => ?_
  subst hafter
  have hplace : address =
      request.outputAddress + BitVec.ofNat 64 relocation.writer.size := by
    rw [haddress, CodeWriter.address, CodeWriter.addressAt, hinv.base]
  exact hplace ▸ hf _ (hinv.capacity ▸ hinv.fits) relocation hinv hroom

theorem size_emits : Emits request size 0 0 := fun _ hinv _ => hinv.steps

theorem setResult_emits (change : RelocationResult → RelocationResult) :
    Emits request (setResult change) 0 0 := fun _ hinv _ =>
  ⟨⟨hinv.capacity, hinv.base, hinv.fits, hinv.aligned, hinv.fixups⟩, .refl hinv.fits,
    Nat.le_refl _⟩

theorem encoded_yields {outcome : Bool × Option Word} (hinv : relocation.Inv request)
    (hfails : outcome.1 = false → relocation.writer.Roomy cost → request.OutOfReach)
    (hword : outcome.1 = true → outcome.2.isSome) :
    Yields (encoded outcome .range) relocation (fun _ after => relocation = after)
      (fun status after =>
        relocation.writer.Grown after.writer cost ∧ Blamed request relocation cost status) := by
  obtain ⟨success, word⟩ := outcome
  cases success with
  | false =>
    exact Yields.throw ⟨(CodeWriter.Grown.refl hinv.fits).mono (Nat.zero_le _), by decide,
      fun hroomy => ⟨rfl, hfails rfl hroomy⟩⟩
  | true =>
    obtain ⟨word, rfl⟩ := Option.isSome_iff_exists.mp (hword rfl)
    exact Yields.pure rfl

theorem write_of_some {operation : CodeWriter → Option CodeWriter} {writer : CodeWriter}
    (status : RelocationStatus) (h : operation relocation.writer = some writer) :
    (write operation status).run relocation = (.ok (), { relocation with writer }) := by
  simp only [write, ExceptT.run, h]

theorem write_of_none {operation : CodeWriter → Option CodeWriter} (status : RelocationStatus)
    (h : operation relocation.writer = none) :
    (write operation status).run relocation = (.error status, relocation) := by
  simp only [write, ExceptT.run, h]

theorem write_emits {operation : CodeWriter → Option CodeWriter}
    (h : CodeWriter.Operates operation cost) : Emits request (write operation .noSpace) cost 0 := by
  intro relocation hinv _
  obtain ⟨hsome, hnone⟩ := h relocation.writer hinv.fits
  cases hoperation : operation relocation.writer with
  | some writer =>
    have hgrown := hsome writer hoperation
    refine Yields.of_ok (write_of_some .noSpace hoperation) ?_
    exact ⟨hinv.grown hgrown, hgrown, Nat.le_refl _⟩
  | none =>
    refine Yields.of_error (write_of_none .noSpace hoperation) ?_
    exact ⟨(CodeWriter.Grown.refl hinv.fits).mono (Nat.zero_le _), by decide,
      fun hroomy => absurd (hnone hoperation) (by have := hroomy.space; omega)⟩

theorem emit32_emits (value : Word) : Emits request (write (·.emit32 value) .noSpace) 4 0 :=
  write_emits (CodeWriter.emit32_operates value)

theorem emitLoadAddress_emits {reg : Word} (value : BitVec 64) {status : RelocationStatus}
    (hreg : reg ≤ 31) (hstatus : status ≠ .unsupported) :
    Emits request (emitLoadAddress reg value status) 4 1 := by
  intro relocation hinv hroom
  obtain ⟨hsome, hnone⟩ := CodeWriter.emit32_operates 0 relocation.writer hinv.fits
  have hadd : (addFixup reg value status).run relocation = (.ok (), { relocation with
      fixups := relocation.fixups ++ [⟨relocation.writer.size, reg, value⟩] }) :=
    if_neg (by omega)
  cases hemit : relocation.writer.emit32 0 with
  | some writer =>
    have hgrown := hsome writer hemit
    have hsize : writer.size = relocation.writer.size + 4 := CodeWriter.emit_size hemit
    refine Yields.of_ok ((run_bind_ok hadd).trans (write_of_some _ hemit)) ?_
    refine ⟨{ hinv.grown hgrown with fixups := ?_ }, hgrown, by simp⟩
    exact List.forall_mem_append.mpr ⟨(hinv.grown hgrown).fixups,
      List.forall_mem_singleton.mpr ⟨hinv.aligned, hsize.ge, hreg⟩⟩
  | none =>
    refine Yields.of_error ((run_bind_ok hadd).trans (write_of_none _ hemit)) ?_
    exact ⟨(CodeWriter.Grown.refl hinv.fits).mono (Nat.zero_le _), hstatus,
      fun hroomy => absurd (hnone hemit) (by have := hroomy.space; omega)⟩

theorem patch32_yields {offset : Nat} (value : Word) (hinv : relocation.Inv request)
    (hoffset : offset + 4 ≤ relocation.writer.size) {E : RelocationStatus → Relocation → Prop} :
    Yields (write (·.patch32 offset value) .noSpace) relocation
      (fun _ after => Relocation.Steps request relocation after 0 0) E := by
  obtain ⟨writer, hpatch, hgrown⟩ := CodeWriter.patch32_grown value hinv.fits hoffset
  exact Yields.of_ok (write_of_some .noSpace hpatch) ⟨hinv.grown hgrown, hgrown, Nat.le_refl _⟩

theorem encodeLoad_yields {fixup : LiteralFixup} {literal : Nat}
    (hvalid : fixup.Valid literal) (hdvd : 4 ∣ literal)
    (hbehind : literal < relocation.writer.size) {E : RelocationStatus → Relocation → Prop}
    (hfails : ¬relocation.writer.Roomy 0 → E .noSpace relocation) :
    Yields (encoded (encodeLdrLiteralX fixup.reg
      (relocation.writer.addressAt fixup.instructionOffset) (relocation.writer.addressAt literal)
        (some 0)) .noSpace) relocation (fun _ after => relocation = after) E := by
  by_cases hroomy : relocation.writer.Roomy 0
  · have hspace := hroomy.space
    have hnear := hroomy.near
    have hunwrapped := hroomy.unwrapped
    have hwritten := hvalid.written
    obtain ⟨word, hword⟩ := encodeLdrLiteralX_near hvalid.reg (by omega) (by omega)
      (Nat.dvd_sub hdvd hvalid.aligned) (by omega : relocation.writer.base.toNat + literal < 2 ^ 64)
    unfold CodeWriter.addressAt
    rw [hword]
    exact Yields.pure rfl
  · unfold encoded
    split
    · exact Yields.pure rfl
    · exact Yields.throw (hfails hroomy)

theorem emit64_yields (value : BitVec 64) (hinv : relocation.Inv request)
    (hroom : relocation.fixups.length ≤ 2) :
    Yields (write (·.emit64 value) .noSpace) relocation
      (fun _ after => Relocation.Steps request relocation after 8 0 ∧
        after.writer.size = relocation.writer.size + 8)
      (fun status after =>
        relocation.writer.Grown after.writer 8 ∧ Blamed request relocation 8 status) := by
  have hemits := write_emits (CodeWriter.emit64_operates value) relocation hinv hroom
  cases hemit : relocation.writer.emit64 value with
  | none => exact Yields.of_error (write_of_none .noSpace hemit) (by
      rwa [Yields, write_of_none .noSpace hemit] at hemits)
  | some writer => exact Yields.of_ok (write_of_some .noSpace hemit) (by
      rw [Yields, write_of_some .noSpace hemit] at hemits
      exact ⟨hemits, CodeWriter.emit_size hemit⟩)

theorem finalizeLiteral_yields {fixup : LiteralFixup} (hinv : relocation.Inv request)
    (hroom : relocation.fixups.length ≤ 2) (hvalid : fixup.Valid relocation.writer.size) :
    Yields (finalizeLiteral fixup) relocation
      (fun _ after => Relocation.Steps request relocation after 12 0)
      (fun status after =>
        relocation.writer.Grown after.writer 12 ∧ Blamed request relocation 12 status) := by
  refine (write_emits CodeWriter.align8_operates relocation hinv hroom).bind
    (fun status after ⟨hgrown, hblamed⟩ => ⟨hgrown.mono (by omega), hblamed.supported,
      fun hroomy => hblamed.space (hroomy.mono (by omega))⟩) fun _ aligned haligned => ?_
  have hvalid' : fixup.Valid aligned.writer.size :=
    ⟨hvalid.aligned, hvalid.written.trans haligned.writer.grows, hvalid.reg⟩
  refine here_yields.bind_ok fun address middle ⟨haddress, hmiddle⟩ => ?_
  subst hmiddle
  refine (emit64_yields fixup.value haligned.inv (haligned.fixups.trans hroom)).bind
    (fun status after ⟨hgrown, hblamed⟩ => ⟨haligned.writer.trans hgrown, hblamed.supported,
      fun hroomy => hblamed.space (hroomy.rest haligned.writer)⟩)
    fun _ emitted ⟨hemitted, hsize⟩ => ?_
  have hsteps : Relocation.Steps request relocation emitted 12 0 := haligned.trans hemitted
  refine get_yields.bind_ok fun value middle ⟨hvalue, hmiddle⟩ => ?_
  subst hvalue hmiddle
  have hliteral : address = emitted.writer.addressAt aligned.writer.size := by
    rw [haddress, CodeWriter.address, CodeWriter.addressAt, CodeWriter.addressAt,
      hemitted.writer.base]
  rw [hliteral]
  refine (encodeLoad_yields hvalid' haligned.inv.aligned (by omega)
    (E := fun status after =>
      relocation.writer.Grown after.writer 12 ∧ Blamed request relocation 12 status)
    fun hfull => ⟨hsteps.writer, by decide, fun hroomy =>
      (hfull (hroomy.rest hsteps.writer)).elim⟩).bind (fun _ _ h => h) fun load middle hmiddle => ?_
  subst hmiddle
  have hwritten := hvalid'.written
  exact (patch32_yields load hsteps.inv (by omega)).imp (fun _ _ hpatched => hsteps.trans hpatched)
    fun _ _ h => h

theorem finalizeLiterals_yields (fixups : List LiteralFixup) (hinv : relocation.Inv request)
    (hroom : relocation.fixups.length ≤ 2)
    (hvalid : ∀ fixup ∈ fixups, fixup.Valid relocation.writer.size) :
    Yields (finalizeLiterals fixups) relocation
      (fun _ after => Relocation.Steps request relocation after (12 * fixups.length) 0)
      (fun status after => relocation.writer.Grown after.writer (12 * fixups.length) ∧
        Blamed request relocation (12 * fixups.length) status) := by
  induction fixups generalizing relocation with
  | nil => exact Yields.pure hinv.steps
  | cons fixup fixups ih =>
    have hcost : 12 * (fixup :: fixups).length = 12 + 12 * fixups.length := by
      rw [List.length_cons]
      omega
    rw [hcost]
    refine (finalizeLiteral_yields hinv hroom (hvalid fixup List.mem_cons_self)).bind
      (fun status after ⟨hgrown, hblamed⟩ => ⟨hgrown.mono (by omega), hblamed.supported,
        fun hroomy => hblamed.space (hroomy.mono (by omega))⟩) fun _ after hsteps => ?_
    refine (ih hsteps.inv (hsteps.fixups.trans hroom) fun other hother => ?_).imp
      (fun _ _ hmore => hsteps.trans hmore) fun status final ⟨hmore, hblamed⟩ =>
        ⟨hsteps.writer.trans hmore, hblamed.supported,
          fun hroomy => hblamed.space (hroomy.rest hsteps.writer)⟩
    have hother := hvalid other (List.mem_cons_of_mem _ hother)
    exact ⟨hother.aligned, hother.written.trans hsteps.writer.grows, hother.reg⟩

theorem finalizeNoted_emits :
    Emits request (do let relocation ← get; finalizeLiterals relocation.fixups) 24 0 := by
  intro relocation hinv hroom
  have hcost : 12 * relocation.fixups.length ≤ 24 := by omega
  refine get_yields.bind_ok fun value middle ⟨hvalue, hmiddle⟩ => ?_
  subst hvalue hmiddle
  exact (finalizeLiterals_yields _ hinv hroom hinv.fixups).imp
    (fun _ _ hsteps => hsteps.mono hcost (Nat.le_refl _)) fun status after ⟨hgrown, hblamed⟩ =>
      ⟨hgrown.mono hcost, hblamed.supported, fun hroomy => hblamed.space (hroomy.mono hcost)⟩

end Emission

section Kinds

open Relocate

variable {request : RelocationRequest}

theorem encodePcRelative_written (instruction : Word) (pc target : Address) (old : Word) :
    (encodePcRelative instruction pc target (some old)).2.isSome := by
  simp only [encodePcRelative]
  cases pcRelativeWord instruction pc target <;> rfl

theorem encodePcRelative_fails {instruction : Word} {kind : InstructionKind}
    (hkind : OfKind instruction kind) {pc target : Address} {old : Word}
    (h : (encodePcRelative instruction pc target (some old)).1 = false) :
    ¬Reachable kind pc target := by
  intro hreach
  rw [encodePcRelative_eq hkind, if_pos hreach] at h
  exact Bool.noConfusion h

theorem branch_emits {instruction : Word} (hkind : OfKind instruction .b) {offset : Nat}
    (hoffset : offset ≤ request.outputCapacity) {target : Address}
    (htarget : target = request.continuation ∨ target = mapInternalTarget request
      (decodePcRelativeTarget request.instruction request.sourcePc)) :
    Emits request (encoded (encodePcRelative instruction
      (request.outputAddress + BitVec.ofNat 64 offset) target (some 0)) .range) 0 0 :=
  fun _ hinv _ => (encoded_yields hinv
    (fun hfails _ => ⟨offset, hoffset, target, htarget, encodePcRelative_fails hkind hfails⟩)
    fun _ => encodePcRelative_written _ _ _ _).imp (fun _ _ h => h ▸ hinv.steps) fun _ _ h => h

theorem encodeBranch_emits {offset : Nat} (hoffset : offset ≤ request.outputCapacity)
    {target : Address}
    (htarget : target = request.continuation ∨ target = mapInternalTarget request
      (decodePcRelativeTarget request.instruction request.sourcePc)) :
    Emits request (encoded (encodeBranch (request.outputAddress + BitVec.ofNat 64 offset) target
      false (some 0)) .range) 0 0 :=
  branch_emits (by decide) hoffset htarget

theorem relocateBranch_emits {link : Bool}
    (hkind : decodeKind request.instruction = if link then .bl else .b) :
    Emits request (relocateBranch request link) 8 1 := by
  unfold relocateBranch
  refine .ite (fun hlink => ?_) (fun hlink => ?_)
  · have hload : Emits request (emitLoadAddress 30 (request.sourcePc + 4) .range) 4 1 :=
      emitLoadAddress_emits _ (by decide) (by decide)
    refine (hload.bind fun _ => .here fun offset hoffset => ?_ : Emits request _ (4 + 4) (1 + 0))
    exact (encodeBranch_emits hoffset (.inr rfl)).bind fun word => (emit32_emits word).bind fun _ =>
      (setResult_emits _).bind fun _ => .pure false
  · rw [if_neg hlink] at hkind
    have hofKind : OfKind request.instruction .b := ofKind_of_decodeKind hkind (by decide)
    exact (Emits.here fun offset hoffset => (branch_emits hofKind hoffset (.inr rfl)).bind
      fun word => (emit32_emits word).bind fun _ => .pure false).mono (by omega) (by omega)

theorem invertConditional_ofKind {instruction : Word} {kind : InstructionKind}
    (hkind : OfKind instruction kind)
    (hconditional : kind = .bCond ∨ kind = .compareBranch ∨ kind = .testBranch) :
    OfKind (invertConditional instruction) kind := by
  have hcompare : ∀ top, FixedBits top .compareBranch → FixedBits (top ^^^ 1) .compareBranch := by
    decide +kernel
  have htest : ∀ top, FixedBits top .testBranch → FixedBits (top ^^^ 1) .testBranch := by
    decide +kernel
  unfold invertConditional
  rw [hkind.decodeKind]
  unfold OfKind at hkind ⊢
  rcases hconditional with rfl | rfl | rfl
  · rw [BitVec.extractLsb'_xor]
    simpa using hkind
  · rw [BitVec.extractLsb'_xor]
    exact hcompare _ hkind
  · rw [BitVec.extractLsb'_xor]
    exact htest _ hkind

theorem reachable_skip {kind : InstructionKind} {pc : Address} (hpc : pc.toNat + 8 < 2 ^ 64)
    (hconditional : kind = .bCond ∨ kind = .compareBranch ∨ kind = .testBranch) :
    Reachable kind pc (pc + 8) := by
  have hsum : (pc + 8).toNat = pc.toNat + 8 := by
    rw [BitVec.toNat_add]
    exact Nat.mod_eq_of_lt hpc
  rcases hconditional with rfl | rfl | rfl
  all_goals
    simp only [Reachable, distance, namedBy, alignment, reach, reduceCtorEq, if_false, hsum]
    omega

theorem relocateFarConditional_emits {kind : InstructionKind}
    (hkind : OfKind request.instruction kind)
    (hconditional : kind = .bCond ∨ kind = .compareBranch ∨ kind = .testBranch) :
    Emits request (relocateFarConditional request (mapInternalTarget request
      (decodePcRelativeTarget request.instruction request.sourcePc))) 8 0 := by
  intro relocation hinv hroom
  refine here_yields.bind_ok fun pc middle ⟨hpc, hmiddle⟩ => ?_
  subst hmiddle
  have hskip (hroomy : relocation.writer.Roomy 8) : Reachable kind pc (pc + 8) := by
    have hunwrapped := hroomy.unwrapped
    have hspace := hroomy.space
    refine reachable_skip ?_ hconditional
    rw [hpc, CodeWriter.address, CodeWriter.addressAt, BitVec.toNat_add, BitVec.toNat_ofNat]
    rw [Nat.mod_eq_of_lt (by omega : relocation.writer.size < 2 ^ 64), Nat.mod_eq_of_lt (by omega)]
    omega
  refine (encoded_yields hinv (fun hfails hroomy => absurd (hskip hroomy) (encodePcRelative_fails
    (invertConditional_ofKind hkind hconditional) hfails)) fun _ =>
      encodePcRelative_written _ _ _ _).bind (fun _ _ h => h) fun skip middle hmiddle => ?_
  subst hmiddle
  have hbranch : pc + 4 =
      request.outputAddress + BitVec.ofNat 64 (relocation.writer.size + 4) := by
    rw [hpc, CodeWriter.address, CodeWriter.addressAt, hinv.base, BitVec.ofNat_add,
      BitVec.add_assoc]
    rfl
  refine (encoded_yields hinv (fun hfails hroomy => ?_) fun _ =>
    encodePcRelative_written _ _ _ _).bind (fun _ _ h => h) fun branch middle hmiddle => ?_
  · have hspace := hroomy.space
    have hcapacity := hinv.capacity
    exact ⟨relocation.writer.size + 4, by omega, _, .inr rfl,
      hbranch ▸ encodePcRelative_fails (by decide) hfails⟩
  subst hmiddle
  exact ((emit32_emits skip).bind fun _ => (emit32_emits branch).bind fun _ =>
    setResult_emits _) relocation hinv hroom

theorem relocateConditional_emits {kind : InstructionKind}
    (hkind : OfKind request.instruction kind)
    (hconditional : kind = .bCond ∨ kind = .compareBranch ∨ kind = .testBranch) :
    Emits request (relocateConditional request kind) 8 0 := by
  unfold relocateConditional
  refine .ite (fun _ => ?_) (fun _ => ?_)
  · exact (Emits.here fun offset hoffset => (encodeBranch_emits hoffset (.inr rfl)).bind fun word =>
      (emit32_emits word).bind fun _ => .pure false).mono (by omega) (by omega)
  · refine .here fun offset hoffset => ?_
    split
    · exact ((emit32_emits _).bind fun _ => .pure true).mono (by omega) (by omega)
    · exact (relocateFarConditional_emits hkind hconditional).bind fun _ => .pure true

theorem destination_le (instruction : Word) : instruction &&& 0x1f ≤ 31 := by
  rw [BitVec.le_def, BitVec.toNat_and]
  exact Nat.and_le_right

theorem relocateFarAddress_emits (target : Address) :
    Emits request (relocateFarAddress request target) 4 1 := by
  unfold relocateFarAddress
  refine .ite (fun _ => ?_) (fun _ => ?_)
  · exact ((emit32_emits _).bind fun _ => setResult_emits _).mono (by omega) (by omega)
  · exact (emitLoadAddress_emits target (destination_le _) (by decide)).bind fun _ =>
      setResult_emits _

theorem relocateAddress_emits : Emits request (relocateAddress request) 4 1 := by
  unfold relocateAddress
  refine .here fun offset hoffset => ?_
  split
  · exact ((emit32_emits _).bind fun _ => .pure true).mono (by omega) (by omega)
  · exact (relocateFarAddress_emits _).bind fun _ => .pure true

theorem emitMemoryLoad_emits (target : Address) (memoryLoad : Word) :
    Emits request (emitMemoryLoad request target memoryLoad) 16 1 := by
  unfold emitMemoryLoad
  refine .ite (fun _ => ?_) (fun _ => ?_)
  · have hload : Emits request
        (emitLoadAddress (request.instruction &&& 0x1f) target .noSpace) 4 1 :=
      emitLoadAddress_emits target (destination_le _) (by decide)
    exact (hload.bind fun _ => (emit32_emits _).bind fun _ => setResult_emits _).mono (by omega)
      (by omega)
  · have hload : Emits request (emitLoadAddress 17 target .noSpace) 4 1 :=
      emitLoadAddress_emits target (by decide) (by decide)
    exact (emit32_emits _).bind fun _ => hload.bind fun _ => (emit32_emits _).bind fun _ =>
      (emit32_emits _).bind fun _ => setResult_emits _

end Kinds

section Refusal

open Relocate

variable {request : RelocationRequest} {relocation : Relocation}

/-- The instructions that are not relocated: calls through a register, exceptions, and literal
loads whose literal is overwritten, or that have neither a short form nor a form through a
register. -/
def RelocationRequest.Refused (request : RelocationRequest) : Prop :=
  isRegisterBranchWithLink request.instruction ∨ isExceptionGeneration request.instruction ∨
    decodeKind request.instruction = .literalLoad ∧
      (overlapsOverwrittenBytes request request.instruction
          (decodePcRelativeTarget request.instruction request.sourcePc) = true ∨
        literalMemoryBase request.instruction = none ∧
          ¬Reachable .literalLoad request.outputAddress
            (decodePcRelativeTarget request.instruction request.sourcePc))

theorem literalBase_le (instruction : Word) : literalBase instruction ≤ 31 := by
  unfold literalBase
  split_ifs
  · exact destination_le instruction
  · decide

theorem encodeLiteralMemoryLoad_eq_none {instruction : Word}
    (hkind : decodeKind instruction = .literalLoad) :
    encodeLiteralMemoryLoad instruction (literalBase instruction) = none ↔
      literalMemoryBase instruction = none := by
  have hbase := literalBase_le instruction
  rw [encodeLiteralMemoryLoad, if_neg, Option.map_eq_none_iff]
  rintro (hlarge | hother)
  · exact absurd hlarge (BitVec.not_lt.mpr hbase)
  · exact hother hkind

theorem Relocation.init_inv : (Relocation.init request).Inv request :=
  ⟨rfl, rfl, Nat.zero_le _, Nat.dvd_zero _, fun _ h => nomatch h⟩

theorem relocateLiteral_refuses (hkind : decodeKind request.instruction = .literalLoad)
    (hinit : relocation.writer.address = request.outputAddress)
    (h : overlapsOverwrittenBytes request request.instruction
        (decodePcRelativeTarget request.instruction request.sourcePc) = true ∨
      literalMemoryBase request.instruction = none ∧
        ¬Reachable .literalLoad request.outputAddress
          (decodePcRelativeTarget request.instruction request.sourcePc)) :
    (relocateLiteral request).run relocation = (.error .unsupported, relocation) := by
  have hofKind := ofKind_of_decodeKind hkind (by decide)
  unfold relocateLiteral
  by_cases hoverlap : overlapsOverwrittenBytes request request.instruction
      (decodePcRelativeTarget request.instruction request.sourcePc) = true
  · simp only [hoverlap, if_true]
    rfl
  · obtain ⟨hnone, hfar⟩ := h.resolve_left hoverlap
    rw [if_neg hoverlap]
    refine (run_bind_ok (show here.run relocation = (.ok request.outputAddress, relocation) from
      hinit ▸ rfl)).trans ?_
    rw [encodePcRelative_eq hofKind, if_neg hfar]
    simp only [(encodeLiteralMemoryLoad_eq_none hkind).mpr hnone]
    rfl

theorem relocateLiteral_yields (hinv : relocation.Inv request)
    (hroom : relocation.fixups.length + 1 ≤ 2)
    (hkind : decodeKind request.instruction = .literalLoad)
    (hinit : relocation.writer.address = request.outputAddress)
    (h : ¬request.Refused) :
    Yields (relocateLiteral request) relocation
      (fun _ after => Relocation.Steps request relocation after 16 1)
      (fun status after =>
        relocation.writer.Grown after.writer 16 ∧ Blamed request relocation 16 status) := by
  have hofKind := ofKind_of_decodeKind hkind (by decide)
  have hallowed := not_or.mp fun hliteral => h (.inr (.inr ⟨hkind, hliteral⟩))
  unfold relocateLiteral
  rw [if_neg hallowed.1]
  refine here_yields.bind_ok fun pc middle ⟨hpc, hmiddle⟩ => ?_
  subst hmiddle
  rw [hpc, hinit, encodePcRelative_eq hofKind]
  by_cases hreach : Reachable .literalLoad request.outputAddress
      (decodePcRelativeTarget request.instruction request.sourcePc)
  · rw [if_pos hreach]
    exact ((emit32_emits _).bind fun _ => .pure true).mono (by omega) (by omega) relocation hinv
      hroom
  · rw [if_neg hreach]
    cases hload : encodeLiteralMemoryLoad request.instruction (literalBase request.instruction) with
    | none => exact absurd ⟨(encodeLiteralMemoryLoad_eq_none hkind).mp hload, hreach⟩ hallowed.2
    | some memoryLoad =>
      exact ((emitMemoryLoad_emits _ memoryLoad).bind fun _ => .pure true) relocation hinv hroom

theorem relocateByKind_yields (hinv : relocation.Inv request)
    (hroom : relocation.fixups.length + 1 ≤ 2)
    (hinit : relocation.writer.address = request.outputAddress) (h : ¬request.Refused) :
    Yields (relocateByKind request) relocation
      (fun _ after => Relocation.Steps request relocation after 16 1)
      (fun status after =>
        relocation.writer.Grown after.writer 16 ∧ Blamed request relocation 16 status) := by
  have hemits {x : Relocate Bool} {cost fixes : Nat} (hx : Emits request x cost fixes)
      (hcost : cost ≤ 16) (hfixes : fixes ≤ 1) := hx.mono hcost hfixes relocation hinv hroom
  have hofKind {kind : InstructionKind} (hkind : decodeKind request.instruction = kind)
      (hother : kind ≠ .other) := ofKind_of_decodeKind hkind hother
  unfold relocateByKind
  cases hkind : decodeKind request.instruction with
  | b => exact hemits (relocateBranch_emits hkind) (by omega) (by omega)
  | bl => exact hemits (relocateBranch_emits hkind) (by omega) (by omega)
  | bCond =>
    exact hemits (relocateConditional_emits (hofKind hkind (by decide)) (.inl rfl)) (by omega)
      (by omega)
  | compareBranch =>
    exact hemits (relocateConditional_emits (hofKind hkind (by decide)) (.inr (.inl rfl)))
      (by omega) (by omega)
  | testBranch =>
    exact hemits (relocateConditional_emits (hofKind hkind (by decide)) (.inr (.inr rfl)))
      (by omega) (by omega)
  | adr => exact hemits relocateAddress_emits (by omega) (by omega)
  | adrp => exact hemits relocateAddress_emits (by omega) (by omega)
  | literalLoad => exact relocateLiteral_yields hinv hroom hkind hinit h
  | other =>
    exact hemits ((emit32_emits request.instruction).bind fun _ => .pure true) (by omega) (by omega)

theorem appendBranch_emits : Emits request (appendBranch request) 4 0 :=
  .here fun _ hoffset => (encodeBranch_emits hoffset (.inl rfl)).bind fun word => emit32_emits word

theorem finishRelocation_emits : Emits request finishRelocation 24 0 := by
  have htotal (totalSize : Nat) :
      Emits request (setResult ({ · with totalSize := totalSize })) 0 0 := setResult_emits _
  have hliterals := finalizeNoted_emits.bind fun _ => size_emits.bind htotal
  rw [bind_assoc] at hliterals
  have hall := size_emits.bind fun codeSize =>
    (setResult_emits ({ · with codeSize := codeSize })).bind fun _ => hliterals
  exact hall.mono (by omega) (by omega)

/-- A relocation of an instruction that is not refused: at most 44 bytes. -/
theorem relocate_yields (h : ¬request.Refused) :
    Yields (relocate request) (.init request)
      (fun _ after => Relocation.Steps request (.init request) after 44 1)
      (fun status after => (Relocation.init request).writer.Grown after.writer 44 ∧
        Blamed request (.init request) 44 status) := by
  have hinit : (Relocation.init request).writer.address = request.outputAddress :=
    BitVec.add_zero _
  unfold relocate
  rw [if_neg fun hrefused => h (hrefused.imp_right .inl)]
  have hrest (appendContinuation : Bool) : Emits request (do
      if appendContinuation then appendBranch request else pure ()
      finishRelocation) (4 + 24) (0 + 0) := by
    split_ifs
    · exact appendBranch_emits.bind fun _ => finishRelocation_emits
    · exact ((Emits.pure ()).bind fun _ => finishRelocation_emits).mono (by omega) (by omega)
  refine (relocateByKind_yields Relocation.init_inv (Nat.le_succ 1) hinit h).bind
    (fun status after ⟨hgrown, hblamed⟩ => ⟨hgrown.mono (by omega), hblamed.supported,
      fun hroomy => hblamed.space (hroomy.mono (by omega))⟩) fun append after hsteps => ?_
  have hfixups : after.fixups.length ≤ 0 + 1 := hsteps.fixups
  exact (hrest append after hsteps.inv (by omega)).imp (fun _ _ hmore => hsteps.trans hmore)
    fun status final ⟨hmore, hblamed⟩ => ⟨hsteps.writer.trans hmore, hblamed.supported,
      fun hroomy => hblamed.space (hroomy.rest hsteps.writer)⟩

theorem relocate_refuses (h : request.Refused) :
    (relocate request).run (.init request) = (.error .unsupported, .init request) := by
  unfold relocate
  by_cases hfirst : isRegisterBranchWithLink request.instruction ∨
      isExceptionGeneration request.instruction
  · rw [if_pos hfirst]
    rfl
  · obtain ⟨hkind, hliteral⟩ := (or_assoc.mpr h).resolve_left hfirst
    rw [if_neg hfirst]
    refine run_bind_error ?_
    unfold relocateByKind
    rw [hkind]
    exact relocateLiteral_refuses hkind (BitVec.add_zero _) hliteral

theorem relocateOneAndContinue_cases (hvalid : request.invalid = false) :
    (request.Refused ∧ relocateOneAndContinue request =
        (.unsupported, request.output, some (Relocation.init request).result)) ∨
      (¬request.Refused ∧ ∃ status buffer result,
        relocateOneAndContinue request = (status, buffer, some result) ∧ status ≠ .unsupported ∧
        (∀ index, request.outputCapacity ≤ index → buffer index = request.output index) ∧
        ((Relocation.init request).writer.Roomy 44 →
          status = .ok ∨ status = .range ∧ request.OutOfReach)) := by
  by_cases hrefused : request.Refused
  · refine .inl ⟨hrefused, ?_⟩
    rw [relocateOneAndContinue, hvalid, relocate_refuses hrefused]
    rfl
  · refine .inr ⟨hrefused, ?_⟩
    have hyields := relocate_yields hrefused
    rw [relocateOneAndContinue, hvalid]
    unfold Yields at hyields
    rcases hrun : (relocate request).run (.init request) with ⟨status | ⟨⟩, after⟩
    · rw [hrun] at hyields
      exact ⟨status, _, _, rfl, hyields.2.supported, hyields.1.confined,
        fun hroomy => .inr (hyields.2.space hroomy)⟩
    · rw [hrun] at hyields
      exact ⟨.ok, _, _, rfl, by decide, hyields.writer.confined, fun _ => .inl rfl⟩

theorem relocateOneAndContinue_confined (request : RelocationRequest) :
    (∀ index, request.outputCapacity ≤ index →
      (relocateOneAndContinue request).2.1 index = request.output index) ∧
    ((relocateOneAndContinue request).1 = .unsupported →
      (relocateOneAndContinue request).2.1 = request.output) := by
  cases hinvalid : request.invalid with
  | true =>
    simp only [relocateOneAndContinue, hinvalid, if_true]
    exact ⟨fun _ _ => trivial, fun _ => trivial⟩
  | false =>
    obtain ⟨-, hrelocate⟩ | ⟨-, status, buffer, result, hrelocate, hstatus, hconfined, -⟩ :=
      relocateOneAndContinue_cases hinvalid
    · rw [hrelocate]
      exact ⟨fun _ _ => rfl, fun _ => rfl⟩
    · rw [hrelocate]
      exact ⟨hconfined, fun h => absurd h hstatus⟩

theorem relocateOneAndContinue_unsupported (hvalid : request.invalid = false) :
    (relocateOneAndContinue request).1 = .unsupported ↔ request.Refused := by
  obtain ⟨hrefused, hrelocate⟩ | ⟨hallowed, status, buffer, result, hrelocate, hstatus, -⟩ :=
    relocateOneAndContinue_cases hvalid
  · rw [hrelocate]
    exact iff_of_true rfl hrefused
  · rw [hrelocate]
    exact iff_of_false hstatus hallowed

end Refusal

section Literals

def literalBytes (instruction : Word) : Nat :=
  match instruction.getLsbD 26, (instruction.extractLsb' 30 2).toNat with
  | false, 0 => 4
  | false, 1 => 8
  | false, 2 => 4
  | true, 0 => 4
  | true, 1 => 8
  | true, 2 => 16
  | _, _ => 0

theorem literalOpc_eq_iff (instruction : Word) {value : Nat} (h : value < 4) :
    literalOpc instruction = BitVec.ofNat 32 value ↔
      (instruction.extractLsb' 30 2).toNat = value := by
  rw [literalOpc, ← BitVec.toNat_inj, BitVec.toNat_and, BitVec.toNat_ushiftRight,
    BitVec.extractLsb'_toNat, BitVec.toNat_ofNat, Nat.mod_eq_of_lt (by omega : value < 2 ^ 32)]
  exact (Nat.and_two_pow_sub_one_eq_mod _ 2).congr_left

theorem literalVector_eq_zero (instruction : Word) :
    literalVector instruction = 0 ↔ instruction.getLsbD 26 = false := by
  rw [literalVector, ← BitVec.toNat_inj, BitVec.toNat_and, BitVec.toNat_ushiftRight,
    BitVec.getLsbD, Nat.testBit_eq_decide_div_mod_eq, Nat.shiftRight_eq_div_pow]
  rw [show (1 : Word).toNat = 2 ^ 1 - 1 from rfl, Nat.and_two_pow_sub_one_eq_mod]
  simp

theorem literalAccessSize_toNat (instruction : Word) :
    (literalAccessSize instruction).toNat = literalBytes instruction := by
  have hopc : (instruction.extractLsb' 30 2).toNat < 4 := (instruction.extractLsb' 30 2).isLt
  have h0 := literalOpc_eq_iff instruction (show 0 < 4 by decide)
  have h1 := literalOpc_eq_iff instruction (show 1 < 4 by decide)
  have h2 := literalOpc_eq_iff instruction (show 2 < 4 by decide)
  simp only [literalAccessSize, literalBytes, literalVector_eq_zero]
  generalize (instruction.extractLsb' 30 2).toNat = opc at *
  cases instruction.getLsbD 26 <;> (interval_cases opc <;> simp_all)

def RelocationRequest.Intersects (request : RelocationRequest) (literal : Address) : Prop :=
  ∃ byte, literal.toNat ≤ byte ∧ byte < literal.toNat + literalBytes request.instruction ∧
    request.overwrittenStart.toNat ≤ byte ∧
    byte < request.overwrittenStart.toNat + request.overwrittenSize.toNat

theorem overlapsOverwrittenBytes_iff {request : RelocationRequest} {literal : Address}
    (hliteral : literal.toNat + literalBytes request.instruction < 2 ^ 64)
    (hoverwritten : request.overwrittenStart.toNat + request.overwrittenSize.toNat < 2 ^ 64) :
    overlapsOverwrittenBytes request request.instruction literal = true ↔
      request.Intersects literal := by
  have hmax (size : BitVec 64) : (lastAddress - size).toNat = 2 ^ 64 - 1 - size.toNat := by
    have hsize := size.isLt
    rw [BitVec.toNat_sub_of_le (BitVec.le_def.mpr (Nat.le_pred_of_lt hsize))]
    rfl
  have hzero (size : BitVec 64) : size = 0 ↔ size.toNat = 0 := by
    rw [← BitVec.toNat_inj]
    rfl
  rw [← literalAccessSize_toNat] at hliteral
  unfold RelocationRequest.Intersects
  rw [← literalAccessSize_toNat]
  generalize hbytes : literalAccessSize request.instruction = bytes at *
  have haccess : (literal + bytes).toNat = literal.toNat + bytes.toNat := by
    rw [BitVec.toNat_add, Nat.mod_eq_of_lt hliteral]
  have hover : (request.overwrittenStart + request.overwrittenSize).toNat =
      request.overwrittenStart.toNat + request.overwrittenSize.toNat := by
    rw [BitVec.toNat_add, Nat.mod_eq_of_lt hoverwritten]
  simp only [overlapsOverwrittenBytes, hbytes, hzero, gt_iff_lt, BitVec.lt_def, hmax, haccess,
    hover]
  split_ifs with hnone hempty hend
  · exact ⟨fun h => (nomatch h), fun ⟨byte, _, _, _, _⟩ => by omega⟩
  · exact ⟨fun h => (nomatch h), fun ⟨byte, _, _, _, _⟩ => by omega⟩
  · omega
  · rw [decide_eq_true_iff]
    refine ⟨fun ⟨_, _⟩ => ?_, fun ⟨byte, _, _, _, _⟩ => by omega⟩
    exact ⟨max literal.toNat request.overwrittenStart.toNat, by omega, by omega, by omega, by omega⟩

theorem top_of_and {instruction mask value : Word} (h : instruction &&& mask = value)
    (hmask : mask.extractLsb' 24 8 = BitVec.allOnes 8) :
    instruction.extractLsb' 24 8 = value.extractLsb' 24 8 := by
  rw [← h, BitVec.extractLsb'_and, hmask, BitVec.and_allOnes]

theorem literalLoad_supported {instruction : Word} (h : OfKind instruction .literalLoad) :
    isRegisterBranchWithLink instruction = false ∧ isExceptionGeneration instruction = false := by
  have htop {mask value : Word} (hmask : mask.extractLsb' 24 8 = BitVec.allOnes 8)
      (hvalue : ¬FixedBits (value.extractLsb' 24 8) .literalLoad) : instruction &&& mask ≠ value :=
    fun hand => hvalue (top_of_and hand hmask ▸ h)
  constructor
  · simp only [isRegisterBranchWithLink, Bool.or_eq_false_iff, decide_eq_false_iff_not]
    exact ⟨⟨⟨⟨htop (by decide) (by decide), htop (by decide) (by decide)⟩,
      htop (by decide) (by decide)⟩, htop (by decide) (by decide)⟩, htop (by decide) (by decide)⟩
  · simp only [isExceptionGeneration, decide_eq_false_iff_not]
    exact htop (by decide) (by decide)

theorem literalLoad_refused {request : RelocationRequest}
    (hkind : OfKind request.instruction .literalLoad) :
    request.Refused ↔
      overlapsOverwrittenBytes request request.instruction
          (decodePcRelativeTarget request.instruction request.sourcePc) = true ∨
        literalMemoryBase request.instruction = none ∧
          ¬Reachable .literalLoad request.outputAddress
            (decodePcRelativeTarget request.instruction request.sourcePc) := by
  obtain ⟨hregister, hexception⟩ := literalLoad_supported hkind
  simp only [RelocationRequest.Refused, hregister, hexception, hkind.decodeKind, true_and,
    Bool.false_eq_true, false_or]

end Literals

end HookSelf.InlineHook.Arm64
