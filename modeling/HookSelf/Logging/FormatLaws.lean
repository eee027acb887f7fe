import HookSelf.Collections.PrefixCode
import HookSelf.Logging.Format

/-! What `hookself_format_event` leaves in the buffer, and what its text tells. -/

namespace HookSelf.Logging

open EventRing PrefixCode

namespace TextBuilder

variable {builder : TextBuilder} {memory : Memory} {capacity : ℕ}

@[simp] theorem appendText_nil : builder.appendText [] = builder := rfl

@[simp] theorem appendText_appendText (text more : List UInt8) :
    (builder.appendText text).appendText more = builder.appendText (text ++ more) :=
  (List.foldl_append ..).symm

@[simp] theorem appendString_eq (value : String) :
    builder.appendString value = builder.appendText (bytes value) := rfl

@[simp] theorem appendUnsigned_eq (value : UInt64) :
    builder.appendUnsigned value = builder.appendText (unsignedText value) := rfl

def signedText (value : Int64) : List UInt8 :=
  if value < 0 then bytes "-" ++ unsignedText (0 - value.toUInt64)
  else unsignedText value.toUInt64

@[simp] theorem appendSigned_eq (value : Int64) :
    builder.appendSigned value = builder.appendText (signedText value) := by
  unfold appendSigned signedText
  split_ifs <;> simp

@[simp] theorem appendHex_eq (value : UInt64) :
    builder.appendHex value = builder.appendText (bytes "0x" ++ hexText value) := by
  simp [appendHex]

theorem appendEscaped_eq (builder : TextBuilder) (value : List UInt8) (capacity : ℕ) :
    builder.appendEscaped value capacity =
      builder.appendText (((value.take capacity).takeWhile (· ≠ 0)).flatMap escape) := by
  induction value generalizing builder capacity with
  | nil => simp [appendEscaped]
  | cons byte value ih =>
    cases capacity with
    | zero => simp [appendEscaped]
    | succ capacity =>
      by_cases hbyte : byte = 0
      · simp [appendEscaped, hbyte]
      · simp [appendEscaped, hbyte, ih]

def draft (capacity : ℕ) (text : List UInt8) (memory : Memory) : Memory := fun index =>
  (text.take (capacity - 1))[index]?.getD (if index = 0 ∧ capacity ≠ 0 then 0 else memory index)

def place (capacity : ℕ) (text : List UInt8) (memory : Memory) : Memory := fun index =>
  (text.take (capacity - 1))[index]?.getD
    (if index = (text.take (capacity - 1)).length ∧ capacity ≠ 0 then 0 else memory index)

theorem draft_nil (capacity : ℕ) (memory : Memory) :
    draft capacity [] memory = if capacity ≠ 0 then Function.update memory 0 0 else memory := by
  funext index
  by_cases hcapacity : capacity = 0 <;> by_cases hindex : index = 0 <;>
    simp [draft, hcapacity, hindex]

theorem draft_append (capacity : ℕ) (text : List UInt8) (value : UInt8) (memory : Memory) :
    draft capacity (text ++ [value]) memory =
      if text.length + 1 < capacity then
        Function.update (draft capacity text memory) text.length value
      else draft capacity text memory := by
  funext index
  split_ifs with hroom
  · have hfits : text.take (capacity - 1) = text := List.take_of_length_le (by omega)
    have hmore : (text ++ [value]).take (capacity - 1) = text ++ [value] :=
      List.take_of_length_le (by simp; omega)
    obtain hlt | rfl | hgt := Nat.lt_trichotomy index text.length
    · simp [draft, hfits, hmore, Function.update_of_ne hlt.ne, List.getElem?_append_left hlt]
    · simp [draft, hmore]
    · rw [Function.update_of_ne hgt.ne', draft, draft, hfits, hmore,
        List.getElem?_eq_none (by simp; omega), List.getElem?_eq_none hgt.le]
  · rw [draft, draft, List.take_append_of_le_length (by omega)]

theorem appendText_init (output : Option Memory) (capacity : ℕ) (text : List UInt8) :
    (init output capacity).appendText text =
      ⟨output.map (draft capacity text), capacity, text.length⟩ := by
  induction text using List.reverseRecOn with
  | nil =>
    cases output <;> by_cases hcapacity : capacity = 0 <;>
      simp [init, store, draft_nil, hcapacity]
  | append_singleton text value ih =>
    rw [← appendText_appendText, ih]
    cases output <;> by_cases hroom : text.length + 1 < capacity <;>
      simp [appendText, append, store, draft_append, hroom]

theorem finish_draft (capacity : ℕ) (text : List UInt8) (memory : Memory) (h : capacity ≠ 0) :
    Function.update (draft capacity text memory)
      (if text.length < capacity then text.length else capacity - 1) 0 =
        place capacity text memory := by
  have hend : (if text.length < capacity then text.length else capacity - 1) =
      (text.take (capacity - 1)).length := by
    rw [List.length_take]
    split_ifs <;> omega
  rw [hend]
  funext index
  obtain hlt | rfl | hgt := Nat.lt_trichotomy index (text.take (capacity - 1)).length
  · rw [Function.update_of_ne hlt.ne, draft, place, List.getElem?_eq_getElem hlt]
    rfl
  · simp [place, h]
  · rw [Function.update_of_ne hgt.ne', draft, place, List.getElem?_eq_none hgt.le,
      if_neg fun hindex => Nat.ne_zero_of_lt hgt hindex.1, if_neg fun hindex => hgt.ne' hindex.1]

theorem finish_appendText_init (output : Option Memory) (capacity : ℕ) (text : List UInt8) :
    ((init output capacity).appendText text).finish =
      (output.map (place capacity text), text.length) := by
  rw [appendText_init]
  by_cases hcapacity : capacity = 0
  · subst hcapacity
    have hplace : place 0 text = draft 0 text := by
      funext memory index
      simp [place, draft]
    simp [finish, hplace]
  · cases output <;> simp [finish, store, hcapacity, finish_draft]

theorem place_of_le (text : List UInt8) {index : ℕ} (h : capacity ≤ index) :
    place capacity text memory index = memory index := by
  have hlength := List.length_take_le (capacity - 1) text
  rw [place, List.getElem?_eq_none (by omega), if_neg (by omega)]
  rfl

end TextBuilder

structure Holds (memory : Memory) (text : List UInt8) : Prop where
  stored : ∀ index (h : index < text.length), memory index = text[index]
  terminated : memory text.length = 0
  nonzero : 0 ∉ text

theorem holds_place (memory : Memory) {capacity : ℕ} {text : List UInt8} (hcapacity : capacity ≠ 0)
    (hnonzero : 0 ∉ text) :
    Holds (TextBuilder.place capacity text memory) (text.take (capacity - 1)) where
  stored index h := by simp [TextBuilder.place, List.getElem?_eq_getElem h]
  terminated := by simp [TextBuilder.place, hcapacity]
  nonzero h := hnonzero (List.mem_of_mem_take h)

def Printable (byte : UInt8) : Prop := 0x20 ≤ byte ∧ byte ≤ 0x7e

instance (byte : UInt8) : Decidable (Printable byte) :=
  inferInstanceAs (Decidable (0x20 ≤ byte ∧ byte ≤ 0x7e))

def Plain (byte : UInt8) : Prop := Printable byte ∧ byte ≠ TextBuilder.quote

instance (byte : UInt8) : Decidable (Plain byte) :=
  inferInstanceAs (Decidable (Printable byte ∧ byte ≠ TextBuilder.quote))

def PlainText (text : List UInt8) : Prop := ∀ byte ∈ text, Plain byte

instance (text : List UInt8) : Decidable (PlainText text) :=
  inferInstanceAs (Decidable (∀ byte ∈ text, Plain byte))

theorem PlainText.append {text more : List UInt8} (h : PlainText text) (hmore : PlainText more) :
    PlainText (text ++ more) :=
  List.forall_mem_append.mpr ⟨h, hmore⟩

theorem bytes_ofList (letters : List Char) :
    bytes (String.ofList letters) = letters.map fun letter => letter.toNat.toUInt8 := by
  rw [bytes, String.toList_ofList]

/-- A literal is plain when its letters are; stated on the letters so that no string is decoded. -/
theorem plainText_bytes (letters : List Char)
    (h : letters.all (fun letter => Plain letter.toNat.toUInt8) = true) :
    PlainText (bytes (String.ofList letters)) := by
  intro byte hbyte
  rw [bytes_ofList] at hbyte
  obtain ⟨letter, hletter, rfl⟩ := List.mem_map.mp hbyte
  exact of_decide_eq_true (List.all_eq_true.mp h letter hletter)

section Plain

open TextBuilder

theorem digitAt_plain : ∀ digit < 16, Plain (digitAt digit) := by decide

theorem reversedDigits_plain {base : ℕ} (hpos : 0 < base) (hbase : base ≤ 16) (room value : ℕ) :
    PlainText (reversedDigits base room value) := by
  induction room generalizing value with
  | zero => simp [reversedDigits, PlainText]
  | succ room ih =>
    have hdigit := digitAt_plain (value % base) ((Nat.mod_lt value hpos).trans_le hbase)
    rw [reversedDigits, PlainText, List.forall_mem_cons]
    refine ⟨hdigit, ?_⟩
    split_ifs
    · exact ih _
    · simp

theorem unsignedText_plain (value : UInt64) : PlainText (unsignedText value) :=
  fun byte h => reversedDigits_plain (by decide) (by decide) 32 value.toNat byte
    (List.mem_reverse.mp h)

theorem hexText_plain (value : UInt64) : PlainText (hexText value) :=
  fun byte h => reversedDigits_plain (by decide) (by decide) 16 value.toNat byte
    (List.mem_reverse.mp h)

theorem signedText_plain (value : Int64) : PlainText (signedText value) := by
  unfold signedText
  split_ifs
  · exact .append (plainText_bytes _ rfl) (unsignedText_plain _)
  · exact unsignedText_plain _

def PlainNames {κ : Type} (names : List (κ × String)) : Prop :=
  ∀ entry ∈ names, PlainText (bytes entry.2)

theorem PlainNames.nil {κ : Type} : PlainNames ([] : List (κ × String)) := by simp [PlainNames]

theorem PlainNames.cons {κ : Type} {key : κ} (letters : List Char) {names : List (κ × String)}
    (h : letters.all (fun letter => Plain letter.toNat.toUInt8) = true) (hrest : PlainNames names) :
    PlainNames ((key, String.ofList letters) :: names) :=
  List.forall_mem_cons.mpr ⟨plainText_bytes letters h, hrest⟩

theorem nameOf_plain {κ : Type} [DecidableEq κ] {names : List (κ × String)} {fallback : String}
    (hnames : PlainNames names) (hfallback : PlainText (bytes fallback)) (value : κ) :
    PlainText (bytes (nameOf names fallback value)) := by
  unfold nameOf
  cases h : names.lookup value with
  | none => exact hfallback
  | some name =>
    obtain ⟨front, back, rfl, -⟩ := List.lookup_eq_some_iff.mp h
    exact hnames (value, name) (by simp)

theorem logLevelNames_plain : PlainNames logLevelNames := by
  unfold logLevelNames
  repeat refine .cons _ rfl ?_
  exact .nil

theorem eventKindNames_plain : PlainNames eventKindNames := by
  unfold eventKindNames
  repeat refine .cons _ rfl ?_
  exact .nil

theorem phaseNames_plain : PlainNames phaseNames := by
  unfold phaseNames
  repeat refine .cons _ rfl ?_
  exact .nil

theorem syscallActionNames_plain : PlainNames syscallActionNames := by
  unfold syscallActionNames
  repeat refine .cons _ rfl ?_
  exact .nil

theorem pathActionNames_plain : PlainNames pathActionNames := by
  unfold pathActionNames
  repeat refine .cons _ rfl ?_
  exact .nil

theorem runtimeStateNames_plain : PlainNames runtimeStateNames := by
  unfold runtimeStateNames
  repeat refine .cons _ rfl ?_
  exact .nil

theorem syscallNames_plain : PlainNames syscallNames := by
  unfold syscallNames
  repeat refine .cons _ rfl ?_
  exact .nil

theorem logLevelName_plain (level : Int32) : PlainText (bytes (logLevelName level)) :=
  nameOf_plain logLevelNames_plain (plainText_bytes _ rfl) level

theorem eventKindName_plain (kind : UInt32) : PlainText (bytes (eventKindName kind)) :=
  nameOf_plain eventKindNames_plain (plainText_bytes _ rfl) kind

theorem phaseName_plain (phase : UInt32) : PlainText (bytes (phaseName phase)) :=
  nameOf_plain phaseNames_plain (plainText_bytes _ rfl) phase

theorem hookselfSyscallName_plain (syscallNumber : Int32) :
    PlainText (bytes (hookselfSyscallName syscallNumber)) :=
  nameOf_plain syscallNames_plain (plainText_bytes _ rfl) syscallNumber.toInt

theorem eventActionName_plain (event : HookselfEvent) :
    PlainText (bytes (eventActionName event)) := by
  unfold eventActionName
  split_ifs
  · exact nameOf_plain syscallActionNames_plain (plainText_bytes _ rfl) event.action
  · exact nameOf_plain pathActionNames_plain (plainText_bytes _ rfl) event.action
  · exact nameOf_plain runtimeStateNames_plain (plainText_bytes _ rfl) event.action
  · exact plainText_bytes _ rfl

end Plain

open TextBuilder

def kindText (event : HookselfEvent) : List UInt8 :=
  bytes "level=" ++ bytes (logLevelName (hookselfEventLogLevel event)) ++
    bytes " kind=" ++ bytes (eventKindName event.kind)

def argumentsText (event : HookselfEvent) : List UInt8 :=
  if event.kind = eventSyscall then
    bytes " args=[" ++ (bytes "0x" ++ hexText (event.arguments.toList.headD 0)) ++
      event.arguments.toList.tail.flatMap (fun value => bytes "," ++ (bytes "0x" ++ hexText value)) ++
      bytes "]"
  else []

def headerText (event : HookselfEvent) : List UInt8 :=
  kindText event ++
    bytes " seq=" ++ unsignedText event.sequence ++
    bytes " time_ns=" ++ signedText event.monotonicTimeNs ++
    bytes " tgid=" ++ signedText event.tgid.toInt64 ++
    bytes " tid=" ++ signedText event.tid.toInt64 ++
    bytes " syscall=" ++ bytes (hookselfSyscallName event.syscallNumber) ++
    bytes "(" ++ signedText event.syscallNumber.toInt64 ++
    bytes ") phase=" ++ bytes (phaseName event.phase) ++
    bytes " action=" ++ bytes (eventActionName event) ++
    bytes "(" ++ signedText event.action.toInt64 ++
    bytes ") result=" ++ signedText event.result ++
    bytes " error=" ++ signedText event.error.toInt64 ++
    bytes " rule=" ++ unsignedText event.ruleId.toUInt64 ++
    bytes " flags=" ++ (bytes "0x" ++ hexText event.flags.toUInt64) ++
    argumentsText event

def pathBytes (path : Vector UInt8 eventPathCapacity) : List UInt8 :=
  path.toList.takeWhile (· ≠ 0)

def pathText (field : String) (path : Vector UInt8 eventPathCapacity) : List UInt8 :=
  if pathBytes path ≠ [] then bytes field ++ (pathBytes path).flatMap escape ++ [quote] else []

def truncatedText (mark : String) (path : Vector UInt8 eventPathCapacity) : List UInt8 :=
  if pathBytes path ≠ [] then bytes mark else []

def fullText (event : HookselfEvent) : List UInt8 :=
  headerText event ++ pathText " path=\"" event.path ++
    pathText " translated=\"" event.translatedPath

def compactText (event : HookselfEvent) : List UInt8 :=
  headerText event ++ truncatedText " path_truncated=true" event.path ++
    truncatedText " translated_path_truncated=true" event.translatedPath

def minimalText (event : HookselfEvent) : List UInt8 := kindText event ++ bytes " truncated=true"

theorem headD_ne_iff (path : Vector UInt8 eventPathCapacity) :
    path.toList.headD 0 ≠ 0 ↔ pathBytes path ≠ [] := by
  unfold pathBytes
  cases path.toList with
  | nil => simp
  | cons byte rest => by_cases h : byte = 0 <;> simp [h]

theorem appendPath_eq (builder : TextBuilder) (field : String)
    (path : Vector UInt8 eventPathCapacity) :
    appendPath builder field path = builder.appendText (pathText field path) := by
  have hall : path.toList.take eventPathCapacity = path.toList :=
    List.take_of_length_le (by simp)
  by_cases h : pathBytes path ≠ []
  · rw [appendPath, pathText, if_pos ((headD_ne_iff path).mpr h), if_pos h, appendEscaped_eq, hall]
    simp [pathBytes, show bytes "\"" = [quote] from bytes_ofList ['"']]
  · rw [appendPath, pathText, if_neg fun hhead => h ((headD_ne_iff path).mp hhead), if_neg h,
      appendText_nil]

theorem appendTruncated_eq (builder : TextBuilder) (mark : String)
    (path : Vector UInt8 eventPathCapacity) :
    appendTruncated builder mark path = builder.appendText (truncatedText mark path) := by
  simp only [appendTruncated, truncatedText, headD_ne_iff]
  split_ifs <;> rfl

theorem appendArguments_eq (builder : TextBuilder) (first : UInt64) (rest : List UInt64) :
    appendArguments builder first rest =
      builder.appendText ((bytes "0x" ++ hexText first) ++
        rest.flatMap fun value => bytes "," ++ (bytes "0x" ++ hexText value)) := by
  have hrest (builder : TextBuilder) :
      rest.foldl (fun builder argument => (builder.appendString ",").appendHex argument) builder =
        builder.appendText
          (rest.flatMap fun value => bytes "," ++ (bytes "0x" ++ hexText value)) := by
    induction rest generalizing builder with
    | nil => rfl
    | cons argument rest ih =>
      rw [List.foldl_cons, ih]
      simp
  rw [appendArguments, hrest, appendHex_eq, appendText_appendText]

theorem appendFormattedEvent_eq (builder : TextBuilder) (event : HookselfEvent)
    (includePaths : Bool) :
    appendFormattedEvent builder event includePaths =
      builder.appendText (if includePaths then fullText event else compactText event) := by
  have hfirst : event.arguments.toList.headD 0 = event.arguments[0] := by
    rw [List.headD_eq_head?_getD, List.head?_eq_getElem?]
    simp
  have hheader : (if event.kind = eventSyscall then
      (appendArguments ((appendFields builder event).appendString " args=[") event.arguments[0]
        event.arguments.toList.tail).appendString "]"
      else appendFields builder event) = builder.appendText (headerText event) := by
    unfold headerText argumentsText
    simp only [hfirst]
    split_ifs <;>
      simp [appendArguments_eq, appendFields, kindText]
  simp only [appendFormattedEvent, hheader]
  cases includePaths with
  | true => simp only [if_true, appendPath_eq, appendText_appendText, fullText]
  | false =>
    simp only [Bool.false_eq_true, if_false, appendTruncated_eq, appendText_appendText,
      compactText]

theorem appendMinimal_eq (builder : TextBuilder) (event : HookselfEvent) :
    appendMinimal builder event = builder.appendText (minimalText event) := by
  simp [appendMinimal, minimalText, kindText]

theorem kindText_plain (event : HookselfEvent) : PlainText (kindText event) := by
  unfold kindText
  exact (PlainText.append (plainText_bytes _ rfl) (logLevelName_plain _)).append (plainText_bytes _ rfl)
    |>.append (eventKindName_plain _)

theorem prefixedHex_plain (value : UInt64) : PlainText (bytes "0x" ++ hexText value) :=
  .append (plainText_bytes _ rfl) (hexText_plain value)

theorem argumentsText_plain (event : HookselfEvent) : PlainText (argumentsText event) := by
  have hrest (rest : List UInt64) :
      PlainText (rest.flatMap fun value => bytes "," ++ (bytes "0x" ++ hexText value)) := by
    intro byte hbyte
    obtain ⟨value, -, hbyte⟩ := List.mem_flatMap.mp hbyte
    have hvalue : PlainText (bytes "," ++ (bytes "0x" ++ hexText value)) :=
      .append (plainText_bytes _ rfl) (prefixedHex_plain value)
    exact hvalue byte hbyte
  unfold argumentsText
  split_ifs
  · exact (PlainText.append (plainText_bytes _ rfl) (prefixedHex_plain _)).append (hrest _)
      |>.append (plainText_bytes _ rfl)
  · simp [PlainText]

theorem headerText_plain (event : HookselfEvent) : PlainText (headerText event) := by
  unfold headerText
  exact (kindText_plain event)
    |>.append (plainText_bytes _ rfl) |>.append (unsignedText_plain _)
    |>.append (plainText_bytes _ rfl) |>.append (signedText_plain _)
    |>.append (plainText_bytes _ rfl) |>.append (signedText_plain _)
    |>.append (plainText_bytes _ rfl) |>.append (signedText_plain _)
    |>.append (plainText_bytes _ rfl) |>.append (hookselfSyscallName_plain _)
    |>.append (plainText_bytes _ rfl) |>.append (signedText_plain _)
    |>.append (plainText_bytes _ rfl) |>.append (phaseName_plain _)
    |>.append (plainText_bytes _ rfl) |>.append (eventActionName_plain _)
    |>.append (plainText_bytes _ rfl) |>.append (signedText_plain _)
    |>.append (plainText_bytes _ rfl) |>.append (signedText_plain _)
    |>.append (plainText_bytes _ rfl) |>.append (signedText_plain _)
    |>.append (plainText_bytes _ rfl) |>.append (unsignedText_plain _)
    |>.append (plainText_bytes _ rfl) |>.append (prefixedHex_plain _)
    |>.append (argumentsText_plain _)

theorem escape_eq (byte : UInt8) : escape byte =
    if byte = backslash then [backslash, backslash]
    else if byte = quote then [backslash, quote]
    else if byte = 10 then [backslash, 110]
    else if byte = 13 then [backslash, 114]
    else if byte = 9 then [backslash, 116]
    else if 0x20 ≤ byte ∧ byte ≤ 0x7e then [byte]
    else [backslash, 120, digitAt (byte.toNat / 16), digitAt (byte.toNat % 16)] := by
  rw [escape, show bytes "\\n" = [backslash, 110] from bytes_ofList _,
    show bytes "\\r" = [backslash, 114] from bytes_ofList _,
    show bytes "\\t" = [backslash, 116] from bytes_ofList _,
    show bytes "\\x" = [backslash, 120] from bytes_ofList _]
  rfl

theorem escape_printable (byte : UInt8) : ∀ letter ∈ escape byte, Printable letter := by
  have hbyte := byte.toNat_lt
  have hhigh := (digitAt_plain (byte.toNat / 16) (by omega)).1
  have hlow := (digitAt_plain (byte.toNat % 16) (by omega)).1
  have hletters : ∀ letter ∈ [backslash, quote, 110, 114, 116, 120], Printable letter := by
    decide +kernel
  simp only [List.forall_mem_cons] at hletters
  obtain ⟨hbackslash, hquote, hn, hr, ht, hx, -⟩ := hletters
  rw [escape_eq]
  split_ifs with _ _ _ _ _ hprintable
  · simp [hbackslash]
  · simp [hbackslash, hquote]
  · simp [hbackslash, hn]
  · simp [hbackslash, hr]
  · simp [hbackslash, ht]
  · simpa [Printable] using hprintable
  · simp [hbackslash, hx, hhigh, hlow]

def unescape (text : List UInt8) : Option UInt8 := do
  let first ← text[0]?
  if first ≠ backslash then return first
  let second ← text[1]?
  if second = backslash ∨ second = quote then return second
  if second = 110 then return 10
  if second = 114 then return 13
  if second = 116 then return 9
  let high ← text[2]?
  let low ← text[3]?
  return (16 * kDigits.idxOf high + kDigits.idxOf low).toUInt8

theorem idxOf_digitAt : ∀ digit < 16, kDigits.idxOf (digitAt digit) = digit := by decide

theorem unescape_escape (byte : UInt8) (text : List UInt8) :
    unescape (escape byte ++ text) = some byte := by
  have hbyte := byte.toNat_lt
  rw [escape_eq]
  split_ifs with hbackslash hquote hnewline hreturn htab hprintable
  · rw [hbackslash]; rfl
  · rw [hquote]; rfl
  · rw [hnewline]; rfl
  · rw [hreturn]; rfl
  · rw [htab]; rfl
  · simp [unescape, hbackslash]
  · have hread : unescape ([backslash, 120, digitAt (byte.toNat / 16), digitAt (byte.toNat % 16)] ++
        text) = some (16 * kDigits.idxOf (digitAt (byte.toNat / 16)) +
          kDigits.idxOf (digitAt (byte.toNat % 16))).toUInt8 := rfl
    rw [hread, idxOf_digitAt _ (by omega), idxOf_digitAt _ (by omega), Nat.div_add_mod]
    exact congrArg some UInt8.ofNat_toNat

theorem escape_ne_quote (byte : UInt8) (x y : List UInt8) : escape byte ++ x ≠ quote :: y := by
  intro h
  have hhead := congrArg List.head? h
  have hne : backslash ≠ quote := by decide
  rw [escape_eq] at hhead
  split_ifs at hhead with hbackslash hquote <;>
    simp only [List.cons_append, List.head?_cons, Option.some.injEq] at hhead
  · exact hne hhead
  · exact hne hhead
  · exact hne hhead
  · exact hne hhead
  · exact hne hhead
  · exact hquote hhead
  · exact hne hhead

theorem escape_delimited : Delimited escape quote where
  inj {a b x y} h := by
    have hread := congrArg unescape h
    rw [unescape_escape, unescape_escape] at hread
    exact Option.some.inj hread
  ne_stop {a x y} := escape_ne_quote a x y

theorem quote_notMem {text : List UInt8} (h : PlainText text) : quote ∉ text :=
  fun hmem => (h quote hmem).2 rfl

theorem pathText_of_ne {field : String} {path : Vector UInt8 eventPathCapacity}
    (h : pathBytes path ≠ []) :
    pathText field path = bytes field ++ ((pathBytes path).flatMap escape ++ quote :: []) := by
  rw [pathText, if_pos h, List.append_assoc]

theorem pathText_of_eq {field : String} {path : Vector UInt8 eventPathCapacity}
    (h : pathBytes path = []) : pathText field path = [] := by
  rw [pathText, if_neg (not_not.mpr h)]

theorem pathText_inj {field : String} {path other : Vector UInt8 eventPathCapacity}
    (h : pathText field path = pathText field other) : pathBytes path = pathBytes other := by
  by_cases hpath : pathBytes path = [] <;> by_cases hother : pathBytes other = []
  · rw [hpath, hother]
  · rw [pathText_of_eq hpath, pathText_of_ne hother] at h
    simp at h
  · rw [pathText_of_eq hother, pathText_of_ne hpath] at h
    simp at h
  · rw [pathText_of_ne hpath, pathText_of_ne hother] at h
    exact (escape_delimited.flatMap_append_inj (List.append_cancel_left h)).1

theorem path_field : bytes " path=\"" = bytes " path=" ++ [quote] := by
  rw [show bytes " path=\"" = _ from bytes_ofList _, show bytes " path=" = _ from bytes_ofList _]
  rfl

theorem translated_field : bytes " translated=\"" = bytes " translated=" ++ [quote] := by
  rw [show bytes " translated=\"" = _ from bytes_ofList _,
    show bytes " translated=" = _ from bytes_ofList _]
  rfl

theorem fullText_of_path {event : HookselfEvent} (h : pathBytes event.path ≠ []) :
    fullText event = (headerText event ++ bytes " path=") ++ quote ::
      ((pathBytes event.path).flatMap escape ++ quote ::
        pathText " translated=\"" event.translatedPath) := by
  rw [fullText, pathText_of_ne h, path_field]
  simp

theorem fullText_of_translated {event : HookselfEvent} (h : pathBytes event.path = [])
    (htranslated : pathBytes event.translatedPath ≠ []) :
    fullText event = (headerText event ++ bytes " translated=") ++ quote ::
      ((pathBytes event.translatedPath).flatMap escape ++ quote :: []) := by
  rw [fullText, pathText_of_eq h, pathText_of_ne htranslated, translated_field]
  simp

theorem fullText_of_empty {event : HookselfEvent} (h : pathBytes event.path = [])
    (htranslated : pathBytes event.translatedPath = []) : fullText event = headerText event := by
  rw [fullText, pathText_of_eq h, pathText_of_eq htranslated, List.append_nil, List.append_nil]

theorem path_ne_translated (text other : List UInt8) :
    text ++ bytes " path=" ≠ other ++ bytes " translated=" := by
  intro h
  rw [show bytes " path=" = _ from bytes_ofList _,
    show bytes " translated=" = _ from bytes_ofList _] at h
  have hlast := congrArg (fun text => text.reverse[1]?) h
  simp at hlast

theorem field_inj {event other : HookselfEvent} {field field' : String} {x y : List UInt8}
    (hfield : PlainText (bytes field)) (hfield' : PlainText (bytes field'))
    (h : (headerText event ++ bytes field) ++ quote :: x =
      (headerText other ++ bytes field') ++ quote :: y) :
    headerText event ++ bytes field = headerText other ++ bytes field' ∧ x = y :=
  append_stop_inj (quote_notMem ((headerText_plain event).append hfield))
    (quote_notMem ((headerText_plain other).append hfield')) h

theorem headerText_ne (event : HookselfEvent) (x y : List UInt8) :
    headerText event ≠ x ++ quote :: y :=
  fun h => quote_notMem (headerText_plain event) (h ▸ List.mem_append_right x List.mem_cons_self)

theorem path_plain : PlainText (bytes " path=") := plainText_bytes _ rfl

theorem translated_plain : PlainText (bytes " translated=") := plainText_bytes _ rfl

theorem path_nil_of_fullText_eq {event other : HookselfEvent} (h : fullText event = fullText other)
    (hpath : pathBytes event.path = []) : pathBytes other.path = [] := by
  by_contra hother
  rw [fullText_of_path hother] at h
  by_cases htranslated : pathBytes event.translatedPath = []
  · rw [fullText_of_empty hpath htranslated] at h
    exact headerText_ne event _ _ h
  · rw [fullText_of_translated hpath htranslated] at h
    obtain ⟨hheader, -⟩ := field_inj translated_plain path_plain h
    exact path_ne_translated _ _ hheader.symm

theorem translated_nil_of_fullText_eq {event other : HookselfEvent}
    (h : fullText event = fullText other) (hpath : pathBytes event.path = [])
    (hother : pathBytes other.path = []) (htranslated : pathBytes event.translatedPath = []) :
    pathBytes other.translatedPath = [] := by
  by_contra hother'
  rw [fullText_of_empty hpath htranslated, fullText_of_translated hother hother'] at h
  exact headerText_ne event _ _ h

theorem fullText_inj {event other : HookselfEvent} (h : fullText event = fullText other) :
    headerText event = headerText other ∧ pathBytes event.path = pathBytes other.path ∧
      pathBytes event.translatedPath = pathBytes other.translatedPath := by
  by_cases hpath : pathBytes event.path = []
  · have hother := path_nil_of_fullText_eq h hpath
    by_cases htranslated : pathBytes event.translatedPath = []
    · have hother' := translated_nil_of_fullText_eq h hpath hother htranslated
      rw [fullText_of_empty hpath htranslated, fullText_of_empty hother hother'] at h
      exact ⟨h, hpath.trans hother.symm, htranslated.trans hother'.symm⟩
    · have hother' : pathBytes other.translatedPath ≠ [] := fun hnil =>
        htranslated (translated_nil_of_fullText_eq h.symm hother hpath hnil)
      rw [fullText_of_translated hpath htranslated, fullText_of_translated hother hother'] at h
      obtain ⟨hheader, hrest⟩ := field_inj translated_plain translated_plain h
      exact ⟨List.append_cancel_right hheader, hpath.trans hother.symm,
        (escape_delimited.flatMap_append_inj hrest).1⟩
  · have hother : pathBytes other.path ≠ [] := fun hnil =>
      hpath (path_nil_of_fullText_eq h.symm hnil)
    rw [fullText_of_path hpath, fullText_of_path hother] at h
    obtain ⟨hheader, hrest⟩ := field_inj path_plain path_plain h
    obtain ⟨hbytes, htranslated⟩ := escape_delimited.flatMap_append_inj hrest
    exact ⟨List.append_cancel_right hheader, hbytes, pathText_inj htranslated⟩

def PrintableText (text : List UInt8) : Prop := ∀ byte ∈ text, Printable byte

theorem PlainText.printable {text : List UInt8} (h : PlainText text) : PrintableText text :=
  fun byte hbyte => (h byte hbyte).1

theorem PrintableText.append {text more : List UInt8} (h : PrintableText text)
    (hmore : PrintableText more) : PrintableText (text ++ more) :=
  List.forall_mem_append.mpr ⟨h, hmore⟩

theorem PrintableText.zero_notMem {text : List UInt8} (h : PrintableText text) : 0 ∉ text :=
  fun hmem => absurd (h 0 hmem) (by decide)

theorem quote_printable : PrintableText [quote] := by
  simp only [PrintableText, List.forall_mem_singleton]
  decide

theorem pathText_printable {field : String} (hfield : PrintableText (bytes field))
    (path : Vector UInt8 eventPathCapacity) : PrintableText (pathText field path) := by
  have hescaped : PrintableText ((pathBytes path).flatMap escape) := by
    intro letter hletter
    obtain ⟨byte, -, hletter⟩ := List.mem_flatMap.mp hletter
    exact escape_printable byte letter hletter
  unfold pathText
  split_ifs
  · exact (hfield.append hescaped).append quote_printable
  · simp [PrintableText]

theorem fullText_printable (event : HookselfEvent) : PrintableText (fullText event) := by
  have hpath : PrintableText (bytes " path=\"") :=
    path_field ▸ path_plain.printable.append quote_printable
  have htranslated : PrintableText (bytes " translated=\"") :=
    translated_field ▸ translated_plain.printable.append quote_printable
  exact ((headerText_plain event).printable.append (pathText_printable hpath _)).append
    (pathText_printable htranslated _)

theorem truncatedText_plain {mark : String} (hmark : PlainText (bytes mark))
    (path : Vector UInt8 eventPathCapacity) : PlainText (truncatedText mark path) := by
  unfold truncatedText
  split_ifs
  · exact hmark
  · simp [PlainText]

theorem compactText_plain (event : HookselfEvent) : PlainText (compactText event) := by
  unfold compactText
  exact ((headerText_plain event).append (truncatedText_plain (plainText_bytes _ rfl) _)).append
    (truncatedText_plain (plainText_bytes _ rfl) _)

theorem minimalText_plain (event : HookselfEvent) : PlainText (minimalText event) := by
  unfold minimalText
  exact (kindText_plain event).append (plainText_bytes _ rfl)

def shownText (event : HookselfEvent) (capacity : ℕ) : List UInt8 :=
  if (fullText event).length < capacity then fullText event
  else if (compactText event).length < capacity then compactText event
  else (minimalText event).take (capacity - 1)

theorem shownText_printable (event : HookselfEvent) (capacity : ℕ) :
    PrintableText (shownText event capacity) := by
  unfold shownText
  split_ifs
  · exact fullText_printable event
  · exact (compactText_plain event).printable
  · exact fun byte hbyte => (minimalText_plain event).printable byte (List.mem_of_mem_take hbyte)

theorem shownText_length_lt (event : HookselfEvent) {capacity : ℕ} (h : capacity ≠ 0) :
    (shownText event capacity).length < capacity := by
  have hlength := List.length_take_le (capacity - 1) (minimalText event)
  unfold shownText
  split_ifs <;> omega

theorem shownText_eq_full_iff (event : HookselfEvent) {capacity : ℕ} (h : capacity ≠ 0) :
    shownText event capacity = fullText event ↔ (fullText event).length < capacity := by
  constructor
  · intro heq
    exact heq ▸ shownText_length_lt event h
  · intro hlt
    rw [shownText, if_pos hlt]

theorem hookselfFormatEvent_eq {event : HookselfEvent} (hvalid : eventValid event = true)
    (memory : Memory) (capacity previous : ℕ) :
    ∃ memory', hookselfFormatEvent (some event) (some memory) capacity (some previous) =
        (hookselfOk, some memory', some (fullText event).length) ∧
      (∀ index, capacity ≤ index → memory' index = memory index) ∧
      (capacity ≠ 0 → Holds memory' (shownText event capacity)) := by
  have hholds (memory : Memory) {text : List UInt8} (hprintable : PrintableText text)
      (hcapacity : capacity ≠ 0) (hlt : text.length < capacity) :
      Holds (place capacity text memory) text := by
    have htake : text.take (capacity - 1) = text := List.take_of_length_le (by omega)
    have hheld := holds_place memory hcapacity hprintable.zero_notMem
    rwa [htake] at hheld
  by_cases hfull : capacity ≠ 0 ∧ capacity ≤ (fullText event).length
  · have hnot : ¬(fullText event).length < capacity := by omega
    by_cases hcompact : capacity ≤ (compactText event).length
    · refine ⟨place capacity (minimalText event) (place capacity (compactText event)
        (place capacity (fullText event) memory)), ?_, fun index hindex => ?_, fun hcapacity => ?_⟩
      · simp [hookselfFormatEvent, hvalid, appendFormattedEvent_eq, appendMinimal_eq,
          finish_appendText_init, hfull, hcompact]
      · rw [place_of_le _ hindex, place_of_le _ hindex, place_of_le _ hindex]
      · rw [shownText, if_neg hnot, if_neg (by omega)]
        exact holds_place _ hcapacity (minimalText_plain event).printable.zero_notMem
    · refine ⟨place capacity (compactText event) (place capacity (fullText event) memory), ?_,
        fun index hindex => ?_, fun hcapacity => ?_⟩
      · simp [hookselfFormatEvent, hvalid, appendFormattedEvent_eq, finish_appendText_init, hfull,
          hcompact]
      · rw [place_of_le _ hindex, place_of_le _ hindex]
      · rw [shownText, if_neg hnot, if_pos (by omega)]
        exact hholds _ (compactText_plain event).printable hcapacity (by omega)
  · refine ⟨place capacity (fullText event) memory, ?_, fun index hindex => place_of_le _ hindex,
      fun hcapacity => ?_⟩
    · simp [hookselfFormatEvent, hvalid, appendFormattedEvent_eq, finish_appendText_init, hfull]
    · have hlt : (fullText event).length < capacity := by omega
      rw [shownText, if_pos hlt]
      exact hholds _ (fullText_printable event) hcapacity hlt

theorem quote_notMem_shownText (event : HookselfEvent) {capacity : ℕ}
    (h : capacity ≤ (fullText event).length) : quote ∉ shownText event capacity := by
  rw [shownText, if_neg (by omega)]
  split_ifs
  · exact quote_notMem (compactText_plain event)
  · exact fun hmem => quote_notMem (minimalText_plain event) (List.mem_of_mem_take hmem)

/-- What a buffer too short for the full text shows, from the header and from which paths are not
empty. -/
def shortText (kind header : List UInt8) (path translated : Bool) (capacity : ℕ) : List UInt8 :=
  let compact := header ++ (if path then bytes " path_truncated=true" else []) ++
    (if translated then bytes " translated_path_truncated=true" else [])
  if compact.length < capacity then compact
  else (kind ++ bytes " truncated=true").take (capacity - 1)

theorem shownText_eq_shortText (event : HookselfEvent) {capacity : ℕ}
    (h : capacity ≤ (fullText event).length) :
    shownText event capacity = shortText (kindText event) (headerText event)
      (pathBytes event.path ≠ []) (pathBytes event.translatedPath ≠ []) capacity := by
  have hcompact : compactText event = headerText event ++
      (if decide (pathBytes event.path ≠ []) then bytes " path_truncated=true" else []) ++
      (if decide (pathBytes event.translatedPath ≠ []) then
        bytes " translated_path_truncated=true" else []) := by
    simp only [compactText, truncatedText, decide_eq_true_eq]
  rw [shownText, if_neg (by omega), hcompact]
  rfl

/-- A text that was cut short holds no byte of a path: it is a function of the header and of which
paths are empty. -/
theorem hookselfFormatEvent_shows (event : HookselfEvent) (memory : Memory)
    (capacity previous : ℕ) :
    (eventValid event = false →
      hookselfFormatEvent (some event) (some memory) capacity (some previous) =
        (hookselfEInvalidArgument, some memory, some previous)) ∧
    (eventValid event = true →
      hookselfFormatEvent (some event) none 0 (some previous) =
        (hookselfOk, none, some (fullText event).length) ∧
      ∃ memory', hookselfFormatEvent (some event) (some memory) capacity (some previous) =
          (hookselfOk, some memory', some (fullText event).length) ∧
        (∀ index, capacity ≤ index → memory' index = memory index) ∧
        (capacity ≠ 0 → ∃ text, Holds memory' text ∧ text.length < capacity ∧
          PrintableText text ∧ (text = fullText event ↔ (fullText event).length < capacity) ∧
          (capacity ≤ (fullText event).length → quote ∉ text ∧
            text = shortText (kindText event) (headerText event) (pathBytes event.path ≠ [])
              (pathBytes event.translatedPath ≠ []) capacity))) ∧
    ∀ other : HookselfEvent, fullText other = fullText event →
      headerText other = headerText event ∧ pathBytes other.path = pathBytes event.path ∧
        pathBytes other.translatedPath = pathBytes event.translatedPath := by
  refine ⟨fun hinvalid => ?_, fun hvalid => ⟨?_, ?_⟩, fun other => fullText_inj⟩
  · simp [hookselfFormatEvent, hinvalid]
  · simp [hookselfFormatEvent, hvalid, appendFormattedEvent_eq, finish_appendText_init]
  · obtain ⟨memory', hcall, hframe, hholds⟩ :=
      hookselfFormatEvent_eq hvalid memory capacity previous
    exact ⟨memory', hcall, hframe, fun hcapacity => ⟨shownText event capacity, hholds hcapacity,
      shownText_length_lt event hcapacity, shownText_printable event capacity,
      shownText_eq_full_iff event hcapacity, fun hshort =>
        ⟨quote_notMem_shownText event hshort, shownText_eq_shortText event hshort⟩⟩⟩

def samplePath (first : UInt8) : Vector UInt8 eventPathCapacity :=
  Vector.ofFn fun index => if index.val = 0 then first else 0

def sampleEvent (structSize : UInt32) (path : UInt8) : HookselfEvent where
  structSize := structSize
  kind := eventPath
  sequence := 1
  monotonicTimeNs := -5
  tgid := 7
  tid := 7
  syscallNumber := 56
  phase := 1
  action := 1
  error := 0
  result := 0
  arguments := Vector.replicate 6 0
  ruleId := 0
  flags := 0
  path := samplePath path
  translatedPath := samplePath 0

theorem hookselfFormatEvent_shows_sample :
    eventValid (sampleEvent 1136 47) = true ∧
      ∃ memory', hookselfFormatEvent (some (sampleEvent 1136 47)) (some fun _ => 1) 8 (some 0) =
          (hookselfOk, some memory', some (fullText (sampleEvent 1136 47)).length) ∧
        ∀ index, 8 ≤ index → memory' index = 1 := by
  have hvalid : eventValid (sampleEvent 1136 47) = true := by decide
  obtain ⟨-, memory', hcall, hframe, -⟩ :=
    (hookselfFormatEvent_shows (sampleEvent 1136 47) (fun _ => 1) 8 0).2.1 hvalid
  exact ⟨hvalid, memory', hcall, hframe⟩

theorem pathBytes_samplePath_head (first : UInt8) (h : first ≠ 0) :
    (pathBytes (samplePath first)).head? = some first := by
  have hhead : (samplePath first).toList.head? = some first := by
    simp [samplePath, List.head?_eq_getElem?, show 0 < eventPathCapacity by decide]
  simp [pathBytes, List.head?_takeWhile, hhead, h]

/-- An event of an older layout is refused with the buffer as it was, and a buffer that is too
short shows two paths alike. -/
theorem hookselfFormatEvent_refuses_and_cuts :
    (hookselfFormatEvent (some (sampleEvent 0 47)) (some fun _ => 1) 1 (some 0) =
      (hookselfEInvalidArgument, some fun _ => 1, some 0)) ∧
    pathBytes (sampleEvent 1136 47).path ≠ pathBytes (sampleEvent 1136 46).path ∧
    ∃ memory memory' : Memory,
      hookselfFormatEvent (some (sampleEvent 1136 47)) (some fun _ => 1) 1 (some 0) =
        (hookselfOk, some memory, some (fullText (sampleEvent 1136 47)).length) ∧
      hookselfFormatEvent (some (sampleEvent 1136 46)) (some fun _ => 1) 1 (some 0) =
        (hookselfOk, some memory', some (fullText (sampleEvent 1136 46)).length) ∧
      Holds memory [] ∧ Holds memory' [] := by
  have hempty (event : HookselfEvent) : shownText event 1 = [] :=
    List.eq_nil_of_length_eq_zero (by
      have := shownText_length_lt event Nat.one_ne_zero
      omega)
  have hrun (path : UInt8) : ∃ memory : Memory,
      hookselfFormatEvent (some (sampleEvent 1136 path)) (some fun _ => 1) 1 (some 0) =
        (hookselfOk, some memory, some (fullText (sampleEvent 1136 path)).length) ∧
      Holds memory [] := by
    have hvalid : eventValid (sampleEvent 1136 path) = true := rfl
    obtain ⟨memory, hcall, -, hholds⟩ := hookselfFormatEvent_eq hvalid (fun _ => 1) 1 0
    exact ⟨memory, hcall, hempty (sampleEvent 1136 path) ▸ hholds Nat.one_ne_zero⟩
  obtain ⟨memory, hcall, hholds⟩ := hrun 47
  obtain ⟨memory', hcall', hholds'⟩ := hrun 46
  refine ⟨?_, fun heq => ?_, memory, memory', hcall, hcall', hholds, hholds'⟩
  · simp [hookselfFormatEvent, show eventValid (sampleEvent 0 47) = false by decide]
  · have hhead := congrArg List.head? heq
    rw [show (sampleEvent 1136 47).path = samplePath 47 from rfl,
      show (sampleEvent 1136 46).path = samplePath 46 from rfl,
      pathBytes_samplePath_head 47 (by decide), pathBytes_samplePath_head 46 (by decide)] at hhead
    exact absurd hhead (by decide)

end HookSelf.Logging
