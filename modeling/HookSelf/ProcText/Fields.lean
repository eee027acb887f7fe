import HookSelf.Collections.Lines
import HookSelf.Limits

/-! Reading the lines of proc text files: hexadecimal numbers and fields between blanks. The same
helpers stand in `virtual_file_provider.cpp` and `proc_virtual_view.cpp`. -/

namespace HookSelf.ProcText

abbrev newline : UInt8 := 10
abbrev dash : UInt8 := 45

section Hex

def hexDigit (c : UInt8) : Option ℕ :=
  if 48 ≤ c ∧ c ≤ 57 then some (c.toNat - 48)
  else if 97 ≤ c ∧ c ≤ 102 then some (c.toNat - 97 + 10)
  else if 65 ≤ c ∧ c ≤ 70 then some (c.toNat - 65 + 10)
  else none

def parseHexFrom (parsed : ℕ) : List UInt8 → Option ℕ
  | [] => some parsed
  | c :: text =>
    match hexDigit c with
    | none => none
    | some digit =>
      if parsed > (uintptrMax - digit) / 16 then none else parseHexFrom (parsed * 16 + digit) text

def parseHex (text : List UInt8) : Option ℕ := if text = [] then none else parseHexFrom 0 text

def hexValue (text : List UInt8) : ℕ :=
  text.foldl (fun value c => value * 16 + (hexDigit c).getD 0) 0

theorem hexDigit_lt {c : UInt8} {digit : ℕ} (h : hexDigit c = some digit) : digit < 16 := by
  unfold hexDigit at h
  simp only [UInt8.le_iff_toNat_le] at h
  split_ifs at h with h0 h1 h2
  · obtain rfl := Option.some.inj h
    have := h0.2
    simp at this
    omega
  · obtain rfl := Option.some.inj h
    have := h1.2
    simp at this
    omega
  · obtain rfl := Option.some.inj h
    have := h2.2
    simp at this
    omega

theorem le_foldl_hex (value : ℕ) (text : List UInt8) :
    value ≤ text.foldl (fun value c => value * 16 + (hexDigit c).getD 0) value := by
  induction text generalizing value with
  | nil => exact Nat.le_refl _
  | cons c text ih =>
    refine Nat.le_trans ?_ (ih _)
    dsimp only
    omega

theorem parseHexFrom_eq_some {parsed value : ℕ} {text : List UInt8}
    (hparsed : parsed ≤ uintptrMax) :
    parseHexFrom parsed text = some value ↔ (∀ c ∈ text, (hexDigit c).isSome) ∧
      text.foldl (fun value c => value * 16 + (hexDigit c).getD 0) parsed = value ∧
      value ≤ uintptrMax := by
  induction text generalizing parsed with
  | nil =>
    simp only [parseHexFrom, Option.some.injEq, List.foldl_nil, List.not_mem_nil, false_implies,
      implies_true, true_and]
    exact ⟨fun h => ⟨h, h ▸ hparsed⟩, fun h => h.1⟩
  | cons c text ih =>
    rw [parseHexFrom, List.foldl_cons, List.forall_mem_cons]
    cases hdigit : hexDigit c with
    | none => simp
    | some digit =>
      have hlt := hexDigit_lt hdigit
      dsimp only
      by_cases hover : parsed > (uintptrMax - digit) / 16
      · rw [if_pos hover]
        refine ⟨nofun, fun ⟨_, hfold, hle⟩ => absurd hle ?_⟩
        have hmono := le_foldl_hex (parsed * 16 + digit) text
        rw [Option.getD_some] at hfold
        rw [hfold] at hmono
        unfold uintptrMax at hover ⊢
        omega
      · rw [if_neg hover, ih (by unfold uintptrMax at hover ⊢; omega)]
        simp

def IsHex (text : List UInt8) (value : ℕ) : Prop :=
  text ≠ [] ∧ (∀ c ∈ text, (hexDigit c).isSome) ∧ hexValue text = value ∧ value ≤ uintptrMax

theorem parseHex_eq_some {value : ℕ} {text : List UInt8} :
    parseHex text = some value ↔ IsHex text value := by
  rw [parseHex, IsHex]
  split_ifs with hempty
  · simp [hempty]
  · rw [parseHexFrom_eq_some (Nat.zero_le _)]
    simp [hempty, hexValue]

theorem IsHex.not_mem {c : UInt8} {value : ℕ} {text : List UInt8} (h : IsHex text value)
    (hc : hexDigit c = none) : c ∉ text := by
  intro hmem
  have hdigit := h.2.1 _ hmem
  rw [hc] at hdigit
  exact nomatch hdigit

theorem IsHex.dash_not_mem {value : ℕ} {text : List UInt8} (h : IsHex text value) :
    dash ∉ text :=
  h.not_mem (by decide)

end Hex

section Ranges

structure AddressRange where
  start : UInt64
  size : UInt64
  deriving DecidableEq, Repr

def AddressRange.Covers (range : AddressRange) (address : ℕ) : Prop :=
  range.start.toNat ≤ address ∧ address < range.start.toNat + range.size.toNat

def AddressRange.Fits (range : AddressRange) : Prop :=
  range.start.toNat + range.size.toNat ≤ uintptrMax

instance (range : AddressRange) : Decidable range.Fits := inferInstanceAs (Decidable (_ ≤ _))

def AddressRange.Meets (range : AddressRange) (start stop : ℕ) : Prop :=
  ∃ address, start ≤ address ∧ address < stop ∧ range.Covers address

theorem AddressRange.fits_iff {range : AddressRange} :
    ¬range.start.toNat > uintptrMax - range.size.toNat ↔ range.Fits := by
  have hlt := range.size.toNat_lt
  unfold AddressRange.Fits uintptrMax
  omega

instance (range : AddressRange) (start stop : ℕ) : Decidable (range.Meets start stop) :=
  decidable_of_iff (max start range.start.toNat < min stop (range.start.toNat + range.size.toNat))
    ⟨fun h => ⟨max start range.start.toNat, by omega, by omega, by omega, by omega⟩,
      fun ⟨_, _, _, _, _⟩ => by omega⟩

theorem AddressRange.meets_iff {range : AddressRange} {start stop : ℕ} (h : start < stop) :
    range.Meets start stop ↔ range.size ≠ 0 ∧ start < range.start.toNat + range.size.toNat ∧
      range.start.toNat < stop := by
  have hsize : range.size = 0 ↔ range.size.toNat = 0 := by
    rw [← UInt64.toNat_inj]
    rfl
  rw [ne_eq, hsize]
  unfold AddressRange.Meets AddressRange.Covers
  constructor
  · rintro ⟨address, _, _, _, _⟩
    omega
  · rintro ⟨_, _, _⟩
    exact ⟨max start range.start.toNat, by omega, by omega, by omega, by omega⟩

end Ranges

section Blanks

variable {text field rest : List UInt8} {n : ℕ}

def isSpace (c : UInt8) : Bool := c = 32 ∨ c = 9

def afterField (text : List UInt8) : Option (List UInt8) :=
  let field := text.dropWhile isSpace
  let rest := field.dropWhile (!isSpace ·)
  if rest.length = field.length then none else some rest

def afterFields : ℕ → List UInt8 → Option (List UInt8)
  | 0, text => some text
  | fields + 1, text => (afterField text).bind (afterFields fields)

def StartsBlank (text : List UInt8) : Prop := ∀ c ∈ text.head?, isSpace c = true

def StartsField (text : List UInt8) : Prop := ∀ c ∈ text.head?, isSpace c = false

instance : DecidablePred StartsBlank := fun text =>
  inferInstanceAs (Decidable (∀ c ∈ text.head?, _))

instance : DecidablePred StartsField := fun text =>
  inferInstanceAs (Decidable (∀ c ∈ text.head?, _))

def IsField (text rest : List UInt8) : Prop :=
  ∃ blanks field, text = blanks ++ (field ++ rest) ∧ (∀ c ∈ blanks, isSpace c = true) ∧ field ≠ [] ∧
    (∀ c ∈ field, isSpace c = false) ∧ StartsBlank rest

/-- A text is a number of fields with blanks in front, and a rest. -/
inductive Fields : ℕ → List UInt8 → List UInt8 → Prop
  | zero (text : List UInt8) : Fields 0 text text
  | succ {n : ℕ} {text between rest : List UInt8} :
    IsField text between → Fields n between rest → Fields (n + 1) text rest

theorem IsHex.not_isSpace {value : ℕ} (h : IsHex text value) : ∀ c ∈ text, isSpace c = false := by
  intro c hc
  have hblank : isSpace c = true → c = 32 ∨ c = 9 := by simp [isSpace]
  by_contra hspace
  rcases hblank (by simpa using hspace) with rfl | rfl
  · exact h.not_mem (by decide) hc
  · exact h.not_mem (by decide) hc

theorem takeWhile_field (hfield : ∀ c ∈ field, isSpace c = false) (hrest : StartsBlank rest) :
    (field ++ rest).takeWhile (!isSpace ·) = field ∧
      (field ++ rest).dropWhile (!isSpace ·) = rest := by
  rw [List.takeWhile_append_of_pos (by simpa using hfield),
    List.dropWhile_append_of_pos (by simpa using hfield)]
  cases rest with
  | nil => simp
  | cons c rest =>
    have hc := hrest c rfl
    simp [hc]

theorem dropWhile_blanks {blanks : List UInt8} (hblanks : ∀ c ∈ blanks, isSpace c = true)
    (hrest : StartsField rest) : (blanks ++ rest).dropWhile isSpace = rest := by
  rw [List.dropWhile_append_of_pos hblanks]
  cases rest with
  | nil => rfl
  | cons c rest => rw [List.dropWhile_cons_of_neg (by simpa using hrest c rfl)]

theorem startsBlank_dropWhile (text : List UInt8) : StartsBlank (text.dropWhile (!isSpace ·)) := by
  intro c hc
  have hhead := List.head?_dropWhile_not (!isSpace ·) text
  rw [Option.mem_def.mp hc] at hhead
  simpa using hhead

theorem startsField_dropWhile (text : List UInt8) : StartsField (text.dropWhile isSpace) := by
  intro c hc
  have hhead := List.head?_dropWhile_not isSpace text
  rw [Option.mem_def.mp hc] at hhead
  simpa using hhead

theorem afterField_eq_some : afterField text = some rest ↔ IsField text rest := by
  rw [afterField]
  constructor
  · intro h
    split_ifs at h with hlength
    obtain rfl := Option.some.inj h
    refine ⟨text.takeWhile isSpace, (text.dropWhile isSpace).takeWhile (!isSpace ·), ?_, ?_, ?_, ?_,
      startsBlank_dropWhile _⟩
    · rw [List.takeWhile_append_dropWhile, List.takeWhile_append_dropWhile]
    · exact fun c hc => List.mem_takeWhile_imp hc
    · intro hempty
      have hsplit := @List.takeWhile_append_dropWhile _ (!isSpace ·) (text.dropWhile isSpace)
      rw [hempty, List.nil_append] at hsplit
      exact hlength (congrArg List.length hsplit)
    · intro c hc
      simpa using List.mem_takeWhile_imp hc
  · rintro ⟨blanks, field, rfl, hblanks, hne, hfield, hrest⟩
    have hstarts : StartsField (field ++ rest) := by
      cases field with
      | nil => exact absurd rfl hne
      | cons c field =>
        intro d hd
        obtain rfl : c = d := by simpa using hd
        exact hfield _ List.mem_cons_self
    have hpos := List.length_pos_iff.mpr hne
    rw [dropWhile_blanks hblanks hstarts, (takeWhile_field hfield hrest).2,
      if_neg (by rw [List.length_append]; omega)]

theorem afterFields_eq_some : afterFields n text = some rest ↔ Fields n text rest := by
  induction n generalizing text with
  | zero =>
    rw [afterFields, Option.some.injEq]
    constructor
    · rintro rfl
      exact .zero _
    · rintro ⟨⟩
      rfl
  | succ n ih =>
    rw [afterFields, Option.bind_eq_some_iff]
    constructor
    · rintro ⟨between, hfield, hfields⟩
      exact .succ (afterField_eq_some.mp hfield) (ih.mp hfields)
    · rintro (_ | ⟨hfield, hfields⟩)
      exact ⟨_, afterField_eq_some.mpr hfield, ih.mpr hfields⟩

theorem Fields.exists_append (h : Fields n text rest) : ∃ front, text = front ++ rest := by
  induction h with
  | zero text => exact ⟨[], rfl⟩
  | succ hfield _ ih =>
    obtain ⟨blanks, field, rfl, -⟩ := hfield
    obtain ⟨front, rfl⟩ := ih
    exact ⟨blanks ++ field ++ front, by simp⟩

end Blanks

end HookSelf.ProcText
