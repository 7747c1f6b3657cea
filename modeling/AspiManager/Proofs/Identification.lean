import AspiManager.Bytes.Hex
import AspiManager.Proofs.Spelling
import AspiManager.Proofs.Words
import AspiManager.Scsi.Inquiry
import Mathlib.Data.List.DropRight

/-!
# What standard data says

The texts that are shown of a device's answer, octet by octet and without a reader: the octets of a
name between those that pad it (`Scsi.Inquiry.Named`), the name of a device type by its number
(`Scsi.Inquiry.typeNamed`), and the hexadecimal digits of octets (`Hex.Spells`). The readers come
to these texts and to no others.

* `Scsi.Inquiry.name_eq_iff`: the text of a name field.
* `Scsi.Inquiry.typeText_eq`: the name of a device type.
* `Hex.encode_eq_iff`, `Hex.padded_two_eq_iff`: the digits of an octet string, and of one octet.
-/

namespace AspiManager

/-! ## Blanks at the ends -/

namespace Blank

variable {cs : List Char}

theorem trim_of_only (h : Only cs) : trim cs = [] := by
  have hfront : dropFront cs = [] := List.dropWhile_eq_nil_iff.mpr h
  rw [trim, hfront]
  rfl

/-- What is left between the blanks has none at its ends. -/
theorem trimmed_trim (h : trim cs ≠ []) : Trimmed (trim cs) := by
  have hprefix : trim cs <+: dropFront cs := List.rdropWhile_prefix isBlank (dropFront cs)
  have hfront : dropFront cs ≠ [] := fun hnil => h (List.prefix_nil.mp (hnil ▸ hprefix))
  constructor
  · refine ⟨(dropFront cs).head hfront, ?_, List.head_dropWhile_not isBlank hfront⟩
    rw [List.head?_eq_some_head h, hprefix.head h]
  · refine ⟨(trim cs).getLast h, List.getLast?_eq_some_getLast h, ?_⟩
    exact Bool.eq_false_iff.mpr (List.rdropWhile_last_not isBlank (dropFront cs) h)

end Blank

/-! ## Names -/

namespace Scsi

namespace Inquiry

/-- An octet that pads a name: it is shown as a space, or as another blank of ASCII. -/
def Pads (b : UInt8) : Prop :=
  b.toNat = 0 ∨ 9 ≤ b.toNat ∧ b.toNat ≤ 13 ∨ b.toNat = 32 ∨ 128 ≤ b.toNat

/-- The code of the character that is shown for an octet of a name: its own, or that of a space. -/
def shownCode (b : UInt8) : Nat := if 0 < b.toNat ∧ b.toNat < 128 then b.toNat else 32

/-- The text of a name field: what is shown of the octets between those that pad it. -/
inductive Named : Bytes → String → Prop
  | mk {front middle back : Bytes} {text : String} (hfront : ∀ b ∈ front, Pads b)
    (hback : ∀ b ∈ back, Pads b) (hfirst : ∀ b, middle.head? = some b → ¬ Pads b)
    (hlast : ∀ b, middle.getLast? = some b → ¬ Pads b)
    (htext : text.toList.map Char.toNat = middle.map shownCode) :
    Named (front ++ middle ++ back) text

/-- The character that is shown for an octet. -/
def shown (b : UInt8) : Char := if b < 0x80 ∧ b ≠ 0 then Char.ofNat b.toNat else ' '

theorem name_eq (bs : Bytes) : name bs = String.ofList (Blank.trim (bs.map shown)) := rfl

theorem toNat_shown (b : UInt8) : (shown b).toNat = shownCode b := by
  have hcond : b < 0x80 ∧ b ≠ 0 ↔ 0 < b.toNat ∧ b.toNat < 128 := by
    simp only [UInt8.lt_iff_toNat_lt, ne_eq, ← UInt8.toNat_inj, UInt8.toNat_ofNat, Nat.reducePow,
      Nat.reduceMod]
    omega
  unfold shown shownCode
  simp only [hcond]
  split
  · rename_i h
    have hvalid : b.toNat.isValidChar := .inl (by omega)
    rw [Char.ofNat, dif_pos hvalid]
    rfl
  · rfl

theorem isBlank_shown_iff {b : UInt8} : Blank.isBlank (shown b) = true ↔ Pads b := by
  have hcode := toNat_shown b
  unfold shownCode at hcode
  unfold Blank.isBlank Pads
  simp only [Blank.ranges, List.any_cons, List.any_nil, Bool.or_eq_true, Bool.and_eq_true,
    decide_eq_true_eq, Bool.or_false, hcode]
  split <;> omega

theorem only_map_shown_iff {bs : Bytes} : Blank.Only (bs.map shown) ↔ ∀ b ∈ bs, Pads b := by
  simp [Blank.Only, isBlank_shown_iff]

theorem map_toNat_eq_iff {cs : List Char} {bs : Bytes} :
    cs.map Char.toNat = bs.map shownCode ↔ cs = bs.map shown := by
  have hmap : bs.map shownCode = (bs.map shown).map Char.toNat := by
    simp [toNat_shown]
  rw [hmap]
  refine ⟨fun h => ?_, fun h => congrArg _ h⟩
  exact List.map_injective_iff.mpr (fun a b hab => Char.toNat_inj.mp hab) h

/-- No octet at either end pads a name exactly if no blank is at either end of what is shown. -/
theorem trimmed_map_shown_iff {middle : Bytes} (hne : middle ≠ []) :
    Blank.Trimmed (middle.map shown) ↔ (∀ b, middle.head? = some b → ¬ Pads b) ∧
      ∀ b, middle.getLast? = some b → ¬ Pads b := by
  have hhead := List.head?_eq_some_head hne
  have hlast := List.getLast?_eq_some_getLast hne
  have hblank : ∀ b, Blank.isBlank (shown b) = false ↔ ¬ Pads b := fun b => by
    rw [← isBlank_shown_iff, Bool.not_eq_true]
  constructor
  · rintro ⟨first, last⟩
    simp_all [List.head?_map, List.getLast?_map]
  · rintro ⟨first, last⟩
    constructor <;> simp_all [List.head?_map, List.getLast?_map]

/-- What is left when the octets that pad a name are taken off. -/
theorem trim_map_shown {front middle back : Bytes} (hfront : ∀ b ∈ front, Pads b)
    (hback : ∀ b ∈ back, Pads b) (hfirst : ∀ b, middle.head? = some b → ¬ Pads b)
    (hlast : ∀ b, middle.getLast? = some b → ¬ Pads b) :
    Blank.trim ((front ++ middle ++ back).map shown) = middle.map shown := by
  by_cases hne : middle = []
  · subst hne
    refine Blank.trim_of_only (only_map_shown_iff.mpr fun b hb => ?_)
    rw [List.append_nil, List.mem_append] at hb
    exact hb.elim (hfront b) (hback b)
  · rw [List.map_append, List.map_append]
    exact Blank.trim_append (only_map_shown_iff.mpr hfront)
      ((trimmed_map_shown_iff hne).mpr ⟨hfirst, hlast⟩) (only_map_shown_iff.mpr hback)

/-- The text of a name field is the one that the field names. -/
theorem name_eq_iff {bs : Bytes} {text : String} : name bs = text ↔ Named bs text := by
  rw [name_eq]
  constructor
  · rintro rfl
    obtain ⟨front, back, hfront, hback, hcs⟩ := Blank.exists_trim (bs.map shown)
    have htrimmed : Blank.trim (bs.map shown) ≠ [] → Blank.Trimmed (Blank.trim (bs.map shown)) :=
      Blank.trimmed_trim
    generalize Blank.trim (bs.map shown) = kept at hcs htrimmed ⊢
    obtain ⟨rest, back, rfl, hrest, rfl⟩ := List.map_eq_append_iff.mp hcs
    obtain ⟨front, middle, rfl, rfl, rfl⟩ := List.map_eq_append_iff.mp hrest
    have hends : (∀ b, middle.head? = some b → ¬ Pads b) ∧
        ∀ b, middle.getLast? = some b → ¬ Pads b := by
      by_cases hne : middle = []
      · simp [hne]
      · exact (trimmed_map_shown_iff hne).mp (htrimmed (by simpa using hne))
    refine ⟨only_map_shown_iff.mp hfront, only_map_shown_iff.mp hback, hends.1, hends.2, ?_⟩
    exact map_toNat_eq_iff.mpr (String.toList_ofList)
  · rintro ⟨hfront, hback, hfirst, hlast, htext⟩
    rw [trim_map_shown hfront hback hfirst hlast, ← map_toNat_eq_iff.mp htext, String.ofList_toList]

/-! ## Device types -/

/-- The name of a device type by its number. -/
def typeNamed (n : Nat) : String :=
  ["Direct-access block (disk)", "Sequential-access (tape)", "Printer", "Processor", "WORM",
    "CD/DVD", "Scanner", "Optical memory", "Medium changer", "Communications"].getD n
    "Unknown/Reserved"

theorem typeText_eq (i : Inquiry) : i.typeText = typeNamed i.deviceType.toNat := by
  have hall : ∀ n < 256, (typeNames.lookup (UInt8.ofNat n)).getD "Unknown/Reserved" =
      typeNamed n := by decide +kernel
  have h := hall i.deviceType.toNat i.deviceType.toNat_lt
  rw [UInt8.ofNat_toNat] at h
  exact h

/-- The type of a device is in the low five bits of an octet. -/
theorem toNat_and_0x1F (b : UInt8) : (b &&& 0x1F).toNat = b.toNat % 32 :=
  (UInt8.toNat_and b 0x1F).trans (Nat.and_two_pow_sub_one_eq_mod b.toNat 5)

end Inquiry

end Scsi

/-! ## Digits -/

namespace Hex

/-- The digit of a number below 16. -/
def digitOf (n : Nat) : Char := "0123456789abcdef".toList.getD n ' '

/-- The text spells octets: two digits for each, that of the upper half first. -/
def Spells (text : String) (bs : Bytes) : Prop :=
  text.toList = bs.flatMap fun b => [digitOf (b.toNat / 16), digitOf (b.toNat % 16)]

variable {bs : Bytes} {b : UInt8} {text : String}

theorem octetDigits_eq (b : UInt8) :
    octetDigits b = [digitOf (b.toNat / 16), digitOf (b.toNat % 16)] := by
  have hdigit : ∀ n < 16, digit n = digitOf n := by decide
  have hb := b.toNat_lt
  unfold octetDigits
  rw [hdigit _ (by omega), hdigit _ (by omega)]

theorem encode_eq_iff : encode bs = text ↔ Spells text bs := by
  unfold encode Spells
  simp only [← octetDigits_eq]
  constructor
  · rintro rfl
    exact String.toList_ofList
  · intro h
    rw [← h, String.ofList_toList]

/-- An octet is filled up to its two digits. -/
theorem padded_two (b : UInt8) : padded 2 b.toNat = encode [b] := by
  have hall : ∀ n < 256, padded 2 n = encode [UInt8.ofNat n] := by decide +kernel
  have h := hall b.toNat b.toNat_lt
  rwa [UInt8.ofNat_toNat] at h

theorem padded_two_eq_iff : padded 2 b.toNat = text ↔ Spells text [b] := by
  rw [padded_two, encode_eq_iff]

end Hex

end AspiManager
