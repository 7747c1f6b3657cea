import AspiManager.Bytes.Signed
import AspiManager.Proofs.Octets

/-!
# Words and fields of octet strings

A word or a field that was put into a string is read as it was (`Bytes.word32_eq`,
`Bytes.field_eq`), and the other way round what was read is put back octet by octet
(`Bytes.ofWord32_word32`, `Bytes.toList_field`). A string is the parts that its readers look at, one
after the other (`Bytes.take_part`), so that a record of words and fields is known by its octets
(`Bytes.parse_eq_some_iff`).
-/

namespace AspiManager

namespace Bytes

variable {bs : Bytes} {i n : Nat}

/-! ## Reading what was put -/

theorem word16_eq {w : UInt16} (h0 : bs.octet i = w.toUInt8)
    (h1 : bs.octet (i + 1) = (w / 0x100).toUInt8) : bs.word16 i = w := by
  have := w.toNat_lt
  unfold word16
  rw [h0, h1]
  refine UInt16.toNat_inj.mp ?_
  simp only [UInt16.toNat_ofNat', UInt16.toNat_toUInt8, UInt16.toNat_div, UInt16.toNat_ofNat,
    Nat.reduceMod, Nat.reducePow]
  omega

theorem word32_eq {w : UInt32} (h0 : bs.octet i = w.toUInt8)
    (h1 : bs.octet (i + 1) = (w / 0x100).toUInt8) (h2 : bs.octet (i + 2) = (w / 0x10000).toUInt8)
    (h3 : bs.octet (i + 3) = (w / 0x1000000).toUInt8) : bs.word32 i = w := by
  have := w.toNat_lt
  unfold word32
  rw [h0, h1, h2, h3]
  refine UInt32.toNat_inj.mp ?_
  simp only [UInt32.toNat_ofNat', UInt32.toNat_toUInt8, UInt32.toNat_div, UInt32.toNat_ofNat,
    Nat.reduceMod, Nat.reducePow]
  omega

theorem int32_eq {w : Int32} (h : bs.word32 i = w.toUInt32) : bs.int32 i = w := by
  unfold int32
  rw [h, Int32.toInt32_toUInt32]

/-- A field is read where it was put. -/
theorem field_eq {v : Vector UInt8 n} (front rest : Bytes)
    (h : bs = front ++ v.toList ++ rest) (hi : front.length = i) : bs.field n i = v := by
  subst h hi
  refine Vector.ext fun k hk => ?_
  have hv : k < v.toList.length := by simpa using hk
  unfold field
  rw [Vector.getElem_ofFn]
  dsimp only
  rw [octet_append, List.length_append, if_pos (by omega), octet_append, if_neg (by omega),
    Nat.add_sub_cancel_left, octet_eq_getElem hv, Vector.getElem_toList]

/-! ## Putting back what was read -/

/-- The `n` octets from `i` on, fewer at the end of the string. -/
def part (bs : Bytes) (i n : Nat) : Bytes := (bs.drop i).take n

theorem take_part (bs : Bytes) (i n : Nat) : bs.take i ++ bs.part i n = bs.take (i + n) :=
  List.take_add.symm

theorem length_part (h : i + n ≤ bs.length) : (bs.part i n).length = n := by
  unfold part
  rw [List.length_take, List.length_drop]
  omega

theorem octet_part {k : Nat} (hk : k < n) : (bs.part i n).octet k = bs.octet (i + k) := by
  unfold part
  rw [octet_take, if_pos hk, octet_drop]

/-- A part is known by its octets. -/
theorem eq_part {cs : Bytes} (h : i + n ≤ bs.length) (hl : cs.length = n)
    (hc : ∀ k < n, cs.octet k = bs.octet (i + k)) : cs = bs.part i n := by
  refine ext_octet (hl.trans (length_part h).symm) fun k hk => ?_
  rw [hl] at hk
  rw [hc k hk, octet_part hk]

/-- What stands between other octets is the part there. -/
theorem part_eq {cs : Bytes} (front rest : Bytes) (h : bs = front ++ cs ++ rest)
    (hi : front.length = i) (hn : cs.length = n) : bs.part i n = cs := by
  subst h hi hn
  unfold part
  rw [List.append_assoc, List.drop_left, List.take_left]

/-- Octets that are read one by one. -/
theorem octets_eq_part (n : Nat) (h : i + n ≤ bs.length) :
    (List.range n).map (fun k => bs.octet (i + k)) = bs.part i n := by
  refine eq_part h (by simp) fun k hk => ?_
  simp [octet, hk]

theorem ofWord16_word16 (h : i + 2 ≤ bs.length) : ofWord16 (bs.word16 i) = bs.part i 2 := by
  have h0 := (bs.octet i).toNat_lt
  have h1 := (bs.octet (i + 1)).toNat_lt
  have hw : (bs.word16 i).toNat = (bs.octet i).toNat + 0x100 * (bs.octet (i + 1)).toNat := by
    unfold word16
    rw [UInt16.toNat_ofNat']
    omega
  have hoctets : ofWord16 (bs.word16 i) = [bs.octet i, bs.octet (i + 1)] := by
    unfold ofWord16
    simp only [List.cons.injEq, and_true, ← UInt8.toNat_inj, UInt16.toNat_toUInt8,
      UInt16.toNat_div, UInt16.toNat_ofNat, Nat.reduceMod, Nat.reducePow, hw]
    omega
  rw [hoctets]
  exact octets_eq_part 2 h

theorem ofWord32_word32 (h : i + 4 ≤ bs.length) : ofWord32 (bs.word32 i) = bs.part i 4 := by
  have h0 := (bs.octet i).toNat_lt
  have h1 := (bs.octet (i + 1)).toNat_lt
  have h2 := (bs.octet (i + 2)).toNat_lt
  have h3 := (bs.octet (i + 3)).toNat_lt
  have hw : (bs.word32 i).toNat = (bs.octet i).toNat + 0x100 * (bs.octet (i + 1)).toNat +
      0x10000 * (bs.octet (i + 2)).toNat + 0x1000000 * (bs.octet (i + 3)).toNat := by
    unfold word32
    rw [UInt32.toNat_ofNat']
    omega
  have hoctets : ofWord32 (bs.word32 i) =
      [bs.octet i, bs.octet (i + 1), bs.octet (i + 2), bs.octet (i + 3)] := by
    unfold ofWord32
    simp only [List.cons.injEq, and_true, ← UInt8.toNat_inj, UInt32.toNat_toUInt8,
      UInt32.toNat_div, UInt32.toNat_ofNat, Nat.reduceMod, Nat.reducePow, hw]
    omega
  rw [hoctets]
  exact octets_eq_part 4 h

theorem ofInt32_int32 (h : i + 4 ≤ bs.length) : ofInt32 (bs.int32 i) = bs.part i 4 := by
  unfold ofInt32 int32
  rw [UInt32.toUInt32_toInt32, ofWord32_word32 h]

theorem toList_field (h : i + n ≤ bs.length) : (bs.field n i).toList = bs.part i n := by
  refine eq_part h Vector.length_toList fun k hk => ?_
  rw [octet_eq_getElem (by simpa using hk), Vector.getElem_toList]
  unfold field
  rw [Vector.getElem_ofFn]

/-- What a string does not fill of a field is zero. -/
theorem toList_field_padded (h : bs.length ≤ n) :
    (bs.field n 0).toList = bs ++ zeros (n - bs.length) := by
  have hlen : (bs ++ zeros (n - bs.length)).length = n := by
    rw [List.length_append, length_zeros]
    omega
  refine ext_octet (Vector.length_toList.trans hlen.symm) fun i hi => ?_
  have hfield : octet (bs.field n 0).toList i = bs.octet i := by
    rw [octet_eq_getElem hi, Vector.getElem_toList]
    unfold field
    rw [Vector.getElem_ofFn, Nat.zero_add]
  rw [hfield, octet_append]
  split
  · rfl
  · rename_i hl
    rw [octet_zeros, octet_of_length_le (Nat.not_lt.mp hl)]

/-! ## Records at the front of a string -/

section

variable {α : Type} {encode : α → Bytes} {parse? : Bytes → Option α}

/-- If records of a fixed length are read back from their octets, and whatever is read has the octets
that it was read from, then a string begins with a record exactly if its first octets are those of
the record. -/
theorem parse_eq_some_iff (hl : ∀ a, (encode a).length = n) (hread : ∀ a, parse? (encode a) = some a)
    (hput : ∀ {bs a}, parse? bs = some a → encode a = bs.take n)
    (hroom : ∀ bs, (parse? bs).isSome = true ↔ n ≤ bs.length) {a : α} :
    parse? bs = some a ↔ encode a = bs.take n := by
  constructor
  · exact hput
  · intro he
    have hn : n ≤ bs.length := by
      have := congrArg List.length he
      rw [hl, List.length_take] at this
      omega
    obtain ⟨b, hb⟩ := Option.isSome_iff_exists.mp ((hroom bs).mpr hn)
    -- Both records have the first octets of the string, and these are read in one way only.
    have hba : encode a = encode b := he.trans (hput hb).symm
    have hab := hread a
    rw [hba, hread b] at hab
    rw [hb, hab]

end

end Bytes

end AspiManager
