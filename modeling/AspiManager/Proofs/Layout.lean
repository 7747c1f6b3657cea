import AspiManager.Proofs.SenseArea
import AspiManager.Proofs.Words

/-!
# Octets of request blocks

Blocks that are encoded are read back as they were (`Srb.AdapterInquiry.parse?_encode`,
`Srb.Exec.parse?_encode`). A draft is built from its fixed part, its command block and zeros, each at
its place, so wherever it is put there is a block with the request that it was drafted for
(`Srb.Draft.blockAt_build`, `Srb.Draft.requestIn_build`).
-/

namespace AspiManager

theorem FarPtr.ofRaw_raw (p : FarPtr) : ofRaw p.raw = p := by
  obtain ⟨s, o⟩ := p
  have := s.toNat_lt
  have := o.toNat_lt
  unfold ofRaw raw
  refine congrArg₂ FarPtr.mk (UInt16.toNat_inj.mp ?_) (UInt16.toNat_inj.mp ?_) <;>
    simp only [UInt32.toNat_toUInt16, UInt32.toNat_div, UInt32.toNat_add, UInt32.toNat_mul,
      UInt16.toNat_toUInt32, UInt32.toNat_ofNat, Nat.reduceMod, Nat.reducePow] <;> omega

/-- A part of a string is read where the string was put. -/
theorem Memory.read_part_put {m : Memory} {base k n : Nat} {bs : Bytes}
    (hs : base + bs.length ≤ m.size) (hk : k + n ≤ bs.length) :
    (m.put base bs).read (base + k) n = bs.part k n := by
  rw [← read_drop_take hk, read_put hs (Nat.le_refl _), List.take_length]
  rfl

namespace Srb

/-! ## Blocks that ask for the adapter -/

theorem AdapterInquiry.parse?_encode (q : AdapterInquiry) : parse? q.encode = some q := by
  obtain ⟨hsignature, hbuffer⟩ : Bytes.word16 q.encode 4 = q.signature ∧
      Bytes.word16 q.encode 6 = q.extBufferSize := by
    refine ⟨?_, ?_⟩ <;> refine Bytes.word16_eq ?_ ?_ <;> simp [encode, Bytes.ofWord16, Bytes.octet]
  obtain ⟨front, hfront, hlayout⟩ : ∃ front : Bytes, front.length = 10 ∧ q.encode =
      front ++ q.managerId.toList ++ q.identifier.toList ++ q.unique.toList ++ q.extBuffer.toList :=
    ⟨q.encode.take 10, by simp [length], by simp [encode, Bytes.ofWord16]⟩
  have hmanager : Bytes.field q.encode 16 10 = q.managerId :=
    Bytes.field_eq front (q.identifier.toList ++ q.unique.toList ++ q.extBuffer.toList)
      (by simp [hlayout]) hfront
  have hidentifier : Bytes.field q.encode 16 26 = q.identifier :=
    Bytes.field_eq (front ++ q.managerId.toList) (q.unique.toList ++ q.extBuffer.toList)
      (by simp [hlayout]) (by simp [hfront])
  have hunique : Bytes.field q.encode 16 42 = q.unique :=
    Bytes.field_eq (front ++ q.managerId.toList ++ q.identifier.toList) q.extBuffer.toList
      (by simp [hlayout]) (by simp [hfront])
  have hext : Bytes.field q.encode 4 58 = q.extBuffer :=
    Bytes.field_eq (front ++ q.managerId.toList ++ q.identifier.toList ++ q.unique.toList) []
      (by simp [hlayout]) (by simp [hfront])
  unfold parse?
  rw [if_pos q.length_encode, hsignature, hbuffer, hmanager, hidentifier, hunique, hext]
  simp [encode, Bytes.ofWord16, Bytes.octet]

/-- The octets of a block that was read are the ones it was read from. -/
theorem AdapterInquiry.encode_of_parse? {bs : Bytes} {q : AdapterInquiry}
    (hp : parse? bs = some q) : q.encode = bs := by
  unfold parse? at hp
  split at hp
  · rename_i hl
    have hl : bs.length = 62 := hl
    cases hp
    have hparts : bs = bs.part 0 4 ++ bs.part 4 2 ++ bs.part 6 2 ++ bs.part 8 2 ++
        bs.part 10 16 ++ bs.part 26 16 ++ bs.part 42 16 ++ bs.part 58 4 := by
      have hfront : bs.part 0 4 = bs.take 4 := rfl
      rw [hfront]
      simp only [Bytes.take_part, Nat.reduceAdd]
      exact (List.take_of_length_le (Nat.le_of_eq hl)).symm
    have hheader : [bs.octet 0, bs.octet 1, bs.octet 2, bs.octet 3] = bs.part 0 4 :=
      Bytes.octets_eq_part 4 (by omega)
    have hids : [bs.octet 8, bs.octet 9] = bs.part 8 2 := Bytes.octets_eq_part 2 (by omega)
    unfold encode
    dsimp only
    rw [hheader, hids, Bytes.ofWord16_word16 (by omega), Bytes.ofWord16_word16 (by omega),
      Bytes.toList_field (by omega), Bytes.toList_field (by omega),
      Bytes.toList_field (by omega), Bytes.toList_field (by omega)]
    exact hparts.symm
  · cases hp

/-! ## Blocks that execute a command -/

namespace Exec

@[simp] theorem length_encode (e : Exec) : e.encode.length = fixedLength := by
  simp [encode, fixedLength]

/-- The fixed part is read from the front of a block. -/
theorem parse?_encode (e : Exec) : parse? e.encode = some e := by
  obtain ⟨hreserved, hdataLength, hdataPtr, hlinkPtr, hpostProc⟩ :
      Bytes.word32 e.encode 4 = e.reserved ∧ Bytes.word32 e.encode 10 = e.dataLength ∧
        Bytes.word32 e.encode 15 = e.dataPtr ∧ Bytes.word32 e.encode 19 = e.linkPtr ∧
        Bytes.word32 e.encode 26 = e.postProc := by
    refine ⟨?_, ?_, ?_, ?_, ?_⟩ <;> refine Bytes.word32_eq ?_ ?_ ?_ ?_ <;>
      simp [encode, Bytes.ofWord32, Bytes.octet]
  have hworkspace : Bytes.field e.encode 34 30 = e.workspace :=
    Bytes.field_eq (e.encode.take 30) [] (by simp [encode, Bytes.ofWord32])
      (by simp [fixedLength])
  unfold parse?
  rw [if_neg (by simp), hreserved, hdataLength, hdataPtr, hlinkPtr, hpostProc, hworkspace]
  simp [encode, Bytes.ofWord32, Bytes.octet]

/-- The octets of a fixed part that was read are the ones it was read from. -/
theorem encode_of_parse? {bs : Bytes} {e : Exec} (hp : parse? bs = some e) :
    e.encode = bs.take fixedLength := by
  unfold parse? at hp
  split at hp
  · cases hp
  · rename_i hl
    have hl : 64 ≤ bs.length := Nat.not_lt.mp hl
    cases hp
    have hparts : bs.take fixedLength = bs.part 0 4 ++ bs.part 4 4 ++ bs.part 8 2 ++
        bs.part 10 4 ++ bs.part 14 1 ++ bs.part 15 4 ++ bs.part 19 4 ++ bs.part 23 3 ++
        bs.part 26 4 ++ bs.part 30 34 := by
      have hfront : bs.part 0 4 = bs.take 4 := rfl
      rw [hfront]
      simp only [Bytes.take_part, fixedLength, Nat.reduceAdd]
    have hheader : [bs.octet 0, bs.octet 1, bs.octet 2, bs.octet 3] = bs.part 0 4 :=
      Bytes.octets_eq_part 4 (by omega)
    have hdevice : [bs.octet 8, bs.octet 9] = bs.part 8 2 := Bytes.octets_eq_part 2 (by omega)
    have hsense : [bs.octet 14] = bs.part 14 1 := Bytes.octets_eq_part 1 (by omega)
    have hstatuses : [bs.octet 23, bs.octet 24, bs.octet 25] = bs.part 23 3 :=
      Bytes.octets_eq_part 3 (by omega)
    unfold encode
    dsimp only
    rw [hparts, hheader, hdevice, hsense, hstatuses, Bytes.ofWord32_word32 (by omega),
      Bytes.ofWord32_word32 (by omega), Bytes.ofWord32_word32 (by omega),
      Bytes.ofWord32_word32 (by omega), Bytes.ofWord32_word32 (by omega),
      Bytes.toList_field (by omega)]

theorem parse?_isSome_iff {bs : Bytes} : (parse? bs).isSome = true ↔ fixedLength ≤ bs.length := by
  unfold parse?
  split
  · rename_i h
    simpa using h
  · rename_i h
    simpa using h

/-- A string begins with a fixed part exactly if its first octets are those of the fixed part. -/
theorem parse?_eq_some_iff {bs : Bytes} {e : Exec} :
    parse? bs = some e ↔ e.encode = bs.take fixedLength :=
  Bytes.parse_eq_some_iff length_encode parse?_encode encode_of_parse? fun _ => parse?_isSome_iff

end Exec

/-! ## Drafts -/

namespace Draft

variable {d : Draft} {m : Memory} {mode : AddressingMode} {srb : FarPtr} {base : Nat}

theorem length_build (d : Draft) : d.build.length = d.header.totalLength := Bytes.length_fit _ _

/-- The command block of a draft has the length that the fixed part states. -/
def Stated (d : Draft) : Prop := d.cdb.length = d.header.cdbLength.toNat

/-- Behind the command block is the sense area, which is zero. -/
theorem build_eq (hc : d.Stated) :
    d.build = d.header.encode ++ d.cdb ++ Bytes.zeros d.header.senseLength.toNat := by
  have hl : (d.header.encode ++ d.cdb).length + d.header.senseLength.toNat =
      d.header.totalLength := by
    rw [List.length_append, Exec.length_encode, hc, Exec.totalLength]
  unfold build Bytes.fit
  rw [List.take_of_length_le (by omega), ← hl, Nat.add_sub_cancel_left]

theorem take_build (d : Draft) : d.build.take Exec.fixedLength = d.header.encode := by
  have hl := d.header.fixedLength_le
  unfold build Bytes.fit
  rw [List.take_append_of_le_length (by simp; omega), List.take_take, Nat.min_eq_left hl,
    ← d.header.length_encode, List.take_left]

/-- What is read from a draft where it was put. -/
theorem read_build (hm : base + d.header.totalLength ≤ m.size) {k n : Nat}
    (hk : k + n ≤ d.header.totalLength) :
    (m.put base d.build).read (base + k) n = (d.build.drop k).take n := by
  rw [← d.length_build] at hm hk
  exact Memory.read_part_put hm hk

/-- The fixed part is read back from a draft. -/
theorem parse?_build (d : Draft) : Exec.parse? d.build = some d.header :=
  Exec.parse?_eq_some_iff.mpr d.take_build.symm

/-- What a draft has as its command block: as much of the one that it was given as the fixed part
states. -/
theorem cdb_build (hc : d.header.cdbLength.toNat ≤ d.cdb.length) :
    (d.build.drop Exec.fixedLength).take d.header.cdbLength.toNat =
      d.cdb.take d.header.cdbLength.toNat := by
  have hl := d.header.length_encode
  have ht : d.header.totalLength =
      Exec.fixedLength + d.header.cdbLength.toNat + d.header.senseLength.toNat := rfl
  refine Bytes.ext_octet ?_ fun i hi => ?_
  · rw [List.length_take, List.length_drop, d.length_build, List.length_take]
    omega
  · rw [List.length_take] at hi
    unfold build
    rw [Bytes.octet_take, if_pos (by omega), Bytes.octet_drop, Bytes.octet_fit, if_pos (by omega),
      Bytes.octet_append, if_neg (by omega), Bytes.octet_take, if_pos (by omega), hl,
      Nat.add_sub_cancel_left]

/-- Where a draft is put that asks to execute a command, there is a block. -/
theorem blockAt_build (hr : m.resolve mode srb d.header.totalLength =
      .ok ⟨base, d.header.totalLength⟩)
    (hc : d.header.command = Command.execute.toByte) :
    BlockAt (m.put base d.build) mode srb d.header ⟨base, d.header.totalLength⟩ :=
  .of_draft rfl hr (by rw [d.take_build, d.header.parse?_encode]) hc

/-- Its request has the command block of the draft, as far as the fixed part states. -/
theorem requestIn_build_of_le (hm : base + d.header.totalLength ≤ m.size)
    (hc : d.header.cdbLength.toNat ≤ d.cdb.length) (srb : FarPtr) :
    d.header.requestIn (m.put base d.build) srb ⟨base, d.header.totalLength⟩ =
      d.header.toRequest srb (d.cdb.take d.header.cdbLength.toNat) := by
  unfold Exec.requestIn
  rw [read_build hm (by unfold Exec.totalLength; omega), cdb_build hc]

theorem requestIn_build (hm : base + d.header.totalLength ≤ m.size) (hc : d.Stated)
    (srb : FarPtr) :
    d.header.requestIn (m.put base d.build) srb ⟨base, d.header.totalLength⟩ =
      d.header.toRequest srb d.cdb := by
  rw [requestIn_build_of_le hm (Nat.le_of_eq hc.symm), ← hc, List.take_length]

/-- Its sense area is zero. -/
theorem read_sense_build (hm : base + d.header.totalLength ≤ m.size) (hc : d.Stated) :
    (m.put base d.build).read (base + (Exec.fixedLength + d.cdb.length))
        d.header.senseLength.toNat = Bytes.zeros d.header.senseLength.toNat := by
  have hl : (d.header.encode ++ d.cdb).length = Exec.fixedLength + d.cdb.length := by simp
  rw [read_build hm (Nat.le_of_eq (by rw [hc]; rfl)), build_eq hc, ← hl, List.drop_left]
  exact List.take_of_length_le (Nat.le_of_eq (Bytes.length_zeros _))

end Draft

end Srb

end AspiManager
