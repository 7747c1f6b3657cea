import AspiManager.Proofs.Layout
import AspiManager.Proofs.Reporting

/-!
# Blocks that ask for the adapter

A block that asks for the adapter is read whole and written back whole, with some of its fields
filled in. Any octets of its length are such a block, so that a caller may have put anything into it.

* `Srb.AdapterInquiry.toList_nameField`: the field of a name, whatever the name is.
* `Srb.AdapterInquiry.showsAdapter_put`: each field is where it belongs, and no other octet of the
  memory is changed.
* `Manager.exists_answer`: the call, as what it makes of the block that is there.

`Manager.adapter_shown` puts them together, and says that a second call changes nothing.
-/

namespace AspiManager

namespace Srb.AdapterInquiry

/-! ## Fields -/

/-- The octets of a name in its field: the first fifteen, and zeros behind them. -/
def nameOctets (name : String) : Bytes :=
  name.toUTF8.toList.take 15 ++ Bytes.zeros (16 - min 15 name.toUTF8.toList.length)

theorem length_nameOctets (name : String) : (nameOctets name).length = 16 := by
  unfold nameOctets
  rw [List.length_append, List.length_take, Bytes.length_zeros]
  omega

/-- A name never fills the last octet of its field. -/
theorem octet_nameOctets_last (name : String) : (nameOctets name).octet 15 = 0 := by
  unfold nameOctets
  rw [Bytes.octet_append, if_neg (by rw [List.length_take]; omega), Bytes.octet_zeros]

theorem toList_nameField (name : String) : (nameField name).toList = nameOctets name := by
  have hlen : (name.toUTF8.toList.take 15).length = min 15 name.toUTF8.toList.length :=
    List.length_take
  unfold nameField nameOctets
  rw [Bytes.toList_field_padded (by omega), hlen]

/-- The octets of a transfer length in its field, where they are the second four. -/
def lengthOctets (w : UInt32) : Bytes := Bytes.zeros 4 ++ Bytes.ofWord32 w ++ Bytes.zeros 8

theorem toList_lengthField (w : UInt32) :
    (Bytes.field (Bytes.zeros 4 ++ Bytes.ofWord32 w) 16 0).toList = lengthOctets w := by
  have hlen : (Bytes.zeros 4 ++ Bytes.ofWord32 w).length = 8 := rfl
  rw [Bytes.toList_field_padded (by omega), hlen, lengthOctets]

/-! ## The octets of an answer -/

variable {m : Memory} {base : Nat} (q : AdapterInquiry) (a : Adapter)

/-- What precedes the names in an answer. -/
def answerFront : Bytes :=
  [q.command, Status.complete.toByte, q.adapter, q.flags] ++ Bytes.ofWord16 q.signature ++
    Bytes.ofWord16 a.extBufferSize ++ [adapters, a.scsiId]

theorem length_answerFront : (answerFront q a).length = 10 := rfl

theorem encode_answer : (q.answer a).encode = answerFront q a ++ nameOctets a.managerId ++
    nameOctets a.identifier ++ lengthOctets a.maxTransferLength ++ q.extBuffer.toList := by
  rw [← toList_nameField, ← toList_nameField, ← toList_lengthField]
  rfl

theorem octet_answer_adapters : Bytes.octet (q.answer a).encode 8 = 1 := rfl

theorem octet_answer_scsiId : Bytes.octet (q.answer a).encode 9 = a.scsiId := rfl

theorem part_extBufferSize :
    Bytes.part (q.answer a).encode 6 2 = Bytes.ofWord16 a.extBufferSize := rfl

theorem part_managerId : Bytes.part (q.answer a).encode 10 16 = nameOctets a.managerId := by
  rw [encode_answer, List.append_assoc, List.append_assoc]
  exact Bytes.part_eq _ _ rfl (length_answerFront q a) (length_nameOctets _)

theorem part_identifier : Bytes.part (q.answer a).encode 26 16 = nameOctets a.identifier := by
  rw [encode_answer, List.append_assoc]
  refine Bytes.part_eq _ _ rfl ?_ (length_nameOctets _)
  rw [List.length_append, length_answerFront, length_nameOctets]

theorem part_unique :
    Bytes.part (q.answer a).encode 42 16 = lengthOctets a.maxTransferLength := by
  rw [encode_answer]
  refine Bytes.part_eq _ _ rfl ?_ rfl
  rw [List.length_append, List.length_append, length_answerFront, length_nameOctets,
    length_nameOctets]

/-- The fields that are not filled in are kept. -/
theorem octet_answer_of_not {i : Nat} (hi : i ≠ 1) (h : i < 6 ∨ 58 ≤ i) :
    Bytes.octet (q.answer a).encode i = Bytes.octet q.encode i := by
  rcases h with h | h
  · -- In front of the filled ones are four fields of one octet and the signature.
    have hcases : i = 0 ∨ i = 2 ∨ i = 3 ∨ i = 4 ∨ i = 5 := by omega
    rcases hcases with rfl | rfl | rfl | rfl | rfl <;> rfl
  · -- What follows 58 octets is the last field, in both blocks.
    have hlast : ∀ q : AdapterInquiry, Bytes.octet q.encode i =
        Bytes.octet q.extBuffer.toList (i - 58) := by
      intro q
      obtain ⟨front, hlen, hq⟩ : ∃ front : Bytes, front.length = 58 ∧
          q.encode = front ++ q.extBuffer.toList := ⟨_, by simp, rfl⟩
      rw [hq, Bytes.octet_append, hlen, if_neg (Nat.not_lt.mpr h)]
    rw [hlast, hlast]
    rfl

/-! ## The answer in the memory -/

/-- The addresses of the fields that are filled in, in a block at `base`. -/
def Filled (base x : Nat) : Prop := x = base + 1 ∨ base + 6 ≤ x ∧ x < base + 58

/-- What an answer is in the memory: the fields of the block at `base` show the adapter, and all
else is as it was. -/
structure ShowsAdapter (a : Adapter) (base : Nat) (before after : Memory) : Prop where
  status : after.octet (base + 1) = 0x01
  extBufferSize : after.read (base + 6) 2 = Bytes.ofWord16 a.extBufferSize
  adapters : after.octet (base + 8) = 1
  scsiId : after.octet (base + 9) = a.scsiId
  managerId : after.read (base + 10) 16 = nameOctets a.managerId
  identifier : after.read (base + 26) 16 = nameOctets a.identifier
  unique : after.read (base + 42) 16 = lengthOctets a.maxTransferLength
  /-- Both names end inside their fields. -/
  closed : after.octet (base + 25) = 0 ∧ after.octet (base + 41) = 0
  size : after.size = before.size
  table : after.table = before.table
  others : ∀ x, ¬ Filled base x → after.octet x = before.octet x

theorem octet_command {q : AdapterInquiry} (h : m.read base length = q.encode) :
    m.octet base = q.command := by
  have h0 := congrArg (Bytes.octet · 0) h
  rw [Memory.octet_read, if_pos (by decide)] at h0
  exact h0

/-- A name in the memory ends inside its field. -/
theorem octet_last {name : String} (h : m.read base 16 = nameOctets name) :
    m.octet (base + 15) = 0 := by
  have hread := m.octet_read base 16 15
  rw [h, octet_nameOctets_last, if_pos (by omega)] at hread
  exact hread.symm

/-- An answer that is put where its block was shows the adapter there. -/
theorem showsAdapter_put {q : AdapterInquiry} (hs : base + length ≤ m.size)
    (hq : m.read base length = q.encode) (a : Adapter) :
    ShowsAdapter a base m (m.put base (q.answer a).encode) := by
  have hlen : (q.answer a).encode.length = 62 := length_encode _
  unfold length at hs hq
  have hpart : ∀ k n, k + n ≤ 62 → (m.put base (q.answer a).encode).read (base + k) n =
      Bytes.part (q.answer a).encode k n := fun k n hk =>
    Memory.read_part_put (hlen.symm ▸ hs) (hlen.symm ▸ hk)
  have hoctet : ∀ i < 62, (m.put base (q.answer a).encode).octet (base + i) =
      Bytes.octet (q.answer a).encode i := by
    intro i hi
    rw [Memory.octet_put, if_pos (by omega), Nat.add_sub_cancel_left]
  have hmanager := (hpart 10 16 (by omega)).trans (part_managerId q a)
  have hidentifier := (hpart 26 16 (by omega)).trans (part_identifier q a)
  refine ⟨?_, ?_, ?_, ?_, hmanager, hidentifier, ?_,
    ⟨octet_last hmanager, octet_last hidentifier⟩, Memory.size_put .., Memory.table_put ..,
    fun x hx => ?_⟩
  · exact (hoctet 1 (by omega)).trans (q.octet_answer a)
  · rw [hpart 6 2 (by omega), part_extBufferSize]
  · rw [hoctet 8 (by omega), octet_answer_adapters]
  · rw [hoctet 9 (by omega), octet_answer_scsiId]
  · rw [hpart 42 16 (by omega), part_unique]
  unfold Filled at hx
  by_cases hin : base ≤ x ∧ x < base + 62
  · obtain ⟨i, rfl⟩ := Nat.exists_eq_add_of_le hin.1
    have hbefore : m.octet (base + i) = Bytes.octet q.encode i := by
      rw [← hq, Memory.octet_read, if_pos (by omega)]
    rw [hoctet i (by omega), octet_answer_of_not q a (by omega) (by omega), hbefore]
  · rw [Memory.octet_put, if_neg (by omega)]

end Srb.AdapterInquiry

open Srb (AdapterInquiry)

namespace Manager

variable {σ : Type} {mode : AddressingMode} {srb : FarPtr} {s : State σ}

/-! ## The call -/

/-- Whatever is in a block that asks for the adapter, it is answered, and the answer can be read back
where the block was. -/
theorem exists_answer (m : Manager σ) {range : Range}
    (hr : s.memory.resolve mode srb AdapterInquiry.length = .ok range)
    (hc : s.memory.octet range.base = Srb.Command.adapterInquiry.toByte) :
    ∃ (q : AdapterInquiry) (es : Array Log.Event),
      s.memory.read range.base AdapterInquiry.length = q.encode ∧
      (m.send mode srb).exec s = (.ok .complete,
        { s with memory := s.memory.put range.base (q.answer m.adapter).encode, events := es }) ∧
      (s.memory.put range.base (q.answer m.adapter).encode).read range.base AdapterInquiry.length =
        (q.answer m.adapter).encode := by
  obtain ⟨q, hq, hx⟩ := m.send_exec_answered hr hc
  obtain ⟨base, len⟩ := range
  obtain rfl : len = AdapterInquiry.length := Memory.resolve_len hr
  have hs : base + AdapterInquiry.length ≤ s.memory.size := Memory.resolve_stop_le hr
  have hlen := (q.answer m.adapter).length_encode
  refine ⟨q, _, (AdapterInquiry.encode_of_parse? hq).symm, hx m.routine, ?_⟩
  exact (Memory.read_put hs (Nat.le_of_eq hlen.symm)).trans
    (List.take_of_length_le (Nat.le_of_eq hlen))

/-- A block that asks for the adapter is answered where it is. -/
theorem send_adapterInquiry (m : Manager σ) {base : Nat} {q : AdapterInquiry}
    (hr : s.memory.resolve mode srb AdapterInquiry.length = .ok ⟨base, AdapterInquiry.length⟩)
    (hq : s.memory.read base AdapterInquiry.length = q.encode)
    (hc : q.command = Srb.Command.adapterInquiry.toByte) :
    (m.send mode srb).exec s = (.ok .complete, { s with
      memory := s.memory.put base (q.answer m.adapter).encode
      events := s.events ++ answerEvents q }) := by
  obtain ⟨q', hq', hx⟩ :=
    m.send_exec_answered hr ((AdapterInquiry.octet_command hq).trans hc)
  rw [hq, q.parse?_encode] at hq'
  cases hq'
  exact hx m.routine

/-- Whatever the adapter is called and whatever the caller has put into its block, a block that asks
for the adapter and can be reached shows the adapter after the call. The call changes nothing else
but the log, and a second one changes the log only. -/
theorem adapter_shown (m : Manager σ) {range : Range}
    (hr : s.memory.resolve mode srb 62 = .ok range) (hc : s.memory.octet range.base = 0x00) :
    ∃ memory es es',
      (m.send mode srb).exec s = (.ok .complete, { s with memory := memory, events := es }) ∧
      AdapterInquiry.ShowsAdapter m.adapter range.base s.memory memory ∧
      (m.send mode srb).exec { s with memory := memory, events := es } =
        (.ok .complete, { s with memory := memory, events := es' }) := by
  obtain ⟨q, es, hq, hx, hread⟩ := m.exists_answer hr hc
  have hcommand : q.command = Srb.Command.adapterInquiry.toByte :=
    (AdapterInquiry.octet_command hq).symm.trans hc
  obtain ⟨base, len⟩ := range
  obtain rfl : len = 62 := Memory.resolve_len hr
  let answered : State σ :=
    { s with memory := s.memory.put base (q.answer m.adapter).encode, events := es }
  have hr' : answered.memory.resolve mode srb 62 = .ok ⟨base, 62⟩ := by
    rw [← hr]
    exact Memory.resolve_congr (Memory.size_put ..) (Memory.table_put ..) mode srb 62
  have hx' := m.send_adapterInquiry (s := answered) hr' hread hcommand
  -- An answer is its own answer, so what is put is what is there.
  have hput : answered.memory.put base ((q.answer m.adapter).answer m.adapter).encode =
      answered.memory := by
    have hsame := Memory.put_read answered.memory base AdapterInquiry.length
    rw [hread] at hsame
    exact hsame
  refine ⟨answered.memory, es, es ++ answerEvents (q.answer m.adapter), hx,
    AdapterInquiry.showsAdapter_put (Memory.resolve_stop_le hr) hq m.adapter, ?_⟩
  rw [hput] at hx'
  exact hx'

/-- A name of 17 octets behind a selector: its fifteenth octet is shown, and the second half of the
character that begins there is not. -/
theorem long_name_shown :
    let m := { Manager.constant [] with adapter := { managerId := "host adapter n°1" } }
    let block := (Memory.zeroed 256).put 16 [0x00, 0xFF, 0x00, 0x00, 0xAA, 0x55]
    let s := State.initial { block with table := ⟨#[some ⟨16, 61⟩]⟩ }
    s.memory.resolve .protectedMode ⟨0x000F, 0⟩ 62 = .ok ⟨16, 62⟩ ∧ s.memory.octet 16 = 0x00 ∧
      ∃ t, (m.send .protectedMode ⟨0x000F, 0⟩).exec s = (.ok .complete, t) ∧
        t.memory.read 26 16 = [0x68, 0x6F, 0x73, 0x74, 0x20, 0x61, 0x64, 0x61, 0x70, 0x74, 0x65,
          0x72, 0x20, 0x6E, 0xC2, 0x00] := by
  intro m block s
  have hr : s.memory.resolve .protectedMode ⟨0x000F, 0⟩ 62 = .ok ⟨16, 62⟩ := rfl
  have hc : s.memory.octet 16 = 0x00 := by decide +kernel
  obtain ⟨memory, es, -, hx, hshows, -⟩ := m.adapter_shown hr hc
  refine ⟨hr, hc, _, hx, hshows.managerId.trans ?_⟩
  decide +kernel

end Manager

end AspiManager
