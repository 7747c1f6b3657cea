import AspiManager.Probe.Program
import AspiManager.Proofs.AdapterBlock
import AspiManager.Proofs.Validation
import Mathlib.Data.List.TakeWhile

/-!
# Names of the adapter

The names of an adapter go into fields of sixteen octets, and a caller reads each of them up to the
first zero. A validation sees to it that a name is ASCII and leaves room for that zero, but not that
it holds none itself. So what is read is the name up to its first zero character
(`Srb.nameText_nameField`), which is the name unless it has one (`Srb.beforeZero_eq_iff`).

`Manager.names_read` says this of the block that a caller gets back.
-/

namespace AspiManager

/-! ## Octets of ASCII -/

namespace Bytes

variable {name : String} {ch : Char}

theorem toList_loop_eq (bs : ByteArray) (i : Nat) (read : List UInt8) :
    ByteArray.toList.loop bs i read = read.reverse ++ bs.data.toList.drop i := by
  fun_induction ByteArray.toList.loop bs i read with
  | case1 i read hi ih =>
    have hi : i < bs.data.toList.length := hi
    rw [ih, List.reverse_cons, List.append_assoc, List.drop_eq_getElem_cons hi]
    simp [ByteArray.get!, getElem!_pos bs.data i hi]
  | case2 i read hi =>
    rw [List.drop_eq_nil_of_le (Nat.not_lt.mp hi), List.append_nil]

theorem toList_toByteArray (bs : Bytes) : bs.toByteArray.toList = bs := by
  unfold ByteArray.toList
  rw [toList_loop_eq, List.toList_data_toByteArray]
  rfl

theorem toList_toUTF8_of_ascii (h : ∀ ch ∈ name.toList, ch.toNat < 128) :
    name.toUTF8.toList = name.toList.map Char.toUInt8 := by
  have hflat : name.toUTF8.toList = name.toList.flatMap String.utf8EncodeChar := by
    conv_lhs => rw [← String.ofList_toList (s := name), String.toUTF8_eq_toByteArray]
    exact toList_toByteArray _
  rw [hflat, List.map_eq_flatMap]
  refine List.flatMap_congr fun ch hch => ?_
  exact String.utf8EncodeChar_eq_singleton (Config.utf8Size_of_ascii (h ch hch))

theorem toNat_toUInt8 (h : ch.toNat < 128) : ch.toUInt8.toNat = ch.toNat := by
  have hmod : ch.toUInt8.toNat = ch.toNat % 256 := rfl
  omega

theorem toUInt8_ne_zero_iff (h : ch.toNat < 128) : ch.toUInt8 ≠ 0 ↔ ch ≠ '\x00' := by
  rw [Ne, Ne, ← UInt8.toNat_inj, toNat_toUInt8 h, ← Char.toNat_inj]
  rfl

/-- A text ends at its first zero, in octets as in characters. -/
theorem takeWhile_map_toUInt8 {cs : List Char} (h : ∀ ch ∈ cs, ch.toNat < 128) :
    (cs.map Char.toUInt8).takeWhile (· ≠ 0) = (cs.takeWhile (· ≠ '\x00')).map Char.toUInt8 := by
  induction cs with
  | nil => rfl
  | cons ch cs ih =>
    have hfirst := toUInt8_ne_zero_iff (h ch List.mem_cons_self)
    have hrest := ih fun c hc => h c (List.mem_cons_of_mem ch hc)
    by_cases hz : ch = '\x00'
    · subst hz
      rfl
    · have hone := hfirst.mpr hz
      rw [List.map_cons, List.takeWhile_cons_of_pos, List.takeWhile_cons_of_pos, List.map_cons,
        hrest]
      · exact decide_eq_true hz
      · exact decide_eq_true hone

/-- The character of an octet. -/
theorem char_toUInt8 (h : ch.toNat < 128) :
    (if ch.toUInt8 < 0x80 then Char.ofNat ch.toUInt8.toNat else '\uFFFD') = ch := by
  have hlow : ch.toUInt8 < 0x80 := by
    rw [UInt8.lt_iff_toNat_lt, toNat_toUInt8 h]
    exact h
  rw [if_pos hlow, toNat_toUInt8 h, Char.ofNat_toNat]

/-- What fills up a field does not show. -/
theorem takeWhile_append_zeros (bs : Bytes) (n : Nat) :
    (bs ++ zeros n).takeWhile (· ≠ 0) = bs.takeWhile (· ≠ 0) := by
  have hnil : (zeros n).takeWhile (· ≠ 0) = [] := by
    cases n <;> rfl
  rw [List.takeWhile_append, hnil, List.append_nil]
  split
  · rename_i h
    exact ((List.takeWhile_prefix _).eq_of_length h).symm
  · rfl

end Bytes

/-! ## The text of a field -/

namespace Srb

open Config (IsShortAscii)

variable {name : String}

/-- A name up to its first zero character. -/
def beforeZero (name : String) : String := String.ofList (name.toList.takeWhile (· ≠ '\x00'))

theorem beforeZero_eq_iff : beforeZero name = name ↔ '\x00' ∉ name.toList := by
  have hlist : beforeZero name = name ↔
      name.toList.takeWhile (· ≠ '\x00') = name.toList := by
    rw [← String.toList_inj, beforeZero, String.toList_ofList]
  rw [hlist, List.takeWhile_eq_self_iff]
  constructor
  · intro h hz
    exact absurd rfl (of_decide_eq_true (h _ hz))
  · intro h ch hch
    refine decide_eq_true fun hz => h ?_
    rwa [← hz]

theorem nameText_nameField (h : IsShortAscii name) :
    nameText (AdapterInquiry.nameField name) = beforeZero name := by
  obtain ⟨hascii, hshort⟩ := h
  have hlen : name.toUTF8.toList.length ≤ 15 := by
    rw [Bytes.toList_toUTF8_of_ascii hascii, List.length_map, String.length_toList,
      ← Config.utf8ByteSize_of_ascii hascii]
    exact hshort
  have hfield : (AdapterInquiry.nameField name).toList.takeWhile (· ≠ 0) =
      (name.toList.takeWhile (· ≠ '\x00')).map Char.toUInt8 := by
    rw [AdapterInquiry.toList_nameField, AdapterInquiry.nameOctets, List.take_of_length_le hlen,
      Bytes.takeWhile_append_zeros, Bytes.toList_toUTF8_of_ascii hascii,
      Bytes.takeWhile_map_toUInt8 hascii]
  unfold nameText beforeZero
  rw [hfield, List.map_map]
  refine congrArg String.ofList ((List.map_congr_left fun ch hch => ?_).trans (List.map_id _))
  exact Bytes.char_toUInt8 (hascii ch ((List.takeWhile_prefix _).subset hch))

end Srb

open Srb (AdapterInquiry)

namespace Manager

variable {σ : Type} {mode : AddressingMode} {srb : FarPtr} {s t : State σ} {c c' : Config}

/-- A block that asks for the adapter is completed only if all of it can be reached. -/
theorem resolves_of_complete (m : Manager σ) {header : Range}
    (hr : s.memory.resolve mode srb Srb.Header.length = .ok header)
    (hc : s.memory.octet header.base = Srb.Command.adapterInquiry.toByte)
    (hx : (m.send mode srb).exec s = (.ok .complete, t)) :
    s.memory.resolve mode srb AdapterInquiry.length =
      .ok ⟨header.base, AdapterInquiry.length⟩ := by
  by_cases hreports : ReportsAt s.memory mode srb
  · cases hreports with
    | inquiry hi _ =>
      rw [Memory.resolve_narrow hi (by decide)] at hr
      cases hr
      exact Memory.resolve_narrow hi (Nat.le_refl _)
    | execute he hexecute =>
      rw [Memory.resolve_narrow he (by decide)] at hr
      cases hr
      cases hc.symm.trans hexecute
  · obtain ⟨es, hu⟩ := m.send_exec_unreported hr hreports
    cases (hu m.routine).symm.trans hx

/-- Of a block that asks for the adapter, and that a manager of a configuration that was accepted
completes, a caller reads each name up to its first zero character: it is the name that was
configured unless that has a zero character in it. -/
theorem names_read (m : Manager σ) (hv : c.validate = .ok c') (hm : m.adapter = c'.adapter)
    {header : Range} (hr : s.memory.resolve mode srb Srb.Header.length = .ok header)
    (hc : s.memory.octet header.base = 0x00)
    (hx : (m.send mode srb).exec s = (.ok .complete, t)) :
    ∃ q, AdapterInquiry.parse? (t.memory.read header.base AdapterInquiry.length) = some q ∧
      Srb.nameText q.managerId = Srb.beforeZero c.adapter.managerId ∧
      Srb.nameText q.identifier = Srb.beforeZero c.adapter.identifier ∧
      (Srb.nameText q.managerId = c.adapter.managerId ↔ '\x00' ∉ c.adapter.managerId.toList) ∧
      (Srb.nameText q.identifier = c.adapter.identifier ↔
        '\x00' ∉ c.adapter.identifier.toList) := by
  obtain ⟨hcheck, _, -, rfl⟩ := Config.of_validate hv
  obtain ⟨-, hmanager, hidentifier⟩ := Config.checkAdapter_ok_iff.mp hcheck
  obtain ⟨q, es, -, hanswer, hread⟩ := m.exists_answer (m.resolves_of_complete hr hc hx) hc
  cases hanswer.symm.trans hx
  refine ⟨q.answer m.adapter, ?_, ?_⟩
  · exact (congrArg AdapterInquiry.parse? hread).trans (AdapterInquiry.parse?_encode _)
  have hshown : Srb.nameText (q.answer m.adapter).managerId =
      Srb.beforeZero c.adapter.managerId := by
    rw [← Srb.nameText_nameField hmanager, AdapterInquiry.answer, hm]
  have hshown' : Srb.nameText (q.answer m.adapter).identifier =
      Srb.beforeZero c.adapter.identifier := by
    rw [← Srb.nameText_nameField hidentifier, AdapterInquiry.answer, hm]
  refine ⟨hshown, hshown', ?_, ?_⟩
  · rw [hshown, Srb.beforeZero_eq_iff]
  · rw [hshown', Srb.beforeZero_eq_iff]

/-- The names that are used where none are configured are read back. -/
theorem default_names_read :
    let c : Config := {}
    let m := Probe.manager (.constant []) c
    let s := State.initial (Memory.zeroed 256)
    c.validate = .ok c ∧ m.adapter = c.adapter ∧
      s.memory.resolve .realMode ⟨1, 0⟩ Srb.Header.length = .ok ⟨16, 8⟩ ∧
      s.memory.octet 16 = 0x00 ∧ ∃ t q, (m.send .realMode ⟨1, 0⟩).exec s = (.ok .complete, t) ∧
        AdapterInquiry.parse? (t.memory.read 16 62) = some q ∧
        Srb.nameText q.managerId = "ASPI for Linux" ∧ Srb.nameText q.identifier = "sg host" := by
  intro c m s
  have hv : c.validate = .ok c := by decide +kernel
  have hr : s.memory.resolve .realMode ⟨1, 0⟩ Srb.Header.length = .ok ⟨16, 8⟩ := rfl
  have hi : s.memory.resolve .realMode ⟨1, 0⟩ AdapterInquiry.length = .ok ⟨16, 62⟩ := rfl
  have hc : s.memory.octet 16 = 0x00 := rfl
  obtain ⟨_, _, -, hx, -⟩ := m.exists_answer hi hc
  obtain ⟨q, hq, -, -, hmanager, hidentifier⟩ := m.names_read hv rfl hr hc hx
  exact ⟨hv, rfl, hr, hc, _, q, hx, hq, hmanager.mpr (by decide), hidentifier.mpr (by decide)⟩

/-- A configuration with a zero character in a name is accepted, and what is behind that character is
not read back. -/
theorem zero_in_name_unread :
    ∃ c : Config, Config.ofText "Adapter:\n  ManagerId: \"a\\0b\"\n" = .ok c ∧
      c.adapter.managerId = "a\x00b" ∧
      ∃ t q, ((Probe.manager (.constant []) c).send .realMode ⟨1, 0⟩).exec
          (State.initial (Memory.zeroed 256)) = (.ok .complete, t) ∧
        AdapterInquiry.parse? (t.memory.read 16 62) = some q ∧
        Srb.nameText q.managerId = "a" ∧ Srb.nameText q.managerId ≠ c.adapter.managerId := by
  let c : Config := { adapter := { managerId := "a\x00b" } }
  have hc : Config.ofText "Adapter:\n  ManagerId: \"a\\0b\"\n" = .ok c := by decide +kernel
  have hi : (Memory.zeroed 256).resolve .realMode ⟨1, 0⟩ AdapterInquiry.length =
    .ok ⟨16, 62⟩ := rfl
  obtain ⟨q, es, -, hx, hread⟩ :=
    (Probe.manager (.constant []) c).exists_answer (s := State.initial (Memory.zeroed 256)) hi rfl
  have hshown : Srb.nameText (q.answer c.adapter).managerId = "a" := by
    show Srb.nameText (AdapterInquiry.nameField "a\x00b") = "a"
    decide +kernel
  refine ⟨c, hc, rfl, _, q.answer c.adapter, hx, ?_, hshown, ?_⟩
  · exact (congrArg AdapterInquiry.parse? hread).trans (AdapterInquiry.parse?_encode _)
  · rw [hshown]
    decide

end Manager

end AspiManager
