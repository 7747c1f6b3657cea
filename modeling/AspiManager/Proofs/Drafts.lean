import AspiManager.Proofs.Layout
import Mathlib.Data.List.Induction

/-!
# Drafted blocks

A caller drafts a block by settings in any order, of which a later one replaces the earlier ones of
its kind. `Srb.Terms` is what a sequence of settings comes to, and `Srb.Draft.after_eq` says that
the draft has it in its fields. The fixed part and its octets go both ways
(`Srb.Exec.parse?_eq_some_iff`), so the block of a draft stands for the request that was asked for
(`Srb.drafted_request`).
-/

namespace AspiManager

namespace Srb

/-! ## Settings -/

/-- A setting of a draft. -/
inductive Setting where
  | flags (f : Flags)
  | data (b : Buffer)
  | senseLength (n : UInt8)
  | command (cdb : Bytes)
  | postProc (entry : FarPtr)
  deriving DecidableEq, Repr

namespace Setting

@[simp] def flags? : Setting → Option Flags
  | flags f => some f
  | data _ | senseLength _ | command _ | postProc _ => none

@[simp] def data? : Setting → Option Buffer
  | data b => some b
  | flags _ | senseLength _ | command _ | postProc _ => none

@[simp] def senseLength? : Setting → Option UInt8
  | senseLength n => some n
  | flags _ | data _ | command _ | postProc _ => none

@[simp] def command? : Setting → Option Bytes
  | command cdb => some cdb
  | flags _ | data _ | senseLength _ | postProc _ => none

@[simp] def postProc? : Setting → Option FarPtr
  | postProc entry => some entry
  | flags _ | data _ | senseLength _ | command _ => none

end Setting

/-- What a caller asks for with a sequence of settings. -/
structure Terms where
  flags : Flags
  data : Buffer
  senseLength : UInt8
  cdb : Bytes
  postProc : FarPtr
  deriving DecidableEq, Repr

/-- Of each kind the last value counts; without any there is nothing of the kind. -/
def Terms.of (cs : List Setting) : Terms where
  flags := (cs.filterMap Setting.flags?).getLastD .none
  data := (cs.filterMap Setting.data?).getLastD ⟨.null, 0⟩
  senseLength := (cs.filterMap Setting.senseLength?).getLastD 0
  cdb := (cs.filterMap Setting.command?).getLastD []
  postProc := (cs.filterMap Setting.postProc?).getLastD .null

/-- The fixed part of a block with these terms, for a device. -/
def Terms.header (t : Terms) (adapter target lun : UInt8) : Exec :=
  { command := Command.execute.toByte, adapter := adapter, target := target, lun := lun
    flags := t.flags.bits, dataPtr := t.data.ptr.raw, dataLength := t.data.len
    senseLength := t.senseLength, cdbLength := .ofNat t.cdb.length, postProc := t.postProc.raw }

namespace Draft

/-- A draft with one setting more. -/
def set (d : Draft) : Setting → Draft
  | .flags f => d.flags f
  | .data b => d.data b
  | .senseLength n => d.senseLength n
  | .command cdb => d.command cdb
  | .postProc entry => d.postProc entry

/-- A draft after settings, one after the other. -/
def after (d : Draft) (cs : List Setting) : Draft := cs.foldl set d

theorem after_snoc (d : Draft) (cs : List Setting) (c : Setting) :
    d.after (cs ++ [c]) = (d.after cs).set c := List.foldl_append

/-- What settings come to is what a draft has after them. -/
theorem after_eq (adapter target lun : UInt8) (cs : List Setting) :
    (start adapter target lun).after cs =
      ⟨(Terms.of cs).header adapter target lun, (Terms.of cs).cdb⟩ := by
  -- From the end of the sequence: a setting replaces the last one of its kind and keeps the others.
  induction cs using List.reverseRecOn with
  | nil => rfl
  | append_singleton cs c ih =>
    rw [after_snoc, ih]
    cases c with
    | flags f => simp [set, flags, Terms.header, Terms.of]
    | data b => simp [set, data, Terms.header, Terms.of]
    | senseLength n => simp [set, senseLength, Terms.header, Terms.of]
    | command cdb => simp [set, command, Terms.header, Terms.of]
    | postProc entry => simp [set, postProc, Terms.header, Terms.of]

end Draft

/-! ## The request of a draft -/

namespace Terms

variable {t : Terms} (adapter target lun : UInt8) (srb : FarPtr)

theorem toNat_cdbLength (t : Terms) :
    (t.header adapter target lun).cdbLength.toNat = t.cdb.length % 256 := UInt8.toNat_ofNat'

/-- The sense area is behind the command block, if the fixed part states its length. -/
theorem sensePtr_header (hc : t.cdb.length ≤ 255) :
    (t.header adapter target lun).sensePtr srb =
      ⟨srb.segment, .ofNat ((srb.offset.toNat + 64 + t.cdb.length) % 65536)⟩ := by
  have hlen := t.toNat_cdbLength adapter target lun
  unfold Exec.sensePtr FarPtr.advance
  refine congrArg (FarPtr.mk srb.segment) (UInt16.toNat_inj.mp ?_)
  rw [UInt16.toNat_add, BlockAt.toNat_senseOffset, UInt16.toNat_ofNat', hlen]
  omega

/-- The block with these terms stands for the request that they ask for. -/
theorem toRequest_header (hc : t.cdb.length ≤ 255) (cdb : Bytes) :
    (t.header adapter target lun).toRequest srb cdb =
      { adapter := adapter, target := target, lun := lun, flags := t.flags, cdb := cdb
        data := t.data
        sense := ⟨⟨srb.segment, .ofNat ((srb.offset.toNat + 64 + t.cdb.length) % 65536)⟩,
          t.senseLength.toUInt32⟩
        link := 0, postProc := if t.postProc = .null then none else some t.postProc
        status := .pending, hostStatus := 0, targetStatus := 0 } := by
  have hsense := sensePtr_header adapter target lun srb hc
  have hdata : FarPtr.ofRaw (t.header adapter target lun).dataPtr = t.data.ptr :=
    t.data.ptr.ofRaw_raw
  have hpost : FarPtr.ofRaw (t.header adapter target lun).postProc = t.postProc :=
    t.postProc.ofRaw_raw
  unfold Exec.toRequest
  dsimp only
  simp only [hsense, hdata, hpost, FarPtr.isNull_iff]
  rfl

end Terms

/-- The block of a draft is as long as its parts, its fixed part is read back, and with the octets
that follow this it is the request that was asked for. Any octets that have room for a fixed part
are those of the fixed part that is read from them, and others hold none. -/
theorem drafted_request (adapter target lun : UInt8) (cs : List Setting) (srb : FarPtr)
    (bs : Bytes) (hc : (Terms.of cs).cdb.length ≤ 255) :
    let t := Terms.of cs
    let d := (Draft.start adapter target lun).after cs
    d.build.length = 64 + t.cdb.length + t.senseLength.toNat ∧
      d.header.totalLength = d.build.length ∧
      Exec.parse? d.build = some d.header ∧
      d.header = t.header adapter target lun ∧
      d.header.toRequest srb ((d.build.drop 64).take d.header.cdbLength.toNat) =
        { adapter := adapter, target := target, lun := lun, flags := t.flags, cdb := t.cdb
          data := t.data
          sense := ⟨⟨srb.segment, .ofNat ((srb.offset.toNat + 64 + t.cdb.length) % 65536)⟩,
            t.senseLength.toUInt32⟩
          link := 0, postProc := if t.postProc = .null then none else some t.postProc
          status := .pending, hostStatus := 0, targetStatus := 0 } ∧
      (Exec.parse? bs).map Exec.encode = if 64 ≤ bs.length then some (bs.take 64) else none := by
  intro t d
  have hd : d = ⟨t.header adapter target lun, t.cdb⟩ := Draft.after_eq adapter target lun cs
  have hheader : d.header = t.header adapter target lun := by rw [hd]
  have hcdb : d.cdb = t.cdb := by rw [hd]
  have hlen : d.header.cdbLength.toNat = t.cdb.length := by
    rw [hheader, t.toNat_cdbLength]
    exact Nat.mod_eq_of_lt (Nat.lt_succ_of_le hc)
  refine ⟨?_, d.length_build.symm, d.parse?_build, hheader, ?_, ?_⟩
  · rw [d.length_build, Exec.totalLength, hlen, hheader]
    rfl
  · have htail : (d.build.drop 64).take d.header.cdbLength.toNat = t.cdb := by
      have hbuild := Draft.cdb_build (d := d) (Nat.le_of_eq (by rw [hlen, hcdb]))
      rw [hcdb, hlen, List.take_length] at hbuild
      rw [hlen]
      exact hbuild
    rw [htail, hheader]
    exact Terms.toRequest_header adapter target lun srb hc t.cdb
  · cases hp : Exec.parse? bs with
    | some e =>
      have hl : 64 ≤ bs.length := Exec.parse?_isSome_iff.mp (by rw [hp]; rfl)
      rw [if_pos hl]
      exact congrArg some (Exec.encode_of_parse? hp)
    | none =>
      have hl : ¬ 64 ≤ bs.length := fun hl => by
        have := Exec.parse?_isSome_iff.mpr hl
        rw [hp] at this
        cases this
      rw [if_neg hl]
      rfl

/-- Settings of an INQUIRY, among them two that are replaced. -/
def inquirySettings : List Setting :=
  [.senseLength 18, .command [0], .postProc ⟨0x0800, 0⟩, .command [0x12, 0, 0, 0, 36, 0],
    .data ⟨⟨0x2000, 0x10⟩, 36⟩, .flags ⟨0xE9⟩, .senseLength 14]

/-- The block of an INQUIRY near the end of its segment has its sense area at the front of it. -/
theorem inquiry_drafted :
    let d := (Draft.start 0 2 0).after inquirySettings
    (Terms.of inquirySettings).cdb.length ≤ 255 ∧ d.build.length = 84 ∧
      d.header.toRequest ⟨0x1000, 0xFFC0⟩ ((d.build.drop 64).take d.header.cdbLength.toNat) =
        { target := 2, flags := ⟨0xE9⟩, cdb := [0x12, 0, 0, 0, 36, 0]
          data := ⟨⟨0x2000, 0x10⟩, 36⟩, sense := ⟨⟨0x1000, 6⟩, 14⟩
          postProc := some ⟨0x0800, 0⟩ } := by
  have hc : (Terms.of inquirySettings).cdb.length ≤ 255 := by decide
  have h := drafted_request 0 2 0 inquirySettings ⟨0x1000, 0xFFC0⟩ [] hc
  exact ⟨hc, h.1, h.2.2.2.2.1⟩

end Srb

end AspiManager
