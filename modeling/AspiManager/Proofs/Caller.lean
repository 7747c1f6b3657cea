import AspiManager.Probe.Inquire
import AspiManager.Proofs.Layout

/-!
# The caller behind a probe

A probe makes its pointers in one of the two modes, and from then on it only matters where they lead
(`Probe.LaidOut`): the request of its block has the same windows in both modes
(`Probe.LaidOut.fits`).
-/

namespace AspiManager

namespace Probe

/-! ## Pointers -/

/-- The pointers of a caller lead to its request block and to its data area. -/
structure LaidOut (mode : AddressingMode) (l : Layout) (m : Memory) : Prop where
  size : m.size = memorySize
  block : ∀ n ≤ segmentLength, m.resolve mode l.block n = .ok ⟨blockBase, n⟩
  data : ∀ n ≤ segmentLength, m.resolve mode l.data n = .ok ⟨dataBase, n⟩
  offset : l.block.offset = 0

theorem LaidOut.of_frame {mode : AddressingMode} {l : Layout} {m n : Memory}
    (h : LaidOut mode l m) (hs : n.size = m.size) (ht : n.table = m.table) : LaidOut mode l n where
  size := hs.trans h.size
  block k hk := (Memory.resolve_congr hs ht mode l.block k).trans (h.block k hk)
  data k hk := (Memory.resolve_congr hs ht mode l.data k).trans (h.data k hk)
  offset := h.offset

/-- The table of a caller in protected mode. -/
def segments : DescriptorTable := ⟨#[some ⟨blockBase, 0xFFF⟩, some ⟨dataBase, 0xFFF⟩]⟩

/-- A caller can always make its pointers. -/
theorem layOut_ok (mode : AddressingMode) :
    ∃ l m, layOut (.zeroed memorySize) mode = .ok (l, m) ∧ LaidOut mode l m := by
  have hsegment : segmentLength = 0x1000 := rfl
  have hsize : memorySize = 0x100000 := rfl
  have hblock : blockBase = 0x10000 := rfl
  have hdata : dataBase = 0x20000 := rfl
  cases mode with
  | realMode =>
    refine ⟨⟨⟨0x1000, 0⟩, ⟨0x2000, 0⟩⟩, .zeroed memorySize, rfl, rfl, fun n hn => ?_,
      fun n hn => ?_, rfl⟩
    · exact Memory.resolve_real_iff.mpr ⟨rfl, show 0x10000 + n ≤ memorySize by omega, rfl⟩
    · exact Memory.resolve_real_iff.mpr ⟨rfl, show 0x20000 + n ≤ memorySize by omega, rfl⟩
  | protectedMode =>
    have h1 : DescriptorTable.empty.alloc blockBase segmentLength =
        some (0x000F, ⟨#[some ⟨blockBase, 0xFFF⟩]⟩) := by decide +kernel
    have h2 : DescriptorTable.alloc ⟨#[some ⟨blockBase, 0xFFF⟩]⟩ dataBase segmentLength =
        some (0x0017, segments) := by decide +kernel
    refine ⟨⟨⟨0x000F, 0⟩, ⟨0x0017, 0⟩⟩, { Memory.zeroed memorySize with table := segments }, ?_,
      rfl, fun n hn => ?_, fun n hn => ?_, rfl⟩
    · simp [layOut, pointer, Memory.allocSelector, Memory.zeroed, h1, h2, bind, Except.bind, pure,
        Except.pure]
    · exact Memory.resolve_protected_iff.mpr ⟨by decide, ⟨blockBase, 0xFFF⟩, by decide,
        fun _ => show 0 + n - 1 ≤ 0xFFF by omega, show 0x10000 + 0 + n ≤ memorySize by omega, rfl⟩
    · exact Memory.resolve_protected_iff.mpr ⟨by decide, ⟨dataBase, 0xFFF⟩, by decide,
        fun _ => show 0 + n - 1 ≤ 0xFFF by omega, show 0x20000 + 0 + n ≤ memorySize by omega, rfl⟩

/-! ## The request -/

/-- The draft of the block that asks for a device. -/
def draft (o : Options) (data : FarPtr) : Srb.Draft :=
  (Srb.Draft.start o.device.adapter o.device.target o.device.lun
    |>.flags (Flags.none.set .input)
    |>.data ⟨data, o.allocation.toUInt32⟩
    |>.senseLength senseLength
    |>.command o.command)

/-- The length of the block that asks for a device. -/
def blockLength : Nat := 84

/-- The request of the block that asks for a device. -/
def request (o : Options) (l : Layout) : Request :=
  (draft o l.data).header.toRequest l.block o.command

/-- The range that the block is in. -/
def blockRange : Range := ⟨blockBase, blockLength⟩

/-- The windows of the request: the answer, and the end of the block. -/
def windows (o : Options) : Windows Range where
  data := if 0 < o.allocation.toNat then some ⟨dataBase, o.allocation.toNat⟩ else none
  sense := some ⟨blockBase + 70, 14⟩

variable {mode : AddressingMode} {o : Options} {l : Layout} {m : Memory}

@[simp] theorem length_command (o : Options) : o.command.length = 6 := by
  unfold Options.command
  cases o.page <;> rfl

theorem stated_draft (o : Options) (data : FarPtr) : (draft o data).Stated := by
  show o.command.length = (UInt8.ofNat o.command.length).toNat
  rw [length_command]
  rfl

theorem totalLength_draft (o : Options) (data : FarPtr) :
    (draft o data).header.totalLength = blockLength := by
  show 64 + (UInt8.ofNat o.command.length).toNat + senseLength.toNat = blockLength
  rw [length_command]
  rfl

theorem request_data (o : Options) (l : Layout) :
    (request o l).data = ⟨l.data, o.allocation.toUInt32⟩ :=
  congrArg (Buffer.mk · o.allocation.toUInt32) l.data.ofRaw_raw

theorem request_direction (o : Options) (l : Layout) : (request o l).direction = .input := by
  show (Flags.none.set .input).direction = .input
  decide

theorem request_key (o : Options) (l : Layout) : (request o l).key = o.device := rfl

theorem postEntry?_request (o : Options) (l : Layout) :
    Manager.postEntry? (request o l) = none := by
  have hp : (request o l).posting = false := by
    show (Flags.none.set .input).has .posting = false
    decide
  unfold Manager.postEntry?
  rw [hp]
  rfl

theorem request_length (o : Options) (l : Layout) :
    (request o l).data.len.toNat = o.allocation.toNat := by
  rw [request_data]
  exact UInt8.toNat_toUInt32 _

theorem request_sense (o : Options) (l : Layout) : (request o l).sense.len.toNat = 14 := by
  show senseLength.toUInt32.toNat = 14
  decide

theorem toNat_cdbLength (o : Options) (data : FarPtr) :
    (draft o data).header.cdbLength.toNat = 6 := by
  rw [← stated_draft o data]
  exact length_command o

theorem senseArea_draft (o : Options) (data : FarPtr) :
    (draft o data).header.senseArea blockRange = ⟨blockBase + 70, 14⟩ := by
  unfold Srb.Exec.senseArea
  rw [toNat_cdbLength]
  rfl

namespace LaidOut

theorem build_le (h : LaidOut mode l m) (o : Options) :
    blockBase + (draft o l.data).header.totalLength ≤ m.size := by
  rw [totalLength_draft, h.size]
  decide

/-- The block of a probe is found. -/
theorem blockAt (h : LaidOut mode l m) (o : Options) :
    BlockAt (m.put blockBase (draft o l.data).build) mode l.block (draft o l.data).header
      blockRange := by
  have hl := totalLength_draft o l.data
  have hr := h.block blockLength (by decide)
  rw [← hl] at hr
  have hb := Srb.Draft.blockAt_build hr rfl
  rw [hl] at hb
  exact hb

theorem requestIn (h : LaidOut mode l m) (o : Options) :
    (draft o l.data).header.requestIn (m.put blockBase (draft o l.data).build) l.block blockRange =
      request o l := by
  have hr := Srb.Draft.requestIn_build (h.build_le o) (stated_draft o l.data) l.block
  rw [totalLength_draft] at hr
  exact hr

/-- The windows of a probe are the same in both modes. -/
theorem fits (h : LaidOut mode l m) (o : Options) :
    (request o l).Fits (m.put blockBase (draft o l.data).build) mode (windows o) := by
  have hput := h.of_frame (Memory.size_put m blockBase (draft o l.data).build)
    (Memory.table_put ..)
  have halloc := o.allocation.toNat_lt
  have hsegment : segmentLength = 0x1000 := rfl
  have hdirection := request_direction o l
  have hlength := request_length o l
  refine ⟨?_, ?_, ?_, ?_⟩
  · show 0 < o.command.length ∧ o.command.length ≤ Request.maxCdbLength
    rw [length_command]
    decide
  · unfold windows
    dsimp only
    split
    · rename_i hpos
      refine .range ⟨.inl hdirection, by rwa [hlength]⟩ ?_
      rw [hlength, request_data]
      exact hput.data _ (by omega)
    · rename_i hpos
      exact .unused fun hn => hpos (hlength ▸ hn.2)
  · have hs := (h.blockAt o).resolve_sense (by
      rw [h.offset, toNat_cdbLength]
      decide)
    rw [senseArea_draft] at hs
    exact .range (by rw [request_sense]; decide) hs
  · rintro d s hd hs ⟨a, ha, ha'⟩
    unfold windows at hd hs
    dsimp only at hd hs
    split at hd
    · cases hd
      cases hs
      unfold Range.Contains Range.stop blockBase dataBase at *
      dsimp only at ha ha'
      omega
    · cases hd

end LaidOut

end Probe

end AspiManager
