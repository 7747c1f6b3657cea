import AspiManager.Proofs.Block
import AspiManager.Proofs.Windows

/-!
# The sense area of a block

The last octets of a block are its sense area, and the request of the block names them by a far
pointer whose offset is advanced past the command block. The two are the same place exactly if the
offset does not wrap (`sense_window_iff`). In protected mode it never does. In real mode a block that
crosses the end of its segment is found all the same, but its sense window lies 64 KiB lower
(`sense_window_wraps`).
-/

namespace AspiManager

/-- The sense area of a block in `range`: what follows the command block. -/
def Srb.Exec.senseArea (e : Srb.Exec) (range : Range) : Range :=
  ⟨range.base + Srb.Exec.fixedLength + e.cdbLength.toNat, e.senseLength.toNat⟩

namespace BlockAt

variable {m : Memory} {mode : AddressingMode} {srb : FarPtr} {e : Srb.Exec} {range : Range}

/-- How far the sense area is behind the start of its block. -/
theorem toNat_senseOffset (e : Srb.Exec) :
    (64 + e.cdbLength.toUInt16).toNat = 64 + e.cdbLength.toNat := by
  have := e.cdbLength.toNat_lt
  rw [UInt16.toNat_add, UInt8.toNat_toUInt16]
  simp
  omega

theorem toNat_senseLength (e : Srb.Exec) :
    e.senseLength.toUInt32.toNat = e.senseLength.toNat := UInt8.toNat_toUInt32 _

/-- A sense offset that does not wrap names the sense area. -/
theorem resolve_sense (h : BlockAt m mode srb e range)
    (hw : srb.offset.toNat + 64 + e.cdbLength.toNat < 2 ^ 16) :
    m.resolve mode (e.sensePtr srb) e.senseLength.toNat = .ok (e.senseArea range) := by
  have hd := toNat_senseOffset e
  unfold Srb.Exec.sensePtr Srb.Exec.senseArea Srb.Exec.fixedLength
  rw [Memory.resolve_advance h.resolved (by omega) _ (by omega), hd, Nat.add_assoc]
  unfold Srb.Exec.totalLength Srb.Exec.fixedLength
  omega

/-- A sense offset that wraps names a window 64 KiB lower, if it names one. -/
theorem sense_window_wraps (h : BlockAt m .realMode srb e range)
    (hw : 2 ^ 16 ≤ srb.offset.toNat + 64 + e.cdbLength.toNat) {q : Range}
    (hq : m.resolve .realMode (e.sensePtr srb) e.senseLength.toNat = .ok q) :
    q.base + 2 ^ 16 = (e.senseArea range).base := by
  have hd := toNat_senseOffset e
  unfold Srb.Exec.senseArea Srb.Exec.fixedLength
  rw [Memory.resolve_advance_wrap h.resolved (by omega) hq, hd, Nat.add_assoc]

theorem offset_lt_of_protected (h : BlockAt m .protectedMode srb e range)
    (hs : 0 < e.senseLength.toNat) : srb.offset.toNat + 64 + e.cdbLength.toNat < 2 ^ 16 := by
  rw [Nat.add_assoc]
  refine Memory.offset_lt_of_resolve_protected h.resolved ?_
  unfold Srb.Exec.totalLength Srb.Exec.fixedLength
  omega

theorem resolve_sense_iff (h : BlockAt m mode srb e range) (hs : 0 < e.senseLength.toNat) :
    m.resolve mode (e.sensePtr srb) e.senseLength.toNat = .ok (e.senseArea range) ↔
      srb.offset.toNat + 64 + e.cdbLength.toNat < 2 ^ 16 := by
  constructor
  · intro hr
    cases mode with
    | protectedMode => exact h.offset_lt_of_protected hs
    | realMode =>
      refine Nat.lt_of_not_le fun hw => ?_
      have := h.sense_window_wraps hw hr
      omega
  · exact h.resolve_sense

theorem stop_senseArea (h : BlockAt m mode srb e range) : (e.senseArea range).stop = range.stop := by
  unfold Srb.Exec.senseArea Range.stop
  rw [h.len_eq]
  unfold Srb.Exec.totalLength
  dsimp only
  omega

end BlockAt

/-- The sense window of a block's request is the sense area of the block exactly if the offset of
the pointer to it does not wrap, as it never does in protected mode. A window that is not the
sense area lies 64 KiB below it. -/
theorem sense_window_iff {m : Memory} {mode : AddressingMode} {srb : FarPtr} {e : Srb.Exec}
    {range : Range} (h : BlockAt m mode srb e range) (hs : 0 < e.senseLength.toNat) :
    (e.senseArea range).stop = range.stop ∧
      (mode = .protectedMode → srb.offset.toNat + 64 + e.cdbLength.toNat < 2 ^ 16) ∧
      (m.resolve mode (e.requestIn m srb range).sense.ptr
          (e.requestIn m srb range).sense.len.toNat = .ok (e.senseArea range) ↔
        srb.offset.toNat + 64 + e.cdbLength.toNat < 2 ^ 16) ∧
      ∀ w, (e.requestIn m srb range).windows m mode = .ok w → ∃ q, w.sense = some q ∧
        (q = e.senseArea range ↔ srb.offset.toNat + 64 + e.cdbLength.toNat < 2 ^ 16) ∧
        (q ≠ e.senseArea range → q.base + 2 ^ 16 = (e.senseArea range).base) := by
  have hlen : (e.requestIn m srb range).sense.len.toNat = e.senseLength.toNat :=
    BlockAt.toNat_senseLength e
  have hptr : (e.requestIn m srb range).sense.ptr = e.sensePtr srb := rfl
  rw [hlen, hptr]
  refine ⟨h.stop_senseArea, ?_, h.resolve_sense_iff hs, fun w hw => ?_⟩
  · rintro rfl
    exact h.offset_lt_of_protected hs
  have hfit := Request.windows_ok_iff.mp hw
  obtain ⟨q, hq⟩ := hfit.exists_sense (hlen ▸ hs)
  have hr := hfit.resolve_sense hq
  rw [hlen, hptr] at hr
  have hiff : q = e.senseArea range ↔ srb.offset.toNat + 64 + e.cdbLength.toNat < 2 ^ 16 := by
    rw [← h.resolve_sense_iff hs, hr, Except.ok.injEq]
  refine ⟨q, hq, hiff, fun hne => ?_⟩
  have hlt := fun hw => hne (hiff.mpr hw)
  cases mode with
  | protectedMode => exact absurd (h.offset_lt_of_protected hs) hlt
  | realMode => exact h.sense_window_wraps (Nat.le_of_not_lt hlt) hr

/-! ## Blocks that were placed -/

theorem Memory.read_put {m : Memory} {base n : Nat} {bs : Bytes} (hs : base + n ≤ m.size)
    (hn : n ≤ bs.length) : (m.put base bs).read base n = bs.take n := by
  refine Bytes.ext_octet ?_ fun i hi => ?_
  · rw [length_read, List.length_take, size_put]
    omega
  · rw [length_read, size_put] at hi
    rw [octet_read, octet_put, Bytes.octet_take, if_pos (by omega), if_pos (by omega),
      if_pos (by omega), Nat.add_sub_cancel_left]

/-- A draft that is built at a place of its length is a block there. -/
theorem BlockAt.of_draft {m : Memory} {mode : AddressingMode} {srb : FarPtr} {d : Srb.Draft}
    {base n : Nat} (hn : d.header.totalLength = n) (hr : m.resolve mode srb n = .ok ⟨base, n⟩)
    (hp : Srb.Exec.parse? (d.build.take Srb.Exec.fixedLength) = some d.header)
    (hc : d.header.command = Srb.Command.execute.toByte) :
    BlockAt (m.put base d.build) mode srb d.header ⟨base, n⟩ where
  resolved := by rw [hn, ← hr, Memory.resolve_congr (Memory.size_put ..) (Memory.table_put ..)]
  parsed := by
    have hs := Memory.resolve_stop_le hr
    have hl : d.build.length = n := (Bytes.length_fit _ _).trans hn
    have := d.header.fixedLength_le
    unfold Range.stop at hs
    dsimp only at hs ⊢
    rw [Memory.read_put (by omega) (by omega), hp]
  command := hc

/-- A block that asks target 2 whether its unit is ready, with room for 14 octets of sense data. -/
def readyDraft : Srb.Draft := ((Srb.Draft.start 0 2 0).senseLength 14).command (Bytes.zeros 6)

theorem blockAt_readyDraft {m : Memory} {srb : FarPtr} {base : Nat}
    (hr : m.resolve .realMode srb 84 = .ok ⟨base, 84⟩) :
    BlockAt (m.put base readyDraft.build) .realMode srb readyDraft.header ⟨base, 84⟩ :=
  BlockAt.of_draft (by decide) hr (by decide +kernel) rfl

/-- The block at `0000:0010` has its sense window in its sense area. -/
theorem sense_window_low :
    let m := (Memory.zeroed 256).put 16 readyDraft.build
    BlockAt m .realMode ⟨0, 16⟩ readyDraft.header ⟨16, 84⟩ ∧
      0 < readyDraft.header.senseLength.toNat ∧
      m.resolve .realMode (readyDraft.header.requestIn m ⟨0, 16⟩ ⟨16, 84⟩).sense.ptr 14 =
        .ok ⟨86, 14⟩ := by
  have h : BlockAt ((Memory.zeroed 256).put 16 readyDraft.build) .realMode ⟨0, 16⟩
      readyDraft.header ⟨16, 84⟩ := blockAt_readyDraft rfl
  exact ⟨h, by decide, (sense_window_iff h (by decide)).2.2.1.mpr (by decide)⟩

/-- The block at `0001:FFC0` crosses the end of its segment: its sense area is at 65558, and its
sense window at 22. -/
theorem sense_window_crossing :
    let m := (Memory.zeroed 69632).put 65488 readyDraft.build
    BlockAt m .realMode ⟨1, 0xFFC0⟩ readyDraft.header ⟨65488, 84⟩ ∧
      0 < readyDraft.header.senseLength.toNat ∧
      readyDraft.header.senseArea ⟨65488, 84⟩ = ⟨65558, 14⟩ ∧
      m.resolve .realMode (readyDraft.header.requestIn m ⟨1, 0xFFC0⟩ ⟨65488, 84⟩).sense.ptr 14 =
        .ok ⟨22, 14⟩ := by
  refine ⟨blockAt_readyDraft rfl, by decide, rfl, ?_⟩
  rw [Memory.resolve_congr (n := Memory.zeroed 69632) (Memory.size_put ..) (Memory.table_put ..)]
  rfl

end AspiManager
