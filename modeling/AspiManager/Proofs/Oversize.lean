import AspiManager.Proofs.Drafts
import AspiManager.Proofs.Turn

/-!
# Command blocks that are too long

The fixed part of a block has one octet for the length of the command block, and a draft keeps only
the low octet of it. A command block of 256 octets or more is cut to what this octet states, and
what is left of it is executed like any other (`Srb.command_kept_or_rejected_iff`): 262 octets come
out as their first six (`Srb.long_command_executed`).
-/

namespace AspiManager

/-! ## Blocks that nothing executes -/

/-- Whatever runs the block at `srb`, it is rejected as invalid. -/
def Rejected (memory : Memory) (mode : AddressingMode) (srb : FarPtr) : Prop :=
  ∀ {σ : Type} (m : Manager σ) (s : State σ), s.memory = memory →
    ∃ t, (m.send mode srb).exec s = (.ok .invalid, t)

/-- A manager that lists no devices. -/
def Manager.unlisted : Manager Unit := { Manager.constant [] with directory := fun _ => none }

/-- A block is sure to be rejected exactly if its request is unfit. Any other request gets as far as
its device, and fails if there is none. -/
theorem BlockAt.rejected_iff {memory : Memory} {mode : AddressingMode} {srb : FarPtr}
    {e : Srb.Exec} {range : Range} (h : BlockAt memory mode srb e range) :
    Rejected memory mode srb ↔ (e.requestIn memory srb range).Unfit memory mode := by
  constructor
  · intro hr
    by_contra hu
    obtain ⟨w, hw⟩ := Request.exists_fits hu
    obtain ⟨t, hx⟩ := hr Manager.unlisted (State.initial memory) rfl
    obtain ⟨o, u, p, ht, hrun⟩ := Manager.unlisted.perform_turn mode (.send srb)
      (State.initial memory)
    obtain ⟨rfl, rfl, -⟩ := ht.of_unavailable (.send h) hw rfl
    have hfailed := (hrun Manager.unlisted.routine).symm.trans hx
    cases hfailed
  · intro hu σ m s hs
    subst hs
    obtain ⟨o, u, p, ht, hrun⟩ := m.perform_turn mode (.send srb) s
    obtain ⟨rfl, rfl, -⟩ := ht.of_unfit (.send h) hu
    exact ⟨u, hrun m.routine⟩

namespace Srb

/-! ## What a draft makes of a command block -/

/-- The request of a block that was drafted and placed has the command block that was given as far
as the low octet of its length says. -/
theorem placed_block {memory : Memory} {mode : AddressingMode} {srb : FarPtr} {range : Range}
    (adapter target lun : UInt8) (cs : List Setting)
    (hr : memory.resolve mode srb
      ((Draft.start adapter target lun).after cs).header.totalLength = .ok range) :
    let d := (Draft.start adapter target lun).after cs
    BlockAt (memory.put range.base d.build) mode srb d.header range ∧
      (d.header.requestIn (memory.put range.base d.build) srb range).cdb =
        (Terms.of cs).cdb.take ((Terms.of cs).cdb.length % 256) := by
  intro d
  have hd : d = ⟨(Terms.of cs).header adapter target lun, (Terms.of cs).cdb⟩ :=
    Draft.after_eq adapter target lun cs
  have hcdb : d.cdb = (Terms.of cs).cdb := by rw [hd]
  have hlen : d.header.cdbLength.toNat = (Terms.of cs).cdb.length % 256 := by
    rw [hd]
    exact Terms.toNat_cdbLength ..
  have hle : d.header.cdbLength.toNat ≤ d.cdb.length := by
    rw [hlen, hcdb]
    exact Nat.mod_le _ _
  have hstop := Memory.resolve_stop_le hr
  obtain ⟨base, len⟩ := range
  obtain rfl : len = d.header.totalLength := Memory.resolve_len hr
  refine ⟨Draft.blockAt_build hr (by rw [hd]; rfl), ?_⟩
  rw [Draft.requestIn_build_of_le hstop hle, hcdb, hlen]
  rfl

/-- A command block is carried as it was given exactly if it has fewer than 256 octets. A longer one
is cut to its length modulo 256, and the block is then rejected exactly if what is left of the
request is unfit; it is if no octet is left, or more than 16. -/
theorem command_kept_or_rejected_iff {memory : Memory} {mode : AddressingMode} {srb : FarPtr}
    {range : Range} (adapter target lun : UInt8) (cs : List Setting)
    (hr : memory.resolve mode srb
      ((Draft.start adapter target lun).after cs).header.totalLength = .ok range) :
    let given := (Terms.of cs).cdb
    let d := (Draft.start adapter target lun).after cs
    let placed := memory.put range.base d.build
    let r := d.header.requestIn placed srb range
    BlockAt placed mode srb d.header range ∧
      r.cdb = given.take (given.length % 256) ∧
      (r.cdb = given ↔ given.length < 256) ∧
      (Rejected placed mode srb ↔ r.Unfit placed mode) ∧
      (given.length % 256 = 0 ∨ 16 < given.length % 256 → r.Unfit placed mode) ∧
      (r.cdb = given ∨ Rejected placed mode srb ↔
        given.length < 256 ∨ r.Unfit placed mode) := by
  intro given d placed r
  obtain ⟨hb, hcdb⟩ := placed_block adapter target lun cs hr
  have hcdb : r.cdb = given.take (given.length % 256) := hcdb
  have hlen : r.cdb.length = given.length % 256 := by
    rw [hcdb, List.length_take]
    exact Nat.min_eq_left (Nat.mod_le _ _)
  have hkept : r.cdb = given ↔ given.length < 256 := by
    constructor
    · intro h
      rw [h] at hlen
      omega
    · intro h
      rw [hcdb, Nat.mod_eq_of_lt h, List.take_length]
  refine ⟨hb, hcdb, hkept, hb.rejected_iff, fun h => ?_, or_congr hkept hb.rejected_iff⟩
  exact .command (by rw [hlen]; exact h)

/-- Settings for a command block of `n` zeros. -/
def longSettings (n : Nat) : List Setting := [.senseLength 14, .command (Bytes.zeros n)]

/-- Of 300 octets 44 are left, which are still too many. -/
theorem padded_command_rejected :
    let d := (Draft.start 0 2 0).after (longSettings 300)
    (Memory.zeroed 256).resolve .realMode ⟨0, 16⟩ d.header.totalLength = .ok ⟨16, 122⟩ ∧
      Rejected ((Memory.zeroed 256).put 16 d.build) .realMode ⟨0, 16⟩ := by
  intro d
  have hr : (Memory.zeroed 256).resolve .realMode ⟨0, 16⟩ d.header.totalLength = .ok ⟨16, 122⟩ := by
    decide +kernel
  obtain ⟨-, -, -, hrejected, hunfit, -⟩ :=
    command_kept_or_rejected_iff 0 2 0 (longSettings 300) hr
  exact ⟨hr, hrejected.mpr (hunfit (by decide +kernel))⟩

/-- Of 262 octets six are left, and the block is executed with them. -/
theorem long_command_executed :
    let m := Manager.constant (Bytes.zeros 36)
    let d := (Draft.start 0 2 0).after (longSettings 262)
    let s := State.initial ((Memory.zeroed 256).put 16 d.build)
    let r := d.header.requestIn s.memory ⟨0, 16⟩ ⟨16, 84⟩
    (Memory.zeroed 256).resolve .realMode ⟨0, 16⟩ d.header.totalLength = .ok ⟨16, 84⟩ ∧
      BlockAt s.memory .realMode ⟨0, 16⟩ d.header ⟨16, 84⟩ ∧
      16 < (Bytes.zeros 262).length ∧ r.cdb = Bytes.zeros 6 ∧ r.cdb ≠ Bytes.zeros 262 ∧
      ∃ t, (m.send .realMode ⟨0, 16⟩).exec s = (.ok .complete, t) := by
  intro m d s r
  have hr : (Memory.zeroed 256).resolve .realMode ⟨0, 16⟩ d.header.totalLength = .ok ⟨16, 84⟩ := by
    decide +kernel
  obtain ⟨hb, hcdb⟩ := placed_block 0 2 0 (longSettings 262) hr
  have hcdb : r.cdb = Bytes.zeros 6 := hcdb.trans (by decide +kernel)
  have hrun : ((m.send .realMode ⟨0, 16⟩).exec s).1.toOption = some .complete := by
    decide +kernel
  have hne : r.cdb ≠ Bytes.zeros 262 := fun h => by
    have hlen := congrArg List.length (hcdb.symm.trans h)
    rw [Bytes.length_zeros, Bytes.length_zeros] at hlen
    omega
  refine ⟨hr, hb, by rw [Bytes.length_zeros]; decide, hcdb, hne, ?_⟩
  rcases hx : (m.send .realMode ⟨0, 16⟩).exec s with ⟨e | st, t⟩
  · rw [hx] at hrun
    cases hrun
  · rw [hx] at hrun
    cases hrun
    exact ⟨t, rfl⟩

end Srb

end AspiManager
