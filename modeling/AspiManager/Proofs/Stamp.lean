import AspiManager.Manager.Execute
import AspiManager.Proofs.Octets
import AspiManager.Proofs.Run

/-!
# Status octets of a block

Three octets of a request block follow the status of its request. `Memory.stamp` is the memory with
these octets; `writeBack_exec` and `settle_exec` say that this is all that happens to the memory
when a status changes.
-/

namespace AspiManager

namespace Memory

variable {m : Memory} {base i : Nat} {bs : Bytes} {b : UInt8}

/-- Octets put back where they were read change nothing. -/
theorem put_read (m : Memory) (base len : Nat) : m.put base (m.read base len) = m := by
  refine ext_octet rfl rfl fun a => ?_
  rw [octet_put, octet_read, length_read]
  split
  · rw [if_pos (by omega)]
    congr 1
    omega
  · rfl

/-- An octet that is set in a string is put after the string. -/
theorem put_set (hi : i < bs.length) :
    m.put base (bs.set i b) = (m.put base bs).put (base + i) [b] := by
  refine ext_octet rfl rfl fun a => ?_
  rw [octet_put, octet_put, octet_put, Bytes.octet_set, List.length_set, size_put]
  by_cases ha : a = base + i
  · subst ha
    by_cases hs : base + i < m.size
    · rw [if_pos (by omega), if_pos (by omega), if_pos ⟨by omega, by simp, hs⟩]
      simp [Bytes.octet]
    · rw [if_neg (by omega), if_neg (by omega), if_neg (by omega)]
  · rw [if_neg (c := base + i ≤ a ∧ a < base + i + [b].length ∧ a < m.size)]
    · split
      · rw [if_neg (by omega)]
      · rfl
    · rw [List.length_singleton]; omega

end Memory

/-- Runs that go on alike with the octets of a range that is inside the memory. -/
theorem Run.slice_bind_congr {σ β : Type} {r : Range} {f g : Bytes → Run σ β} {s : State σ}
    (hs : r.stop ≤ s.memory.size)
    (h : (f (s.memory.read r.base r.len)).exec s = (g (s.memory.read r.base r.len)).exec s) :
    (slice r >>= f).exec s = (slice r >>= g).exec s := by
  rw [exec_bind, exec_bind, exec_slice, Memory.slice_ok hs]
  exact h

/-! ## Stamping -/

/-- The block has a fixed part and lies inside a memory. -/
def Block.Fits (b : Block) (m : Memory) : Prop :=
  Srb.Exec.fixedLength ≤ b.range.len ∧ b.range.stop ≤ m.size

/-- One of the addresses where a block shows the status of its request. -/
def Block.ShowsStatus (b : Block) (a : Nat) : Prop :=
  a = b.range.base + Srb.statusOffset ∨ a = b.range.base + Srb.hostStatusOffset ∨
    a = b.range.base + Srb.targetStatusOffset

instance (b : Block) (a : Nat) : Decidable (b.ShowsStatus a) :=
  inferInstanceAs (Decidable (_ ∨ _ ∨ _))

namespace Memory

/-- The memory with the status octets of a request in its block, if it has one. -/
def stamp (m : Memory) (r : Request) : Option Block → Memory
  | none => m
  | some b =>
    ((m.put (b.range.base + Srb.statusOffset) [r.status.toByte]).put
      (b.range.base + Srb.hostStatusOffset) [r.hostStatus]).put
      (b.range.base + Srb.targetStatusOffset) [r.targetStatus]

variable {m : Memory} {r : Request} {block : Option Block}

@[simp] theorem size_stamp (m : Memory) (r : Request) (block : Option Block) :
    (m.stamp r block).size = m.size := by cases block <;> rfl

@[simp] theorem table_stamp (m : Memory) (r : Request) (block : Option Block) :
    (m.stamp r block).table = m.table := by cases block <;> rfl

theorem octet_put_one (m : Memory) (base : Nat) (b : UInt8) (a : Nat) :
    (m.put base [b]).octet a = if a = base ∧ a < m.size then b else m.octet a := by
  rw [octet_put, List.length_singleton]
  by_cases ha : a = base
  · subst ha
    by_cases hs : a < m.size <;> simp [hs, Bytes.octet]
  · rw [if_neg (by omega), if_neg (by omega)]

theorem octet_stamp {b : Block} (hb : b.Fits m) (r : Request) (a : Nat) :
    (m.stamp r (some b)).octet a =
      if a = b.range.base + Srb.targetStatusOffset then r.targetStatus
      else if a = b.range.base + Srb.hostStatusOffset then r.hostStatus
      else if a = b.range.base + Srb.statusOffset then r.status.toByte
      else m.octet a := by
  obtain ⟨hl, hs⟩ := hb
  have h64 : Srb.Exec.fixedLength = 64 := rfl
  have h1 : Srb.statusOffset = 1 := rfl
  have h24 : Srb.hostStatusOffset = 24 := rfl
  have h25 : Srb.targetStatusOffset = 25 := rfl
  unfold Range.stop at hs
  simp only [stamp, octet_put_one, size_put]
  by_cases ht : a = b.range.base + Srb.targetStatusOffset
  · rw [if_pos (by omega), if_pos ht]
  rw [if_neg (by omega), if_neg ht]
  by_cases hh : a = b.range.base + Srb.hostStatusOffset
  · rw [if_pos (by omega), if_pos hh]
  rw [if_neg (by omega), if_neg hh]
  by_cases hst : a = b.range.base + Srb.statusOffset
  · rw [if_pos (by omega), if_pos hst]
  · rw [if_neg (by omega), if_neg hst]

theorem octet_stamp_of_not (hb : ∀ b, block = some b → b.Fits m) (r : Request) {a : Nat}
    (ha : ∀ b, block = some b → ¬ b.ShowsStatus a) : (m.stamp r block).octet a = m.octet a := by
  cases block with
  | none => rfl
  | some b =>
    have ha := ha b rfl
    unfold Block.ShowsStatus at ha
    rw [octet_stamp (hb b rfl), if_neg (by omega), if_neg (by omega), if_neg (by omega)]

end Memory

theorem Block.Fits.of_size {b : Block} {m n : Memory} (h : b.Fits m) (hs : n.size = m.size) :
    b.Fits n := by
  unfold Block.Fits
  rw [hs]
  exact h

/-- The state with the status octets of a request in its block. -/
def State.stamped {σ : Type} (s : State σ) (r : Request) (block : Option Block) : State σ :=
  { s with memory := s.memory.stamp r block }

/-! ## The runs that stamp -/

namespace Manager

variable {σ : Type} {block : Option Block} {s : State σ}

theorem writeBack_exec (hb : ∀ b, block = some b → b.Fits s.memory) (r : Request) :
    (writeBack r block).exec s = (.ok (), s.stamped r block) := by
  cases block with
  | none => rfl
  | some b =>
    obtain ⟨hl, hs⟩ := hb b rfl
    have hlen := Memory.length_read_of_le hs
    unfold Srb.Exec.fixedLength at hl
    have hm : s.memory.replace b.range
        ((((s.memory.read b.range.base b.range.len).set Srb.statusOffset r.status.toByte).set
          Srb.hostStatusOffset r.hostStatus).set Srb.targetStatusOffset r.targetStatus) =
        .ok (s.memory.stamp r (some b)) := by
      rw [Memory.replace_ok hs (by simpa using hlen), Memory.put_set, Memory.put_set,
        Memory.put_set, Memory.put_read]
      · rfl
      all_goals
        simp only [List.length_set, hlen, Srb.statusOffset, Srb.hostStatusOffset,
          Srb.targetStatusOffset]
        omega
    unfold writeBack
    rw [Run.exec_bind_ok (by rw [Run.exec_slice, Memory.slice_ok hs])]
    rw [if_neg (by rw [hlen]; unfold Srb.Exec.fixedLength; omega), Run.exec_replace, hm]
    rfl

theorem settle_exec (block : Option Block) (hb : ∀ b, block = some b → b.Fits s.memory)
    (r : Request) (st : Status) :
    (settle r block st).exec s = (.ok (r.settle st),
      { s with events := s.events ++ verdictEvents st }.stamped (r.settle st) block) := by
  unfold settle
  rw [Run.exec_bind_ok (Run.exec_reportAll _ s)]
  have hw := writeBack_exec (s := { s with events := s.events ++ verdictEvents st }) hb
    (r.settle st)
  exact Run.exec_bind_ok hw _

end Manager

end AspiManager
