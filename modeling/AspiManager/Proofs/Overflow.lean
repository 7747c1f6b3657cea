import AspiManager.Proofs.Clipping
import AspiManager.Proofs.Descriptors
import AspiManager.Proofs.Narrowing
import AspiManager.Proofs.SenseArea

/-!
# Sums that do not fit

Which of the sums and shifts behind an address can leave their words. In real mode none can, and in
protected mode one can: the base of a descriptor and the offset of the pointer
(`Memory.Overshoots`). A descriptor is made for any base, and the limit bounds the offset only.
Without that sum both builds resolve a pointer as with exact numbers; with it a checked build breaks
down, and a release build resolves an address that is `2 ^ 64` too low
(`Machine.sums_fit_iff`). All other sums are bounded by what goes into them: a selector by the
capacity of the table, the end of a range by the size of the memory, and lengths by their fields.
-/

namespace AspiManager

/-- The descriptor of a pointer admits its octets, and starts so high that the address of the first
of them is not a word. -/
def Memory.Overshoots (m : Memory) (mode : AddressingMode) (p : FarPtr) (len : Nat) : Prop :=
  mode = .protectedMode ∧ ∃ d, m.descriptor p.segment = .ok d ∧
    (0 < len → p.offset.toNat + len - 1 ≤ d.limit.toNat) ∧
    Machine.wordLimit ≤ d.base + p.offset.toNat

namespace Machine

variable {m : Memory} {mode : AddressingMode} {p : FarPtr} {x y len : Nat} {b : Build}

/-! ## Single sums -/

theorem add_of_lt (b : Build) (h : x + y < wordLimit) : add b x y = .ok (x + y) := if_pos h

theorem add_checked (h : wordLimit ≤ x + y) : add .checked x y = .error .overflow :=
  if_neg (Nat.not_lt.mpr h)

theorem add_release (h : wordLimit ≤ x + y) : add .release x y = .ok ((x + y) % wordLimit) :=
  if_neg (Nat.not_lt.mpr h)

/-- No bit of a segment is lost when it is moved up. -/
theorem shiftLeft_segment (s : UInt16) : shiftLeft s.toNat 4 = 16 * s.toNat := by
  have := s.toNat_lt
  unfold shiftLeft wordLimit
  rw [Nat.shiftLeft_eq, Nat.mod_eq_of_lt (by omega), Nat.mul_comm]

/-! ## Pointers -/

theorem resolve_real (hs : m.size < wordLimit) (b : Build) (p : FarPtr) (len : Nat) :
    resolve b m .realMode p len = .ok (m.resolve .realMode p len) := by
  have hsegment := p.segment.toNat_lt
  have hoffset := p.offset.toNat_lt
  have hlt : 16 * p.segment.toNat + p.offset.toNat < wordLimit := by
    unfold wordLimit
    omega
  unfold resolve Memory.resolve
  dsimp only
  by_cases hp : p.isNull = true
  · rw [if_pos hp, if_pos hp]
  · rw [if_neg hp, if_neg hp, shiftLeft_segment, add_of_lt b hlt, ← linear_eq hs]
    rfl

/-- Without a descriptor a pointer is refused before anything is summed up. -/
theorem resolve_undescribed (b : Build) (len : Nat) (h : ∀ d, m.descriptor p.segment ≠ .ok d) :
    resolve b m .protectedMode p len = .ok (m.resolve .protectedMode p len) := by
  unfold resolve Memory.resolve
  dsimp only
  by_cases hi : DescriptorTable.index p.segment = 0
  · rw [if_pos hi, if_pos hi]
  · rw [if_neg hi, if_neg hi]
    cases hd : m.table.lookup p.segment with
    | none => rfl
    | some d => exact absurd (Memory.descriptor_eq_ok_iff.mpr ⟨hi, hd⟩) (h d)

/-- Both ways to resolve a pointer that has a descriptor: the limit is checked, and what is left to
decide is the sum of base and offset. -/
theorem resolve_described (b : Build) {d : Descriptor} (hd : m.descriptor p.segment = .ok d)
    (hl : len < 2 ^ 32) :
    resolve b m .protectedMode p len =
        (if 0 < len ∧ d.limit.toNat < p.offset.toNat + len - 1 then .ok (.error (.outOfBounds p len))
        else (add b d.base p.offset.toNat).map fun base => linear m base len p) ∧
      m.resolve .protectedMode p len =
        if 0 < len ∧ d.limit.toNat < p.offset.toNat + len - 1 then .error (.outOfBounds p len)
        else m.linear (d.base + p.offset.toNat) len p := by
  have hoffset := p.offset.toNat_lt
  have hlt : p.offset.toNat + len < wordLimit := by
    unfold wordLimit
    omega
  obtain ⟨hi, hlook⟩ := Memory.descriptor_eq_ok_iff.mp hd
  unfold resolve Memory.resolve
  dsimp only
  rw [if_neg hi, if_neg hi, hlook]
  dsimp only
  rw [add_of_lt b hlt]
  refine ⟨?_, rfl⟩
  dsimp only [bind, Except.bind]
  split
  · rfl
  · cases add b d.base p.offset.toNat <;> rfl

/-- A pointer that does not overshoot is resolved as with exact numbers. -/
theorem resolve_eq (hs : m.size < wordLimit) (hl : len < 2 ^ 32) (ho : ¬ m.Overshoots mode p len)
    (b : Build) : resolve b m mode p len = .ok (m.resolve mode p len) := by
  cases mode with
  | realMode => exact resolve_real hs b p len
  | protectedMode =>
    by_cases hd : ∃ d, m.descriptor p.segment = .ok d
    · obtain ⟨d, hd⟩ := hd
      obtain ⟨hmachine, hexact⟩ := resolve_described b hd hl
      rw [hmachine, hexact]
      by_cases hlim : 0 < len ∧ d.limit.toNat < p.offset.toNat + len - 1
      · rw [if_pos hlim, if_pos hlim]
      · have hsum : d.base + p.offset.toNat < wordLimit :=
          Nat.lt_of_not_le fun hle => ho ⟨rfl, d, hd, by omega, hle⟩
        rw [if_neg hlim, if_neg hlim, add_of_lt b hsum, ← linear_eq hs]
        rfl
    · exact resolve_undescribed b len fun d h => hd ⟨d, h⟩

/-- A pointer that overshoots names no range, and each build fails to say so in its own way. -/
theorem resolve_of_overshoots (hs : m.size < wordLimit) (hl : len < 2 ^ 32)
    (ho : m.Overshoots mode p len) :
    m.resolve mode p len = .error (.outOfBounds p len) ∧
      resolve .checked m mode p len = .error .overflow ∧
      ∃ d, m.descriptor p.segment = .ok d ∧ resolve .release m mode p len =
        .ok (m.linear ((d.base + p.offset.toNat) % wordLimit) len p) := by
  obtain ⟨rfl, d, hd, hlim, hsum⟩ := ho
  have hlim' : ¬ (0 < len ∧ d.limit.toNat < p.offset.toNat + len - 1) := by omega
  obtain ⟨hchecked, hexact⟩ := resolve_described .checked hd hl
  obtain ⟨hrelease, -⟩ := resolve_described .release hd hl
  refine ⟨?_, ?_, d, hd, ?_⟩
  · rw [hexact, if_neg hlim', Memory.linear, if_neg (by omega)]
  · rw [hchecked, if_neg hlim', add_checked hsum]
    rfl
  · rw [hrelease, if_neg hlim', add_release hsum, ← linear_eq hs]
    rfl

/-- A range that any build answers with ends inside the memory. -/
theorem stop_le_of_resolve (hs : m.size < wordLimit) (hl : len < 2 ^ 32) {r : Range}
    (h : resolve b m mode p len = .ok (.ok r)) : r.stop ≤ m.size := by
  by_cases ho : m.Overshoots mode p len
  · obtain ⟨-, hchecked, d, -, hrelease⟩ := resolve_of_overshoots hs hl ho
    cases b with
    | checked =>
      rw [hchecked] at h
      cases h
    | release =>
      rw [hrelease] at h
      obtain ⟨hstop, rfl⟩ := Memory.linear_ok_iff.mp (Except.ok.inj h)
      exact hstop
  · rw [resolve_eq hs hl ho] at h
    exact Memory.resolve_stop_le (Except.ok.inj h)

end Machine

/-! ## Selectors and lengths -/

/-- A selector that is handed out is the index of its descriptor with the low bits set, and no bit
of it is lost. -/
theorem Memory.toNat_of_allocSelector {m m' : Memory} (hr : m.table.Reachable) {base n : Nat}
    {s : UInt16} (h : m.allocSelector base n = .ok (s, m')) :
    ∃ i, i < 2 ^ 13 ∧ s.toNat = i <<< 3 ||| 7 := by
  unfold allocSelector at h
  cases ha : m.table.alloc base n with
  | none =>
    rw [ha] at h
    cases h
  | some st =>
    rw [ha] at h
    cases h
    obtain ⟨i, hi, hsel, -⟩ := DescriptorTable.alloc_eq_some ha
    have hlt : i < DescriptorTable.capacity :=
      (DescriptorTable.freeSlot?_eq_some hi).2.2 hr.size_le
    refine ⟨i + 1, ?_, hsel ▸ DescriptorTable.toNat_selector hlt⟩
    unfold DescriptorTable.capacity at hlt
    omega

/-- The first descriptor of a table gets index 1. -/
theorem DescriptorTable.alloc_empty (base len : Nat) :
    empty.alloc base len = some (0x0F, ⟨#[some (segment base len)]⟩) := by
  have hc : 0 < capacity := by decide
  have hsel : selector 1 = 0x0F := by decide
  simp [alloc, freeSlot?, put, empty, hc, hsel]

theorem Memory.allocSelector_zeroed (size base len : Nat) :
    (zeroed size).allocSelector base len =
      .ok (0x0F, { zeroed size with table := ⟨#[some (DescriptorTable.segment base len)]⟩ }) := by
  have hempty : (zeroed size).table = .empty := rfl
  unfold allocSelector
  rw [hempty, DescriptorTable.alloc_empty]

/-- The sums that fit into their words whatever the caller asks for: around a memory `m`, for any
block and any request. -/
structure Memory.Bounded (m : Memory) : Prop where
  /-- The end of a range that a pointer was resolved to. -/
  stop_lt : ∀ b mode p len r, len < 2 ^ 32 →
    Machine.resolve b m mode p len = .ok (.ok r) → r.stop < Machine.wordLimit
  /-- A new selector is an index moved up past its low bits, in a word of 16 bits. -/
  selector : ∀ base n s m', m.allocSelector base n = .ok (s, m') →
    ∃ i, i < 2 ^ 13 ∧ s.toNat = i <<< 3 ||| 7
  totalLength_lt : ∀ e : Srb.Exec, e.totalLength < Machine.wordLimit
  /-- By how much the pointer to a block is advanced to its sense area, in a word of 16 bits. -/
  senseOffset : ∀ (e : Srb.Exec) (srb : FarPtr),
    ∃ d : UInt16, d.toNat = 64 + e.cdbLength.toNat ∧ e.sensePtr srb = srb.advance d
  expectedReply_lt : ∀ r : Request, r.expectedReply < Machine.wordLimit

theorem Memory.bounded {m : Memory} (hr : m.table.Reachable) (hs : m.size < Machine.wordLimit) :
    m.Bounded where
  stop_lt b mode p len r hl h := Nat.lt_of_le_of_lt (Machine.stop_le_of_resolve hs hl h) hs
  selector base n s m' h := toNat_of_allocSelector hr h
  totalLength_lt e := by
    have := e.cdbLength.toNat_lt
    have := e.senseLength.toNat_lt
    unfold Srb.Exec.totalLength Srb.Exec.fixedLength Machine.wordLimit
    omega
  senseOffset e srb := ⟨_, BlockAt.toNat_senseOffset e, rfl⟩
  expectedReply_lt r := by
    have := r.data.len.toNat_lt
    unfold Request.expectedReply Sg.Header.length Machine.wordLimit
    split <;> omega

/-- A pointer is resolved as with exact numbers, in both builds, exactly if its descriptor does not
overshoot; and if it does, the pointer names no range, a checked build breaks down, and a release
build takes the low bits of the sum for the address. Every other sum fits. -/
theorem Machine.sums_fit_iff {m : Memory} (hr : m.table.Reachable) (hs : m.size < wordLimit)
    (mode : AddressingMode) (p : FarPtr) {len : Nat} (hl : len < 2 ^ 32) :
    m.Bounded ∧
      ((∀ b, resolve b m mode p len = .ok (m.resolve mode p len)) ↔ ¬ m.Overshoots mode p len) ∧
      (m.Overshoots mode p len →
        m.resolve mode p len = .error (.outOfBounds p len) ∧
          resolve .checked m mode p len = .error .overflow ∧
          ∃ d, m.descriptor p.segment = .ok d ∧ resolve .release m mode p len =
            .ok (m.linear ((d.base + p.offset.toNat) % wordLimit) len p)) := by
  refine ⟨Memory.bounded hr hs, ⟨fun h ho => ?_, resolve_eq hs hl⟩, resolve_of_overshoots hs hl⟩
  obtain ⟨-, hchecked, -⟩ := resolve_of_overshoots hs hl ho
  rw [h .checked] at hchecked
  cases hchecked

/-- A descriptor whose base is the greatest word: its first octet is looked for where it would be,
and already the address of its second octet does not fit. -/
theorem Machine.greatest_base_resolved :
    ∃ m, (Memory.zeroed 16).allocSelector (2 ^ 64 - 1) 0x10000 = .ok (0x0F, m) ∧
      m.table.Reachable ∧ m.size < wordLimit ∧ 1 < 2 ^ 32 ∧
      (∀ b, resolve b m .protectedMode ⟨0x0F, 0⟩ 1 =
        .ok (m.resolve .protectedMode ⟨0x0F, 0⟩ 1)) ∧
      resolve .checked m .protectedMode ⟨0x0F, 1⟩ 1 = .error .overflow := by
  let d := DescriptorTable.segment (2 ^ 64 - 1) 0x10000
  let m : Memory := { Memory.zeroed 16 with table := ⟨#[some d]⟩ }
  have hd : m.descriptor 0x0F = .ok d := rfl
  have ha : (Memory.zeroed 16).allocSelector (2 ^ 64 - 1) 0x10000 = .ok (0x0F, m) :=
    Memory.allocSelector_zeroed ..
  have hr : m.table.Reachable := .alloc .empty (DescriptorTable.alloc_empty _ _)
  have hs : m.size < wordLimit := by decide
  have hl : 1 < 2 ^ 32 := by decide
  refine ⟨m, ha, hr, hs, hl, ?_, ?_⟩
  · refine (sums_fit_iff hr hs .protectedMode ⟨0x0F, 0⟩ hl).2.1.mpr ?_
    rintro ⟨-, d', hd', -, hsum⟩
    obtain rfl := Except.ok.inj (hd.symm.trans hd')
    exact absurd hsum (by decide)
  · refine ((sums_fit_iff hr hs .protectedMode ⟨0x0F, 1⟩ hl).2.2 ?_).2.1
    exact ⟨rfl, d, hd, by decide, by decide⟩

/-- Behind a descriptor with the greatest base a pointer that names no range breaks a checked build
down, and is resolved to the first octet of the arena by a release build. -/
theorem Machine.wrapped_address_resolved :
    ∃ m, (Memory.zeroed 16).allocSelector (2 ^ 64 - 1) 0x10000 = .ok (0x0F, m) ∧
      m.resolve .protectedMode ⟨0x0F, 1⟩ 1 = .error (.outOfBounds ⟨0x0F, 1⟩ 1) ∧
      resolve .checked m .protectedMode ⟨0x0F, 1⟩ 1 = .error .overflow ∧
      resolve .release m .protectedMode ⟨0x0F, 1⟩ 1 = .ok (.ok ⟨0, 1⟩) := by
  let d := DescriptorTable.segment (2 ^ 64 - 1) 0x10000
  let m : Memory := { Memory.zeroed 16 with table := ⟨#[some d]⟩ }
  have hd : m.descriptor 0x0F = .ok d := rfl
  have ha : (Memory.zeroed 16).allocSelector (2 ^ 64 - 1) 0x10000 = .ok (0x0F, m) :=
    Memory.allocSelector_zeroed ..
  have ho : m.Overshoots .protectedMode ⟨0x0F, 1⟩ 1 := ⟨rfl, d, hd, by decide, by decide⟩
  obtain ⟨hexact, hchecked, d', hd', hrelease⟩ :=
    resolve_of_overshoots (by decide) (by decide) ho
  obtain rfl := Except.ok.inj (hd.symm.trans hd')
  refine ⟨m, ha, hexact, hchecked, hrelease.trans (congrArg _ ?_)⟩
  exact Memory.linear_ok_iff.mpr ⟨by decide, by decide⟩

end AspiManager
