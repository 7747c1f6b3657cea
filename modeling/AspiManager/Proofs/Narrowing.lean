import AspiManager.Proofs.Addressing

/-!
# Pointers octet by octet

A pointer and a length name a range exactly if each octet behind the pointer has an address
(`Memory.AddressOf`), and the range is made of these addresses. `Memory.resolve` compares the last
octet with the limit and the end of the range with the end of the arena; the addresses in between
follow, since both bounds hold for all offsets below one for which they hold. So the answers for
shorter lengths and for advanced pointers are the parts of one range (`Memory.resolve_octetwise`).
-/

namespace AspiManager

namespace Memory

/-- The address of the octet `i` places behind a pointer, if it has one. -/
inductive AddressOf (m : Memory) : AddressingMode → FarPtr → Nat → Nat → Prop
  /-- The arena has the octet. -/
  | linear {p : FarPtr} {i : Nat} (h : p.segment.toNat * 16 + p.offset.toNat + i < m.size) :
    AddressOf m .realMode p i (p.segment.toNat * 16 + p.offset.toNat + i)
  /-- The selector has a descriptor that admits the offset, and the arena has the octet. -/
  | described {p : FarPtr} {i : Nat} {d : Descriptor} (hd : m.descriptor p.segment = .ok d)
    (hl : p.offset.toNat + i ≤ d.limit.toNat) (h : d.base + p.offset.toNat + i < m.size) :
    AddressOf m .protectedMode p i (d.base + p.offset.toNat + i)

variable {m : Memory} {mode : AddressingMode} {p : FarPtr} {n i a b : Nat} {r : Range}

theorem descriptor_eq_ok_iff {s : UInt16} {d : Descriptor} :
    m.descriptor s = .ok d ↔ DescriptorTable.index s ≠ 0 ∧ m.table.lookup s = some d := by
  unfold descriptor DescriptorTable.lookup
  cases hi : DescriptorTable.index s with
  | zero => simp [DescriptorTable.descriptor?]
  | succ i => cases m.table.descriptor? (i + 1) <;> simp

/-- Each octet of a range that a pointer names has its place in the range for an address. -/
theorem addressOf_of_resolve (h : m.resolve mode p n = .ok r) (hi : i < n) :
    m.AddressOf mode p i (r.base + i) := by
  cases mode with
  | realMode =>
    obtain ⟨-, hs, rfl⟩ := resolve_real_iff.mp h
    rw [Nat.mul_comm] at hs ⊢
    exact .linear (by omega)
  | protectedMode =>
    obtain ⟨hne, d, hd, hl, hs, rfl⟩ := resolve_protected_iff.mp h
    exact .described (descriptor_eq_ok_iff.mpr ⟨hne, hd⟩) (by omega) (by omega)

/-- A pointer whose first and last octet have addresses names a range. -/
theorem resolve_of_ends (hp : p.isNull = false) (hn : 0 < n) (hfirst : m.AddressOf mode p 0 a)
    (hlast : m.AddressOf mode p (n - 1) b) : m.resolve mode p n = .ok ⟨a, n⟩ := by
  cases hfirst with
  | linear =>
    cases hlast with
    | linear h => exact resolve_real_iff.mpr ⟨hp, by omega, by rw [Nat.mul_comm]; rfl⟩
  | described hd =>
    cases hlast with
    | described hd' hl h =>
      obtain rfl := Except.ok.inj (hd.symm.trans hd')
      obtain ⟨hne, hlook⟩ := descriptor_eq_ok_iff.mp hd
      exact resolve_protected_iff.mpr ⟨hne, _, hlook, by omega, by omega, rfl⟩

/-- An advanced pointer names the rest of the range, also if it is advanced by nothing. -/
theorem resolve_rest (h : m.resolve mode p n = .ok r) {d : UInt16} (hd : d.toNat < n)
    (hw : p.offset.toNat + d.toNat ≤ 65535) :
    m.resolve mode (p.advance d) (n - d.toNat) = .ok ⟨r.base + d.toNat, n - d.toNat⟩ := by
  rcases Nat.eq_zero_or_pos d.toNat with h0 | hpos
  · obtain rfl : d = 0 := UInt16.toNat_inj.mp h0
    have hp : p.advance 0 = p := by simp [FarPtr.advance]
    rw [hp, h0]
    exact resolve_narrow h (Nat.sub_le ..)
  · exact resolve_advance h (by omega) (by omega) hpos

/-- A pointer that is not null names a range of `n` octets exactly if each of them has an address.
The range begins at the address of the first; with fewer octets the pointer names the front of the
range, and advanced inside its segment it names the rest. -/
theorem resolve_octetwise (hp : p ≠ .null) (hn : 1 ≤ n) :
    ((∃ r, m.resolve mode p n = .ok r) ↔ ∀ i < n, ∃ a, m.AddressOf mode p i a) ∧
      ∀ r, m.resolve mode p n = .ok r →
        m.AddressOf mode p 0 r.base ∧ r.len = n ∧
        (∀ n', 1 ≤ n' → n' ≤ n → m.resolve mode p n' = .ok ⟨r.base, n'⟩) ∧
        ∀ d : UInt16, d.toNat < n → p.offset.toNat + d.toNat ≤ 65535 →
          m.resolve mode (p.advance d) (n - d.toNat) = .ok ⟨r.base + d.toNat, n - d.toNat⟩ := by
  have hnull : p.isNull = false := Bool.eq_false_iff.mpr (mt FarPtr.isNull_iff.mp hp)
  refine ⟨⟨?_, fun h => ?_⟩, fun r hr => ⟨?_, resolve_len hr, ?_, ?_⟩⟩
  · rintro ⟨r, hr⟩ i hi
    exact ⟨_, addressOf_of_resolve hr hi⟩
  · obtain ⟨a, hfirst⟩ := h 0 (by omega)
    obtain ⟨b, hlast⟩ := h (n - 1) (by omega)
    exact ⟨_, resolve_of_ends hnull (by omega) hfirst hlast⟩
  · exact addressOf_of_resolve hr (by omega)
  · exact fun n' _ hle => resolve_narrow hr hle
  · exact fun d hd hw => resolve_rest hr hd hw

/-- A pointer to the last 80 octets of an arena, through a descriptor whose segment goes on behind
it: the octet at its end is found, and one more is not. -/
theorem last_octets_resolved :
    let m : Memory := { zeroed 4096 with table := ⟨#[some ⟨4000, 0x1FF⟩]⟩ }
    let p : FarPtr := ⟨0x0F, 0x10⟩
    p ≠ .null ∧ 1 ≤ 80 ∧ m.resolve .protectedMode p 80 = .ok ⟨4016, 80⟩ ∧
      m.resolve .protectedMode (p.advance 79) 1 = .ok ⟨4095, 1⟩ ∧
      ¬ ∀ i < 81, ∃ a, m.AddressOf .protectedMode p i a := by
  intro m p
  have hp : p ≠ .null := by decide
  have hlook : m.table.lookup p.segment = some ⟨4000, 0x1FF⟩ := by decide
  have hr : m.resolve .protectedMode p 80 = .ok ⟨4016, 80⟩ :=
    resolve_protected_iff.mpr ⟨by decide, _, hlook, by decide, by decide, rfl⟩
  obtain ⟨-, -, -, hrest⟩ := (resolve_octetwise (m := m) hp (by decide)).2 _ hr
  refine ⟨hp, by decide, hr, hrest 79 (by decide) (by decide), fun h => ?_⟩
  obtain ⟨r, hr'⟩ := (resolve_octetwise hp (by decide)).1.mpr h
  obtain ⟨-, d, hd, -, hs, -⟩ := resolve_protected_iff.mp hr'
  obtain rfl := Option.some.inj (hlook.symm.trans hd)
  exact absurd hs (by decide)

end Memory

end AspiManager
