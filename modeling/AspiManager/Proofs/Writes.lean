import AspiManager.Proofs.Addressing
import AspiManager.Proofs.Clipping

/-!
# Writes in a row

A memory that was written to any number of times, at any addresses, holds at each address of its
arena the octet of the last write that covered the address, and zero where none did (`lastWritten`).
`Machine.writes_recalled` says so of what is read back, and with it what each write answers: the
machine clips both at the end of the arena, and none of its sums or cuts breaks down.

The induction is over the writes from the first one on; what it carries is that the octets of the
memory are the ones that were written last (`Memory.Written`).
-/

namespace AspiManager

/-- Octets that are to be put at consecutive addresses. -/
structure Write where
  base : Nat
  data : Bytes
  deriving DecidableEq, Repr

/-- The write has an octet for the address. -/
def Write.Covers (w : Write) (a : Nat) : Prop := w.base ≤ a ∧ a < w.base + w.data.length

instance (w : Write) (a : Nat) : Decidable (w.Covers a) := inferInstanceAs (Decidable (_ ∧ _))

/-- The octet that the last of the writes that cover an address has for it, zero if there is none.
The first write comes first. -/
def lastWritten (ws : List Write) (a : Nat) : UInt8 :=
  match ws.reverse.find? fun w => w.Covers a with
  | some w => w.data.octet (a - w.base)
  | none => 0

/-- The addresses among `base, …, base + len - 1` that an arena has, in order. -/
def addressesIn (size base len : Nat) : List Nat := (List.range' base len).filter (· < size)

namespace Machine

/-- Writes one after the other: what each of them answers, and the memory after them. -/
def writeAll (m : Memory) : List Write → Except Fault (List Nat × Memory)
  | [] => .ok ([], m)
  | w :: ws => do
    let (n, m) ← write m w.base w.data
    let (ns, m) ← writeAll m ws
    return (n :: ns, m)

end Machine

/-- A memory of which nothing but the writes to it is known, as the machine shows it. -/
structure Memory.Recalls (m : Memory) (size : Nat) (ws : List Write) : Prop where
  size_eq : m.size = size
  /-- The addresses that the arena has are read in order, each with its last octet. -/
  read : ∀ base len, Machine.read m base len =
    .ok ((addressesIn size base len).map (lastWritten ws))
  /-- A range that is accepted is cut out as it is read. -/
  slice : ∀ base len p r, Machine.linear m base len p = .ok r → m.slice r = Machine.read m base len
  /-- A write that begins behind the arena puts no octet anywhere. -/
  past : ∀ base data, size ≤ base → Machine.write m base data = .ok (0, m)

/-! ## The last write -/

theorem lastWritten_nil (a : Nat) : lastWritten [] a = 0 := rfl

theorem lastWritten_snoc (ws : List Write) (w : Write) (a : Nat) :
    lastWritten (ws ++ [w]) a =
      if w.Covers a then w.data.octet (a - w.base) else lastWritten ws a := by
  unfold lastWritten
  rw [List.reverse_concat, List.find?_cons]
  by_cases hw : w.Covers a <;> simp [hw]

/-! ## Addresses of an arena -/

/-- They are consecutive. -/
theorem addressesIn_eq (size base len : Nat) :
    addressesIn size base len = List.range' base (min len (size - base)) := by
  unfold addressesIn
  induction len generalizing base with
  | zero => simp
  | succ len ih =>
    rw [List.range'_succ, List.filter_cons]
    by_cases hb : base < size
    · rw [if_pos (by simpa using hb), ih, ← List.range'_succ]
      congr 1
      omega
    · rw [if_neg (by simpa using hb), ih, show min len (size - (base + 1)) = 0 by omega,
        show min (len + 1) (size - base) = 0 by omega]
      rfl

theorem length_addressesIn (size base len : Nat) :
    (addressesIn size base len).length = min len (size - base) := by
  rw [addressesIn_eq, List.length_range']

namespace Memory

variable {m : Memory} {size : Nat} {ws : List Write}

theorem read_eq_map (m : Memory) (base len : Nat) :
    m.read base len = (addressesIn m.size base len).map m.octet := by
  rw [addressesIn_eq]
  refine Bytes.ext_octet (by simp) fun i hi => ?_
  rw [length_read] at hi
  rw [octet_read, if_pos (by omega), Bytes.octet_eq_getElem (by simpa using hi)]
  simp

/-- The octets of the arena are the ones that were written last. -/
structure Written (m : Memory) (size : Nat) (ws : List Write) : Prop where
  size_eq : m.size = size
  octet_eq : ∀ a < size, m.octet a = lastWritten ws a

namespace Written

theorem zeroed (size : Nat) : (Memory.zeroed size).Written size [] where
  size_eq := rfl
  octet_eq a _ := by
    rw [lastWritten_nil]
    simp [octet, Memory.zeroed]

theorem put (h : m.Written size ws) (w : Write) :
    (m.put w.base w.data).Written size (ws ++ [w]) where
  size_eq := h.size_eq
  octet_eq a ha := by
    have hiff : w.base ≤ a ∧ a < w.base + w.data.length ∧ a < m.size ↔ w.Covers a := by
      unfold Write.Covers
      rw [h.size_eq]
      omega
    rw [octet_put, lastWritten_snoc, h.octet_eq a ha]
    simp only [hiff]

/-- Further writes are done, and are answered by how many of their octets the arena has. -/
theorem writeAll (h : m.Written size ws) (hs : size < Machine.wordLimit) (more : List Write) :
    ∃ n, Machine.writeAll m more =
        .ok (more.map fun w => (addressesIn size w.base w.data.length).length, n) ∧
      n.Written size (ws ++ more) := by
  induction more generalizing m ws with
  | nil => exact ⟨m, rfl, by rwa [List.append_nil]⟩
  | cons w more ih =>
    obtain ⟨n, hn, hw⟩ := ih (h.put w)
    refine ⟨n, ?_, by rwa [List.append_assoc] at hw⟩
    unfold Machine.writeAll
    rw [Machine.write_eq (by rwa [h.size_eq])]
    unfold write
    rw [h.size_eq, ← length_addressesIn]
    dsimp only [bind, Except.bind]
    rw [hn]
    rfl

theorem recalls (h : m.Written size ws) (hs : size < Machine.wordLimit) : m.Recalls size ws := by
  have hm : m.size < Machine.wordLimit := by rwa [h.size_eq]
  refine ⟨h.size_eq, fun base len => ?_, fun base len p r hr => ?_, fun base data hb => ?_⟩
  · rw [Machine.read_eq hm, read_eq_map, h.size_eq]
    refine congrArg Except.ok (List.map_congr_left fun a ha => h.octet_eq a ?_)
    simpa using (List.mem_filter.mp ha).2
  · rw [Machine.linear_eq hm, linear_ok_iff] at hr
    obtain ⟨hstop, rfl⟩ := hr
    exact (slice_ok (r := ⟨base, len⟩) hstop).trans (Machine.read_eq hm base len).symm
  · have h0 : min data.length (m.size - base) = 0 := by
      rw [h.size_eq]
      omega
    rw [Machine.write_eq hm, write, h0, put_of_past h0]

end Written

end Memory

/-- Any writes to a new memory are done, each is answered by the number of its octets that fall
inside the arena, and the memory recalls them. -/
theorem Machine.writes_recalled (size : UInt64) (ws : List Write) :
    ∃ m, Machine.writeAll (.zeroed size.toNat) ws =
        .ok (ws.map fun w => (addressesIn size.toNat w.base w.data.length).length, m) ∧
      m.Recalls size.toNat ws := by
  have hs : size.toNat < Machine.wordLimit := size.toNat_lt
  obtain ⟨m, hm, hw⟩ := (Memory.Written.zeroed size.toNat).writeAll hs ws
  exact ⟨m, hm, hw.recalls hs⟩

end AspiManager
