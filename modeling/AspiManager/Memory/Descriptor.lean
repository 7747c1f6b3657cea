/-!
# The local descriptor table

A selector carries the index of a table entry in its upper thirteen bits; the lower three are the
table indicator and the privilege level and play no part in the look-up. Index 0 is the null
selector and has no entry.
-/

namespace AspiManager

/-- A segment: where it starts and its last valid offset. -/
structure Descriptor where
  base : Nat
  limit : UInt16
  deriving DecidableEq, Repr

/-- The table of a caller. Slot `i` serves index `i + 1`. -/
structure DescriptorTable where
  slots : Array (Option Descriptor)
  deriving DecidableEq, Repr

namespace DescriptorTable

/-- The most descriptors a table holds at a time. -/
def capacity : Nat := 8191

def empty : DescriptorTable := ⟨#[]⟩

/-- The descriptor at a table index. -/
def descriptor? (t : DescriptorTable) : Nat → Option Descriptor
  | 0 => none
  | i + 1 => t.slots[i]?.join

/-- The table index that a selector names. -/
def index (selector : UInt16) : Nat := selector.toNat / 8

/-- The descriptor behind a selector. -/
def lookup (t : DescriptorTable) (selector : UInt16) : Option Descriptor :=
  t.descriptor? (index selector)

/-- The number of descriptors in use. -/
def live (t : DescriptorTable) : Nat := t.slots.countP Option.isSome

/-- The selector of a table index: local table, lowest privilege. -/
def selector (index : Nat) : UInt16 := UInt16.ofNat (8 * index + 7)

/-- The segment of `len` octets at `base`: at least one octet, at most 64 KiB. -/
def segment (base len : Nat) : Descriptor := ⟨base, UInt16.ofNat (max 1 (min len 0x10000) - 1)⟩

/-- The lowest free slot, one past the end if all are taken, none at capacity. -/
def freeSlot? (t : DescriptorTable) : Option Nat :=
  match t.slots.findIdx? Option.isNone with
  | some i => some i
  | none => if t.slots.size < capacity then some t.slots.size else none

/-- Puts a descriptor into slot `i`, which is at most one past the end. -/
def put (t : DescriptorTable) (i : Nat) (d : Descriptor) : DescriptorTable :=
  if i < t.slots.size then ⟨t.slots.setIfInBounds i (some d)⟩ else ⟨t.slots.push (some d)⟩

/-- Takes the lowest free index for `len` octets at `base`; `none` if the table is full. -/
def alloc (t : DescriptorTable) (base len : Nat) : Option (UInt16 × DescriptorTable) :=
  t.freeSlot?.map fun i => (selector (i + 1), t.put i (segment base len))

/-- Frees the index that a selector names; nothing happens if it is not in use. -/
def free (t : DescriptorTable) (selector : UInt16) : DescriptorTable :=
  match index selector with
  | 0 => t
  | i + 1 => ⟨t.slots.setIfInBounds i none⟩

end DescriptorTable

end AspiManager
