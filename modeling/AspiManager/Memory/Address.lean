import AspiManager.Memory.Arena
import AspiManager.Memory.FarPtr

/-!
# Far pointers to ranges

A real-mode caller means `segment * 16 + offset`; a protected-mode caller goes through the
descriptor table. `Memory.resolve` gives the range that a pointer and a length name, or the reason
why they name none. Post routines always run in protected mode, so a request block of a real-mode
caller gets a selector of its own while its routine runs (`Memory.postArgument`).

Addresses are exact numbers here, whatever their size. Words of 64 bits give the same ranges, unless
the base of a descriptor and the offset of a pointer add up to more than a word
(`Memory.Overshoots`).
-/

namespace AspiManager

/-- Why a pointer and a length name no range. -/
inductive AddressError where
  | nullPointer
  | outOfBounds (ptr : FarPtr) (len : Nat)
  | invalidSelector (selector : UInt16)
  | tableFull
  deriving DecidableEq, Repr

namespace AddressError

def message : AddressError → String
  | nullPointer => "null pointer"
  | outOfBounds ptr len =>
    "range " ++ ptr.text ++ "+" ++ toString len ++ " falls outside caller memory"
  | invalidSelector s =>
    "selector 0x" ++ Hex.padded 4 s.toNat ++ " is not present in the descriptor table"
  | tableFull => "descriptor table is full"

end AddressError

/-- How a caller addresses its memory. -/
inductive AddressingMode where
  /-- Segment times sixteen plus offset. -/
  | realMode
  /-- Selector through the descriptor table. -/
  | protectedMode
  deriving DecidableEq, Repr

/-- What a post routine is told about its request block: the pointer, and the selector that was
made for it, if any. -/
structure PostArgument where
  srb : FarPtr
  mapped : Option UInt16
  deriving DecidableEq, Repr

namespace Memory

/-- The range of `len` octets at `base` if the memory has it; `ptr` is named in the error. -/
def linear (m : Memory) (base len : Nat) (ptr : FarPtr) : Except AddressError Range :=
  if base + len ≤ m.size then .ok ⟨base, len⟩ else .error (.outOfBounds ptr len)

/-- The range of `len` octets at `ptr`. -/
def resolve (m : Memory) (mode : AddressingMode) (ptr : FarPtr) (len : Nat) :
    Except AddressError Range :=
  match mode with
  | .realMode =>
    if ptr.isNull then .error .nullPointer
    else m.linear (16 * ptr.segment.toNat + ptr.offset.toNat) len ptr
  | .protectedMode =>
    if DescriptorTable.index ptr.segment = 0 then .error .nullPointer
    else match m.table.lookup ptr.segment with
      | none => .error (.invalidSelector ptr.segment)
      | some d =>
        if 0 < len ∧ d.limit.toNat < ptr.offset.toNat + len - 1 then
          .error (.outOfBounds ptr len)
        else m.linear (d.base + ptr.offset.toNat) len ptr

/-- The descriptor behind a selector. -/
def descriptor (m : Memory) (selector : UInt16) : Except AddressError Descriptor :=
  match m.table.lookup selector with
  | some d => .ok d
  | none => .error (.invalidSelector selector)

/-- Makes a selector for `len` octets at `base`. -/
def allocSelector (m : Memory) (base len : Nat) : Except AddressError (UInt16 × Memory) :=
  match m.table.alloc base len with
  | some (s, t) => .ok (s, { m with table := t })
  | none => .error .tableFull

def freeSelector (m : Memory) (selector : UInt16) : Memory :=
  { m with table := m.table.free selector }

/-- The pointer by which a post routine finds the request block at `srb`. In real mode a selector
is made for the block. -/
def postArgument (m : Memory) (mode : AddressingMode) (srb : FarPtr) (range : Range) :
    Except AddressError (PostArgument × Memory) :=
  match mode with
  | .realMode => do
    let (s, m) ← m.allocSelector range.base range.len
    return (⟨⟨s, 0⟩, some s⟩, m)
  | .protectedMode => .ok (⟨srb, none⟩, m)

/-- Gives back the selector that was made for a post routine. -/
def release (m : Memory) (arg : PostArgument) : Memory :=
  match arg.mapped with
  | some s => m.freeSelector s
  | none => m

end Memory

end AspiManager
