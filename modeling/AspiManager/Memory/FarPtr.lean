import AspiManager.Bytes.Hex

/-!
# Far pointers

The `segment:offset` token by which a 16-bit caller names a place in its memory. Only the offset
moves when a pointer is advanced, and it wraps at 64 KiB.
-/

namespace AspiManager

/-- A `segment:offset` pair of a 16-bit caller. -/
structure FarPtr where
  segment : UInt16
  offset : UInt16
  deriving DecidableEq, Repr, Inhabited

namespace FarPtr

/-- The pointer `0000:0000`. -/
def null : FarPtr := ⟨0, 0⟩

/-- Whether both halves are zero. -/
def isNull (p : FarPtr) : Bool := p.segment == 0 && p.offset == 0

/-- The pointer as one word, the segment in the high half. -/
def raw (p : FarPtr) : UInt32 := p.segment.toUInt32 * 0x10000 + p.offset.toUInt32

/-- The pointer of a word. -/
def ofRaw (w : UInt32) : FarPtr := ⟨(w / 0x10000).toUInt16, w.toUInt16⟩

/-- The pointer `d` octets further in the same segment; the offset wraps. -/
def advance (p : FarPtr) (d : UInt16) : FarPtr := ⟨p.segment, p.offset + d⟩

/-- Four digits, a colon, four digits. -/
def text (p : FarPtr) : String :=
  Hex.padded 4 p.segment.toNat ++ ":" ++ Hex.padded 4 p.offset.toNat

theorem isNull_iff {p : FarPtr} : p.isNull = true ↔ p = null := by
  cases p; simp [isNull, null]

end FarPtr

end AspiManager
