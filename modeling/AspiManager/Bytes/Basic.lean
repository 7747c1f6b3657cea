/-!
# Octet strings

Messages, command blocks and windows into memory are lists of octets. The readers take an offset
and read zeros past the end; the writers give the little-endian octets of a word.
-/

namespace AspiManager

/-- A string of octets. -/
abbrev Bytes := List UInt8

namespace Bytes

/-- `n` zero octets. -/
def zeros (n : Nat) : Bytes := List.replicate n 0

/-- The first `n` octets of `bs`, filled up with zeros. -/
def fit (n : Nat) (bs : Bytes) : Bytes := bs.take n ++ zeros (n - bs.length)

@[simp] theorem length_zeros (n : Nat) : (zeros n).length = n := List.length_replicate

@[simp] theorem length_fit (n : Nat) (bs : Bytes) : (fit n bs).length = n := by
  simp [fit]; omega

/-- The octet at `i`, zero past the end. -/
def octet (bs : Bytes) (i : Nat) : UInt8 := bs.getD i 0

/-- The little-endian word of two octets at `i`. -/
def word16 (bs : Bytes) (i : Nat) : UInt16 :=
  UInt16.ofNat ((octet bs i).toNat + 0x100 * (octet bs (i + 1)).toNat)

/-- The little-endian word of four octets at `i`. -/
def word32 (bs : Bytes) (i : Nat) : UInt32 :=
  UInt32.ofNat ((octet bs i).toNat + 0x100 * (octet bs (i + 1)).toNat +
    0x10000 * (octet bs (i + 2)).toNat + 0x1000000 * (octet bs (i + 3)).toNat)

/-- The big-endian word of four octets at `i`. -/
def bigWord32 (bs : Bytes) (i : Nat) : UInt32 :=
  UInt32.ofNat (0x1000000 * (octet bs i).toNat + 0x10000 * (octet bs (i + 1)).toNat +
    0x100 * (octet bs (i + 2)).toNat + (octet bs (i + 3)).toNat)

/-- The `n` octets from offset `i`. -/
def field (bs : Bytes) (n i : Nat) : Vector UInt8 n := Vector.ofFn fun k => octet bs (i + k)

/-- The two octets of `w`, low octet first. -/
def ofWord16 (w : UInt16) : Bytes := [w.toUInt8, (w / 0x100).toUInt8]

/-- The four octets of `w`, low octet first. -/
def ofWord32 (w : UInt32) : Bytes :=
  [w.toUInt8, (w / 0x100).toUInt8, (w / 0x10000).toUInt8, (w / 0x1000000).toUInt8]

@[simp] theorem length_ofWord16 (w : UInt16) : (ofWord16 w).length = 2 := rfl

@[simp] theorem length_ofWord32 (w : UInt32) : (ofWord32 w).length = 4 := rfl

end Bytes

end AspiManager
