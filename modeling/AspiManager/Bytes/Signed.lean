import AspiManager.Bytes.Basic

/-!
# Signed words

A word of four octets read as a two's-complement number, and back.
-/

namespace AspiManager

namespace Bytes

/-- The little-endian signed word of four octets at `i`. -/
def int32 (bs : Bytes) (i : Nat) : Int32 := (word32 bs i).toInt32

/-- The four octets of `w`, low octet first. -/
def ofInt32 (w : Int32) : Bytes := ofWord32 w.toUInt32

@[simp] theorem length_ofInt32 (w : Int32) : (ofInt32 w).length = 4 := rfl

end Bytes

end AspiManager
