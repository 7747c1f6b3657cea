import AspiManager.Device.IoError

/-!
# Transfer errors

Why an exchange with a channel failed: the write or the read moved fewer or more octets than asked
for, or failed itself.
-/

namespace AspiManager

/-- Why an exchange failed. -/
inductive TransferError where
  | shortWrite (expected written : Nat)
  | shortRead (expected read : Nat)
  | io (error : IoError)
  deriving DecidableEq, Repr

namespace TransferError

def message : TransferError → String
  | shortWrite e w =>
    "short write to sg device: " ++ toString w ++ " of " ++ toString e ++ " bytes"
  | shortRead e r =>
    "short read from sg device: " ++ toString r ++ " of " ++ toString e ++ " bytes"
  | io e => "sg device i/o failed: " ++ e.message

/-- The device is held elsewhere. A short transfer never means that. -/
def isBusy : TransferError → Bool
  | io e => e.isBusy
  | shortWrite .. | shortRead .. => false

end TransferError

end AspiManager
