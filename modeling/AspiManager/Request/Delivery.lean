import AspiManager.Request.Basic
import AspiManager.Sg.Message

/-!
# Delivery of a reply

A reply is copied into the caller's windows: the payload into the data window if it moves to the
caller, the sense octets into the sense window. Nothing is put past the end of a window, and a
reply with a result other than zero leaves both as they are.
-/

namespace AspiManager

/-- What a reply did to the caller's windows. -/
structure Delivery where
  status : Status
  dataCopied : Nat
  senseCopied : Nat
  /-- The result that the device reported. -/
  result : Int32
  deriving DecidableEq, Repr

/-- Windows into the caller's memory, as octets or as ranges. -/
structure Windows (α : Type) where
  data : Option α := none
  sense : Option α := none
  deriving DecidableEq, Repr

namespace Delivery

/-- `src` over the front of `dst`, as far as it reaches. -/
def overlay (dst src : Bytes) : Bytes := src.take dst.length ++ dst.drop src.length

/-- The number of octets that `overlay` puts into the window, if there is one. -/
def copied (window : Option Bytes) (src : Bytes) : Nat :=
  match window with
  | some dst => min dst.length src.length
  | none => 0

/-- The octets that a reply has for the data window of a request. -/
def payloadFor (r : Request) (reply : Sg.Reply) : Bytes :=
  match r.direction with
  | .input => reply.payload
  | .output | .both | .unchecked => []

/-- Delivers a reply into the octets of the windows. -/
def deliver (reply : Sg.Reply) (r : Request) (w : Windows Bytes) : Delivery × Windows Bytes :=
  if reply.result ≠ 0 then (⟨.failed, 0, 0, reply.result⟩, w)
  else
    let data := payloadFor r reply
    (⟨.complete, copied w.data data, copied w.sense reply.sense, reply.result⟩,
      ⟨w.data.map (overlay · data), w.sense.map (overlay · reply.sense)⟩)

end Delivery

end AspiManager
