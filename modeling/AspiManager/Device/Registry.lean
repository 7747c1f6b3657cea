import AspiManager.Device.Key
import AspiManager.Text.Record

/-!
# Device handles

Each device is opened once, on its first use, and its handle is kept. The registry counts how often
a handle was found, was not found, and how often a node was opened.
-/

namespace AspiManager

/-- An open device: its key, the path of its node, and the channel. -/
structure Handle where
  key : DeviceKey
  path : String
  channel : Nat
  deriving DecidableEq, Repr

/-- The open devices, the latest first, and the counters. -/
structure Registry where
  handles : List Handle := []
  opens : Nat := 0
  hits : Nat := 0
  misses : Nat := 0
  deriving DecidableEq, Repr

namespace Registry

/-- The handle of a device. -/
def find? (r : Registry) (key : DeviceKey) : Option Handle := r.handles.find? (·.key == key)

def hit (r : Registry) : Registry := { r with hits := r.hits + 1 }

def miss (r : Registry) : Registry := { r with misses := r.misses + 1 }

def countOpen (r : Registry) : Registry := { r with opens := r.opens + 1 }

/-- Keeps a new handle. -/
def insert (r : Registry) (h : Handle) : Registry := { r with handles := h :: r.handles }

def size (r : Registry) : Nat := r.handles.length

/-- The dump of a registry. -/
def text (r : Registry) : String :=
  Record.text "DeviceRegistry"
    [("len", toString r.size),
      ("stats", Record.text "RegistryStats"
        [("opens", toString r.opens), ("hits", toString r.hits),
          ("misses", toString r.misses)])]

end Registry

end AspiManager
