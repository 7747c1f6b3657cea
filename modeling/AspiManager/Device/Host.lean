import AspiManager.Bytes.Basic
import AspiManager.Device.IoError

/-!
# What is behind device nodes

A host opens device nodes and moves octets over the channels it opened. Channels are numbers. A
host has a state of its own, which each operation may change; nothing else is assumed about it.
-/

namespace AspiManager

/-- The answer of a host to a write or a read. -/
inductive Answer (α : Type) where
  | done (value : α)
  | failed (error : IoError)
  /-- The host broke down. -/
  | crashed

/-- What is behind the device nodes, with states of type `σ`. -/
structure Host (σ : Type) where
  /-- Opens the node at a path and gives the channel. -/
  openNode : String → σ → Except IoError Nat × σ
  /-- Offers octets to a channel, which says how many it took. -/
  write : Nat → Bytes → σ → Answer Nat × σ
  /-- Asks a channel for a number of octets. It says how many it gave, and gives octets to lay over
  the zeros of the reader. -/
  read : Nat → Nat → σ → Answer (Nat × Bytes) × σ

end AspiManager
