import AspiManager.Proofs.Messages
import AspiManager.Request.Delivery

/-!
# Copies into windows

A reply is laid over the front of a window as far as both reach, and the rest of the window is kept
(`Delivery.Laid`). Four lengths bound what is copied: those of the two windows, of the payload and of
the sense octets that count. `Delivery.delivers_iff` says of every reply and of all windows what a
delivery comes to. What was laid over a window is laid over it again without a change, so that a
reply can be delivered twice (`Delivery.deliver_settles`).
-/

namespace AspiManager

namespace Delivery

/-! ## One window -/

/-- A window that has the first `n` octets of `src` at its front, and is as it was behind them. -/
structure Laid (src : Bytes) (n : Nat) (before after : Bytes) : Prop where
  length : after.length = before.length
  front : after.take n = src.take n
  rest : after.drop n = before.drop n

section

variable {src before after : Bytes} {window left : Option Bytes}

theorem overlay_nil (dst : Bytes) : overlay dst [] = dst := by
  unfold overlay
  rw [List.take_nil, List.nil_append, List.length_nil, List.drop_zero]

@[simp] theorem length_overlay (dst src : Bytes) : (overlay dst src).length = dst.length := by
  unfold overlay
  rw [List.length_append, List.length_take, List.length_drop]
  omega

/-- As many octets as both have are laid over the front. -/
theorem overlay_eq (dst src : Bytes) : overlay dst src =
    src.take (min dst.length src.length) ++ dst.drop (min dst.length src.length) := by
  unfold overlay
  rcases Nat.le_total dst.length src.length with h | h
  · rw [Nat.min_eq_left h, List.drop_length, List.drop_eq_nil_of_le h]
  · rw [Nat.min_eq_right h, List.take_length, List.take_of_length_le h]

theorem laid_iff : Laid src (min before.length src.length) before after ↔
    after = overlay before src := by
  constructor
  · rintro ⟨-, hf, hr⟩
    rw [overlay_eq, ← hf, ← hr, List.take_append_drop]
  · rintro rfl
    have hl : (src.take (min before.length src.length)).length =
        min before.length src.length :=
      (List.length_take ..).trans (Nat.min_eq_left (Nat.min_le_right ..))
    refine ⟨length_overlay before src, ?_, ?_⟩
    · rw [overlay_eq]
      exact List.take_left' hl
    · rw [overlay_eq]
      exact List.drop_left' hl

/-- Without octets a window is as it was. -/
theorem laid_zero_iff : Laid src 0 before after ↔ after = before := by
  constructor
  · rintro ⟨-, -, hr⟩
    exact hr
  · rintro rfl
    exact ⟨rfl, rfl, rfl⟩

/-- What was laid over a window is there. -/
theorem overlay_overlay (dst src : Bytes) : overlay (overlay dst src) src = overlay dst src := by
  have h := laid_iff.mpr (rfl : overlay dst src = overlay dst src)
  refine (laid_iff.mp ⟨rfl, ?_, rfl⟩).symm
  rw [length_overlay]
  exact h.front

/-! ## Windows that may be missing -/

theorem rel_laid_iff :
    Option.Rel (Laid src (copied window src)) window left ↔ left = window.map (overlay · src) := by
  constructor
  · intro h
    cases h with
    | none => rfl
    | some h => exact congrArg some (laid_iff.mp h)
  · rintro rfl
    cases window with
    | none => exact .none
    | some dst => exact .some (laid_iff.mpr rfl)

theorem rel_laid_zero_iff : Option.Rel (Laid src 0) window left ↔ left = window := by
  constructor
  · intro h
    cases h with
    | none => rfl
    | some h => exact congrArg some (laid_zero_iff.mp h)
  · rintro rfl
    cases left with
    | none => exact .none
    | some dst => exact .some (laid_zero_iff.mpr rfl)

/-- The count depends only on the lengths. -/
theorem copied_map_overlay (window : Option Bytes) (src : Bytes) :
    copied (window.map (overlay · src)) src = copied window src := by
  cases window with
  | none => rfl
  | some dst => exact congrArg (min · src.length) (length_overlay dst src)

theorem map_overlay_overlay (window : Option Bytes) (src : Bytes) :
    (window.map (overlay · src)).map (overlay · src) = window.map (overlay · src) := by
  cases window with
  | none => rfl
  | some dst => exact congrArg some (overlay_overlay dst src)

end

/-! ## Both windows -/

/-- The number of octets of a payload that go into a data window: none if the payload does not move
to the caller. -/
def dataCount (r : Request) (payload : Bytes) (window : Option Bytes) : Nat :=
  match r.direction, window with
  | .input, some dst => min dst.length payload.length
  | _, _ => 0

/-- The number of sense octets that go into a sense window. -/
def senseCount (sense : Bytes) (window : Option Bytes) : Nat :=
  match window with
  | some dst => min dst.length (min 16 sense.length)
  | none => 0

/-- What the delivery of a reply comes to: the account of it, and the windows that it leaves. -/
inductive Delivers (reply : Sg.Reply) (r : Request) (w : Windows Bytes) :
    Delivery → Windows Bytes → Prop
  /-- The device reports a failure: the windows are as they were. -/
  | failed (h : reply.result ≠ 0) : Delivers reply r w ⟨.failed, 0, 0, reply.result⟩ w
  /-- Payload and sense octets are at the front of the windows. -/
  | complete {left : Windows Bytes} (h : reply.result = 0)
    (data : Option.Rel (Laid reply.payload (dataCount r reply.payload w.data)) w.data left.data)
    (sense : Option.Rel (Laid reply.sense (senseCount reply.sense w.sense)) w.sense left.sense) :
    Delivers reply r w
      ⟨.complete, dataCount r reply.payload w.data, senseCount reply.sense w.sense, 0⟩ left

variable {reply : Sg.Reply} {r : Request} {w left : Windows Bytes} {d : Delivery}

theorem length_sense_le (reply : Sg.Reply) : reply.sense.length ≤ 16 :=
  Nat.le_trans (Nat.le_of_eq reply.header.length_validSense) reply.header.senseLength_le

theorem copied_sense (reply : Sg.Reply) (window : Option Bytes) :
    copied window reply.sense = senseCount reply.sense window := by
  have hl := length_sense_le reply
  cases window with
  | none => rfl
  | some dst => exact congrArg (min dst.length) (Nat.min_eq_right hl).symm

theorem copied_data (reply : Sg.Reply) (r : Request) (window : Option Bytes) :
    copied window (payloadFor r reply) = dataCount r reply.payload window := by
  unfold copied dataCount payloadFor
  cases window with
  | none => cases r.direction <;> rfl
  | some dst => cases r.direction <;> simp

/-- A data window is laid over with the payload, or is as it was. -/
theorem rel_data_iff {window left : Option Bytes} :
    Option.Rel (Laid reply.payload (dataCount r reply.payload window)) window left ↔
      left = window.map (overlay · (payloadFor r reply)) := by
  have hkept : window.map (overlay · []) = window := by
    cases window with
    | none => rfl
    | some dst => exact congrArg some (overlay_nil dst)
  rw [← copied_data]
  unfold payloadFor
  cases r.direction with
  | input => exact rel_laid_iff
  | output | both | unchecked =>
    have hnone : copied window [] = 0 := by
      cases window with
      | none => rfl
      | some dst => exact Nat.min_zero dst.length
    dsimp only
    rw [hnone, hkept]
    exact rel_laid_zero_iff

theorem delivers_iff : deliver reply r w = (d, left) ↔ Delivers reply r w d left := by
  unfold deliver
  dsimp only
  by_cases hr : reply.result = 0
  · rw [if_neg (not_not_intro hr), copied_data, copied_sense, hr]
    constructor
    · intro h
      cases h
      refine .complete hr (rel_data_iff.mpr rfl) ?_
      rw [← copied_sense]
      exact rel_laid_iff.mpr rfl
    · intro h
      cases h with
      | failed h => exact absurd hr h
      | complete _ hdata hsense =>
        rw [← copied_sense] at hsense
        rw [← rel_data_iff.mp hdata, ← rel_laid_iff.mp hsense]
  · rw [if_pos hr]
    constructor
    · intro h
      cases h
      exact .failed hr
    · intro h
      cases h with
      | failed => rfl
      | complete h => exact absurd h hr

theorem status_deliver (h : reply.result = 0) (r : Request) (w : Windows Bytes) :
    (deliver reply r w).1.status = .complete := by
  unfold deliver
  rw [if_neg (not_not_intro h)]

/-- Delivering a reply again gives the same account and changes nothing. -/
theorem deliver_deliver (reply : Sg.Reply) (r : Request) (w : Windows Bytes) :
    deliver reply r (deliver reply r w).2 = deliver reply r w := by
  unfold deliver
  dsimp only
  by_cases hr : reply.result = 0
  · simp only [if_neg (not_not_intro hr), copied_map_overlay, map_overlay_overlay]
  · simp only [if_pos hr]

/-- Every reply, for every request and all windows: what its delivery comes to, and that a second one
into the windows that it leaves comes to the same and changes nothing. -/
theorem deliver_settles (reply : Sg.Reply) (r : Request) (w : Windows Bytes) :
    (∀ d left, deliver reply r w = (d, left) ↔ Delivers reply r w d left) ∧
      deliver reply r (deliver reply r w).2 = deliver reply r w :=
  ⟨fun _ _ => delivers_iff, deliver_deliver reply r w⟩

end Delivery

end AspiManager
