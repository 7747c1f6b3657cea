import AspiManager.Proofs.Copying
import AspiManager.Proofs.Stamp
import AspiManager.Proofs.Transfer
import AspiManager.Proofs.Windows

/-!
# What a delivery does to the memory

A reply is laid over two windows that are apart. `Memory.fill` is the memory with octets at the
front of each window. A delivery comes to it if the result of the reply is zero
(`deliver_exec_of_eq`), and changes nothing otherwise (`deliver_exec_of_ne`).
`Memory.octet_fill_data`, `octet_fill_sense` and `octet_fill_of_not` give it octet by octet.
-/

namespace AspiManager

open Delivery (overlay)

namespace Memory

variable {m : Memory} {w : Windows Range}

/-! ## Filling windows -/

/-- The memory with octets at the front of a window, as far as it reaches. -/
def fillWindow (m : Memory) (window : Option Range) (bs : Bytes) : Memory :=
  match window with
  | some r => m.put r.base (bs.take r.len)
  | none => m

/-- The memory with octets at the front of each window. -/
def fill (m : Memory) (w : Windows Range) (data sense : Bytes) : Memory :=
  (m.fillWindow w.data data).fillWindow w.sense sense

@[simp] theorem size_fillWindow (m : Memory) (window : Option Range) (bs : Bytes) :
    (m.fillWindow window bs).size = m.size := by cases window <;> rfl

@[simp] theorem table_fillWindow (m : Memory) (window : Option Range) (bs : Bytes) :
    (m.fillWindow window bs).table = m.table := by cases window <;> rfl

@[simp] theorem size_fill (m : Memory) (w : Windows Range) (data sense : Bytes) :
    (m.fill w data sense).size = m.size := by simp [fill]

@[simp] theorem table_fill (m : Memory) (w : Windows Range) (data sense : Bytes) :
    (m.fill w data sense).table = m.table := by simp [fill]

/-- Whether `bs`, put at the front of a window, covers an address. -/
def Covers (window : Option Range) (bs : Bytes) (a : Nat) : Prop :=
  ∃ r, window = some r ∧ r.base ≤ a ∧ a < r.base + min r.len bs.length

theorem octet_fillWindow_of_not {window : Option Range} {bs : Bytes} {a : Nat}
    (ha : ¬ Covers window bs a) : (m.fillWindow window bs).octet a = m.octet a := by
  cases window with
  | none => rfl
  | some r =>
    have hr : ¬ (r.base ≤ a ∧ a < r.base + min r.len bs.length) := fun h => ha ⟨r, rfl, h⟩
    rw [fillWindow, octet_put, List.length_take, if_neg (by omega)]

theorem octet_fillWindow {r : Range} {bs : Bytes} {i : Nat} (hr : r.stop ≤ m.size)
    (hi : i < min r.len bs.length) : (m.fillWindow (some r) bs).octet (r.base + i) = bs.octet i := by
  unfold Range.stop at hr
  rw [fillWindow, octet_put, List.length_take, if_pos (by omega), Nat.add_sub_cancel_left,
    Bytes.octet_take, if_pos (by omega)]

/-- A string laid over the octets of a window and put back there. -/
theorem put_overlay {r : Range} (hr : r.stop ≤ m.size) (bs : Bytes) :
    m.put r.base (overlay (m.read r.base r.len) bs) = m.fillWindow (some r) bs := by
  have hl := length_read_of_le hr
  refine ext_octet rfl (by simp) fun a => ?_
  rw [octet_put, Delivery.length_overlay, overlay, hl]
  by_cases hc : r.base ≤ a ∧ a < r.base + min r.len bs.length
  · obtain ⟨i, rfl⟩ := Nat.exists_eq_add_of_le hc.1
    rw [if_pos (by unfold Range.stop at hr; omega), octet_fillWindow hr (by omega),
      Nat.add_sub_cancel_left, Bytes.octet_append, List.length_take, if_pos (by omega),
      Bytes.octet_take, if_pos (by omega)]
  · rw [octet_fillWindow_of_not (by rintro ⟨q, ⟨⟩, h⟩; exact hc h)]
    -- Behind the string, inside the window, the octet that was read is put back.
    split
    · rw [Bytes.octet_append, List.length_take, if_neg (by omega), Bytes.octet_drop, octet_read,
        if_pos (by omega)]
      congr 1
      omega
    · rfl

/-! ## Two windows at once -/

/-- The octets of both windows. -/
def octetsIn (m : Memory) (w : Windows Range) : Windows Bytes :=
  ⟨w.data.map fun d => m.read d.base d.len, w.sense.map fun q => m.read q.base q.len⟩

theorem apart_iff {d s : Range} (hd : 0 < d.len) (hs : 0 < s.len) :
    ¬ d.Shares s ↔ d.stop ≤ s.base ∨ s.stop ≤ d.base := by
  constructor
  · intro h
    by_cases hc : d.stop ≤ s.base ∨ s.stop ≤ d.base
    · exact hc
    · refine absurd ⟨max d.base s.base, ?_, ?_⟩ h <;> unfold Range.Contains <;>
        unfold Range.stop at * <;> omega
  · rintro h ⟨a, ha, ha'⟩
    unfold Range.Contains at ha ha'
    omega

/-- Windows that are apart can be had at once. -/
theorem pair_ok (hw : w.Sound m) :
    m.pair w.data w.sense = .ok (some (w.data.map fun r => m.read r.base r.len,
      w.sense.map fun r => m.read r.base r.len)) := by
  obtain ⟨_ | d, _ | s⟩ := w
  · rfl
  · obtain ⟨-, hs⟩ := hw.sense s rfl
    simp only [pair, slice_ok hs]
    rfl
  · obtain ⟨-, hd⟩ := hw.data d rfl
    simp only [pair, slice_ok hd]
    rfl
  · obtain ⟨hdl, hd⟩ := hw.data d rfl
    obtain ⟨hsl, hs⟩ := hw.sense s rfl
    have hap := hw.apart d s rfl rfl
    have hor := (apart_iff hdl hsl).mp hap
    unfold Range.stop at *
    simp only [pair]
    rw [if_neg fun h => hap (Range.overlaps_iff.mp h)]
    split
    · rw [split, if_pos (by unfold Range.stop; omega)]
      rfl
    · rw [split, if_pos (by unfold Range.stop; omega)]
      rfl

/-- The sense window reads the same when the data window was filled. -/
theorem read_sense_fillWindow (hw : w.Sound m) {s : Range} (hs : w.sense = some s) (bs : Bytes) :
    (m.fillWindow w.data bs).read s.base s.len = m.read s.base s.len := by
  refine read_congr (size_fillWindow _ _ _) fun a ha ha' => octet_fillWindow_of_not ?_
  rintro ⟨d, hd, hda, hda'⟩
  refine hw.apart d s hd hs ⟨a, ⟨hda, ?_⟩, ha, ha'⟩
  unfold Range.stop
  omega

/-- Replacing the windows with what they were, or with strings laid over that, fills them. -/
theorem replaceOption_overlay {window : Option Range}
    (hr : ∀ r, window = some r → r.stop ≤ m.size) (bs : Bytes) :
    m.replaceOption window ((window.map fun r => m.read r.base r.len).map (overlay · bs)) =
      .ok (m.fillWindow window bs) := by
  cases window with
  | none => rfl
  | some r =>
    have hr := hr r rfl
    have hl := length_read_of_le hr
    rw [← put_overlay hr]
    refine replace_ok hr ?_
    exact (Delivery.length_overlay ..).trans hl

theorem replaceOption_read {window : Option Range}
    (hr : ∀ r, window = some r → r.stop ≤ m.size) :
    m.replaceOption window (window.map fun r => m.read r.base r.len) = .ok m := by
  cases window with
  | none => rfl
  | some r =>
    have hr := hr r rfl
    exact (replace_ok hr (length_read_of_le hr)).trans (by rw [put_read])

theorem octet_fill_of_not {data sense : Bytes} {a : Nat} (hd : ¬ Covers w.data data a)
    (hs : ¬ Covers w.sense sense a) : (m.fill w data sense).octet a = m.octet a := by
  rw [fill, octet_fillWindow_of_not hs, octet_fillWindow_of_not hd]

/-- The front of the data window holds the data. -/
theorem octet_fill_data (hw : w.Sound m) {d : Range} (hd : w.data = some d) {data : Bytes}
    (sense : Bytes) {i : Nat} (hi : i < min d.len data.length) :
    (m.fill w data sense).octet (d.base + i) = data.octet i := by
  have hs : ¬ Covers w.sense sense (d.base + i) := by
    rintro ⟨q, hq, hqa, hqa'⟩
    refine hw.apart d q hd hq ⟨d.base + i, ⟨Nat.le_add_right _ _, ?_⟩, hqa, ?_⟩ <;>
      unfold Range.stop <;> omega
  rw [fill, octet_fillWindow_of_not hs, hd, octet_fillWindow (hw.data d hd).2 hi]

/-- The front of the sense window holds the sense octets. -/
theorem octet_fill_sense (hw : w.Sound m) {q : Range} (hq : w.sense = some q) (data : Bytes)
    {sense : Bytes} {i : Nat} (hi : i < min q.len sense.length) :
    (m.fill w data sense).octet (q.base + i) = sense.octet i := by
  have hs : q.stop ≤ (m.fillWindow w.data data).size := by
    rw [size_fillWindow]
    exact (hw.sense q hq).2
  rw [fill, hq, octet_fillWindow hs hi]

end Memory

/-! ## The run -/

namespace Manager

variable {σ : Type} {w : Windows Range}

/-- What is reported of a reply with a result other than zero. -/
def resultWarning (result : Int32) : Log.Event :=
  { level := .warn, source := .delivery, message := "reply header error"
    fields := [("result", .int result.toInt)] }

/-- A reply with a result other than zero is reported, changes nothing and is an error. -/
theorem deliver_exec_of_ne (s : State σ) (hw : w.Sound s.memory) (r : Request) (reply : Sg.Reply)
    (h : reply.result ≠ 0) :
    (deliver r w reply).exec s = (.ok (.error (.device reply.result)),
      { s with events := s.events.push (resultWarning reply.result) }) := by
  have hd := Memory.replaceOption_read fun d hd => (hw.data d hd).2
  have hs := Memory.replaceOption_read fun d hd => (hw.sense d hd).2
  unfold deliver Delivery.deliver
  simp only [Run.exec_bind, Run.exec_memory, Run.exec_lift, Memory.pair_ok hw, if_pos h,
    Run.exec_report, hd, hs, Run.exec_setMemory]
  rfl

/-- A reply with the result zero fills the windows and reports nothing. -/
theorem deliver_exec_of_eq (s : State σ) (hw : w.Sound s.memory) (r : Request) (reply : Sg.Reply)
    (h : reply.result = 0) :
    (deliver r w reply).exec s = (.ok (.ok (Delivery.deliver reply r (s.memory.octetsIn w)).1),
      { s with memory := s.memory.fill w (Delivery.payloadFor r reply) reply.sense }) := by
  have hd := Memory.replaceOption_overlay (fun d hd => (hw.data d hd).2)
    (Delivery.payloadFor r reply)
  -- The sense window is replaced in a memory whose data window is filled, with what it was before
  -- that: the two are apart, so this is still what it is.
  have hs : (s.memory.fillWindow w.data (Delivery.payloadFor r reply)).replaceOption w.sense
      ((w.sense.map fun q => s.memory.read q.base q.len).map (overlay · reply.sense)) =
      .ok (s.memory.fill w (Delivery.payloadFor r reply) reply.sense) := by
    rw [Memory.fill, ← Memory.replaceOption_overlay fun q hq => by
      rw [Memory.size_fillWindow]; exact (hw.sense q hq).2]
    cases hq : w.sense with
    | none => rfl
    | some q => simp only [Option.map_some, Memory.read_sense_fillWindow hw hq]
  unfold deliver Delivery.deliver
  have h' : ¬ reply.result ≠ 0 := fun hne => hne h
  simp only [Run.exec_bind, Run.exec_memory, Run.exec_lift, Memory.pair_ok hw, if_neg h',
    Run.exec_pure, hd, hs, Run.exec_setMemory]
  rfl

end Manager

end AspiManager
