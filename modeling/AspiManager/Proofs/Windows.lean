import AspiManager.Manager.Execute
import AspiManager.Proofs.Addressing

/-!
# The windows of a request

Which requests have windows and which are rejected for their shape alone.

* `Request.windows_ok_iff`: the windows of a request are the ranges of the buffers that it needs,
  and they are apart (`Request.Fits`).
* `Request.windows_error_iff`: without windows are the requests that are `Request.Unfit`, a
  condition that can be decided; `Request.status_of_windows_error`: they end as invalid.
-/

namespace AspiManager

section

variable {ε α β : Type} {x : Except ε α} {f : α → Except ε β}

theorem bind_ok_iff {b : β} : (x >>= f) = .ok b ↔ ∃ a, x = .ok a ∧ f a = .ok b := by
  cases x <;> simp [bind, Except.bind]

theorem bind_error_iff {e : ε} :
    (x >>= f) = .error e ↔ x = .error e ∨ ∃ a, x = .ok a ∧ f a = .error e := by
  cases x <;> simp [bind, Except.bind]

end

/-- The windows are not empty, lie inside a memory and are apart. -/
structure Windows.Sound (w : Windows Range) (m : Memory) : Prop where
  data : ∀ d, w.data = some d → 0 < d.len ∧ d.stop ≤ m.size
  sense : ∀ s, w.sense = some s → 0 < s.len ∧ s.stop ≤ m.size
  apart : ∀ d s, w.data = some d → w.sense = some s → ¬ d.Shares s

namespace Request

/-- Data moves from or to the caller. -/
def MovesData (r : Request) : Prop :=
  (r.direction = .input ∨ r.direction = .output) ∧ 0 < r.data.len.toNat

instance (r : Request) : Decidable r.MovesData := inferInstanceAs (Decidable (_ ∧ _))

/-- The window of a buffer: its range if it is needed, none if it is not. -/
inductive WindowOf (memory : Memory) (mode : AddressingMode) (b : Buffer) (needed : Prop) :
    Option Range → Prop
  | range {d : Range} (hn : needed) (hd : memory.resolve mode b.ptr b.len.toNat = .ok d) :
    WindowOf memory mode b needed (some d)
  | unused (hn : ¬ needed) : WindowOf memory mode b needed none

/-- The request is well-formed and `w` are its windows. -/
structure Fits (r : Request) (memory : Memory) (mode : AddressingMode) (w : Windows Range) :
    Prop where
  command : 0 < r.cdb.length ∧ r.cdb.length ≤ maxCdbLength
  data : WindowOf memory mode r.data r.MovesData w.data
  sense : WindowOf memory mode r.sense (0 < r.sense.len.toNat) w.sense
  apart : ∀ d s, w.data = some d → w.sense = some s → ¬ d.Shares s

/-- The request is rejected for its shape: its command block is empty or too long, a buffer that it
needs names no range, or its two windows share an octet. -/
inductive Unfit (r : Request) (memory : Memory) (mode : AddressingMode) : Prop
  | command (h : r.cdb.length = 0 ∨ maxCdbLength < r.cdb.length)
  | data (hn : r.MovesData) (h : ∀ d, memory.resolve mode r.data.ptr r.data.len.toNat ≠ .ok d)
  | sense (hn : 0 < r.sense.len.toNat)
    (h : ∀ s, memory.resolve mode r.sense.ptr r.sense.len.toNat ≠ .ok s)
  | shared {d s : Range} (hn : r.MovesData)
    (hd : memory.resolve mode r.data.ptr r.data.len.toNat = .ok d)
    (hs : memory.resolve mode r.sense.ptr r.sense.len.toNat = .ok s) (h : d.Shares s)

variable {r : Request} {memory : Memory} {mode : AddressingMode} {w : Windows Range}

/-! ## One window -/

namespace WindowOf

variable {b : Buffer} {needed : Prop} {d : Range}

theorem resolved (h : WindowOf memory mode b needed (some d)) :
    memory.resolve mode b.ptr b.len.toNat = .ok d := by
  cases h; assumption

theorem needed_of_some (h : WindowOf memory mode b needed (some d)) : needed := by
  cases h; assumption

theorem not_needed (h : WindowOf memory mode b needed none) : ¬ needed := by
  cases h; assumption

/-- Either there is a window, or the buffer is needed and names no range. -/
theorem total (memory : Memory) (mode : AddressingMode) (b : Buffer) (needed : Prop) :
    (needed ∧ ∀ d, memory.resolve mode b.ptr b.len.toNat ≠ .ok d) ∨
      ∃ o, WindowOf memory mode b needed o := by
  by_cases hn : needed
  · cases hd : memory.resolve mode b.ptr b.len.toNat with
    | error e => exact .inl ⟨hn, by simp⟩
    | ok d => exact .inr ⟨some d, .range hn hd⟩
  · exact .inr ⟨none, .unused hn⟩

end WindowOf

namespace Fits

theorem resolve_data (h : r.Fits memory mode w) {d : Range} (hd : w.data = some d) :
    memory.resolve mode r.data.ptr r.data.len.toNat = .ok d :=
  (hd ▸ h.data).resolved

theorem resolve_sense (h : r.Fits memory mode w) {s : Range} (hs : w.sense = some s) :
    memory.resolve mode r.sense.ptr r.sense.len.toNat = .ok s :=
  (hs ▸ h.sense).resolved

theorem exists_data (h : r.Fits memory mode w) (hn : r.MovesData) : ∃ d, w.data = some d := by
  have hd := h.data
  cases hw : w.data with
  | none => rw [hw] at hd; exact absurd hn hd.not_needed
  | some d => exact ⟨d, rfl⟩

theorem exists_sense (h : r.Fits memory mode w) (hn : 0 < r.sense.len.toNat) :
    ∃ s, w.sense = some s := by
  have hs := h.sense
  cases hw : w.sense with
  | none => rw [hw] at hs; exact absurd hn hs.not_needed
  | some s => exact ⟨s, rfl⟩

end Fits

/-- The window of a buffer that is needed if `c` is set. -/
def window (memory : Memory) (mode : AddressingMode) (b : Buffer) (c : Bool) :
    Except RequestError (Option Range) :=
  if c then windows.resolve memory mode b else .ok none

theorem window_ok_iff {b : Buffer} {c : Bool} {needed : Prop} (hc : c = true ↔ needed)
    {o : Option Range} :
    window memory mode b c = .ok o ↔ WindowOf memory mode b needed o := by
  unfold window
  cases c with
  | false =>
    have hn : ¬ needed := fun h => Bool.false_ne_true (hc.mpr h)
    constructor
    · intro h
      cases h
      exact .unused hn
    · rintro (⟨h, -⟩ | -)
      · exact absurd h hn
      · rfl
  | true =>
    have hn : needed := hc.mp rfl
    simp only [↓reduceIte, windows.resolve]
    cases hd : memory.resolve mode b.ptr b.len.toNat with
    | error e =>
      constructor
      · intro h
        cases h
      · rintro (⟨-, h⟩ | h)
        · rw [hd] at h; cases h
        · exact absurd hn h
    | ok d =>
      constructor
      · intro h
        cases h
        exact .range hn hd
      · rintro (⟨-, h⟩ | h)
        · rw [hd] at h; cases h; rfl
        · exact absurd hn h

theorem status_of_window_error {b : Buffer} {c : Bool} {e : RequestError}
    (h : window memory mode b c = .error e) : e.status = .invalid := by
  unfold window at h
  cases c with
  | false => cases h
  | true =>
    simp only [↓reduceIte, windows.resolve] at h
    split at h
    · cases h
    · cases h; rfl

theorem hasPayload_iff : (r.direction.hasPayload && r.data.len != 0) = true ↔ r.MovesData := by
  unfold MovesData
  rw [Bool.and_eq_true]
  refine and_congr ?_ ?_
  · cases r.direction <;> simp [Direction.hasPayload]
  · rw [bne_iff_ne, ne_eq, ← UInt32.toNat_inj, Nat.pos_iff_ne_zero]; rfl

theorem sense_iff : (r.sense.len != 0) = true ↔ 0 < r.sense.len.toNat := by
  rw [bne_iff_ne, ne_eq, ← UInt32.toNat_inj, Nat.pos_iff_ne_zero]; rfl

/-! ## Both windows -/

/-- Both windows, if they are apart. -/
def together (data sense : Option Range) : Except RequestError (Windows Range) :=
  match data, sense with
  | some d, some s =>
    if d.overlaps s then .error (.malformed .overlappingBuffers) else .ok ⟨data, sense⟩
  | _, _ => .ok ⟨data, sense⟩

theorem windows_eq (r : Request) (memory : Memory) (mode : AddressingMode) :
    r.windows memory mode =
      r.checkCommand >>= fun _ =>
        window memory mode r.data (r.direction.hasPayload && r.data.len != 0) >>= fun data =>
          window memory mode r.sense (r.sense.len != 0) >>= fun sense => together data sense := by
  unfold windows window
  cases r.direction.hasPayload && r.data.len != 0 <;> cases r.sense.len != 0 <;> rfl

theorem checkCommand_ok_iff :
    r.checkCommand = .ok () ↔ 0 < r.cdb.length ∧ r.cdb.length ≤ maxCdbLength := by
  unfold checkCommand
  cases r.cdb with
  | nil => simp
  | cons b rest =>
    simp only [List.isEmpty_cons, Bool.false_eq_true, ↓reduceIte]
    split
    · rename_i h
      simpa using h
    · rename_i h
      simpa using h

theorem status_of_checkCommand_error {e : RequestError} (h : r.checkCommand = .error e) :
    e.status = .invalid := by
  unfold checkCommand at h
  split at h
  · cases h; rfl
  · split at h <;> cases h
    rfl

/-- The windows of a request are the ranges of the buffers that it needs, and they are apart. -/
theorem windows_ok_iff : r.windows memory mode = .ok w ↔ r.Fits memory mode w := by
  rw [windows_eq]
  simp only [bind_ok_iff, window_ok_iff hasPayload_iff, window_ok_iff sense_iff]
  unfold together
  constructor
  · rintro ⟨⟨⟩, hc, data, hd, sense, hs, h⟩
    have hc := checkCommand_ok_iff.mp hc
    split at h
    · split at h
      · cases h
      · rename_i hov
        cases h
        refine ⟨hc, hd, hs, fun d s hd' hs' => ?_⟩
        cases hd'; cases hs'
        rwa [← Range.overlaps_iff]
    · rename_i hne
      cases h
      exact ⟨hc, hd, hs, fun d s hd' hs' => absurd hs' (hne d s hd')⟩
  · rintro ⟨hc, hd, hs, hov⟩
    refine ⟨(), checkCommand_ok_iff.mpr hc, w.data, hd, w.sense, hs, ?_⟩
    obtain ⟨_ | d, _ | s⟩ := w
    · rfl
    · rfl
    · rfl
    · exact if_neg fun h => hov d s rfl rfl (Range.overlaps_iff.mp h)

theorem Fits.unique {w' : Windows Range} (h : r.Fits memory mode w) (h' : r.Fits memory mode w') :
    w = w' :=
  Except.ok.inj ((windows_ok_iff.mpr h).symm.trans (windows_ok_iff.mpr h'))

theorem status_of_windows_error {e : RequestError} (h : r.windows memory mode = .error e) :
    e.status = .invalid := by
  rw [windows_eq] at h
  rcases bind_error_iff.mp h with hc | ⟨-, -, h⟩
  · exact status_of_checkCommand_error hc
  rcases bind_error_iff.mp h with hd | ⟨data, -, h⟩
  · exact status_of_window_error hd
  rcases bind_error_iff.mp h with hs | ⟨sense, -, h⟩
  · exact status_of_window_error hs
  unfold together at h
  split at h
  · split at h
    · cases h; rfl
    · cases h
  · cases h

theorem not_fits_iff : (¬ ∃ w, r.Fits memory mode w) ↔ r.Unfit memory mode := by
  constructor
  · intro h
    by_cases hc : r.cdb.length = 0 ∨ maxCdbLength < r.cdb.length
    · exact .command hc
    have hc : 0 < r.cdb.length ∧ r.cdb.length ≤ maxCdbLength := by omega
    rcases WindowOf.total memory mode r.data r.MovesData with ⟨hn, hd⟩ | ⟨data, hd⟩
    · exact .data hn hd
    rcases WindowOf.total memory mode r.sense (0 < r.sense.len.toNat) with
      ⟨hn, hs⟩ | ⟨sense, hs⟩
    · exact .sense hn hs
    by_cases hov : ∀ d s, data = some d → sense = some s → ¬ d.Shares s
    · exact absurd ⟨⟨data, sense⟩, hc, hd, hs, hov⟩ h
    · rcases hd with ⟨hn, hd⟩ | -
      · rcases hs with ⟨-, hs⟩ | -
        · refine .shared hn hd hs (Decidable.byContradiction fun hsh => hov ?_)
          rintro d s ⟨⟩ ⟨⟩
          exact hsh
        · exact absurd (by rintro d s - ⟨⟩) hov
      · exact absurd (by rintro d s ⟨⟩) hov
  · rintro hu ⟨w, hw⟩
    cases hu with
    | command h =>
      have := hw.command
      omega
    | data hn h =>
      obtain ⟨d, hd⟩ := hw.exists_data hn
      exact h d (hw.resolve_data hd)
    | sense hn h =>
      obtain ⟨s, hs⟩ := hw.exists_sense hn
      exact h s (hw.resolve_sense hs)
    | shared hn hrd hrs h =>
      -- A shared address makes the sense range nonempty, so that the sense buffer is needed.
      have hl := Memory.resolve_len hrs
      have hpos : 0 < r.sense.len.toNat := by
        obtain ⟨a, -, ha⟩ := id h
        unfold Range.Contains Range.stop at ha
        omega
      obtain ⟨d, hd⟩ := hw.exists_data hn
      obtain ⟨s, hs⟩ := hw.exists_sense hpos
      obtain rfl := Except.ok.inj (hrd.symm.trans (hw.resolve_data hd))
      obtain rfl := Except.ok.inj (hrs.symm.trans (hw.resolve_sense hs))
      exact hw.apart _ _ hd hs h

theorem Fits.not_unfit (h : r.Fits memory mode w) : ¬ r.Unfit memory mode :=
  fun hu => not_fits_iff.mpr hu ⟨w, h⟩

theorem exists_fits (h : ¬ r.Unfit memory mode) : ∃ w, r.Fits memory mode w :=
  Classical.byContradiction fun hn => h (not_fits_iff.mp hn)

/-- The requests without windows are the ones that are rejected for their shape. -/
theorem windows_error_iff : (∃ e, r.windows memory mode = .error e) ↔ r.Unfit memory mode := by
  rw [← not_fits_iff]
  cases h : r.windows memory mode with
  | error e => simp [← windows_ok_iff, h]
  | ok w => simp [← windows_ok_iff, h]

instance : Decidable (r.Unfit memory mode) :=
  match h : r.windows memory mode with
  | .error e => .isTrue (windows_error_iff.mp ⟨e, h⟩)
  | .ok w => .isFalse fun hu => by
      obtain ⟨e, he⟩ := windows_error_iff.mpr hu
      rw [h] at he
      cases he

theorem WindowOf.inside {b : Buffer} {needed : Prop} {d : Range}
    (h : WindowOf memory mode b needed (some d)) (hn : needed → 0 < b.len.toNat) :
    0 < d.len ∧ d.stop ≤ memory.size :=
  ⟨Memory.resolve_len h.resolved ▸ hn h.needed_of_some, Memory.resolve_stop_le h.resolved⟩

theorem Fits.sound (h : r.Fits memory mode w) : w.Sound memory where
  data _ hd := (hd ▸ h.data).inside And.right
  sense _ hs := (hs ▸ h.sense).inside id
  apart := h.apart

end Request

theorem Windows.Sound.of_size {w : Windows Range} {m n : Memory} (h : w.Sound m)
    (hs : n.size = m.size) : w.Sound n where
  data d hd := hs ▸ h.data d hd
  sense s hs' := hs ▸ h.sense s hs'
  apart := h.apart

end AspiManager
