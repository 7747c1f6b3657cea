import AspiManager.Proofs.Turn

/-!
# Requests that are rejected

A call that ends as invalid has no effect besides its status, with one exception: a read that asks
for more than a header can announce is only found out when the message is put together, after the
device was acquired (`invalid_leavesAlone_iff`).
-/

namespace AspiManager

/-- The registry is as before, nothing was written to a device, and no post routine was called. -/
structure Manager.LeavesAlone {σ : Type} (m : Manager σ) (mode : AddressingMode) (call : Call)
    (s t : State σ) : Prop where
  registry : t.registry = s.registry
  unwritten : ∃ es : List Effect, t.effects = s.effects ++ es ∧ ∀ c bs, Effect.wrote c bs ∉ es
  silent : m.Silent mode call s

/-- The call asks for a well-formed request whose reply is too long to be announced. -/
def Call.AsksTooMuch (m : Memory) (mode : AddressingMode) (call : Call) : Prop :=
  ∃ r block, call.Asks m mode r block ∧ ¬ r.Unfit m mode ∧ r.TooLong

/-! ## What a call asks for -/

/-- Only a real-mode caller with two gibibytes of memory can ask for too much. -/
theorem Call.AsksTooMuch.bounds {m : Memory} {mode : AddressingMode} {call : Call}
    (h : call.AsksTooMuch m mode) : mode = .realMode ∧ 2 ^ 31 - 35 ≤ m.size := by
  obtain ⟨r, block, -, hu, hl⟩ := h
  obtain ⟨w, hw⟩ := Request.exists_fits hu
  obtain ⟨hd, hlen⟩ := Request.tooLong_iff.mp hl
  obtain ⟨d, hwd⟩ := hw.exists_data ⟨.inl hd, by omega⟩
  have hr := hw.resolve_data hwd
  cases mode with
  | realMode =>
    obtain ⟨hn, hs, -⟩ := Memory.resolve_real_iff.mp hr
    have := FarPtr.pos_of_not_null hn
    exact ⟨rfl, by omega⟩
  | protectedMode =>
    have := Memory.offset_lt_of_resolve_protected hr (d := r.data.len.toNat - 1) (by omega)
    omega

/-! ## Counters and round trips -/

namespace Manager

variable {σ : Type} {m : Manager σ}

/-- Every acquisition is counted. -/
theorem acquisition_registry_ne (m : Manager σ) (key : DeviceKey) (g : Registry) (world : σ) :
    (m.acquisition key g world).registry ≠ g := by
  have hhit : g.hit ≠ g := fun h => by
    have := congrArg Registry.hits h
    simp [Registry.hit] at this
  have hmiss : ∀ g' : Registry, g'.misses = g.misses + 1 → g' ≠ g := by
    rintro g' h rfl
    omega
  unfold acquisition
  split
  · exact hhit
  · split
    · exact hmiss _ rfl
    · split
      · exact hmiss _ rfl
      · exact hmiss _ rfl

/-- A round trip that ends as invalid did not begin. -/
theorem tooLong_of_trip {channel : Nat} {r : Request} {w : Windows Range} {memory : Memory}
    {world : σ} (h : (m.trip channel r w memory world).outcome = .ok .invalid) : r.TooLong := by
  unfold trip at h
  split at h
  · assumption
  · dsimp only at h
    split at h
    · cases h
    · split at h <;> cases h
    · split at h <;> cases h

/-- A call that ends as invalid leaves everything but its status alone, unless it asks for too
much, which takes real mode and two gibibytes of memory. -/
theorem invalid_leavesAlone_iff {mode : AddressingMode} {call : Call} {s t : State σ}
    (h : (m.perform mode call).exec s = (.ok .invalid, t)) :
    (m.LeavesAlone mode call s t ↔ ¬ call.AsksTooMuch s.memory mode) ∧
      (call.AsksTooMuch s.memory mode → mode = .realMode ∧ 2 ^ 31 - 35 ≤ s.memory.size) := by
  refine ⟨?_, Call.AsksTooMuch.bounds⟩
  by_cases ha : ∃ r block, call.Asks s.memory mode r block
  · obtain ⟨r, block, ha⟩ := ha
    rcases perform_ok ha h with ⟨-, hu, hs, es, rfl⟩ | ⟨w, e, hst, -⟩ | ⟨w, handle, hw, hacq, ht, hs⟩
    · refine iff_of_true ⟨rfl, ⟨[], by simp [State.stamped], by simp⟩, hs⟩ ?_
      rintro ⟨r', block', ha', hu', -⟩
      obtain ⟨rfl, rfl⟩ := ha.unique ha'
      exact hu' hu
    · cases hst
    · refine iff_of_false ?_ (not_not_intro ⟨r, block, ha, hw.not_unfit, tooLong_of_trip ht⟩)
      intro hl
      obtain ⟨es, rfl⟩ := hs hl.silent
      exact m.acquisition_registry_ne r.key s.registry s.world hl.registry
  · obtain ⟨o, memory, es, -, hp⟩ := m.perform_of_not ha
    have h' := (hp m.routine).symm.trans h
    cases h'
    refine iff_of_true ⟨rfl, ⟨[], by simp, by simp⟩, silent_of_forall hp⟩ ?_
    rintro ⟨r, block, ha', -⟩
    exact ha ⟨r, block, ha'⟩

end Manager

/-- A write whose sense buffer lies inside its data. -/
def overlappingWrite : Request :=
  { target := 2, flags := ⟨0x10⟩, cdb := [0x2A, 0, 0, 0, 0, 0], data := ⟨⟨1, 0⟩, 64⟩
    sense := ⟨⟨1, 0x20⟩, 14⟩ }

theorem overlapping_write_leavesAlone :
    let m := Manager.constant []
    let s := State.initial (.zeroed 256)
    let call := Call.submit overlappingWrite
    ∃ t, (m.perform .realMode call).exec s = (.ok .invalid, t) ∧
      m.LeavesAlone .realMode call s t := by
  intro m s call
  have h : (m.perform .realMode call).exec s = (.ok .invalid, ((m.perform .realMode call).exec s).2) :=
    Prod.ext rfl rfl
  obtain ⟨hiff, hbounds⟩ := Manager.invalid_leavesAlone_iff h
  refine ⟨_, h, hiff.mpr fun ha => ?_⟩
  exact absurd (hbounds ha).2 (by decide)

/-- A read of two gibibytes, less a header. -/
def longRead : Request :=
  { target := 2, flags := ⟨8⟩, cdb := [0x12, 0, 0, 0, 0x24, 0], data := ⟨⟨0, 1⟩, 2147483612⟩ }

/-- The long read ends as invalid, and its device was opened for it. -/
theorem long_read_acquires :
    let m := Manager.constant []
    let s := State.initial (.zeroed (2 ^ 31))
    ∃ t, (m.perform .realMode (.submit longRead)).exec s = (.ok .invalid, t) ∧
      t.registry = ⟨[⟨⟨0, 2, 0⟩, "/dev/sg2", 0⟩], 1, 0, 1⟩ ∧ t.registry ≠ s.registry :=
  ⟨_, rfl, rfl, by decide⟩

end AspiManager
