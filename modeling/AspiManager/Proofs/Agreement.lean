import AspiManager.Proofs.Completion
import AspiManager.Proofs.Locality

/-!
# A block and the request in it

A request can be handed over, or be sent in a block. `Manager.send_agrees` says that the two ways
come to the same: the block is only another place for the status.

While the block is executed its status octets change twice, so the two executions work on memories
that differ there. Both windows are resolved before, and the sense octets go behind the block. What
could tell the two apart is a data window on a status octet, from which the pending status would be
written to the device.
-/

namespace AspiManager

/-- Two states that differ in what was reported, and in the status octets of a block. -/
structure SameButStatus {σ : Type} (range : Range) (t u : State σ) : Prop where
  effects : t.effects = u.effects
  registry : t.registry = u.registry
  world : t.world = u.world
  routines : t.routines = u.routines
  size : t.memory.size = u.memory.size
  table : t.memory.table = u.memory.table
  octet : ∀ a, a ≠ range.base + 1 → a ≠ range.base + 24 → a ≠ range.base + 25 →
    t.memory.octet a = u.memory.octet a

/-- The data window of a request has no status octet of the block in a range in it. -/
def Request.DataApart (r : Request) (memory : Memory) (mode : AddressingMode) (range : Range) :
    Prop :=
  ∀ w d a, r.windows memory mode = .ok w → w.data = some d → d.Contains a →
    a ≠ range.base + 1 ∧ a ≠ range.base + 24 ∧ a ≠ range.base + 25

namespace Manager

variable {σ : Type} {m : Manager σ} {mode : AddressingMode} {srb : FarPtr} {e : Srb.Exec}
  {range : Range} {r : Request} {s : State σ}

theorem statusFree_iff {a : Nat} : StatusFree (some ⟨srb, range⟩) a ↔
    a ≠ range.base + 1 ∧ a ≠ range.base + 24 ∧ a ≠ range.base + 25 := by
  unfold StatusFree Block.ShowsStatus
  have h1 : Srb.statusOffset = 1 := rfl
  have h24 : Srb.hostStatusOffset = 24 := rfl
  have h25 : Srb.targetStatusOffset = 25 := rfl
  constructor
  · intro h
    have := h _ rfl
    simpa [h1, h24, h25] using this
  · rintro h b ⟨⟩
    simpa [h1, h24, h25] using h

/-- Nothing that an execution depends on is in the block. -/
theorem execution_block_alike (m : Manager σ) (hb : BlockAt s.memory mode srb e range)
    (hd : r.DataApart s.memory mode range) :
    (m.execution mode r none s).Alike id none (some ⟨srb, range⟩) s s
      (m.execution mode r (some ⟨srb, range⟩) s) := by
  refine execution_alike (fun op _ => worksOn_id op) ?_ (by simp) ?_
  · refine ⟨rfl, rfl, rfl, rfl, fun _ w d a hw hwd ha => ⟨rfl, by simp [StatusFree], ?_⟩⟩
    exact statusFree_iff.mpr (hd w d a (Request.windows_ok_iff.mpr hw) hwd ha)
  · rintro b ⟨⟩
    exact hb.fits

/-- What is sent is executed. -/
theorem send_executed (m : Manager σ) (hb : BlockAt s.memory mode srb e range)
    (hr : r = e.requestIn s.memory srb range) (hp : postEntry? r = none) :
    ∃ es, (m.send mode srb).exec s =
      ((m.execution mode r (some ⟨srb, range⟩) s).outcome,
        s.executed (m.execution mode r (some ⟨srb, range⟩) s) es) := by
  subst hr
  have hfits : ∀ b, some (Block.mk srb range) = some b → b.Fits s.memory := by
    rintro b ⟨⟩
    exact hb.fits
  obtain ⟨es, hx⟩ := m.execute_exec mode hfits hp
  refine ⟨es, (m.send_exec hb m.routine).trans ?_⟩
  change (do return (← m.execute mode _ _).status : Run σ Status).exec s = _
  rw [Run.exec_bind, hx]
  generalize m.execution mode _ _ s = x
  cases hout : x.outcome with
  | error f => rfl
  | ok st => simp [Except.map, status_settle]

/-- A request that posts to no routine and has no status octet of its block in its data window comes
to the same when it is sent in the block and when it is handed over. -/
theorem send_agrees (m : Manager σ) (hb : BlockAt s.memory mode srb e range)
    (hr : r = e.requestIn s.memory srb range) (hp : postEntry? r = none)
    (hd : r.DataApart s.memory mode range) :
    ∃ o t u, (m.submit mode r).exec s = (o, t) ∧
      (m.send mode srb).exec s = (o.map Request.status, u) ∧ SameButStatus range t u ∧
      (∀ q, o = .ok q → u.memory.octet (range.base + 1) = q.status.toByte ∧
        u.memory.octet (range.base + 24) = q.hostStatus ∧
        u.memory.octet (range.base + 25) = q.targetStatus) ∧
      (m.host.Steady → ∃ q, o = .ok q) := by
  obtain ⟨es, hsubmit⟩ := m.submit_exec mode hp s
  obtain ⟨es', hsend⟩ := m.send_executed hb hr hp
  have halike := m.execution_block_alike hb hd
  have hshows : ∀ st, (m.execution mode r (some ⟨srb, range⟩) s).outcome = .ok st →
      (Block.mk srb range).Shows (m.execution mode r (some ⟨srb, range⟩) s).memory (r.settle st) :=
    fun st => execution_shows hb.fits
  have hsteady := fun hh : m.host.Steady => exists_status_execution hh mode r none s
  obtain ⟨hsize, htable⟩ := m.execution_frame mode r none s
  obtain ⟨hsize', htable'⟩ := m.execution_frame mode r (some ⟨srb, range⟩) s
  generalize m.execution mode r none s = x at *
  generalize m.execution mode r (some ⟨srb, range⟩) s = x' at *
  obtain ⟨hout, hworld, heff, ⟨d, hreg, hreg'⟩, hoctet⟩ := halike
  have heffects : s.effects ++ x.effects = s.effects ++ x'.effects := by rw [heff]
  refine ⟨x.outcome.map r.settle, s.executed x es, s.executed x' es', hsubmit, ?_, ?_, ?_, ?_⟩
  · rw [hsend, ← hout]
    cases x.outcome with
    | error f => rfl
    | ok st => simp [Except.map, status_settle]
  · refine ⟨heffects, hreg.trans hreg'.symm, hworld, rfl, hsize.trans hsize'.symm,
      htable.trans htable'.symm, fun a h1 h24 h25 => ?_⟩
    exact hoctet a (by simp [StatusFree]) (statusFree_iff.mpr ⟨h1, h24, h25⟩) rfl
  · intro q hq
    cases hst : x.outcome with
    | error f =>
      rw [hst] at hq
      cases hq
    | ok st =>
      rw [hst] at hq
      cases hq
      exact hshows st (hout.symm.trans hst)
  · intro hh
    obtain ⟨st, hst⟩ := hsteady hh
    exact ⟨r.settle st, by rw [hst]; rfl⟩

end Manager

/-- A block at `0000:0010` that reads 4 octets behind its end. -/
def tidyRead : Srb.Draft := (readyDraft.flags ⟨8⟩).data ⟨⟨0, 128⟩, 4⟩

/-- The device answers, and the block shows that its request is complete. -/
theorem tidy_read_agrees :
    let m := Manager.constant notedReply
    let s := State.initial ((Memory.zeroed 256).put 16 tidyRead.build)
    let r := tidyRead.header.requestIn s.memory ⟨0, 16⟩ ⟨16, 84⟩
    BlockAt s.memory .realMode ⟨0, 16⟩ tidyRead.header ⟨16, 84⟩ ∧
      Manager.postEntry? r = none ∧ r.DataApart s.memory .realMode ⟨16, 84⟩ ∧
      ∃ q t u, (m.submit .realMode r).exec s = (.ok q, t) ∧
        (m.send .realMode ⟨0, 16⟩).exec s = (.ok q.status, u) ∧ SameButStatus ⟨16, 84⟩ t u ∧
        u.memory.octet 17 = q.status.toByte := by
  intro m s r
  have hb : BlockAt s.memory .realMode ⟨0, 16⟩ tidyRead.header ⟨16, 84⟩ :=
    BlockAt.of_draft (by decide) rfl (by decide +kernel) rfl
  have hp : Manager.postEntry? r = none := by decide +kernel
  have hw : r.windows s.memory .realMode = .ok ⟨some ⟨128, 4⟩, some ⟨86, 14⟩⟩ := by decide +kernel
  have hd : r.DataApart s.memory .realMode ⟨16, 84⟩ := by
    intro w d a hw' hwd ha
    rw [hw] at hw'
    cases hw'
    cases hwd
    have hlow : 128 ≤ a := ha.1
    dsimp only
    omega
  obtain ⟨o, t, u, ht, hu, hsame, hshows, hsteady⟩ := m.send_agrees hb rfl hp hd
  obtain ⟨q, rfl⟩ := hsteady (Host.steady_constant _)
  exact ⟨hb, hp, hd, q, t, u, ht, hu, hsame, (hshows q rfl).1⟩

end AspiManager
