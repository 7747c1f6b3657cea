import AspiManager.Proofs.Locality

/-!
# What a device cannot learn

The only octets of the caller's memory that a request takes to its device are those of a data buffer
that moves there (`Request.outgoing`). `Manager.submit_noninterference` says it of two runs.

* Without a direction the data buffer is not looked at: another one in its place makes no difference
  (`execution_data`).
* With memories that hold the same for the device, its host cannot tell the runs apart up to the
  call of the post routine, and the routine is told the same (`execution_outgoing`, `due_outgoing`).
-/

namespace AspiManager

/-- Two states that differ in the octets of the memory, and in what was reported. -/
structure SameButOctets {σ : Type} (u v : State σ) : Prop where
  size : u.memory.size = v.memory.size
  table : u.memory.table = v.memory.table
  registry : u.registry = v.registry
  routines : u.routines = v.routines
  world : u.world = v.world
  effects : u.effects = v.effects

namespace Manager

variable {σ : Type} {m : Manager σ} {mode : AddressingMode} {r : Request} {s : State σ}
  {memory : Memory}

/-! ## Requests without a direction -/

theorem windows_data (h : r.direction.hasPayload = false) (b : Buffer) (memory : Memory)
    (mode : AddressingMode) :
    ({ r with data := b } : Request).windows memory mode = r.windows memory mode := by
  have hdir : ({ r with data := b } : Request).direction.hasPayload = false := h
  unfold Request.windows
  rw [h, hdir]
  rfl

theorem trip_data (h : r.direction.hasPayload = false) (b : Buffer) (m : Manager σ) (channel : Nat)
    (w : Windows Range) (memory : Memory) (world : σ) :
    m.trip channel { r with data := b } w memory world = m.trip channel r w memory world := by
  have hin : r.direction ≠ .input := fun hdir => by
    rw [hdir] at h
    cases h
  have hreply : ({ r with data := b } : Request).expectedReply = r.expectedReply := by
    rw [expectedReply_eq, expectedReply_eq, if_neg hin]
    exact if_neg hin
  have hlong : ({ r with data := b } : Request).TooLong ↔ r.TooLong := by
    unfold Request.TooLong
    rw [hreply]
  have hout : ({ r with data := b } : Request).outbound memory w = r.outbound memory w := by
    unfold Request.outbound
    rw [hreply]
    rfl
  unfold trip
  by_cases hl : r.TooLong
  · rw [if_pos hl, if_pos (hlong.mpr hl)]
  · rw [if_neg hl, if_neg (mt hlong.mp hl), hreply, hout]
    rfl

/-- The execution of a request without a direction does not depend on its data buffer. -/
theorem execution_data (h : r.direction.hasPayload = false) (b : Buffer) (m : Manager σ)
    (mode : AddressingMode) (s : State σ) :
    m.execution mode { r with data := b } none s = m.execution mode r none s := by
  unfold execution journey
  simp only [windows_data h, trip_data h]
  rfl

/-! ## Memories that hold the same for the device -/

/-- The states agree on what the request depends on. -/
theorem agree_of_outgoing (hs : memory.size = s.memory.size) (ht : memory.table = s.memory.table)
    (ho : r.direction = .output → r.outgoing memory mode = r.outgoing s.memory mode) :
    Agree mode r id none none s { s with memory := memory } where
  size := hs.symm
  table := ht.symm
  handle := rfl
  world := rfl
  data hdir w d a hw hd ha := by
    refine ⟨?_, by simp [StatusFree], by simp [StatusFree]⟩
    have hw' : r.Fits memory mode w :=
      Request.windows_ok_iff.mp ((windows_congr hs ht).trans (Request.windows_ok_iff.mpr hw))
    have hread := ho hdir
    rw [← payload_eq_outgoing hw, ← payload_eq_outgoing hw'] at hread
    unfold Memory.payload at hread
    rw [hdir, hd] at hread
    -- The address is one of those that both reads give.
    obtain ⟨i, rfl⟩ := Nat.exists_eq_add_of_le ha.1
    have hi : i < d.len := Nat.lt_of_add_lt_add_left ha.2
    have hoctet := congrArg (·.octet i) hread
    dsimp only at hoctet
    rw [Memory.octet_read, Memory.octet_read, if_pos hi, if_pos hi] at hoctet
    exact hoctet.symm

theorem execution_outgoing (hs : memory.size = s.memory.size) (ht : memory.table = s.memory.table)
    (ho : r.direction = .output → r.outgoing memory mode = r.outgoing s.memory mode) :
    (m.execution mode r none s).Alike id none none s { s with memory := memory }
      (m.execution mode r none { s with memory := memory }) :=
  execution_alike (fun op _ => worksOn_id op) (agree_of_outgoing hs ht ho) (by simp) (by simp)

/-- A request that was handed over is posted with the memory that its execution leaves. -/
theorem posting?_congr {st : Status} {n n' : Memory} (hs : n'.size = n.size)
    (ht : n'.table = n.table) (routines : Routines) :
    posting? mode (r.settle st) none n' routines =
      (posting? mode (r.settle st) none n routines).map fun q => { q with memory := n' } := by
  have hresolve := Memory.resolve_congr hs ht mode
  unfold posting? Memory.tell
  simp only [hresolve]
  cases postEntry? (r.settle st) with
  | none => rfl
  | some ptr =>
    cases hr : n.resolve mode ptr 1 with
    | error e => simp [hr, Except.toOption]
    | ok range => cases hn : routines.find? range.base <;> simp [hr, hn, Except.toOption]

theorem memory_of_posting? {n : Memory} {routines : Routines} {q : Posting}
    (h : posting? mode r none n routines = some q) : q.memory = n := by
  obtain ⟨ptr, range, -, -, -, ht, -⟩ := posting?_eq_some_iff.mp h
  exact (congrArg Prod.snd (Except.ok.inj ht)).symm

theorem memory_of_due {q : Posting} (h : m.due mode r none s = some q) :
    q.memory = (m.execution mode r none s).memory := by
  unfold due at h
  split at h
  · exact memory_of_posting? h
  · cases h

/-- What is due is due with the memory that the other execution leaves. -/
theorem due_outgoing (hs : memory.size = s.memory.size) (ht : memory.table = s.memory.table)
    (ho : r.direction = .output → r.outgoing memory mode = r.outgoing s.memory mode) :
    m.due mode r none { s with memory := memory } =
      (m.due mode r none s).map fun q =>
        { q with memory := (m.execution mode r none { s with memory := memory }).memory } := by
  have halike := execution_outgoing (m := m) hs ht ho
  obtain ⟨hsize, htable⟩ := m.execution_frame mode r none s
  obtain ⟨hsize', htable'⟩ := m.execution_frame mode r none { s with memory := memory }
  unfold due
  dsimp only
  rw [windows_congr hs ht, ← halike.outcome]
  split
  · refine posting?_congr ?_ ?_ s.routines
    · exact hsize'.trans (hs.trans hsize.symm)
    · exact htable'.trans (ht.trans htable.symm)
  · rfl

/-! ## Two runs -/

/-- Another data buffer makes no difference to a request that has no direction and is not posted.
For any request, octets of the memory make no difference to what is done and what the post routine
is told, if the request sends none of them: the memories hold the same in a data buffer that moves
to the device. -/
theorem submit_noninterference (m : Manager σ) (mode : AddressingMode) (r : Request)
    (s : State σ) :
    (r.direction = .both ∨ r.direction = .unchecked → postEntry? r = none → ∀ b,
      ∃ (o : Except Fault Status) (t : State σ) (es : Array Log.Event),
      (m.submit mode r).exec s = (o.map r.settle, t) ∧
      (m.submit mode { r with data := b }).exec s =
        (o.map { r with data := b }.settle, { t with events := es }) ∧
      (m.host.Steady → ∃ st, o = .ok st)) ∧
    ∀ memory : Memory, memory.size = s.memory.size → memory.table = s.memory.table →
      (r.direction = .output → r.outgoing memory mode = r.outgoing s.memory mode) → ∃ o u v p,
      (∀ f, ((m.withRoutines f).submit mode r).exec s = finish f o u p) ∧
      (∀ f, ((m.withRoutines f).submit mode r).exec { s with memory := memory } =
        finish f o v (p.map fun q => { q with memory := v.memory })) ∧
      SameButOctets u v ∧ (∀ q, p = some q → q.memory = u.memory) ∧
      ( postEntry? r = none → p = none) ∧ (m.host.Steady → ∃ q, o = .ok q) := by
  have hb : ∀ b, (none : Option Block) = some b → b.Fits s.memory := by simp
  have hsteady : m.host.Steady → ∃ st, (m.execution mode r none s).outcome = .ok st :=
    fun hh => exists_status_execution hh mode r none s
  refine ⟨fun hdir hp b => ?_, fun memory hs ht ho => ?_⟩
  · have hpayload : r.direction.hasPayload = false := by
      rcases hdir with h | h <;> rw [h] <;> rfl
    obtain ⟨es, hx⟩ := m.submit_exec mode hp s
    obtain ⟨es', hx'⟩ := m.submit_exec mode (r := { r with data := b }) hp s
    rw [execution_data hpayload] at hx'
    exact ⟨_, _, es', hx, hx', hsteady⟩
  · obtain ⟨es, hx⟩ := m.execute_finish (r := r) mode hb
    have hb' : ∀ b, (none : Option Block) = some b → b.Fits memory := by simp
    obtain ⟨es', hx'⟩ := m.execute_finish (r := r) (s := { s with memory := memory }) mode hb'
    obtain ⟨hout, hworld, heff, ⟨d, hreg, hreg'⟩, -⟩ := execution_outgoing (m := m) hs ht ho
    obtain ⟨hsize, htable⟩ := m.execution_frame mode r none s
    obtain ⟨hsize', htable'⟩ := m.execution_frame mode r none { s with memory := memory }
    rw [due_outgoing hs ht ho, ← hout] at hx'
    refine ⟨_, _, _, _, hx, hx', ⟨?_, ?_, ?_, rfl, hworld, ?_⟩, fun q => memory_of_due,
      due_of_not_posted, fun hh => ?_⟩
    · exact hsize.trans (hs.symm.trans hsize'.symm)
    · exact htable.trans (ht.symm.trans htable'.symm)
    · exact hreg.trans hreg'.symm
    · unfold State.executed
      rw [heff]
    · obtain ⟨st, hst⟩ := hsteady hh
      exact ⟨r.settle st, by rw [hst]; rfl⟩

end Manager

/-- A command that moves nothing, with a data buffer that names no range. -/
def idleCommand : Request := { shortRead with flags := ⟨0x18⟩, data := ⟨⟨0xFFFF, 0⟩, 4⟩ }

/-- A write of 4 octets. -/
def shortWrite : Request := { shortRead with flags := ⟨0x10⟩ }

/-- The idle command comes to the same with the buffer of the short read. The short write does the
same in two memories that hold the same 4 octets for it, and other octets elsewhere. -/
theorem short_write_noninterference :
    let m := Manager.constant (Bytes.zeros 40)
    let s := State.initial (.zeroed 256)
    let memory := (Memory.zeroed 256).put 64 [1, 2, 3]
    (∃ st t es, (m.submit .realMode idleCommand).exec s = (.ok (idleCommand.settle st), t) ∧
      (m.submit .realMode { idleCommand with data := shortRead.data }).exec s =
        (.ok ({ idleCommand with data := shortRead.data }.settle st), { t with events := es })) ∧
    ∃ q u v, (m.submit .realMode shortWrite).exec s = (.ok q, u) ∧
      (m.submit .realMode shortWrite).exec { s with memory := memory } = (.ok q, v) ∧
      SameButOctets u v ∧ memory ≠ s.memory := by
  intro m s memory
  have hh : m.host.Steady := Host.steady_constant _
  constructor
  · obtain ⟨o, t, es, hx, hx', hok⟩ := (m.submit_noninterference .realMode idleCommand s).1
      (by decide) (by decide) shortRead.data
    obtain ⟨st, rfl⟩ := hok hh
    exact ⟨st, t, es, hx, hx'⟩
  · obtain ⟨o, u, v, p, hx, hx', hsame, -, hp, hok⟩ :=
      (m.submit_noninterference .realMode shortWrite s).2 memory rfl rfl (by decide +kernel)
    obtain ⟨q, rfl⟩ := hok hh
    obtain rfl := hp (by decide)
    exact ⟨q, u, v, hx m.routine, hx' m.routine, hsame, by decide +kernel⟩

end AspiManager
