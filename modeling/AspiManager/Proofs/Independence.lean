import AspiManager.Proofs.Locality
import Mathlib.Data.List.Basic
import Mathlib.Logic.Function.Basic

/-!
# Requests that commute

Two requests for different devices can be handed over in either order if they have nothing in common:
each device is in a part of the host's state that the other is beside, they have channels of their
own, and no window of one shares an address with a window of the other. `Manager.submit_comm` says
what the order leaves as it is.

Each execution is compared with the one that the same request would have come to first
(`execution_alike`): what the other one did is none of what it depends on (`Independent.agree`).
-/

namespace AspiManager

/-- No address lies in a window of both. -/
def Windows.Apart (w w' : Windows Range) : Prop := ∀ a, w.Contains a → ¬ w'.Contains a

/-- The handles of two registries are the same up to their order, and so are the counters. -/
structure Registry.SameButOrder (g g' : Registry) : Prop where
  handles : g.handles.Perm g'.handles
  opens : g.opens = g'.opens
  hits : g.hits = g'.hits
  misses : g.misses = g'.misses

theorem Registry.plus_comm (g d d' : Registry) :
    ((g.plus d).plus d').SameButOrder ((g.plus d').plus d) where
  handles := by
    unfold plus
    exact List.perm_append_comm_assoc d'.handles d.handles g.handles
  opens := Nat.add_right_comm ..
  hits := Nat.add_right_comm ..
  misses := Nat.add_right_comm ..

/-- Two states that differ in what was reported, in the order of the handles, in the order in which
channels were used, and in the state of the host. -/
structure SameButOrder {σ : Type} (u v : State σ) : Prop where
  memory : u.memory = v.memory
  registry : u.registry.SameButOrder v.registry
  routines : u.routines = v.routines
  /-- Each channel was offered the same messages in the same order. -/
  offered : ∀ channel, u.effects.toList.filterMap (Effect.offered channel) =
    v.effects.toList.filterMap (Effect.offered channel)

namespace Manager

variable {σ α β : Type}

/-- In a state two requests have nothing in common: each device is in a part of the host's state
that the other is beside. -/
structure Independent (m : Manager σ) (s : State σ) (mode₁ : AddressingMode) (r₁ : Request)
    (mode₂ : AddressingMode) (r₂ : Request) (part₁ : σ → α) (part₂ : σ → β) : Prop where
  keys : r₁.key ≠ r₂.key
  within₁ : m.Within s r₁.key part₁
  beside₁ : m.Beside s r₁.key part₂
  within₂ : m.Within s r₂.key part₂
  beside₂ : m.Beside s r₂.key part₁
  channels : ∀ h₁ h₂, (m.acquisition r₁.key s.registry s.world).outcome = .ok h₁ →
    (m.acquisition r₂.key s.registry s.world).outcome = .ok h₂ → h₁.channel ≠ h₂.channel
  windows : ∀ w₁ w₂, r₁.windows s.memory mode₁ = .ok w₁ → r₂.windows s.memory mode₂ = .ok w₂ →
    w₁.Apart w₂

variable {m : Manager σ} {s : State σ} {mode₁ mode₂ : AddressingMode} {r₁ r₂ : Request}
  {part₁ : σ → α} {part₂ : σ → β}

/-- The execution of a second request after a first, whose run has reported `es` by then. -/
def second (m : Manager σ) (mode₁ : AddressingMode) (r₁ : Request) (es : Array Log.Event)
    (mode₂ : AddressingMode) (r₂ : Request) (s : State σ) : Execution σ :=
  m.execution mode₂ r₂ none (s.executed (m.execution mode₁ r₁ none s) es)

namespace Independent

theorem symm (h : m.Independent s mode₁ r₁ mode₂ r₂ part₁ part₂) :
    m.Independent s mode₂ r₂ mode₁ r₁ part₂ part₁ where
  keys := h.keys.symm
  within₁ := h.within₂
  beside₁ := h.beside₂
  within₂ := h.within₁
  beside₂ := h.beside₁
  channels h₂ h₁ ha₂ ha₁ := (h.channels h₁ h₂ ha₁ ha₂).symm
  windows w₂ w₁ hw₂ hw₁ a ha₂ ha₁ := h.windows w₁ w₂ hw₁ hw₂ a ha₁ ha₂

/-- What the first does is none of what the second depends on. -/
theorem agree (h : m.Independent s mode₁ r₁ mode₂ r₂ part₁ part₂) (es : Array Log.Event) :
    Agree mode₂ r₂ part₂ none none s (s.executed (m.execution mode₁ r₁ none s) es) where
  size := (m.execution_frame mode₁ r₁ none s).1.symm
  table := (m.execution_frame mode₁ r₁ none s).2.symm
  handle := (m.find?_execution mode₁ none s h.keys).symm
  world := (execution_spares h.beside₁ mode₁ none).symm
  data _ w d a hw hd ha := by
    refine ⟨(octet_execution fun w₁ hw₁ ha₁ => ?_).symm, by simp [StatusFree], by simp [StatusFree]⟩
    exact h.windows w₁ w hw₁ (Request.windows_ok_iff.mpr hw) a ha₁ (.inl ⟨d, hd, ha⟩)

/-- The second comes to the same after the first. -/
theorem alike (h : m.Independent s mode₁ r₁ mode₂ r₂ part₁ part₂) (es : Array Log.Event) :
    (m.execution mode₂ r₂ none s).Alike part₂ none none s
      (s.executed (m.execution mode₁ r₁ none s) es) (m.second mode₁ r₁ es mode₂ r₂ s) :=
  execution_alike h.within₂ (h.agree es) (by simp) (by simp)

/-- Outside its windows the second leaves what the first left. -/
theorem octet_second (h : m.Independent s mode₁ r₁ mode₂ r₂ part₁ part₂) (es : Array Log.Event)
    {a : Nat} (ha : ∀ w, r₂.windows s.memory mode₂ = .ok w → ¬ w.Contains a) :
    (m.second mode₁ r₁ es mode₂ r₂ s).memory.octet a =
      (m.execution mode₁ r₁ none s).memory.octet a := by
  have hagree := h.agree es
  refine octet_execution fun w hw => ha w ?_
  rw [windows_congr hagree.size hagree.table]
  exact hw

/-- The octets are the same in both orders. An address in a window of the first is left alone by
the second, and every other address by the first. -/
theorem octet_comm (h : m.Independent s mode₁ r₁ mode₂ r₂ part₁ part₂) (es es' : Array Log.Event)
    (a : Nat) : (m.second mode₁ r₁ es mode₂ r₂ s).memory.octet a =
      (m.second mode₂ r₂ es' mode₁ r₁ s).memory.octet a := by
  have hfree : StatusFree none a := by simp [StatusFree]
  by_cases ha : ∃ w, r₁.windows s.memory mode₁ = .ok w ∧ w.Contains a
  · obtain ⟨w₁, hw₁, ha₁⟩ := ha
    have hnot : ∀ w, r₂.windows s.memory mode₂ = .ok w → ¬ w.Contains a :=
      fun w₂ hw₂ => h.windows w₁ w₂ hw₁ hw₂ a ha₁
    have hsame := octet_execution (m := m) hnot
    calc (m.second mode₁ r₁ es mode₂ r₂ s).memory.octet a
        = (m.execution mode₁ r₁ none s).memory.octet a := h.octet_second es hnot
      _ = (m.second mode₂ r₂ es' mode₁ r₁ s).memory.octet a :=
        (h.symm.alike es').octet a hfree hfree hsame.symm
  · have hnot : ∀ w, r₁.windows s.memory mode₁ = .ok w → ¬ w.Contains a :=
      fun w hw hc => ha ⟨w, hw, hc⟩
    have hsame := octet_execution (m := m) hnot
    calc (m.second mode₁ r₁ es mode₂ r₂ s).memory.octet a
        = (m.execution mode₂ r₂ none s).memory.octet a :=
          ((h.alike es).octet a hfree hfree hsame.symm).symm
      _ = (m.second mode₂ r₂ es' mode₁ r₁ s).memory.octet a := (h.symm.octet_second es' hnot).symm

theorem memory_comm (h : m.Independent s mode₁ r₁ mode₂ r₂ part₁ part₂)
    (es es' : Array Log.Event) :
    (m.second mode₁ r₁ es mode₂ r₂ s).memory = (m.second mode₂ r₂ es' mode₁ r₁ s).memory := by
  obtain ⟨hsize₁, htable₁⟩ := m.execution_frame mode₁ r₁ none s
  obtain ⟨hsize₂, htable₂⟩ := m.execution_frame mode₂ r₂ none s
  obtain ⟨hsize₁₂, htable₁₂⟩ := m.execution_frame mode₂ r₂ none
    (s.executed (m.execution mode₁ r₁ none s) es)
  obtain ⟨hsize₂₁, htable₂₁⟩ := m.execution_frame mode₁ r₁ none
    (s.executed (m.execution mode₂ r₂ none s) es')
  refine Memory.ext_octet ?_ ?_ (h.octet_comm es es')
  · exact (hsize₁₂.trans hsize₁).trans (hsize₂₁.trans hsize₂).symm
  · exact (htable₁₂.trans htable₁).trans (htable₂₁.trans htable₂).symm

/-- A channel that one of them uses is not used by the other. -/
theorem offered_comm (h : m.Independent s mode₁ r₁ mode₂ r₂ part₁ part₂) (channel : Nat) :
    (m.execution mode₁ r₁ none s).effects.filterMap (Effect.offered channel) ++
        (m.execution mode₂ r₂ none s).effects.filterMap (Effect.offered channel) =
      (m.execution mode₂ r₂ none s).effects.filterMap (Effect.offered channel) ++
        (m.execution mode₁ r₁ none s).effects.filterMap (Effect.offered channel) := by
  rcases m.offered_execution mode₁ r₁ none s channel with h₁ | ⟨handle₁, ha₁, hc₁⟩
  · rw [h₁, List.nil_append, List.append_nil]
  rcases m.offered_execution mode₂ r₂ none s channel with h₂ | ⟨handle₂, ha₂, hc₂⟩
  · rw [h₂, List.nil_append, List.append_nil]
  · exact absurd (hc₁.trans hc₂.symm) (h.channels handle₁ handle₂ ha₁ ha₂)

/-- The states in which the two orders end. -/
theorem sameButOrder (h : m.Independent s mode₁ r₁ mode₂ r₂ part₁ part₂)
    (es₁ es₂ es es' : Array Log.Event) :
    SameButOrder
      ((s.executed (m.execution mode₁ r₁ none s) es₁).executed
        (m.second mode₁ r₁ es₁ mode₂ r₂ s) es)
      ((s.executed (m.execution mode₂ r₂ none s) es₂).executed
        (m.second mode₂ r₂ es₂ mode₁ r₁ s) es') := by
  obtain ⟨-, -, heff₂, ⟨d₂, hreg₂, hreg₁₂⟩, -⟩ := h.alike es₁
  obtain ⟨-, -, heff₁, ⟨d₁, hreg₁, hreg₂₁⟩, -⟩ := h.symm.alike es₂
  refine ⟨h.memory_comm es₁ es₂, ?_, rfl, fun channel => ?_⟩
  · have hu := hreg₁₂.trans (congrArg (Registry.plus · d₂) hreg₁)
    have hv := hreg₂₁.trans (congrArg (Registry.plus · d₁) hreg₂)
    unfold State.executed at hu hv ⊢
    rw [hu, hv]
    exact Registry.plus_comm s.registry d₁ d₂
  · have hcomm := h.offered_comm channel
    unfold State.executed
    rw [← heff₁, ← heff₂]
    simp only [Array.toList_appendList, List.filterMap_append, List.append_assoc, hcomm]

end Independent

theorem submit_second (m : Manager σ) (mode₁ : AddressingMode) (r₁ : Request)
    (es₁ : Array Log.Event) (mode₂ : AddressingMode) (hp₂ : postEntry? r₂ = none) (s : State σ) :
    ∃ es, (m.submit mode₂ r₂).exec (s.executed (m.execution mode₁ r₁ none s) es₁) =
      ((m.second mode₁ r₁ es₁ mode₂ r₂ s).outcome.map r₂.settle,
        (s.executed (m.execution mode₁ r₁ none s) es₁).executed
          (m.second mode₁ r₁ es₁ mode₂ r₂ s) es) :=
  m.submit_exec mode₂ hp₂ _

/-- Two requests that post to no routine and have nothing in common can be handed over in either
order. Each gets the same statuses, and the states differ as `SameButOrder` says. -/
theorem submit_comm (h : m.Independent s mode₁ r₁ mode₂ r₂ part₁ part₂)
    (hp₁ : postEntry? r₁ = none) (hp₂ : postEntry? r₂ = none) :
    ∃ o₁ o₂ t₁ t₂ u v,
      (m.submit mode₁ r₁).exec s = (o₁, t₁) ∧ (m.submit mode₂ r₂).exec t₁ = (o₂, u) ∧
      (m.submit mode₂ r₂).exec s = (o₂, t₂) ∧ (m.submit mode₁ r₁).exec t₂ = (o₁, v) ∧
      SameButOrder u v ∧ (m.host.Steady → (∃ q, o₁ = .ok q) ∧ ∃ q, o₂ = .ok q) := by
  obtain ⟨es₁, hx₁⟩ := m.submit_exec mode₁ hp₁ s
  obtain ⟨es₂, hx₂⟩ := m.submit_exec mode₂ hp₂ s
  obtain ⟨es, hx₁₂⟩ := m.submit_second mode₁ r₁ es₁ mode₂ hp₂ s
  obtain ⟨es', hx₂₁⟩ := m.submit_second mode₂ r₂ es₂ mode₁ hp₁ s
  rw [← (h.alike es₁).outcome] at hx₁₂
  rw [← (h.symm.alike es₂).outcome] at hx₂₁
  refine ⟨_, _, _, _, _, _, hx₁, hx₁₂, hx₂, hx₂₁, h.sameButOrder es₁ es₂ es es', fun hh => ?_⟩
  obtain ⟨st₁, hst₁⟩ := exists_status_execution hh mode₁ r₁ none s
  obtain ⟨st₂, hst₂⟩ := exists_status_execution hh mode₂ r₂ none s
  exact ⟨⟨r₁.settle st₁, by rw [hst₁]; rfl⟩, ⟨r₂.settle st₂, by rw [hst₂]; rfl⟩⟩

end Manager

/-! ## Channels with states of their own -/

section

variable {τ α : Type} {c c' : Nat}

/-- An operation on the state of one channel. -/
def onChannel (c : Nat) (f : τ → α × τ) (w : Nat → τ) : α × (Nat → τ) :=
  ((f (w c)).1, Function.update w c (f (w c)).2)

theorem worksOn_onChannel (c : Nat) (f : τ → α × τ) : WorksOn (onChannel c f) (· c) := by
  intro w w' h
  have hc : w c = w' c := h
  unfold onChannel
  simp [hc]

theorem spares_onChannel (hne : c ≠ c') (f : τ → α × τ) : Spares (onChannel c f) (· c') := by
  intro w
  exact Function.update_of_ne hne.symm (f (w c)).2 w

/-- A host whose nodes open alike at any time, and whose channels have states of their own. -/
def Host.separate (nodes : String → Except IoError Nat) (write : Nat → Bytes → τ → Answer Nat × τ)
    (read : Nat → Nat → τ → Answer (Nat × Bytes) × τ) : Host (Nat → τ) where
  openNode path w := (nodes path, w)
  write channel octets := onChannel channel (write channel octets)
  read channel count := onChannel channel (read channel count)

namespace Manager

variable {nodes : String → Except IoError Nat} {write : Nat → Bytes → τ → Answer Nat × τ}
  {read : Nat → Nat → τ → Answer (Nat × Bytes) × τ} {m : Manager (Nat → τ)} {s : State (Nat → τ)}
  {key : DeviceKey}

theorem within_separate (hm : m.host = .separate nodes write read)
    (hc : ∀ handle, (m.acquisition key s.registry s.world).outcome = .ok handle →
      handle.channel = c) : m.Within s key (· c) := by
  intro α op hop
  cases hop with
  | opening hf hd =>
    rw [hm]
    exact fun w w' h => ⟨rfl, h⟩
  | writing ha octets =>
    rw [hm, hc _ ha]
    exact worksOn_onChannel c _
  | reading ha count =>
    rw [hm, hc _ ha]
    exact worksOn_onChannel c _

theorem beside_separate (hm : m.host = .separate nodes write read) (hne : c ≠ c')
    (hc : ∀ handle, (m.acquisition key s.registry s.world).outcome = .ok handle →
      handle.channel = c) : m.Beside s key (· c') := by
  intro α op hop
  cases hop with
  | opening hf hd =>
    rw [hm]
    exact fun w => rfl
  | writing ha octets =>
    rw [hm, hc _ ha]
    exact spares_onChannel hne _
  | reading ha count =>
    rw [hm, hc _ ha]
    exact spares_onChannel hne _

/-- With such a host it is enough that the devices are acquired with different channels. -/
theorem independent_of_separate {mode₁ mode₂ : AddressingMode} {r₁ r₂ : Request}
    (hm : m.host = .separate nodes write read) (hkeys : r₁.key ≠ r₂.key) (hne : c ≠ c')
    (hc : ∀ handle, (m.acquisition r₁.key s.registry s.world).outcome = .ok handle →
      handle.channel = c)
    (hc' : ∀ handle, (m.acquisition r₂.key s.registry s.world).outcome = .ok handle →
      handle.channel = c')
    (hw : ∀ w₁ w₂, r₁.windows s.memory mode₁ = .ok w₁ → r₂.windows s.memory mode₂ = .ok w₂ →
      w₁.Apart w₂) : m.Independent s mode₁ r₁ mode₂ r₂ (· c) (· c') where
  keys := hkeys
  within₁ := within_separate hm hc
  beside₁ := beside_separate hm hne hc
  within₂ := within_separate hm hc'
  beside₂ := beside_separate hm hne.symm hc'
  channels h₁ h₂ ha₁ ha₂ := by rwa [hc h₁ ha₁, hc' h₂ ha₂]
  windows := hw

/-- A manager of two devices. Each counts the messages that it got, and gives the count for data. -/
def counting : Manager (Nat → Nat) where
  host := .separate (fun path => .ok (if path = "/dev/sg2" then 2 else 3))
    (fun _ octets n => (.done octets.length, n + 1))
    (fun _ count n => (.done (count, Bytes.zeros 36 ++ [UInt8.ofNat n]), n))
  directory key := some (if key.target = 2 then "/dev/sg2" else "/dev/sg3")
  adapter := {}
  routine _ _ := pure ()

end Manager

end

/-- A read from the other device, into windows behind those of the short read. -/
def otherRead : Request :=
  { shortRead with target := 3, data := ⟨⟨0, 0x40⟩, 4⟩, sense := ⟨⟨0, 0x44⟩, 16⟩ }

/-- The two reads can be handed over in either order. -/
theorem short_reads_comm :
    let m := Manager.counting
    let s : State (Nat → Nat) := { memory := .zeroed 256, world := fun _ => 0 }
    m.Independent s .realMode shortRead .realMode otherRead (· 2) (· 3) ∧
      Manager.postEntry? shortRead = none ∧ Manager.postEntry? otherRead = none ∧
      ∃ q₁ q₂ t₁ t₂ u v,
        (m.submit .realMode shortRead).exec s = (.ok q₁, t₁) ∧
        (m.submit .realMode otherRead).exec t₁ = (.ok q₂, u) ∧
        (m.submit .realMode otherRead).exec s = (.ok q₂, t₂) ∧
        (m.submit .realMode shortRead).exec t₂ = (.ok q₁, v) ∧ SameButOrder u v := by
  intro m s
  have hw₁ : shortRead.windows s.memory .realMode = .ok ⟨some ⟨16, 4⟩, some ⟨20, 16⟩⟩ := by
    decide +kernel
  have hw₂ : otherRead.windows s.memory .realMode = .ok ⟨some ⟨64, 4⟩, some ⟨68, 16⟩⟩ := by
    decide +kernel
  have h : m.Independent s .realMode shortRead .realMode otherRead (· 2) (· 3) := by
    refine Manager.independent_of_separate rfl (by decide) (by decide) ?_ ?_ ?_
    · rintro handle ⟨⟩
      rfl
    · rintro handle ⟨⟩
      rfl
    · intro w₁ w₂ h₁ h₂ a ha₁ ha₂
      rw [hw₁] at h₁
      rw [hw₂] at h₂
      cases h₁
      cases h₂
      simp [Windows.Contains, Range.Contains, Range.stop] at ha₁ ha₂
      omega
  have hsteady : m.host.Steady := by
    refine ⟨fun _ _ _ hc => ?_, fun _ _ _ hc => ?_⟩ <;> cases hc
  have hp₁ : Manager.postEntry? shortRead = none := by decide
  have hp₂ : Manager.postEntry? otherRead = none := by decide
  obtain ⟨o₁, o₂, t₁, t₂, u, v, hx₁, hx₁₂, hx₂, hx₂₁, hsame, hok⟩ := Manager.submit_comm h hp₁ hp₂
  obtain ⟨⟨q₁, rfl⟩, q₂, rfl⟩ := hok hsteady
  exact ⟨h, hp₁, hp₂, q₁, q₂, t₁, t₂, u, v, hx₁, hx₁₂, hx₂, hx₂₁, hsame⟩

end AspiManager
