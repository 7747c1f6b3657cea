import AspiManager.Manager.Acquire
import AspiManager.Manager.Exchange
import AspiManager.Proofs.Run

/-!
# Acquisition and exchange

What the two steps that reach the host come to, as functions of the registry and of the host's
state. Everything that is reported on the way is left out: a run is stated up to its events.

* `Manager.acquisition` and `acquire_exec`: the handle that is kept, or the one that is opened.
* `Host.converse` and `exchange_exec`: one write, and one read if the channel took all.
-/

namespace AspiManager

/-! ## Acquisition -/

/-- What acquiring a device comes to. -/
structure Acquisition (σ : Type) where
  outcome : Except RequestError Handle
  registry : Registry
  world : σ
  effects : List Effect

/-- The state in which an acquisition leaves a run that has reported `es` by then. -/
def State.acquired {σ : Type} (s : State σ) (a : Acquisition σ) (es : Array Log.Event) : State σ :=
  { s with registry := a.registry, world := a.world, events := es
           effects := s.effects ++ a.effects }

namespace Manager

variable {σ : Type}

/-- The acquisition of a device with a registry and a host in a given state. -/
def acquisition (m : Manager σ) (key : DeviceKey) (g : Registry) (w : σ) : Acquisition σ :=
  match g.find? key with
  | some handle => ⟨.ok handle, g.hit, w, []⟩
  | none =>
    match m.directory key with
    | none => ⟨.error (.missing key .unlisted), g.miss, w, []⟩
    | some path =>
      match m.host.openNode path w with
      | (.error e, w) => ⟨.error (.missing key (.unopened path e)), g.miss.countOpen, w,
          [.opened path]⟩
      | (.ok channel, w) =>
        let handle : Handle := ⟨key, path, channel⟩
        ⟨.ok handle, g.miss.countOpen.insert handle, w, [.opened path]⟩

theorem openDevice_exec (m : Manager σ) (key : DeviceKey) (path : String) (s : State σ) :
    ∃ es, (m.openDevice key path).exec s =
      match m.host.openNode path s.world with
      | (.error e, w) =>
        (.ok (.error (.missing key (.unopened path e))),
          { s with registry := s.registry.countOpen, world := w, events := es
                   effects := s.effects ++ [Effect.opened path] })
      | (.ok channel, w) =>
        (.ok (.ok ⟨key, path, channel⟩),
          { s with registry := s.registry.countOpen.insert ⟨key, path, channel⟩, world := w
                   events := es, effects := s.effects ++ [Effect.opened path] }) := by
  unfold openDevice
  simp only [Run.exec_bind, Run.exec_report, Run.exec_get, Run.exec_setRegistry, Run.exec_record,
    Run.exec_host]
  rcases m.host.openNode path s.world with ⟨_ | _, w⟩
  · exact ⟨_, rfl⟩
  · exact ⟨_, rfl⟩

/-- A run of `acquire` comes to the acquisition. -/
theorem acquire_exec (m : Manager σ) (key : DeviceKey) (s : State σ) :
    ∃ es, (m.acquire key).exec s =
      (.ok (m.acquisition key s.registry s.world).outcome,
        s.acquired (m.acquisition key s.registry s.world) es) := by
  unfold acquire acquisition State.acquired
  rw [Run.exec_bind_ok (Run.exec_get s)]
  dsimp only
  cases s.registry.find? key with
  | some handle => exact ⟨_, rfl⟩
  | none =>
    simp only [Run.exec_bind, Run.exec_setRegistry]
    cases m.directory key with
    | none => exact ⟨_, rfl⟩
    | some path =>
      obtain ⟨es, h⟩ := m.openDevice_exec key path { s with registry := s.registry.miss }
      refine ⟨es, h.trans ?_⟩
      dsimp only
      rcases m.host.openNode path s.world with ⟨_ | _, w⟩ <;> rfl

end Manager

/-! ## Exchange -/

/-- What an exchange comes to: on success, the octets that the reader has then. -/
structure Conversation (σ : Type) where
  outcome : Except Fault (Except TransferError Bytes)
  world : σ
  effects : List Effect

namespace Host

variable {σ : Type}

/-- What the read of a reply of `count` octets comes to. -/
def listen (h : Host σ) (channel count : Nat) (w : σ) : Conversation σ :=
  match h.read channel count w with
  | (.crashed, w) => ⟨.error .device, w, [.asked channel count]⟩
  | (.failed e, w) => ⟨.ok (.error (.io e)), w, [.asked channel count]⟩
  | (.done (n, octets), w) =>
    ⟨.ok (if n = count then .ok (Bytes.fit count octets) else .error (.shortRead count n)), w,
      [.asked channel count]⟩

/-- What the write of a message and the read of a reply of `count` octets come to. -/
def converse (h : Host σ) (channel : Nat) (octets : Bytes) (count : Nat) (w : σ) :
    Conversation σ :=
  match h.write channel octets w with
  | (.crashed, w) => ⟨.error .device, w, [.wrote channel octets]⟩
  | (.failed e, w) => ⟨.ok (.error (.io e)), w, [.wrote channel octets]⟩
  | (.done n, w) =>
    if n = octets.length then
      let c := h.listen channel count w
      { c with effects := .wrote channel octets :: c.effects }
    else ⟨.ok (.error (.shortWrite octets.length n)), w, [.wrote channel octets]⟩

variable {h : Host σ} {channel count : Nat} {octets raw : Bytes} {w : σ}

theorem read_of_listen (hl : (h.listen channel count w).outcome = .ok (.ok raw)) :
    ∃ bs w', h.read channel count w = (.done (count, bs), w') ∧ raw = Bytes.fit count bs := by
  unfold listen at hl
  rcases hr : h.read channel count w with ⟨⟨n, bs⟩ | e | _, w'⟩ <;> rw [hr] at hl <;>
    dsimp only at hl
  · by_cases hn : n = count
    · rw [if_pos hn] at hl
      cases hl
      exact ⟨bs, w', by rw [hn], rfl⟩
    · rw [if_neg hn] at hl
      cases hl
  · cases hl
  · cases hl

/-- A conversation that gives octets was a full write and a full read. -/
theorem answers_of_converse (hc : (h.converse channel octets count w).outcome = .ok (.ok raw)) :
    ∃ w' bs w'', h.write channel octets w = (.done octets.length, w') ∧
      h.read channel count w' = (.done (count, bs), w'') ∧ raw = Bytes.fit count bs := by
  unfold converse at hc
  rcases hw : h.write channel octets w with ⟨n | e | _, w'⟩ <;> rw [hw] at hc <;>
    dsimp only at hc
  · by_cases hn : n = octets.length
    · rw [if_pos hn] at hc
      obtain ⟨bs, w'', hr, hraw⟩ := read_of_listen hc
      exact ⟨w', bs, w'', by rw [hn], hr, hraw⟩
    · rw [if_neg hn] at hc
      cases hc
  · cases hc
  · cases hc

end Host

namespace Sg

/-- The header in the first octets of a reply. -/
def Header.ofOctets (bs : Bytes) : Header :=
  { packLen := bs.int32 0, replyLen := bs.int32 4, packId := bs.int32 8, result := bs.int32 12
    flags := bs.word32 16, sense := bs.field 16 20 }

/-- The reply in octets that hold a header. -/
def Reply.ofOctets (bs : Bytes) : Reply := ⟨.ofOctets bs, bs.drop Header.length⟩

theorem Reply.parse?_eq {bs : Bytes} (h : Header.length ≤ bs.length) :
    Reply.parse? bs = some (.ofOctets bs) := by
  unfold Reply.parse? Header.parse?
  rw [if_neg (Nat.not_lt.mpr h)]
  rfl

end Sg

namespace Manager

variable {σ : Type}

theorem collect_exec (m : Manager σ) (channel : Nat) {expected : Nat}
    (hx : Sg.Header.length ≤ expected) (s : State σ) :
    ∃ es, (m.collect channel expected).exec s =
      ((m.host.listen channel expected s.world).outcome.map (·.map Sg.Reply.ofOctets),
        { s with world := (m.host.listen channel expected s.world).world
                 events := es
                 effects := s.effects ++ (m.host.listen channel expected s.world).effects }) := by
  unfold collect Host.listen
  rw [Nat.max_eq_left hx]
  simp only [Run.exec_bind, Run.exec_record, Run.exec_host]
  rcases m.host.read channel expected s.world with ⟨⟨n, octets⟩ | e | _, w⟩
  · dsimp only
    by_cases hn : n = expected
    · have hl : Sg.Header.length ≤ (Bytes.fit expected octets).length := by
        rw [Bytes.length_fit]; exact hx
      rw [if_pos hn, if_pos hn, Sg.Reply.parse?_eq hl]
      exact ⟨_, rfl⟩
    · rw [if_neg hn, if_neg hn]
      exact ⟨_, rfl⟩
  · exact ⟨_, rfl⟩
  · exact ⟨_, rfl⟩

/-- A run of `exchange` comes to the conversation. -/
theorem exchange_exec (m : Manager σ) (channel : Nat) (message : Sg.Message) {expected : Nat}
    (hx : Sg.Header.length ≤ expected) (s : State σ) :
    ∃ es, (m.exchange channel message expected).exec s =
      ((m.host.converse channel message.octets expected s.world).outcome.map
          (·.map Sg.Reply.ofOctets),
        { s with
          world := (m.host.converse channel message.octets expected s.world).world
          events := es
          effects := s.effects ++
            (m.host.converse channel message.octets expected s.world).effects }) := by
  unfold exchange offer Host.converse
  simp only [Run.exec_bind, Run.exec_record, Run.exec_host]
  rcases m.host.write channel message.octets s.world with ⟨n | e | _, w⟩
  · dsimp only
    have hlen : message.octets.length = message.length := rfl
    by_cases hn : n = message.length
    · rw [hlen, if_pos hn, if_pos hn]
      obtain ⟨es, h⟩ := m.collect_exec channel hx
        { s with effects := s.effects.push (.wrote channel message.octets), world := w }
      refine ⟨es, h.trans ?_⟩
      simp
    · rw [hlen, if_neg hn, if_neg hn]
      exact ⟨_, rfl⟩
  · exact ⟨_, rfl⟩
  · exact ⟨_, rfl⟩

end Manager

end AspiManager
