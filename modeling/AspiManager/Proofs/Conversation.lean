import AspiManager.Proofs.Messages
import AspiManager.Proofs.Transfer

/-!
# Exchanges with any device

A device may take fewer or more octets than it was offered, give fewer or more than it was asked
for, or fail. `Host.Exchanges` lists what an exchange comes to in each case, by the answers to its
one write and, if this took the whole message, its one read. `Manager.exchange_outcome` says that an
exchange comes to that, whatever length of the reply is expected.
-/

namespace AspiManager

namespace Host

variable {σ : Type}

/-- What an exchange of a message for a reply of `count` octets comes to: its outcome, the state
that it leaves the host in, and what was done. -/
inductive Exchanges (h : Host σ) (channel : Nat) (octets : Bytes) (count : Nat) (w : σ) :
    Except Fault (Except TransferError Sg.Reply) → σ → List Effect → Prop
  /-- The device breaks down while it is written to. -/
  | writeCrashed {w' : σ} (hw : h.write channel octets w = (.crashed, w')) :
    Exchanges h channel octets count w (.error .device) w' [.wrote channel octets]
  /-- The write fails: nothing is read. -/
  | writeFailed {e : IoError} {w' : σ} (hw : h.write channel octets w = (.failed e, w')) :
    Exchanges h channel octets count w (.ok (.error (.io e))) w' [.wrote channel octets]
  /-- The device takes another number of octets than the message has: nothing is read. -/
  | shortWrite {n : Nat} {w' : σ} (hw : h.write channel octets w = (.done n, w'))
    (hn : n ≠ octets.length) :
    Exchanges h channel octets count w (.ok (.error (.shortWrite octets.length n))) w'
      [.wrote channel octets]
  /-- The device breaks down while it is read from. -/
  | readCrashed {w' w'' : σ} (hw : h.write channel octets w = (.done octets.length, w'))
    (hr : h.read channel count w' = (.crashed, w'')) :
    Exchanges h channel octets count w (.error .device) w''
      [.wrote channel octets, .asked channel count]
  /-- The read fails. -/
  | readFailed {e : IoError} {w' w'' : σ}
    (hw : h.write channel octets w = (.done octets.length, w'))
    (hr : h.read channel count w' = (.failed e, w'')) :
    Exchanges h channel octets count w (.ok (.error (.io e))) w''
      [.wrote channel octets, .asked channel count]
  /-- The device gives another number of octets than it was asked for. -/
  | shortRead {n : Nat} {given : Bytes} {w' w'' : σ}
    (hw : h.write channel octets w = (.done octets.length, w'))
    (hr : h.read channel count w' = (.done (n, given), w'')) (hn : n ≠ count) :
    Exchanges h channel octets count w (.ok (.error (.shortRead count n))) w''
      [.wrote channel octets, .asked channel count]
  /-- The device gives a reply: its octets are the `count` zeros of the reader with what the device
  gave laid over them. -/
  | replied {given : Bytes} {reply : Sg.Reply} {w' w'' : σ}
    (hw : h.write channel octets w = (.done octets.length, w'))
    (hr : h.read channel count w' = (.done (count, given), w''))
    (hb : reply.toBytes = Bytes.fit count given) (hp : reply.payload.length + 36 = count) :
    Exchanges h channel octets count w (.ok (.ok reply)) w''
      [.wrote channel octets, .asked channel count]

end Host

namespace Sg.Reply

/-- Octets that have room for a header are those of a reply. -/
theorem toBytes_ofOctets {bs : Bytes} (h : Header.length ≤ bs.length) : (ofOctets bs).toBytes = bs :=
  parse?_eq_some_iff.mp (parse?_eq h)

theorem length_toBytes (r : Reply) : r.toBytes.length = r.payload.length + 36 := by
  unfold toBytes
  rw [List.length_append, Header.length_encode, Nat.add_comm]
  rfl

end Sg.Reply

namespace Host

variable {σ : Type} {h : Host σ} {channel count : Nat} {octets : Bytes} {w : σ}

/-- A conversation is an exchange. -/
theorem exchanges_converse (hc : 36 ≤ count) :
    h.Exchanges channel octets count w
      ((h.converse channel octets count w).outcome.map (·.map Sg.Reply.ofOctets))
      (h.converse channel octets count w).world (h.converse channel octets count w).effects := by
  unfold converse
  rcases hw : h.write channel octets w with ⟨n | e | _, w'⟩
  · dsimp only
    by_cases hn : n = octets.length
    · subst hn
      rw [if_pos rfl]
      unfold listen
      rcases hr : h.read channel count w' with ⟨⟨n, given⟩ | e | _, w''⟩
      · dsimp only
        by_cases hn : n = count
        · subst hn
          have hb : (Sg.Reply.ofOctets (Bytes.fit n given)).toBytes = Bytes.fit n given :=
            Sg.Reply.toBytes_ofOctets (by rw [Bytes.length_fit]; exact hc)
          have hp := congrArg List.length hb
          rw [Sg.Reply.length_toBytes, Bytes.length_fit] at hp
          rw [if_pos rfl]
          exact .replied hw hr hb hp
        · rw [if_neg hn]
          exact .shortRead hw hr hn
      · exact .readFailed hw hr
      · exact .readCrashed hw hr
    · rw [if_neg hn]
      exact .shortWrite hw hn
  · exact .writeFailed hw
  · exact .writeCrashed hw

end Host

namespace Manager

variable {σ : Type}

/-- No fewer octets than a header are asked for, and these are always a reply. -/
theorem collect_max (m : Manager σ) (channel expected : Nat) (s : State σ) :
    (m.collect channel expected).exec s = (m.collect channel (max expected 36)).exec s := by
  have hmax : max (max expected 36) Sg.Header.length = max expected Sg.Header.length :=
    Nat.max_eq_left (Nat.le_max_right expected 36)
  unfold collect
  rw [hmax]
  simp only [Run.exec_bind, Run.exec_record, Run.exec_host]
  rcases m.host.read channel (max expected Sg.Header.length) s.world with ⟨⟨n, given⟩ | e | _, w⟩
  · dsimp only
    by_cases hn : n = max expected Sg.Header.length
    · have hl : Sg.Header.length ≤ (Bytes.fit (max expected Sg.Header.length) given).length := by
        rw [Bytes.length_fit]
        exact Nat.le_max_right _ _
      rw [if_pos hn, if_pos hn, Sg.Reply.parse?_eq hl]
    · rw [if_neg hn, if_neg hn]
  · rfl
  · rfl

theorem exchange_max (m : Manager σ) (channel : Nat) (message : Sg.Message) (expected : Nat)
    (s : State σ) :
    (m.exchange channel message expected).exec s =
      (m.exchange channel message (max expected 36)).exec s := by
  unfold exchange
  refine Run.exec_bind_congr rfl fun taken t _ => ?_
  cases taken with
  | error e => rfl
  | ok _ => exact m.collect_max channel expected t

/-- Whatever the device answers, and whatever length of the reply is expected, an exchange is one
write of the whole message and at most one read, and comes to what `Host.Exchanges` lists. What it
reads can always be taken for a reply. -/
theorem exchange_outcome (m : Manager σ) (channel : Nat) (message : Sg.Message) (expected : Nat)
    (s : State σ) :
    (∃ o w effects events,
      m.host.Exchanges channel message.octets (max expected 36) s.world o w effects ∧
        (m.exchange channel message expected).exec s =
          (o, { s with world := w, events := events, effects := s.effects ++ effects })) ∧
      ∀ given, (Sg.Reply.parse? (Bytes.fit (max expected 36) given)).isSome = true := by
  have hc : 36 ≤ max expected 36 := Nat.le_max_right _ _
  obtain ⟨events, hx⟩ := m.exchange_exec channel message hc s
  refine ⟨⟨_, _, _, events, Host.exchanges_converse hc, ?_⟩, fun given => ?_⟩
  · rw [m.exchange_max]
    exact hx
  · rw [Sg.Reply.parse?_isSome_iff, Bytes.length_fit]
    exact hc

end Manager

end AspiManager
