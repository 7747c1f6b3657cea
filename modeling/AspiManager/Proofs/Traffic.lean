import AspiManager.Proofs.Program
import AspiManager.Proofs.Verdict

/-!
# What passes over the channels

A request that gets as far as its device causes one write, and one read if the channel took all of
the message; no other request causes any traffic (`Manager.Traffic`). `Letter` says what is written.
`device_traffic` says that the traffic of a run is that of its calls, in the order in which they are
made, also of the calls that are nested in post routines.
-/

namespace AspiManager

/-! ## The message -/

/-- The octets that are written for a request that was made with memory `m`: a header of 36 octets
that holds the length of the reply in its second word and is zero elsewhere, the command block, and
the data for the device, if there is some. They are those of the data window, unless the status of
the block was written over them. -/
inductive Letter (r : Request) (block : Option Block) (w : Windows Range) (m : Memory) :
    Bytes → Prop
  | mk (payload : Bytes)
    (unused : ¬ (r.direction = .output ∧ 0 < r.data.len.toNat) → payload = [])
    (length : ∀ d, r.direction = .output → w.data = some d → payload.length = d.len)
    (window : ∀ d, r.direction = .output → w.data = some d →
      (∀ b, block = some b → ∀ a, d.Contains a → ¬ b.ShowsStatus a) →
      payload = m.read d.base d.len) :
    Letter r block w m (Bytes.zeros 4 ++
      Bytes.ofWord32 (UInt32.ofNat (if r.direction = .input then 36 + r.data.len.toNat else 36)) ++
      Bytes.zeros 28 ++ r.cdb ++ payload)

/-- The header that announces a reply is zero but for the length. -/
theorem Sg.Message.encode_announce (n : Nat) :
    (announce n).encode = Bytes.zeros 4 ++ Bytes.ofWord32 (UInt32.ofNat n) ++ Bytes.zeros 28 := by
  have hn : (Int32.ofNat n).toUInt32 = UInt32.ofNat n := rfl
  unfold announce Sg.Header.encode
  simp only [Bytes.ofInt32, hn]
  rfl

/-- The message of a request whose block shows that it is pending is a letter. -/
theorem Request.letter_outbound {r p : Request} {block : Option Block} {w : Windows Range}
    {m : Memory} {mode : AddressingMode} (hb : ∀ b, block = some b → b.Fits m)
    (hw : r.Fits m mode w) : Letter r block w m (r.outbound (m.stamp p block) w) := by
  unfold outbound
  rw [Sg.Message.encode_announce, Manager.expectedReply_eq]
  refine .mk _ (fun hn => ?_) (fun d hdir hd => ?_) fun d hdir hd hns => ?_
  · unfold Memory.payload
    split
    · rename_i d hdir hd
      have hdata := hw.data
      rw [hd] at hdata
      exact absurd ⟨hdir, hdata.needed_of_some.2⟩ hn
    · rfl
  · unfold Memory.payload
    rw [hdir, hd]
    have hs := (hw.sound.data d hd).2
    exact Memory.length_read_of_le (by rwa [Memory.size_stamp])
  · unfold Memory.payload
    rw [hdir, hd]
    refine Memory.read_congr (Memory.size_stamp ..) fun a hlo hhi => ?_
    exact Memory.octet_stamp_of_not hb p fun b hb' => hns b hb' a ⟨hlo, hhi⟩

/-! ## The traffic of a call -/

/-- Something passes over a channel. -/
def Effect.isTraffic : Effect → Bool
  | .wrote .. | .asked .. => true
  | .opened _ | .called .. => false

namespace Manager

variable {σ : Type}

/-- A call gets as far as the device of its request: the request is well-formed, the device is
acquired, and the reply can be announced. -/
structure Reaches (m : Manager σ) (mode : AddressingMode) (call : Call) (s : State σ) (r : Request)
    (block : Option Block) (w : Windows Range) (handle : Handle) : Prop where
  asks : call.Asks s.memory mode r block
  fits : r.Fits s.memory mode w
  acquired : (m.acquisition r.key s.registry s.world).outcome = .ok handle
  announced : r.direction = .input → 36 + r.data.len.toNat ≤ 2 ^ 31 - 1

theorem Reaches.not_tooLong {m : Manager σ} {mode : AddressingMode} {call : Call} {s : State σ}
    {r : Request} {block : Option Block} {w : Windows Range} {handle : Handle}
    (h : m.Reaches mode call s r block w handle) : ¬ r.TooLong := by
  intro hl
  obtain ⟨hdir, hlen⟩ := Request.tooLong_iff.mp hl
  exact absurd (h.announced hdir) (Nat.not_le.mpr hlen)

/-- What a call causes on the channels, without the routine that it calls. -/
inductive Traffic (m : Manager σ) (mode : AddressingMode) (call : Call) (s : State σ) :
    List Effect → Prop
  | none (h : ∀ r block w handle, ¬ m.Reaches mode call s r block w handle) :
    Traffic m mode call s []
  /-- The channel did not take all of the message. -/
  | cut {r : Request} {block : Option Block} {w : Windows Range} {handle : Handle} {octets : Bytes}
    (h : m.Reaches mode call s r block w handle)
    (cached : (m.acquisition r.key s.registry s.world).registry.find? r.key = some handle)
    (letter : Letter r block w s.memory octets)
    (short : (m.host.write handle.channel octets
      (m.acquisition r.key s.registry s.world).world).1 ≠ .done octets.length) :
    Traffic m mode call s [.wrote handle.channel octets]
  /-- The channel took all of the message and was asked for a reply. -/
  | full {r : Request} {block : Option Block} {w : Windows Range} {handle : Handle} {octets : Bytes}
    (h : m.Reaches mode call s r block w handle)
    (cached : (m.acquisition r.key s.registry s.world).registry.find? r.key = some handle)
    (letter : Letter r block w s.memory octets)
    (taken : (m.host.write handle.channel octets
      (m.acquisition r.key s.registry s.world).world).1 = .done octets.length) :
    Traffic m mode call s [.wrote handle.channel octets, .asked handle.channel r.expectedReply]

/-- A handle that was acquired is the one that is kept for its key. -/
theorem find?_acquisition {m : Manager σ} {key : DeviceKey} {g : Registry} {world : σ}
    {handle : Handle} (h : (m.acquisition key g world).outcome = .ok handle) :
    (m.acquisition key g world).registry.find? key = some handle := by
  unfold acquisition at h ⊢
  cases hf : g.find? key with
  | some kept =>
    rw [hf] at h
    cases h
    exact hf
  | none =>
    rw [hf] at h
    cases hd : m.directory key with
    | none =>
      rw [hd] at h
      cases h
    | some path =>
      rw [hd] at h
      dsimp only at h ⊢
      rcases ho : m.host.openNode path world with ⟨e | channel, world'⟩ <;> rw [ho] at h
      · cases h
      · cases h
        exact List.find?_cons_of_pos (beq_self_eq_true key)

theorem filter_effects_acquisition (m : Manager σ) (key : DeviceKey) (g : Registry) (world : σ) :
    (m.acquisition key g world).effects.filter Effect.isTraffic = [] := by
  unfold acquisition
  split
  · rfl
  · split
    · rfl
    · split <;> rfl

end Manager

namespace Host

variable {σ : Type}

theorem effects_listen (h : Host σ) (channel count : Nat) (w : σ) :
    (h.listen channel count w).effects = [.asked channel count] := by
  unfold listen
  split <;> rfl

/-- A conversation is a write, and a read if the channel took all. -/
theorem effects_converse (h : Host σ) (channel : Nat) (octets : Bytes) (count : Nat) (w : σ) :
    (h.write channel octets w).1 ≠ .done octets.length ∧
        (h.converse channel octets count w).effects = [.wrote channel octets] ∨
      (h.write channel octets w).1 = .done octets.length ∧
        (h.converse channel octets count w).effects =
          [.wrote channel octets, .asked channel count] := by
  unfold converse
  rcases h.write channel octets w with ⟨n | e | _, w'⟩
  · dsimp only
    by_cases hn : n = octets.length
    · rw [if_pos hn]
      exact .inr ⟨congrArg _ hn, congrArg _ (effects_listen h channel count w')⟩
    · rw [if_neg hn]
      refine .inl ⟨fun he => hn ?_, rfl⟩
      cases he
      rfl
  · exact .inl ⟨by simp, rfl⟩
  · exact .inl ⟨by simp, rfl⟩

end Host

namespace Manager

variable {σ : Type} {m : Manager σ} {mode : AddressingMode} {call : Call} {r : Request}
  {block : Option Block} {w : Windows Range} {handle : Handle} {s u : State σ}
  {o : Except Fault Status} {p : Option Posting}

/-- The round trip of a request is the traffic of its call. -/
theorem traffic_journey (ha : call.Asks s.memory mode r block) (hw : r.Fits s.memory mode w)
    (hd : (m.acquisition r.key s.registry s.world).outcome = .ok handle) :
    m.Traffic mode call s (m.journey r block w handle s).effects ∧
      (m.journey r block w handle s).effects.filter Effect.isTraffic =
        (m.journey r block w handle s).effects := by
  have hletter := Request.letter_outbound (p := { r with status := .pending }) ha.fits hw
  unfold journey trip
  by_cases hl : r.TooLong
  · rw [if_pos hl]
    refine ⟨.none fun r' block' w' handle' h => ?_, rfl⟩
    obtain ⟨rfl, -⟩ := ha.unique h.asks
    exact h.not_tooLong hl
  rw [if_neg hl]
  have hreach : m.Reaches mode call s r block w handle := by
    refine ⟨ha, hw, hd, fun hdir => Nat.not_lt.mp fun hlt => hl ?_⟩
    exact Request.tooLong_iff.mpr ⟨hdir, hlt⟩
  have heffects := m.host.effects_converse handle.channel
    (r.outbound (s.memory.stamp { r with status := .pending } block) w) r.expectedReply
    (m.acquisition r.key s.registry s.world).world
  dsimp only
  generalize hc : m.host.converse handle.channel
    (r.outbound (s.memory.stamp { r with status := .pending } block) w) r.expectedReply
    (m.acquisition r.key s.registry s.world).world = c at heffects ⊢
  have htrip : ∀ t : Trip σ, t.effects = c.effects → m.Traffic mode call s t.effects ∧
      t.effects.filter Effect.isTraffic = t.effects := by
    intro t ht
    rw [ht]
    rcases heffects with ⟨hshort, he⟩ | ⟨htaken, he⟩
    · rw [he]
      exact ⟨.cut hreach (find?_acquisition hd) hletter hshort, rfl⟩
    · rw [he]
      exact ⟨.full hreach (find?_acquisition hd) hletter htaken, rfl⟩
  refine htrip _ ?_
  split
  · rfl
  · rfl
  · split <;> rfl

/-- What a turn does on the channels is the traffic of its call. -/
theorem Turn.traffic (h : m.Turn mode call s o u p) :
    ∃ es, u.effects.toList = s.effects.toList ++ es ∧
      m.Traffic mode call s (es.filter Effect.isTraffic) := by
  have hnone : ∀ {es : List Effect}, es.filter Effect.isTraffic = [] →
      (∀ r block w handle, ¬ m.Reaches mode call s r block w handle) →
      m.Traffic mode call s (es.filter Effect.isTraffic) := by
    intro es he hn
    rw [he]
    exact .none hn
  cases h with
  | aside es hc hn =>
    exact ⟨[], by simp, hnone rfl fun r block w handle h => hn ⟨r, block, h.asks⟩⟩
  | rejected es ha hu =>
    refine ⟨[], by simp [State.stamped], hnone rfl fun r' block' w' handle' h => ?_⟩
    obtain ⟨rfl, -⟩ := ha.unique h.asks
    exact h.fits.not_unfit hu
  | @unavailable r _ _ _ es ha hw hd =>
    refine ⟨(m.acquisition r.key s.registry s.world).effects,
      by simp [State.stamped, State.acquired],
      hnone (filter_effects_acquisition ..) fun r' block' w' handle' h => ?_⟩
    obtain ⟨rfl, -⟩ := ha.unique h.asks
    have hacq := h.acquired
    rw [hd] at hacq
    cases hacq
  | crashed es ha hw hd hj =>
    obtain ⟨ht, hf⟩ := m.traffic_journey ha hw hd
    refine ⟨_, by simp [State.acquired, State.travelled]; rfl, ?_⟩
    rw [List.filter_append, filter_effects_acquisition, hf]
    exact ht
  | settled es ha hw hd hj =>
    obtain ⟨ht, hf⟩ := m.traffic_journey ha hw hd
    refine ⟨_, by simp [settlement, State.stamped, State.acquired, State.travelled]; rfl, ?_⟩
    rw [List.filter_append, filter_effects_acquisition, hf]
    exact ht

end Manager

/-! ## The traffic of a run -/

/-- What is done in a moment causes this on the channels. -/
def Moment.Causes {σ : Type} (m : Manager σ) (x : Moment σ) (piece : List Effect) : Prop :=
  match x.act with
  | .call mode call => m.Traffic mode call x.state piece
  | .deed _ | .finish => piece = []

/-- Between two states of a run the moments caused the traffic that there was, piece by piece. -/
def Causes {σ : Type} (m : Manager σ) (ms : List (Moment σ)) (s t : State σ) : Prop :=
  ∃ es pieces, t.effects.toList = s.effects.toList ++ es ∧
    List.Forall₂ (Moment.Causes m) ms pieces ∧ es.filter Effect.isTraffic = pieces.flatten

namespace Causes

variable {σ : Type} {m : Manager σ} {ms : List (Moment σ)} {s t : State σ}

/-- Traffic adds up along a run; the call of a routine is none. -/
theorem tally (m : Manager σ) : Tally m (Moment.Causes m) fun s as t =>
    ∃ es, t.effects.toList = s.effects.toList ++ es ∧ es.filter Effect.isTraffic = as where
  append := by
    rintro s t u as bs ⟨es, he, rfl⟩ ⟨es', he', rfl⟩
    exact ⟨es ++ es', by rw [he', he, List.append_assoc], List.filter_append ..⟩
  finish held s := ⟨rfl, [], (List.append_nil _).symm, rfl⟩
  deed held d s := ⟨rfl, [], (List.append_nil _).symm, rfl⟩
  turn held h := by
    obtain ⟨es, he, ht⟩ := h.traffic
    exact ⟨_, ht, es, he, rfl⟩
  entering s q := ⟨[.called q.entry q.call], Array.toList_push, rfl⟩
  leaving s q := ⟨[], (List.append_nil _).symm, rfl⟩

theorem course {rep : Repertoire σ} {depth : Nat} {held : List Alias} {p : Program σ}
    {o : Except Fault Unit} (h : Course m rep depth held p s ms o t) : Causes m ms s t := by
  obtain ⟨pieces, hp, es, he, hf⟩ := h.tally (tally m)
  exact ⟨es, pieces, he, hp, hf⟩

end Causes

/-- The course of every run of a program: what passes over the channels is what its calls cause,
those of the program and those of its routines, in the order in which they are made. -/
theorem Manager.device_traffic {σ : Type} (m : Manager σ) (rep : Repertoire σ) (depth : Nat)
    (p : Program σ) (s : State σ) :
    ∃ o t, (m.play rep depth p).exec s = (o, t) ∧ (∃ ms, Course m rep depth [] p s ms o t) ∧
      ∀ ms, Course m rep depth [] p s ms o t → ∃ es pieces,
        t.effects.toList = s.effects.toList ++ es ∧
        List.Forall₂ (Moment.Causes m) ms pieces ∧
        es.filter Effect.isTraffic = pieces.flatten := by
  obtain ⟨ms, hc⟩ := m.play_course rep depth p [] s
  exact ⟨_, _, rfl, ⟨ms, hc⟩, fun ms hc => Causes.course hc⟩

end AspiManager
