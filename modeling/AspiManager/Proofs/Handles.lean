import AspiManager.Proofs.Attempts

/-!
# Handles over whole runs

A manager is used by acquiring handles and by running programs whose requests acquire them, also
from post routines (`Use`). Each request that is well-formed makes one attempt to acquire its device,
and no other call makes any (`Manager.Tries`); `Makes` lists the attempts of a row of uses.
`Manager.handles_kept` says what is then kept, and what the counters say.
-/

namespace AspiManager

/-- A node is to be opened. -/
def Effect.isOpening : Effect → Bool
  | .opened _ => true
  | .wrote .. | .asked .. | .called .. => false

namespace Manager

variable {σ : Type}

/-- The attempts that a call makes, without the routine that it calls. -/
inductive Tries (m : Manager σ) (mode : AddressingMode) (call : Call) (s : State σ) :
    List (Attempt σ) → Prop
  | none (h : ∀ r block w, call.Asks s.memory mode r block → ¬ r.Fits s.memory mode w) :
    Tries m mode call s []
  | one {r : Request} {block : Option Block} {w : Windows Range}
    (ha : call.Asks s.memory mode r block) (hw : r.Fits s.memory mode w) :
    Tries m mode call s [⟨r.key, s.registry, s.world⟩]

/-- Between two states of a run these attempts were made, and no other node was opened. -/
structure Tried (m : Manager σ) (s : State σ) (as : List (Attempt σ)) (t : State σ) : Prop where
  chain : Chain m s.registry as t.registry
  opened : t.effects.toList.filter Effect.isOpening =
    s.effects.toList.filter Effect.isOpening ++ as.flatMap fun a => (a.result m).effects

variable {m : Manager σ} {mode : AddressingMode} {call : Call} {s t u : State σ}
  {as bs : List (Attempt σ)} {o : Except Fault Status} {p : Option Posting}

theorem Tries.unique (h : m.Tries mode call s as) (h' : m.Tries mode call s bs) : as = bs := by
  cases h with
  | none hn =>
    cases h' with
    | none => rfl
    | one ha hw => exact absurd hw (hn _ _ _ ha)
  | one ha hw =>
    cases h' with
    | none hn => exact absurd hw (hn _ _ _ ha)
    | one ha' =>
      obtain ⟨rfl, -⟩ := ha.unique ha'
      rfl

theorem filter_isOpening_acquisition (m : Manager σ) (key : DeviceKey) (g : Registry) (w : σ) :
    (m.acquisition key g w).effects.filter Effect.isOpening = (m.acquisition key g w).effects := by
  have h := Attempt.way m ⟨key, g, w⟩
  unfold Attempt.result at h
  dsimp only at h
  generalize m.acquisition key g w = q at h ⊢
  cases h <;> rfl

/-- Traffic opens nothing. -/
theorem filter_isOpening_of_traffic {es : List Effect} (h : es.filter Effect.isTraffic = es) :
    es.filter Effect.isOpening = [] := by
  rw [← h, List.filter_filter, List.filter_eq_nil_iff]
  rintro (_ | _ | _ | _) - <;> simp [Effect.isOpening, Effect.isTraffic]

namespace Tried

theorem nothing (hr : t.registry = s.registry)
    (he : t.effects.toList.filter Effect.isOpening = s.effects.toList.filter Effect.isOpening) :
    m.Tried s [] t :=
  ⟨hr.symm, by rw [he]; exact (List.append_nil _).symm⟩

theorem append (h : m.Tried s as t) (h' : m.Tried t bs u) : m.Tried s (as ++ bs) u :=
  ⟨h.chain.append h'.chain, by rw [h'.opened, h.opened, List.flatMap_append, List.append_assoc]⟩

/-- One attempt is made, and then there is some traffic. -/
theorem one {key : DeviceKey} (es : List Effect)
    (hr : t.registry = (m.acquisition key s.registry s.world).registry)
    (he : t.effects.toList =
      s.effects.toList ++ (m.acquisition key s.registry s.world).effects ++ es)
    (hes : es.filter Effect.isTraffic = es) : m.Tried s [⟨key, s.registry, s.world⟩] t := by
  refine ⟨⟨rfl, hr.symm⟩, ?_⟩
  rw [he, List.filter_append, List.filter_append, filter_isOpening_acquisition,
    filter_isOpening_of_traffic hes, List.append_nil]
  exact congrArg _ (List.append_nil _).symm

end Tried

/-- What a turn does about handles is what its call tries. -/
theorem Turn.tried (h : m.Turn mode call s o u p) :
    ∃ as, m.Tries mode call s as ∧ m.Tried s as u := by
  cases h with
  | aside es hc hn =>
    exact ⟨[], .none fun r block w ha => absurd ⟨r, block, ha⟩ hn, .nothing rfl rfl⟩
  | rejected es ha hu =>
    refine ⟨[], .none fun r' block' w' ha' hw' => ?_, .nothing rfl rfl⟩
    obtain ⟨rfl, -⟩ := ha.unique ha'
    exact hw'.not_unfit hu
  | unavailable es ha hw hd =>
    refine ⟨_, .one ha hw, .one [] rfl ?_ rfl⟩
    simp [State.stamped, State.acquired]
  | crashed es ha hw hd hj =>
    obtain ⟨-, hf⟩ := m.traffic_journey ha hw hd
    refine ⟨_, .one ha hw, .one _ rfl ?_ hf⟩
    simp [State.acquired, State.travelled]
  | settled es ha hw hd hj =>
    obtain ⟨-, hf⟩ := m.traffic_journey ha hw hd
    refine ⟨_, .one ha hw, .one _ rfl ?_ hf⟩
    simp [settlement, State.stamped, State.acquired, State.travelled]

end Manager

/-! ## Uses of a manager -/

/-- What is done in a moment makes these attempts. -/
def Moment.Tries {σ : Type} (m : Manager σ) (x : Moment σ) (as : List (Attempt σ)) : Prop :=
  match x.act with
  | .call mode call => m.Tries mode call x.state as
  | .deed _ | .finish => as = []

theorem Moment.tries_rightUnique {σ : Type} (m : Manager σ) :
    Relator.RightUnique (Moment.Tries m) := by
  rintro ⟨held, act, s⟩ as bs ha hb
  cases act with
  | call mode call => exact Manager.Tries.unique ha hb
  | deed | finish => exact Eq.trans ha (Eq.symm hb)

/-- Something that is done with a manager, or between its uses. -/
inductive Use (σ : Type) where
  /-- The handle of a device is acquired. -/
  | acquire (key : DeviceKey)
  /-- A program is run, with the calls of its routines nested up to a depth. -/
  | run (rep : Repertoire σ) (depth : Nat) (p : Program σ)
  /-- The memory, the routines and the host change by other hands. -/
  | elsewhere (memory : Memory) (routines : Routines) (world : σ)

namespace Manager

variable {σ : Type}

/-- The state after a use. -/
def use (m : Manager σ) (s : State σ) : Use σ → State σ
  | .acquire key => ((m.acquire key).exec s).2
  | .run rep depth p => ((m.play rep depth p).exec s).2
  | .elsewhere memory routines world =>
    { s with memory := memory, routines := routines, world := world }

/-- The attempts that a row of uses makes, one after the other, and the state that it leaves. -/
inductive Makes (m : Manager σ) : State σ → List (Use σ) → List (Attempt σ) → State σ → Prop
  | nil {s : State σ} : Makes m s [] [] s
  | acquire {s t : State σ} {key : DeviceKey} {us : List (Use σ)} {as : List (Attempt σ)}
    (h : Makes m ((m.acquire key).exec s).2 us as t) :
    Makes m s (.acquire key :: us) (⟨key, s.registry, s.world⟩ :: as) t
  | run {s t u : State σ} {rep : Repertoire σ} {depth : Nat} {p : Program σ}
    {ms : List (Moment σ)} {o : Except Fault Unit} {pieces : List (List (Attempt σ))}
    {us : List (Use σ)} {as : List (Attempt σ)} (course : Course m rep depth [] p s ms o u)
    (tries : List.Forall₂ (Moment.Tries m) ms pieces) (h : Makes m u us as t) :
    Makes m s (.run rep depth p :: us) (pieces.flatten ++ as) t
  | elsewhere {s t : State σ} {memory : Memory} {routines : Routines} {world : σ}
    {us : List (Use σ)} {as : List (Attempt σ)}
    (h : Makes m { s with memory := memory, routines := routines, world := world } us as t) :
    Makes m s (.elsewhere memory routines world :: us) as t

variable {m : Manager σ} {s t : State σ} {as : List (Attempt σ)} {us : List (Use σ)}

theorem tally_tried (m : Manager σ) : Tally m (Moment.Tries m) m.Tried where
  append := Tried.append
  finish held s := ⟨rfl, .nothing rfl rfl⟩
  deed held d s := ⟨rfl, .nothing rfl rfl⟩
  turn held h := h.tried
  entering s q := .nothing rfl (by
    show (s.effects.push (.called q.entry q.call)).toList.filter _ = _
    rw [Array.toList_push, List.filter_append]
    exact List.append_nil _)
  leaving s q := .nothing rfl rfl

theorem tried_acquire (m : Manager σ) (key : DeviceKey) (s : State σ) :
    m.Tried s [⟨key, s.registry, s.world⟩] ((m.acquire key).exec s).2 := by
  obtain ⟨es, h⟩ := m.acquire_exec key s
  rw [h]
  refine .one [] rfl ?_ rfl
  simp [State.acquired]

/-- Every row of uses makes some attempts. -/
theorem exists_makes (m : Manager σ) (us : List (Use σ)) (s : State σ) :
    ∃ as, m.Makes s us as (us.foldl m.use s) := by
  induction us generalizing s with
  | nil => exact ⟨[], .nil⟩
  | cons u us ih =>
    obtain ⟨as, h⟩ := ih (m.use s u)
    cases u with
    | acquire key => exact ⟨_, .acquire h⟩
    | elsewhere => exact ⟨_, .elsewhere h⟩
    | run rep depth p =>
      obtain ⟨ms, hc⟩ := m.play_course rep depth p [] s
      obtain ⟨pieces, hp, -⟩ := hc.tally m.tally_tried
      exact ⟨_, .run hc hp h⟩

/-- The attempts of a row of uses are a chain, and they open all the nodes that are opened. -/
theorem Makes.tried (h : m.Makes s us as t) : m.Tried s as t := by
  induction h with
  | nil => exact .nothing rfl rfl
  | acquire h ih => exact (m.tried_acquire _ _).append ih
  | run course tries h ih =>
    obtain ⟨pieces, hp, ht⟩ := course.tally m.tally_tried
    obtain rfl := (Moment.tries_rightUnique m).forall₂ tries hp
    exact ht.append ih
  | elsewhere h ih => exact ⟨ih.chain, ih.opened⟩

end Manager

/-! ## What is kept -/

/-- The registry after attempts that began with an empty one. -/
structure Kept {σ : Type} (m : Manager σ) (as : List (Attempt σ)) (g : Registry) : Prop
    extends Ordered m as g, Counted m as g where
  total : g.hits + g.misses = as.length
  /-- Opened are the listed nodes that have no handle. -/
  configured : g.opens = as.countP fun a => a.misses && (m.directory a.key).isSome
  bounds : g.handles.length ≤ g.opens ∧ g.opens ≤ g.misses
  /-- Once a handle was acquired, it is what every later attempt for its key gets, and nothing is
  opened for that. -/
  reused : ∀ xs a ys handle, as = xs ++ a :: ys → a.handle? m = some handle → ∀ b ∈ ys,
    b.key = a.key → b.result m = ⟨.ok handle, b.registry.hit, b.world, []⟩
  /-- An attempt that fails leaves the handles alone. -/
  unchanged : ∀ a ∈ as, a.handle? m = none → (a.result m).registry.handles = a.registry.handles
  /-- The next attempt after one that failed tries again: a listed node is opened, and the host
  decides anew. -/
  retried : ∀ xs a ys b zs, as = xs ++ a :: (ys ++ b :: zs) → a.handle? m = none →
    (∀ c ∈ ys, c.key ≠ a.key) → b.key = a.key → b.misses = true ∧
      (b.result m).effects = (m.directory b.key).toList.map Effect.opened ∧
      b.handle? m = (m.directory b.key).bind fun path =>
        (m.host.openNode path b.world).1.toOption.map fun channel => ⟨b.key, path, channel⟩

namespace Chain

variable {σ : Type} {m : Manager σ} {g : Registry} {as : List (Attempt σ)}

/-- A part of a chain that begins with an attempt. -/
theorem of_split {xs ys : List (Attempt σ)} {a : Attempt σ} (h : Chain m {} as g)
    (hs : as = xs ++ a :: ys) : Chain m (a.result m).registry ys g := by
  subst hs
  obtain ⟨g', -, -, h⟩ := append_iff.mp h
  exact h

theorem reused (h : Chain m {} as g) (xs : List (Attempt σ)) (a : Attempt σ)
    (ys : List (Attempt σ)) (handle : Handle) (hs : as = xs ++ a :: ys)
    (ha : a.handle? m = some handle) :
    ∀ b ∈ ys, b.key = a.key → b.result m = ⟨.ok handle, b.registry.hit, b.world, []⟩ := by
  intro b hb hk
  obtain ⟨vs, zs, rfl⟩ := List.append_of_mem hb
  obtain ⟨_, hvs, rfl, -⟩ := append_iff.mp (h.of_split hs)
  refine Attempt.result_of_find? (hvs.find?_mono ?_)
  rw [hk]
  exact Attempt.find?_of_handle? ha

theorem retried (h : Chain m {} as g) (xs : List (Attempt σ)) (a : Attempt σ)
    (ys : List (Attempt σ)) (b : Attempt σ) (zs : List (Attempt σ))
    (hs : as = xs ++ a :: (ys ++ b :: zs)) (ha : a.handle? m = none)
    (hys : ∀ c ∈ ys, c.key ≠ a.key) (hk : b.key = a.key) : b.misses = true := by
  obtain ⟨_, hc, rfl, -⟩ := append_iff.mp (h.of_split hs)
  obtain ⟨hh, hm⟩ := Attempt.handles_of_failed ha
  -- The attempt that failed found no handle and brought none, and neither did those after it.
  have hfind : (a.result m).registry.find? a.key = a.registry.find? a.key := by
    unfold Registry.find?
    rw [hh]
  unfold Attempt.misses at hm ⊢
  rw [hk, hc.find?_of_ne hys, hfind, hm]

theorem kept (h : Chain m {} as g) : Kept m as g where
  toOrdered := h.ordered
  toCounted := h.counted
  total := by
    have hl := List.length_eq_countP_add_countP (l := as) fun a => a.misses
    rw [h.counted.hits, h.counted.misses, hl, Nat.add_comm]
    simp only [Bool.not_eq_true, Bool.decide_eq_false]
  configured := by
    rw [h.counted.opens]
    exact List.countP_congr fun a _ => by rw [Attempt.opens_eq]
  bounds := by
    rw [h.counted.handles, h.counted.opens, h.counted.misses]
    refine ⟨List.countP_mono_left fun a _ ho => ?_, List.countP_mono_left fun a _ ho => ?_⟩
    · exact (Bool.and_eq_true_iff.mp ho).1
    · rw [Attempt.opens_eq] at ho
      exact (Bool.and_eq_true_iff.mp ho).1
  reused := h.reused
  unchanged a _ ha := (Attempt.handles_of_failed ha).1
  retried xs a ys b zs hs ha hys hk := by
    have hb := h.retried xs a ys b zs hs ha hys hk
    exact ⟨hb, Attempt.effects_of_misses hb⟩

end Chain

/-- Every row of uses that begins with an empty registry makes some attempts, and whatever it makes,
the registry is kept, and the nodes that are opened are those of the attempts. A handle that is
acquired directly is the one of its attempt. -/
theorem Manager.handles_kept {σ : Type} (m : Manager σ) {s : State σ} (h0 : s.registry = {})
    (us : List (Use σ)) :
    (∃ as, m.Makes s us as (us.foldl m.use s)) ∧
    (∀ as t, m.Makes s us as t → Kept m as t.registry ∧
      t.effects.toList.filter Effect.isOpening =
        s.effects.toList.filter Effect.isOpening ++ as.flatMap fun a => (a.result m).effects) ∧
    ∀ key (u : State σ), ∃ es, (m.acquire key).exec u =
      (.ok (Attempt.result m ⟨key, u.registry, u.world⟩).outcome,
        u.acquired (Attempt.result m ⟨key, u.registry, u.world⟩) es) := by
  refine ⟨m.exists_makes us s, fun as t h => ?_, fun key u => m.acquire_exec key u⟩
  obtain ⟨hchain, hopened⟩ := h.tried
  rw [h0] at hchain
  exact ⟨hchain.kept, hopened⟩

/-- A host whose nodes do not open the first time. -/
def Host.late : Host Nat where
  openNode _ w := (if w = 0 then .error (.kind .permissionDenied) else .ok w, w + 1)
  write _ octets w := (.done octets.length, w)
  read _ count w := (.done (count, []), w)

/-- A manager with one node for all devices, behind the late host. -/
def Manager.late : Manager Nat :=
  { host := .late, directory := fun _ => some "/dev/sg2", adapter := {}
    routine := fun _ _ => pure () }

/-- The device of the short read is acquired three times, the second time by the read: its node is
opened twice, and the handle of the second time is found again. -/
theorem late_handle_kept :
    let m := Manager.late
    let s : State Nat := { memory := .zeroed 256, world := 0 }
    let read : Program Nat := .call .realMode (.submit shortRead) fun _ => .done
    let us := [.acquire shortRead.key, .run (fun _ _ => .done) 0 read, .acquire shortRead.key]
    s.registry = {} ∧ ∃ as t, m.Makes s us as t ∧ Kept m as t.registry ∧
      t.registry = ⟨[⟨shortRead.key, "/dev/sg2", 1⟩], 2, 1, 2⟩ := by
  intro m s read us
  have h0 : s.registry = {} := rfl
  obtain ⟨⟨as, has⟩, hall, -⟩ := m.handles_kept h0 us
  refine ⟨h0, as, _, has, (hall as _ has).1, ?_⟩
  decide +kernel

end AspiManager
