import AspiManager.Proofs.Traffic
import Mathlib.Data.List.Induction

/-!
# Attempts to acquire a device

An `Attempt` is one call of `acquire`: the key, the registry that it finds, and the state of the
host. `Attempt.way` lists the four ways it can go. A `Chain` of attempts starts each one with the
registry that the one before left; between them the host may change as it likes, so that a node that
does not open now may open later.

* `Chain.ordered`: the handles of a chain have distinct keys and are in the reverse order in which
  they were first acquired.
* `Chain.counted`: the counters are the numbers of hits, misses and openings of the chain.
* `Chain.find?_mono`, `Chain.find?_of_ne`: a handle stays, and only an attempt for its own key
  brings it.
-/

namespace AspiManager

/-- One call of `acquire`: for which device, with which handles and counters, and with the host in
which state. -/
structure Attempt (σ : Type) where
  key : DeviceKey
  registry : Registry
  world : σ

namespace Attempt

variable {σ : Type} (m : Manager σ) (a : Attempt σ)

/-- What the attempt comes to. -/
def result : Acquisition σ := m.acquisition a.key a.registry a.world

/-- The handle that is acquired. -/
def handle? : Option Handle := (a.result m).outcome.toOption

/-- No handle is kept for the key. -/
def misses : Bool := (a.registry.find? a.key).isNone

/-- A node is to be opened. -/
def opens : Bool := !(a.result m).effects.isEmpty

/-- The ways in which an attempt can go. -/
inductive Way : Acquisition σ → Prop
  /-- There is a handle. -/
  | hit {handle : Handle} (hf : a.registry.find? a.key = some handle) :
    Way ⟨.ok handle, a.registry.hit, a.world, []⟩
  /-- The directory has no node for the key. -/
  | unlisted (hf : a.registry.find? a.key = none) (hd : m.directory a.key = none) :
    Way ⟨.error (.missing a.key .unlisted), a.registry.miss, a.world, []⟩
  /-- The node does not open. -/
  | shut {path : String} {e : IoError} {world : σ} (hf : a.registry.find? a.key = none)
    (hd : m.directory a.key = some path) (ho : m.host.openNode path a.world = (.error e, world)) :
    Way ⟨.error (.missing a.key (.unopened path e)), a.registry.miss.countOpen, world,
      [.opened path]⟩
  /-- The node opens. -/
  | opened {path : String} {channel : Nat} {world : σ} (hf : a.registry.find? a.key = none)
    (hd : m.directory a.key = some path)
    (ho : m.host.openNode path a.world = (.ok channel, world)) :
    Way ⟨.ok ⟨a.key, path, channel⟩, a.registry.miss.countOpen.insert ⟨a.key, path, channel⟩, world,
      [.opened path]⟩

theorem way : a.Way m (a.result m) := by
  unfold result Manager.acquisition
  cases hf : a.registry.find? a.key with
  | some handle => exact .hit hf
  | none =>
    cases hd : m.directory a.key with
    | none => exact .unlisted hf hd
    | some path =>
      dsimp only
      rcases ho : m.host.openNode path a.world with ⟨e | channel, world⟩
      · exact .shut hf hd ho
      · exact .opened hf hd ho

variable {m a}

/-- With a handle for the key it is the one that is acquired, and nothing is opened. -/
theorem result_of_find? {handle : Handle} (hf : a.registry.find? a.key = some handle) :
    a.result m = ⟨.ok handle, a.registry.hit, a.world, []⟩ := by
  unfold result Manager.acquisition
  rw [hf]

/-- The nodes that are opened are the listed ones that have no handle. -/
theorem opens_eq : a.opens m = (a.misses && (m.directory a.key).isSome) := by
  unfold opens misses
  have h := a.way m
  generalize a.result m = q at h ⊢
  cases h with
  | hit hf => rw [hf]; rfl
  | unlisted hf hd => rw [hf, hd]; rfl
  | shut hf hd => rw [hf, hd]; rfl
  | opened hf hd => rw [hf, hd]; rfl

/-- Without a handle for the key its node is opened, if it is listed, and the host decides. -/
theorem effects_of_misses (h : a.misses = true) :
    (a.result m).effects = (m.directory a.key).toList.map Effect.opened ∧
      a.handle? m = (m.directory a.key).bind fun path =>
        (m.host.openNode path a.world).1.toOption.map fun channel => ⟨a.key, path, channel⟩ := by
  unfold misses at h
  unfold handle?
  have hw := a.way m
  generalize a.result m = q at hw ⊢
  cases hw with
  | hit hf => rw [hf] at h; cases h
  | unlisted hf hd => rw [hd]; exact ⟨rfl, rfl⟩
  | shut hf hd ho => rw [hd]; exact ⟨rfl, by simp [ho, Except.toOption]⟩
  | opened hf hd ho => rw [hd]; exact ⟨rfl, by simp [ho, Except.toOption]⟩

/-- An attempt that fails leaves the handles as they are. -/
theorem handles_of_failed (h : a.handle? m = none) :
    (a.result m).registry.handles = a.registry.handles ∧ a.misses = true := by
  unfold handle? at h
  unfold misses
  have hw := a.way m
  generalize a.result m = q at hw h ⊢
  cases hw with
  | hit | opened => cases h
  | unlisted hf | shut hf => exact ⟨rfl, by rw [hf]; rfl⟩

/-- What an attempt adds to the counters and to the number of handles. -/
theorem counters :
    (a.result m).registry.hits = a.registry.hits + (if !a.misses then 1 else 0) ∧
    (a.result m).registry.misses = a.registry.misses + (if a.misses then 1 else 0) ∧
    (a.result m).registry.opens = a.registry.opens + (if a.opens m then 1 else 0) ∧
    (a.result m).registry.handles.length =
      a.registry.handles.length + (if a.opens m && (a.handle? m).isSome then 1 else 0) := by
  unfold opens handle? misses
  have hw := a.way m
  generalize a.result m = q at hw ⊢
  cases hw with
  | hit hf => rw [hf]; exact ⟨rfl, rfl, rfl, rfl⟩
  | unlisted hf | shut hf | opened hf => rw [hf]; exact ⟨rfl, rfl, rfl, rfl⟩

/-- A handle that was acquired is kept for its key. -/
theorem find?_of_handle? {handle : Handle} (h : a.handle? m = some handle) :
    (a.result m).registry.find? a.key = some handle :=
  Manager.find?_acquisition (eq_ok_of_toOption h)

/-- Handles of other keys are as before. -/
theorem find?_of_ne {key : DeviceKey} (h : a.key ≠ key) :
    (a.result m).registry.find? key = a.registry.find? key := by
  have hw := a.way m
  generalize a.result m = q at hw ⊢
  cases hw with
  | hit | unlisted | shut => rfl
  | opened => exact List.find?_cons_of_neg (by simpa using h)

/-- A handle stays. -/
theorem find?_mono {key : DeviceKey} {handle : Handle} (h : a.registry.find? key = some handle) :
    (a.result m).registry.find? key = some handle := by
  by_cases hk : a.key = key
  · subst hk
    rw [result_of_find? h]
    exact h
  · rw [find?_of_ne hk, h]

end Attempt

/-! ## Chains -/

/-- The attempts are made one after the other: the first with registry `g`, and the last leaves
`g'`. -/
def Chain {σ : Type} (m : Manager σ) : Registry → List (Attempt σ) → Registry → Prop
  | g, [], g' => g = g'
  | g, a :: as, g' => a.registry = g ∧ Chain m (a.result m).registry as g'

/-- The handles are distinct, listed, and in the reverse order in which they were first acquired. -/
structure Ordered {σ : Type} (m : Manager σ) (as : List (Attempt σ)) (g : Registry) : Prop where
  distinct : (g.handles.map Handle.key).Nodup
  listed : ∀ h ∈ g.handles, m.directory h.key = some h.path
  order : g.handles = ((as.filterMap (·.handle? m)).eraseDups).reverse

/-- The counters count. -/
structure Counted {σ : Type} (m : Manager σ) (as : List (Attempt σ)) (g : Registry) : Prop where
  hits : g.hits = as.countP (!·.misses)
  misses : g.misses = as.countP (·.misses)
  opens : g.opens = as.countP (·.opens m)
  handles : g.handles.length = as.countP fun a => a.opens m && (a.handle? m).isSome

namespace Chain

variable {σ : Type} {m : Manager σ} {g g' g'' : Registry} {as bs : List (Attempt σ)}
  {a : Attempt σ}

theorem append_iff : Chain m g (as ++ bs) g'' ↔ ∃ g', Chain m g as g' ∧ Chain m g' bs g'' := by
  induction as generalizing g with
  | nil =>
    constructor
    · exact fun h => ⟨g, rfl, h⟩
    · rintro ⟨g', rfl, h⟩
      exact h
  | cons a as ih =>
    simp only [List.cons_append, Chain, ih]
    constructor
    · rintro ⟨ha, g', h, h'⟩
      exact ⟨g', ⟨ha, h⟩, h'⟩
    · rintro ⟨g', ⟨ha, h⟩, h'⟩
      exact ⟨ha, g', h, h'⟩

theorem append (h : Chain m g as g') (h' : Chain m g' bs g'') : Chain m g (as ++ bs) g'' :=
  append_iff.mpr ⟨g', h, h'⟩

/-- What holds of no attempts, and of one attempt more, holds of all chains. -/
theorem induction {P : List (Attempt σ) → Registry → Prop} (nil : P [] g)
    (snoc : ∀ as a, P as a.registry → P (as ++ [a]) (a.result m).registry)
    (h : Chain m g as g') : P as g' := by
  induction as using List.reverseRecOn generalizing g' with
  | nil =>
    cases h
    exact nil
  | append_singleton as a ih =>
    obtain ⟨_, has, rfl, rfl⟩ := append_iff.mp h
    exact snoc as a (ih has)

theorem find?_mono {key : DeviceKey} {handle : Handle} (h : Chain m g as g')
    (hf : g.find? key = some handle) : g'.find? key = some handle :=
  h.induction (P := fun _ g => g.find? key = some handle) hf fun _ _ => Attempt.find?_mono

theorem find?_of_ne {key : DeviceKey} (h : Chain m g as g') (hk : ∀ a ∈ as, a.key ≠ key) :
    g'.find? key = g.find? key := by
  induction as generalizing g with
  | nil => rw [h]
  | cons a as ih =>
    obtain ⟨rfl, h⟩ := h
    rw [ih h fun b hb => hk b (List.mem_cons_of_mem _ hb),
      Attempt.find?_of_ne (hk a List.mem_cons_self)]

end Chain

/-! ## What chains from an empty registry have in common -/

section

variable {α : Type} [BEq α] [LawfulBEq α] {l : List α} {b : α}

theorem eraseDups_concat_of_mem (h : b ∈ l) : (l ++ [b]).eraseDups = l.eraseDups := by
  have hr : [b].removeAll l = [] := by simp [List.removeAll, h]
  rw [List.eraseDups_append, hr, List.eraseDups_nil, List.append_nil]

theorem eraseDups_concat_of_notMem (h : b ∉ l) : (l ++ [b]).eraseDups = l.eraseDups ++ [b] := by
  have hr : [b].removeAll l = [b] := by simp [List.removeAll, h]
  rw [List.eraseDups_append, hr, List.eraseDups_cons]
  rfl

end

theorem Registry.key_of_find? {g : Registry} {key : DeviceKey} {handle : Handle}
    (h : g.find? key = some handle) : handle ∈ g.handles ∧ handle.key = key :=
  ⟨List.mem_of_find?_eq_some h, by simpa using List.find?_some h⟩

theorem Registry.key_notMem {g : Registry} {key : DeviceKey} (h : g.find? key = none) :
    key ∉ g.handles.map Handle.key := by
  intro hk
  obtain ⟨handle, hh, rfl⟩ := List.mem_map.mp hk
  have hn := List.find?_eq_none.mp h handle hh
  simp at hn

namespace Ordered

variable {σ : Type} {m : Manager σ} {as : List (Attempt σ)} {a : Attempt σ}

theorem nil (m : Manager σ) : Ordered m [] {} := ⟨List.nodup_nil, by simp, rfl⟩

/-- The handles before an attempt are those that were acquired. -/
theorem mem_iff (h : Ordered m as a.registry) {handle : Handle} :
    handle ∈ a.registry.handles ↔ handle ∈ as.filterMap (·.handle? m) := by
  rw [h.order, List.mem_reverse, List.mem_eraseDups]

theorem snoc (h : Ordered m as a.registry) : Ordered m (as ++ [a]) (a.result m).registry := by
  have hsnoc : (as ++ [a]).filterMap (·.handle? m) =
      as.filterMap (·.handle? m) ++ (a.result m).outcome.toOption.toList := by
    rw [List.filterMap_append]
    show _ ++ _ = _ ++ (a.handle? m).toList
    cases ha : a.handle? m <;> simp [ha]
  have hw := a.way m
  generalize a.result m = q at hw hsnoc ⊢
  cases hw with
  | @hit handle hf =>
    -- The handle was acquired before.
    have hin := h.mem_iff.mp (Registry.key_of_find? hf).1
    refine ⟨h.distinct, h.listed, h.order.trans (congrArg List.reverse ?_)⟩
    rw [hsnoc]
    exact (eraseDups_concat_of_mem hin).symm
  | unlisted hf hd | shut hf hd =>
    refine ⟨h.distinct, h.listed, h.order.trans (congrArg (List.reverse ∘ List.eraseDups) ?_)⟩
    rw [hsnoc]
    exact (List.append_nil _).symm
  | @opened path channel _ hf hd =>
    -- No handle of this key was acquired before.
    have hnew := Registry.key_notMem hf
    have hnot : (⟨a.key, path, channel⟩ : Handle) ∉ as.filterMap (·.handle? m) := fun hin =>
      hnew (List.mem_map.mpr ⟨_, h.mem_iff.mpr hin, rfl⟩)
    refine ⟨List.nodup_cons.mpr ⟨hnew, h.distinct⟩, List.forall_mem_cons.mpr ⟨hd, h.listed⟩, ?_⟩
    rw [hsnoc]
    show _ :: a.registry.handles = (_ ++ [_]).eraseDups.reverse
    rw [eraseDups_concat_of_notMem hnot, List.reverse_append, h.order]
    rfl

end Ordered

namespace Counted

variable {σ : Type} {m : Manager σ} {as : List (Attempt σ)} {a : Attempt σ}

theorem nil (m : Manager σ) : Counted m [] {} := ⟨rfl, rfl, rfl, rfl⟩

theorem snoc (h : Counted m as a.registry) : Counted m (as ++ [a]) (a.result m).registry := by
  obtain ⟨hhits, hmisses, hopens, hhandles⟩ := h
  obtain ⟨hhit, hmiss, hopen, hhandle⟩ := a.counters (m := m)
  constructor <;> rw [List.countP_append, List.countP_singleton]
  · rw [hhit, hhits]
  · rw [hmiss, hmisses]
  · rw [hopen, hopens]
  · rw [hhandle, hhandles]

end Counted

namespace Chain

variable {σ : Type} {m : Manager σ} {g : Registry} {as : List (Attempt σ)}

theorem ordered (h : Chain m {} as g) : Ordered m as g :=
  h.induction (.nil m) fun _ _ => .snoc

theorem counted (h : Chain m {} as g) : Counted m as g :=
  h.induction (.nil m) fun _ _ => .snoc

end Chain

end AspiManager
