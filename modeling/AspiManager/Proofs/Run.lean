import AspiManager.Manager.State

/-!
# Runs as functions of the state

`Run.exec` is the outcome of a run from a state together with the state that the run leaves; a
fault keeps the state it was reached in. Each primitive of a run has an equation here, and so has
sequencing (`exec_bind`), so that `simp` computes the run of a straight piece of code. Longer runs
are put together with `exec_bind_ok` and `exec_bind_error` from what is known of their parts.
-/

namespace AspiManager

namespace Run

variable {σ α β : Type}

/-- The outcome of a run from a state, and the state that it leaves. -/
def exec (x : Run σ α) (s : State σ) : Except Fault α × State σ := (x.run).run s

/-! ## Sequencing -/

@[simp] theorem exec_pure (a : α) (s : State σ) : (pure a : Run σ α).exec s = (.ok a, s) := rfl

@[simp] theorem exec_bind (x : Run σ α) (f : α → Run σ β) (s : State σ) :
    (x >>= f).exec s = match x.exec s with
      | (.ok a, t) => (f a).exec t
      | (.error e, t) => (.error e, t) := by
  simp only [exec, ExceptT.run_bind, StateT.run_bind]
  rcases StateT.run (ExceptT.run x) s with ⟨_ | _, t⟩ <;> rfl

theorem exec_bind_ok {x : Run σ α} {s t : State σ} {a : α} (h : x.exec s = (.ok a, t))
    (f : α → Run σ β) : (x >>= f).exec s = (f a).exec t := by
  rw [exec_bind, h]

theorem exec_bind_error {x : Run σ α} {s t : State σ} {e : Fault} (h : x.exec s = (.error e, t))
    (f : α → Run σ β) : (x >>= f).exec s = (.error e, t) := by
  rw [exec_bind, h]

/-- Runs whose first parts come to the same, and whose second parts do after that. -/
theorem exec_bind_congr {x y : Run σ α} {f g : α → Run σ β} {s : State σ}
    (h : x.exec s = y.exec s) (hfg : ∀ a t, y.exec s = (.ok a, t) → (f a).exec t = (g a).exec t) :
    (x >>= f).exec s = (y >>= g).exec s := by
  rw [exec_bind, exec_bind, h]
  rcases hy : y.exec s with ⟨e | a, t⟩
  · rfl
  · exact hfg a t hy

/-- Runs that come to the same from every state are the same. -/
theorem ext {x y : Run σ α} (h : ∀ s, x.exec s = y.exec s) : x = y := funext h

@[simp] theorem exec_map (f : α → β) (x : Run σ α) (s : State σ) :
    (f <$> x).exec s = match x.exec s with
      | (.ok a, t) => (.ok (f a), t)
      | (.error e, t) => (.error e, t) := by
  simp only [exec, ExceptT.run_map, StateT.run_map]
  rcases StateT.run (ExceptT.run x) s with ⟨_ | _, t⟩ <;> rfl

/-- What a run adds to a list of the state is added in pieces. -/
theorem append_lists (as : Array α) (l l' : List α) : as ++ l ++ l' = as ++ (l ++ l') :=
  Array.ext' (by simp)

/-! ## Primitives -/

@[simp] theorem exec_get (s : State σ) : (get : Run σ (State σ)).exec s = (.ok s, s) := rfl

@[simp] theorem exec_throw (e : Fault) (s : State σ) :
    (throw e : Run σ α).exec s = (.error e, s) := rfl

@[simp] theorem exec_lift (e : Except Fault α) (s : State σ) :
    exec (ExceptT.mk (pure e : StateM (State σ) (Except Fault α))) s = (e, s) := rfl

@[simp] theorem exec_report (e : Log.Event) (s : State σ) :
    (report e).exec s = (.ok (), { s with events := s.events.push e }) := rfl

@[simp] theorem exec_reportAll (es : List Log.Event) (s : State σ) :
    (reportAll es).exec s = (.ok (), { s with events := s.events ++ es }) := rfl

@[simp] theorem exec_record (e : Effect) (s : State σ) :
    (record e).exec s = (.ok (), { s with effects := s.effects.push e }) := rfl

@[simp] theorem exec_memory (s : State σ) : memory.exec s = (.ok s.memory, s) := rfl

@[simp] theorem exec_setMemory (m : Memory) (s : State σ) :
    (setMemory m).exec s = (.ok (), { s with memory := m }) := rfl

@[simp] theorem exec_setRegistry (r : Registry) (s : State σ) :
    (setRegistry r).exec s = (.ok (), { s with registry := r }) := rfl

@[simp] theorem exec_host (f : σ → α × σ) (s : State σ) :
    (host f).exec s = (.ok (f s.world).1, { s with world := (f s.world).2 }) := rfl

@[simp] theorem exec_slice (r : Range) (s : State σ) : (slice r).exec s = (s.memory.slice r, s) :=
  rfl

@[simp] theorem exec_replace (r : Range) (data : Bytes) (s : State σ) :
    (replace r data).exec s = match s.memory.replace r data with
      | .ok m => (.ok (), { s with memory := m })
      | .error e => (.error e, s) := by
  simp only [replace, exec_bind, exec_memory]
  cases s.memory.replace r data <;> rfl

end Run

end AspiManager
