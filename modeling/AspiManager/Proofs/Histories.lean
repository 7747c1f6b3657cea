import Mathlib.Data.List.Basic

/-!
# The last event of a kind

What holds after a history often goes back to one event: the last allocation of an index, the last
validation that succeeded. Such a statement splits the history at the event. For an induction from
the end, `snoc_eq_append_cons_iff` says what becomes of the split when one event is added.
-/

namespace AspiManager

section

variable {α : Type} {es before rest : List α} {e x : α}

/-- What is added is the event itself, or it is behind the event. -/
theorem snoc_eq_append_cons_iff : es ++ [x] = before ++ e :: rest ↔
    (rest = [] ∧ es = before ∧ x = e) ∨
      ∃ between, rest = between ++ [x] ∧ es = before ++ e :: between := by
  constructor
  · intro h
    rcases List.eq_nil_or_concat' rest with rfl | ⟨between, y, rfl⟩
    · obtain ⟨hes, hx⟩ := List.append_inj' h rfl
      exact .inl ⟨rfl, hes, List.singleton_inj.mp hx⟩
    · have h' : es ++ [x] = (before ++ e :: between) ++ [y] := by simpa using h
      obtain ⟨hes, hx⟩ := List.append_inj' h' rfl
      exact .inr ⟨between, by rw [List.singleton_inj.mp hx], hes⟩
  · rintro (⟨rfl, rfl, rfl⟩ | ⟨between, rfl, rfl⟩)
    · rfl
    · rw [List.append_assoc, List.cons_append]

end

end AspiManager
