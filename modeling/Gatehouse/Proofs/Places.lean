/-! # Places in a history

A history only grows at its end, so what stands at a place stays there, and so
does everything that stood before it.
-/

namespace Gatehouse

variable {α : Type} {history added : List α} {place : Nat} {event : α}

theorem place_cases (hplace : (history ++ added)[place]? = some event) :
    place < history.length ∧ history[place]? = some event ∨
      history.length ≤ place ∧ event ∈ added := by
  rw [List.getElem?_append] at hplace
  split at hplace
  next hlt => exact .inl ⟨hlt, hplace⟩
  next hle => exact .inr ⟨Nat.le_of_not_lt hle, List.mem_of_getElem? hplace⟩

theorem place_append (hplace : history[place]? = some event) (added : List α) :
    (history ++ added)[place]? = some event := by
  obtain ⟨hlt, _⟩ := List.getElem?_eq_some_iff.mp hplace
  rw [List.getElem?_append_left hlt, hplace]

theorem take_append (hplace : history[place]? = some event) (added : List α) :
    (history ++ added).take place = history.take place := by
  obtain ⟨hlt, _⟩ := List.getElem?_eq_some_iff.mp hplace
  exact List.take_append_of_le_length (Nat.le_of_lt hlt)

theorem of_place_take {bound : Nat} (hplace : (history.take bound)[place]? = some event) :
    place < bound ∧ history[place]? = some event := by
  rw [List.getElem?_take] at hplace
  split at hplace
  next hlt => exact ⟨hlt, hplace⟩
  next => contradiction

theorem place_singleton_cases {last : α} (hplace : (history ++ [last])[place]? = some event) :
    place < history.length ∧ history[place]? = some event ∨
      place = history.length ∧ event = last := by
  rcases place_cases hplace with hbefore | ⟨hle, hmem⟩
  · exact .inl hbefore
  · obtain ⟨hbound, _⟩ := List.getElem?_eq_some_iff.mp hplace
    rw [List.length_append, List.length_singleton] at hbound
    exact .inr ⟨Nat.le_antisymm (Nat.le_of_lt_succ hbound) hle, List.mem_singleton.mp hmem⟩

end Gatehouse
