import Gatehouse.Table
import Mathlib

/-! # Laws of tables

How the entries of a table, and their number, change when one of them is put or
erased and when only some of them are kept.
-/

namespace Gatehouse.Table

variable {κ ν : Type} [DecidableEq κ] {t : Table κ ν} {k : κ} {v : ν}

theorem entries_put_of_not_mem (hkey : k ∉ t.keys) (v : ν) :
    (t.put k v).entries = t.entries ++ [(k, v)] := by
  simp [put, hkey]

/-- Putting a value in the place of another one changes the value that is there. -/
theorem put_eq_modify (hget : t.get? k = some v) (change : ν → ν) :
    t.put k (change v) = t.modify k change := by
  have hkey : k ∈ t.keys := by
    by_contra habsent
    rw [get?_eq_none_iff.mpr habsent] at hget
    contradiction
  rw [put, dif_pos hkey, modify, modify, mapValues, mapValues, Table.mk.injEq]
  refine List.map_congr_left ?_
  rintro ⟨a, b⟩ hentry
  by_cases heq : a = k
  · subst heq
    rw [get?_eq_some_iff.mpr hentry, Option.some.injEq] at hget
    simp [hget]
  · simp [heq]

theorem perm_erase (hget : t.get? k = some v) : t.entries.Perm ((k, v) :: (t.erase k).entries) := by
  have herased : (k, v) ∉ (t.erase k).entries := by simp [erase]
  rw [List.perm_ext_iff_of_nodup t.nodup.of_map
    (List.nodup_cons.mpr ⟨herased, (t.erase k).nodup.of_map⟩)]
  rintro ⟨a, b⟩
  simp only [← get?_eq_some_iff, List.mem_cons, Prod.mk.injEq, get?_erase]
  by_cases heq : a = k
  · subst heq
    simp [hget, eq_comm]
  · simp [heq]

theorem countP_erase (hget : t.get? k = some v) (p : κ × ν → Bool) :
    t.entries.countP p = (t.erase k).entries.countP p + if p (k, v) then 1 else 0 := by
  rw [(perm_erase hget).countP_eq, List.countP_cons]

theorem size_put_of_none (hget : t.get? k = none) (v : ν) : (t.put k v).size = t.size + 1 := by
  rw [size, entries_put_of_not_mem (get?_eq_none_iff.mp hget), List.length_append, ← size]
  rfl

theorem size_erase_of_some (hget : t.get? k = some v) : t.size = (t.erase k).size + 1 :=
  (perm_erase hget).length_eq

theorem size_erase_of_none (hget : t.get? k = none) : (t.erase k).size = t.size := by
  have hkept : ∀ entry ∈ t.entries, decide (entry.1 ≠ k) = true := by
    intro entry hentry
    rw [decide_eq_true_eq]
    rintro rfl
    exact get?_eq_none_iff.mp hget (List.mem_map_of_mem hentry)
  exact congrArg List.length (List.filter_eq_self.mpr hkept)

/-- A table has lost as many entries as it had keys whose values fail the test. -/
theorem exists_filtered (p : ν → Bool) (t : Table κ ν) :
    ∃ lost : List κ, lost.Nodup ∧ t.size = (t.filter p).size + lost.length ∧
      ∀ k, k ∈ lost ↔ ∃ v, t.get? k = some v ∧ p v = false := by
  refine ⟨(t.entries.filter fun entry => !p entry.2).map Prod.fst, ?_, ?_, ?_⟩
  · exact t.nodup.sublist (List.filter_sublist.map _)
  · rw [List.length_map]
    exact List.length_eq_length_filter_add fun entry : κ × ν => p entry.2
  · intro k
    simp [get?_eq_some_iff]

end Gatehouse.Table
