/-! # Tables

A finite map that remembers the order in which its keys first came. Replacing a
value keeps the place of its key. Everything a table holds can be looked up:
no key comes twice, so `get?` says all there is to say about the contents, and
each operation is described by what it does to `get?`.
-/

namespace Gatehouse

/-- A finite map with its keys in the order of their first insertion. -/
structure Table (κ ν : Type) where
  entries : List (κ × ν)
  nodup : (entries.map Prod.fst).Nodup

namespace Table

variable {κ ν : Type} [DecidableEq κ]

/-- The table without entries. -/
def empty : Table κ ν :=
  ⟨[], List.nodup_nil⟩

instance : EmptyCollection (Table κ ν) := ⟨empty⟩
instance : Inhabited (Table κ ν) := ⟨empty⟩

instance [DecidableEq ν] : DecidableEq (Table κ ν) := fun s t =>
  if h : s.entries = t.entries then
    isTrue (by cases s; cases t; simp_all)
  else isFalse fun e => h (e ▸ rfl)

/-- The keys in order. -/
def keys (t : Table κ ν) : List κ :=
  t.entries.map Prod.fst

/-- The values in the order of their keys. -/
def values (t : Table κ ν) : List ν :=
  t.entries.map Prod.snd

/-- The number of entries. -/
def size (t : Table κ ν) : Nat :=
  t.entries.length

/-- The value of a key. -/
def get? (t : Table κ ν) (k : κ) : Option ν :=
  (t.entries.find? fun e => decide (e.1 = k)).map Prod.snd

/-- The key has a value. -/
def contains (t : Table κ ν) (k : κ) : Bool :=
  (t.get? k).isSome

theorem get?_eq_some_iff {t : Table κ ν} {k : κ} {v : ν} :
    t.get? k = some v ↔ (k, v) ∈ t.entries := by
  obtain ⟨entries, nodup⟩ := t
  simp only [get?]
  induction entries with
  | nil => simp
  | cons e rest ih =>
    obtain ⟨a, b⟩ := e
    simp only [List.map_cons, List.nodup_cons, List.mem_map, Prod.exists, exists_and_right,
      exists_eq_right, not_exists] at nodup
    by_cases h : a = k
    · subst h
      simp only [List.find?_cons, decide_true, Option.map_some, Option.some.injEq,
        List.mem_cons, Prod.mk.injEq, true_and]
      constructor
      · exact fun e => .inl e.symm
      · rintro (e | e)
        · exact e.symm
        · exact absurd e (nodup.1 v)
    · simp only [List.find?_cons, h, decide_false, List.mem_cons, Prod.mk.injEq]
      rw [ih nodup.2]
      constructor
      · exact .inr
      · rintro (e | e)
        · exact absurd e.1.symm h
        · exact e

theorem get?_eq_none_iff {t : Table κ ν} {k : κ} : t.get? k = none ↔ k ∉ t.keys := by
  simp only [get?, keys, Option.map_eq_none_iff, List.find?_eq_none, decide_eq_true_eq,
    List.mem_map, not_exists, not_and]

@[simp] theorem get?_empty (k : κ) : (empty : Table κ ν).get? k = none := rfl

/-- Changes the values, each by its key. -/
def mapValues (f : κ → ν → ν) (t : Table κ ν) : Table κ ν where
  entries := t.entries.map fun e => (e.1, f e.1 e.2)
  nodup := by simpa [Function.comp_def] using t.nodup

theorem get?_mapValues (f : κ → ν → ν) (t : Table κ ν) (k : κ) :
    (t.mapValues f).get? k = (t.get? k).map (f k) := by
  simp only [get?, mapValues, List.find?_map, Option.map_map, Function.comp_def]
  cases h : t.entries.find? fun e => decide (e.1 = k) with
  | none => rfl
  | some e =>
    have := List.find?_some h
    simp only [decide_eq_true_eq] at this
    simp [this]

omit [DecidableEq κ] in
@[simp] theorem keys_mapValues (f : κ → ν → ν) (t : Table κ ν) : (t.mapValues f).keys = t.keys := by
  simp [keys, mapValues, Function.comp_def]

/-- Changes the value of a key, if it has one. -/
def modify (t : Table κ ν) (k : κ) (f : ν → ν) : Table κ ν :=
  t.mapValues fun a v => if a = k then f v else v

theorem get?_modify (t : Table κ ν) (k a : κ) (f : ν → ν) :
    (t.modify k f).get? a = if a = k then (t.get? a).map f else t.get? a := by
  rw [modify, get?_mapValues]
  split <;> cases t.get? a <;> rfl

@[simp] theorem keys_modify (t : Table κ ν) (k : κ) (f : ν → ν) : (t.modify k f).keys = t.keys :=
  keys_mapValues _ t

/-- Gives a key a value: in its place if it has one already, otherwise behind all others. -/
def put (t : Table κ ν) (k : κ) (v : ν) : Table κ ν :=
  if h : k ∈ t.keys then t.modify k fun _ => v
  else
    ⟨t.entries ++ [(k, v)], by
      simp only [List.map_append, List.map_cons, List.map_nil]
      refine List.nodup_append.2 ⟨t.nodup, by simp, ?_⟩
      intro a ha b hb
      simp only [List.mem_cons, List.not_mem_nil, or_false] at hb
      subst hb
      exact fun e => h (e ▸ ha)⟩

theorem get?_put (t : Table κ ν) (k a : κ) (v : ν) :
    (t.put k v).get? a = if a = k then some v else t.get? a := by
  unfold put
  split
  · rename_i h
    rw [get?_modify]
    split
    · rename_i e
      subst e
      cases hv : t.get? a with
      | none => exact absurd h (get?_eq_none_iff.1 hv)
      | some w => rfl
    · rfl
  · rename_i h
    simp only [get?, List.find?_append]
    split
    · rename_i e
      subst e
      have := get?_eq_none_iff.2 h
      simp only [get?, Option.map_eq_none_iff] at this
      simp [this]
    · rename_i e
      have e' : ¬ k = a := fun h => e h.symm
      simp [e']

theorem keys_put_of_mem {t : Table κ ν} {k : κ} (h : k ∈ t.keys) (v : ν) :
    (t.put k v).keys = t.keys := by
  simp [put, h]

theorem keys_put_of_not_mem {t : Table κ ν} {k : κ} (h : k ∉ t.keys) (v : ν) :
    (t.put k v).keys = t.keys ++ [k] := by
  simp only [put, h, dite_false]
  simp [keys]

/-- Gives a key a value unless it has one already. -/
def putIfAbsent (t : Table κ ν) (k : κ) (v : ν) : Table κ ν :=
  if t.contains k then t else t.put k v

theorem get?_putIfAbsent (t : Table κ ν) (k a : κ) (v : ν) :
    (t.putIfAbsent k v).get? a = if a = k then some ((t.get? a).getD v) else t.get? a := by
  unfold putIfAbsent contains
  split
  · rename_i h
    split
    · rename_i e
      subst e
      cases hv : t.get? a with
      | none => simp [hv] at h
      | some w => rfl
    · rfl
  · rename_i h
    rw [get?_put]
    split
    · rename_i e
      subst e
      cases hv : t.get? a with
      | none => rfl
      | some w => simp [hv] at h
    · rfl

/-- Keeps the entries whose value passes a test. -/
def filter (p : ν → Bool) (t : Table κ ν) : Table κ ν where
  entries := t.entries.filter fun e => p e.2
  nodup := t.nodup.sublist (List.Sublist.map _ List.filter_sublist)

theorem get?_filter (p : ν → Bool) (t : Table κ ν) (k : κ) :
    (t.filter p).get? k = (t.get? k).filter p := by
  have key : ∀ v, (t.filter p).get? k = some v ↔ (t.get? k).filter p = some v := fun v => by
    rw [get?_eq_some_iff, Option.filter_eq_some_iff, get?_eq_some_iff]
    simp [filter]
  cases h : (t.get? k).filter p with
  | none =>
    cases hv : (t.filter p).get? k with
    | none => rfl
    | some v => rw [(key v).1 hv] at h; cases h
  | some v => exact (key v).2 h

/-- Drops a key and its value. -/
def erase (t : Table κ ν) (k : κ) : Table κ ν where
  entries := t.entries.filter fun e => decide (e.1 ≠ k)
  nodup := t.nodup.sublist (List.Sublist.map _ List.filter_sublist)

theorem get?_erase (t : Table κ ν) (k a : κ) :
    (t.erase k).get? a = if a = k then none else t.get? a := by
  have key : ∀ v, (t.erase k).get? a = some v ↔ a ≠ k ∧ t.get? a = some v := fun v => by
    rw [get?_eq_some_iff, get?_eq_some_iff]
    simp [erase, and_comm]
  split
  · rename_i e
    cases hv : (t.erase k).get? a with
    | none => rfl
    | some v => exact absurd e ((key v).1 hv).1
  · rename_i e
    cases hv : t.get? a with
    | none =>
      cases hw : (t.erase k).get? a with
      | none => rfl
      | some v => rw [((key v).1 hw).2] at hv; cases hv
    | some v => exact (key v).2 ⟨e, hv⟩

end Table

end Gatehouse
