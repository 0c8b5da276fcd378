import Gatehouse.Json.Decode
import Mathlib.Data.String.Basic
import Mathlib.Tactic.SplitIfs

/-! # Fields of objects

An object has its fields in rising order of their keys, each key once, whatever
the order in which they were put in. What stands under a key is what was put
there last; a slot that nothing was put into leaves its key out.
-/

namespace Gatehouse

namespace Json

variable {key : String} {value : Json}

theorem lookup_cons (name other : String) (found : Json) (rest : List (String × Json)) :
    ((name, found) :: rest).lookup other =
      if other = name then some found else rest.lookup other := by
  by_cases hother : other = name
  · simp [hother]
  · simp [List.lookup_cons, beq_false_of_ne hother, hother]

theorem lookup_insertField (key other : String) (value : Json) (fields : List (String × Json)) :
    (insertField key value fields).lookup other =
      if other = key then some value else fields.lookup other := by
  induction fields with
  | nil => exact lookup_cons key other value []
  | cons field rest ih =>
      obtain ⟨name, found⟩ := field
      unfold insertField
      split
      next heq =>
        subst heq
        rw [lookup_cons, lookup_cons]
        by_cases hother : other = key <;> simp [hother]
      next hne =>
        split
        · exact lookup_cons key other value _
        · rw [lookup_cons, lookup_cons, ih]
          by_cases hname : other = name
          · have hother : other ≠ key := fun heq => hne (heq.symm.trans hname)
            rw [if_pos hname, if_neg hother, if_pos hname]
          · rw [if_neg hname, if_neg hname]

theorem of_mem_insertField {field : String × Json} {fields : List (String × Json)}
    (hmem : field ∈ insertField key value fields) : field = (key, value) ∨ field ∈ fields := by
  induction fields with
  | nil => exact .inl (List.mem_singleton.mp hmem)
  | cons first rest ih =>
      unfold insertField at hmem
      split at hmem
      · exact (List.mem_cons.mp hmem).imp_right (List.mem_cons_of_mem first)
      · split at hmem
        · exact List.mem_cons.mp hmem
        · rcases List.mem_cons.mp hmem with rfl | hrest
          · exact .inr List.mem_cons_self
          · exact (ih hrest).imp_right (List.mem_cons_of_mem first)

/-- Fields in rising order of their keys. -/
def Sorted (fields : List (String × Json)) : Prop :=
  fields.Pairwise fun a b => a.1 < b.1

theorem Sorted.insertField {key : String} {value : Json} {fields : List (String × Json)}
    (h : Sorted fields) : Sorted (insertField key value fields) := by
  induction fields with
  | nil => exact List.pairwise_singleton _ _
  | cons field rest ih =>
      obtain ⟨name, found⟩ := field
      obtain ⟨hfirst, hrest⟩ := List.pairwise_cons.mp h
      unfold Json.insertField
      split_ifs with heq hlt
      · subst heq
        exact List.pairwise_cons.mpr ⟨hfirst, hrest⟩
      · refine List.pairwise_cons.mpr ⟨fun field hmem => ?_, h⟩
        rcases List.mem_cons.mp hmem with rfl | hmem
        · exact hlt
        · exact hlt.trans (hfirst field hmem)
      · refine List.pairwise_cons.mpr ⟨fun field hmem => ?_, ih hrest⟩
        rcases of_mem_insertField hmem with rfl | hmem
        · exact lt_of_le_of_ne (not_lt.mp hlt) (Ne.symm heq)
        · exact hfirst field hmem

theorem sorted_sortFields (fields : List (String × Json)) : Sorted (sortFields fields) := by
  have hfold : ∀ sorted, Sorted sorted →
      Sorted (fields.foldl (fun sorted field => insertField field.1 field.2 sorted) sorted) := by
    induction fields with
    | nil => exact fun _ h => h
    | cons field rest ih => exact fun _ h => ih _ h.insertField
  exact hfold [] List.Pairwise.nil

theorem Sorted.nodup {fields : List (String × Json)} (h : Sorted fields) :
    (fields.map Prod.fst).Nodup :=
  List.pairwise_map.mpr (h.imp fun hlt => ne_of_lt hlt)

theorem lookup_eq_none {fields : List (String × Json)} {key : String}
    (h : key ∉ fields.map Prod.fst) : fields.lookup key = none := by
  refine List.lookup_eq_none_iff.mpr fun field hmem => ?_
  simpa using fun heq : key = field.1 => h (heq ▸ List.mem_map_of_mem hmem)

theorem lookup_of_mem {fields : List (String × Json)} (h : (fields.map Prod.fst).Nodup)
    {field : String × Json} (hmem : field ∈ fields) : fields.lookup field.1 = some field.2 := by
  induction fields with
  | nil => contradiction
  | cons first rest ih =>
      obtain ⟨hfirst, hrest⟩ := List.nodup_cons.mp h
      rw [lookup_cons]
      rcases List.mem_cons.mp hmem with rfl | hmem
      · exact if_pos rfl
      · have hne : field.1 ≠ first.1 := fun heq => hfirst (heq ▸ List.mem_map_of_mem hmem)
        rw [if_neg hne, ih hrest hmem]

theorem lookup_sortFields {fields : List (String × Json)} (h : (fields.map Prod.fst).Nodup)
    (key : String) : (sortFields fields).lookup key = fields.lookup key := by
  have hfold : ∀ sorted : List (String × Json),
      (fields.foldl (fun sorted field => insertField field.1 field.2 sorted) sorted).lookup key =
        (fields.lookup key).or (sorted.lookup key) := by
    induction fields with
    | nil => exact fun _ => rfl
    | cons field rest ih =>
        obtain ⟨name, found⟩ := field
        obtain ⟨hfirst, hrest⟩ := List.nodup_cons.mp h
        intro sorted
        rw [List.foldl_cons, ih hrest, lookup_insertField, lookup_cons]
        split_ifs with heq
        · subst heq
          rw [lookup_eq_none hfirst]
          rfl
        · rfl
  simpa [sortFields] using hfold []

theorem lookup_filter_ne {key other : String} (h : other ≠ key) (fields : List (String × Json)) :
    (fields.filter fun field => decide (field.1 ≠ key)).lookup other = fields.lookup other := by
  induction fields with
  | nil => rfl
  | cons field rest ih =>
      rw [List.filter_cons, lookup_cons]
      split_ifs with hkept heq heq
      · exact (lookup_cons _ _ _ _).trans (if_pos heq)
      · rw [lookup_cons, if_neg heq, ih]
      · simp only [decide_eq_true_eq, not_not] at hkept
        exact absurd (heq.trans hkept) h
      · exact ih

/-- A key, and what stands under it when anything does. -/
abbrev Slot := String × Option Json

/-- The fields that fill slots. -/
def filled (slots : List Slot) : List (String × Json) :=
  slots.flatMap fun slot => optionalField slot.1 id slot.2

theorem filled_cons (slot : Slot) (slots : List Slot) :
    filled (slot :: slots) = optionalField slot.1 id slot.2 ++ filled slots :=
  rfl

@[simp] theorem optionalField_some (key : String) (value : Json) :
    optionalField key id (some value) = [(key, value)] :=
  rfl

theorem optionalField_map {α : Type} (key : String) (encode : α → Json) (x : Option α) :
    optionalField key id (x.map encode) = optionalField key encode x := by
  cases x <;> rfl

theorem lookup_optionalField (key other : String) (value : Option Json) :
    (optionalField key id value).lookup other = if other = key then value else none := by
  cases value with
  | none => simp [optionalField]
  | some value => exact lookup_cons key other value []

theorem keys_filled (slots : List Slot) :
    ((filled slots).map Prod.fst).Sublist (slots.map Prod.fst) := by
  induction slots with
  | nil => exact List.Sublist.slnil
  | cons slot slots ih =>
      obtain ⟨key, value⟩ := slot
      cases value with
      | none => exact ih.cons key
      | some value => exact ih.cons_cons key

theorem lookup_filled {slots : List Slot} (h : (slots.map Prod.fst).Nodup) {slot : Slot}
    (hmem : slot ∈ slots) : (filled slots).lookup slot.1 = slot.2 := by
  induction slots with
  | nil => contradiction
  | cons first slots ih =>
      obtain ⟨hfirst, hslots⟩ := List.nodup_cons.mp h
      rw [filled_cons, List.lookup_append, lookup_optionalField]
      rcases List.mem_cons.mp hmem with rfl | hmem
      · rw [if_pos rfl, lookup_eq_none fun hkey => hfirst ((keys_filled slots).subset hkey),
          Option.or_none]
      · have hne : slot.1 ≠ first.1 := fun heq => hfirst (heq ▸ List.mem_map_of_mem hmem)
        rw [if_neg hne, ih hslots hmem, Option.none_or]

/-- The fields of an object under keys of their own are those of the slots that they fill. -/
theorem lookup_sortFields_filled {slots : List Slot} (h : (slots.map Prod.fst).Nodup) {slot : Slot}
    (hmem : slot ∈ slots) : (sortFields (filled slots)).lookup slot.1 = slot.2 := by
  rw [lookup_sortFields (h.sublist (keys_filled slots)), lookup_filled h hmem]

end Json

namespace Record

theorem decode_obj {α : Type} (r : Record α) (name : String) (reading : Reading)
    (fields : List (String × Json)) : r.decode name reading (.obj fields) =
      (fields.forM fun field => r.check field.1 field.2) >>= fun _ => r.ofFields fields :=
  rfl

theorem forM_eq_ok_iff {check : String × Json → Except DecodeError Unit}
    {fields : List (String × Json)} :
    fields.forM check = .ok () ↔ ∀ field ∈ fields, check field = .ok () := by
  induction fields with
  | nil => exact ⟨fun _ field hmem => by contradiction, fun _ => rfl⟩
  | cons first rest ih =>
      rw [List.forall_mem_cons, ← ih]
      change (check first >>= fun _ => rest.forM check) = .ok () ↔ _
      cases check first <;> simp [bind, Except.bind]

end Record

end Gatehouse
