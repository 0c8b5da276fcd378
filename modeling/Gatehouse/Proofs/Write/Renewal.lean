import Gatehouse.Proofs.Json.Fields
import Gatehouse.Write.Envelope

/-! # The same write once more

A write is requested once more when all its fields are those of the first time
but the approval that it comes with. What a payload leaves open is filled in by
the stamp of the attempt and may differ. Setting the field of the approval in a
payload makes such a request of it, whatever else the payload says.
-/

namespace Gatehouse

namespace Record

variable {α β γ δ : Type} {key : String} {value : Json}

/-- Where one description reads something from fields, another reads something related from the same
fields with one of them set. -/
def Follows (key : String) (value : Json) (related : α → β → Prop) (r : Record α) (s : Record β) :
    Prop :=
  ∀ fields a, r.ofFields fields = .ok a →
    ∃ b, s.ofFields (Json.insertField key value fields) = .ok b ∧ related a b

theorem Follows.pure {related : α → β → Prop} {x : α} {y : β} (hrelated : related x y) :
    Follows key value related (Record.pure x) (Record.pure y) := by
  rintro fields a ⟨⟩
  exact ⟨y, rfl, hrelated⟩

theorem Follows.seq {related : β → δ → Prop} {parts : α → γ → Prop} {r : Record (α → β)}
    {s : Record (γ → δ)} {t : Record α} {u : Record γ}
    (hfirst : Follows key value (fun f g => ∀ x y, parts x y → related (f x) (g y)) r s)
    (hsecond : Follows key value parts t u) : Follows key value related (r.seq t) (s.seq u) := by
  intro fields a hread
  cases hf : r.ofFields fields with
  | error e => simp [Record.seq, hf, bind, Except.bind] at hread
  | ok f =>
      cases hx : t.ofFields fields with
      | error e => simp [Record.seq, hf, hx, bind, Except.bind] at hread
      | ok x =>
          obtain ⟨g, hg, hrelated⟩ := hfirst fields f hf
          obtain ⟨y, hy, hparts⟩ := hsecond fields x hx
          obtain rfl : f x = a := by simpa [Record.seq, hf, hx, bind, Except.bind] using hread
          exact ⟨g y, by simp [Record.seq, hg, hy, bind, Except.bind], hrelated x y hparts⟩

/-- Another field is read as before. -/
theorem Follows.kept {name : String} {decode : Decoder α} {absent short : Option α}
    (hname : name ≠ key) :
    Follows key value Eq (single name decode absent short) (single name decode absent short) := by
  intro fields a hread
  refine ⟨a, ?_, rfl⟩
  simp only [single, Json.lookup_insertField, if_neg hname] at hread ⊢
  exact hread

/-- What stands for another field that is not given may differ. -/
theorem Follows.dated {name : String} {decode : Decoder α} {x y : α} (hname : name ≠ key) :
    Follows key value (fun _ _ => True) (defaulted name decode x) (defaulted name decode y) := by
  intro fields a hread
  simp only [defaulted, single, Json.lookup_insertField, if_neg hname] at hread ⊢
  cases hfound : fields.lookup name with
  | some found => exact ⟨a, by simpa only [hfound] using hread, trivial⟩
  | none => exact ⟨y, rfl, trivial⟩

theorem Follows.set {decode : Decoder α} {absent short : Option α} {b : α}
    (hvalue : decode value = .ok b) :
    Follows key value (fun _ y => y = b) (single key decode absent short)
      (single key decode absent short) := by
  intro fields a _
  refine ⟨b, ?_, rfl⟩
  simp only [single, Json.lookup_insertField, if_pos]
  exact hvalue

theorem Follows.decode {related : α → β → Prop} {r : Record α} {s : Record β}
    (hfollows : Follows key value related r s) (hcheck : s.check = r.check)
    (hvalue : r.check key value = .ok ()) (name : String) (reading : Reading)
    {fields : List (String × Json)} {a : α}
    (hdecode : r.decode name reading (.obj fields) = .ok a) :
    ∃ b, s.decode name reading (.obj (Json.insertField key value fields)) = .ok b ∧
      related a b := by
  rw [decode_obj] at hdecode
  rw [decode_obj, hcheck]
  cases hchecked : fields.forM fun field => r.check field.1 field.2 with
  | error e => simp [hchecked, bind, Except.bind] at hdecode
  | ok checked =>
      rw [hchecked] at hdecode
      obtain ⟨b, hb, hrelated⟩ := hfollows fields a hdecode
      have hset : (Json.insertField key value fields).forM
          (fun field => r.check field.1 field.2) = .ok () := by
        refine forM_eq_ok_iff.mpr fun field hfield => ?_
        rcases Json.of_mem_insertField hfield with rfl | hmem
        · exact hvalue
        · exact forM_eq_ok_iff.mp hchecked field hmem
      exact ⟨b, by rw [hset]; exact hb, hrelated⟩

end Record

namespace Envelope

/-- A write is requested once more with an approval; its name and its date may be new. -/
def Renews (renewed write : Envelope) (approval : String) : Prop :=
  renewed = { write with
    approval := some approval, id := renewed.id, createdAt := renewed.createdAt }

variable {renewed write : Envelope} {approval : String}

theorem Renews.eq (hrenews : renewed.Renews write approval) : renewed = { write with
    approval := some approval, id := renewed.id, createdAt := renewed.createdAt } :=
  hrenews

theorem Renews.command_eq (hrenews : renewed.Renews write approval) :
    renewed.command = write.command := by
  rw [hrenews.eq]

theorem Renews.approval_eq (hrenews : renewed.Renews write approval) :
    renewed.approval = some approval := by
  rw [hrenews.eq]

theorem Renews.execution_eq (hrenews : renewed.Renews write approval) :
    renewed.execution = write.execution := by
  rw [hrenews.eq]

/-- It has the key that it had. -/
theorem Renews.resolvedKey_eq (hrenews : renewed.Renews write approval) :
    renewed.resolvedKey = write.resolvedKey := by
  rw [hrenews.eq]
  rfl

/-- An execution that is filled in may be another one. -/
theorem Renews.filled (hrenews : renewed.Renews write approval) (execution : Option String) :
    Envelope.Renews { renewed with execution := renewed.execution <|> execution }
      { write with execution := write.execution <|> execution } approval := by
  rw [hrenews.eq]
  rfl

end Envelope

/-- One payload asks for the write of another once more, with an approval. -/
def Json.Renews (renewed payload : Json) (approval : String) : Prop :=
  ∀ {stamp write}, Envelope.decode stamp payload = .ok write → ∀ later, ∃ again,
    Envelope.decode later renewed = .ok again ∧ again.Renews write approval

/-- Setting the approval in the payload of a write makes that of the same write with the
approval. -/
theorem Json.renews_insertField (approval : String) (fields : List (String × Json)) :
    Renews (.obj (insertField "approval_id" (.str approval) fields)) (.obj fields) approval := by
  intro stamp write hdecode later
  have hfollows : Record.Follows "approval_id" (.str approval)
      (fun write again => Envelope.Renews again write approval)
      (Envelope.record stamp) (Envelope.record later) := by
    refine .seq (.seq (.seq (.seq (.seq (.seq (.seq (.seq (.seq (.seq (.pure ?_)
      (.kept ?_)) (.kept ?_)) (.kept ?_)) (.kept ?_)) (.kept ?_)) (.kept ?_)) (.kept ?_))
      (.set rfl)) (.dated ?_)) (.dated ?_)
    case refine_1 =>
      rintro _ command rfl _ actor rfl _ resource rfl _ payload rfl _ task rfl _ execution rfl
        _ key rfl _ _ rfl _ id _ _ createdAt _
      rfl
    all_goals decide
  exact hfollows.decode rfl rfl _ _ hdecode

end Gatehouse
