import Gatehouse.Proofs.Json.Fields
import Gatehouse.Proofs.Steps
import Gatehouse.Proofs.Time.Timestamp

/-! # Values read again

A decoder restores a type when whatever is decoded, however it was written, is
decoded again from its encoding. For a structure this is shown field by field:
each field of the description brings the slot that its part of the encoding
fills, and the slots of all fields together are enough to read the structure,
whatever else the object has. A default may be another one the second time,
because the encoding leaves nothing open.
-/

namespace Gatehouse

variable {α β : Type}

namespace Decoder

/-- Whatever one decoder reads, another one reads again from its encoding. -/
def Restores (encode : α → Json) (decode again : Decoder α) : Prop :=
  ∀ j x, decode j = .ok x → again (encode x) = .ok x

theorem nullable_eq_ok_some {decode : Decoder α} {j : Json} {x : α}
    (h : nullable decode j = .ok (some x)) : decode j = .ok x := by
  unfold nullable at h
  split at h
  · simp at h
  · cases hread : decode j with
    | error e => simp [hread, Except.map] at h
    | ok y => simpa [hread, Except.map] using h

theorem nullable_of_ne_null (decode : Decoder α) {j : Json} (h : j ≠ .null) :
    nullable decode j = (decode j).map some := by
  unfold nullable
  split
  · contradiction
  · rfl

theorem moment_text {t : Moment} (h : t.Shown) : moment (.str t.text) = .ok t := by
  change (Timestamp.parse t.text).mapError DecodeError.badTimestamp = .ok t
  rw [Timestamp.parse_text h]
  rfl

namespace Restores

theorem text : Restores .str Decoder.text Decoder.text :=
  fun _ _ _ => rfl

theorem boolean : Restores .bool Decoder.boolean Decoder.boolean :=
  fun _ _ _ => rfl

theorem value : Restores id Decoder.value Decoder.value :=
  fun _ _ _ => rfl

theorem fields : Restores .obj Decoder.fields Decoder.fields :=
  fun _ _ _ => rfl

theorem natural (limit : Nat) (name : String) :
    Restores .ofNat (Decoder.natural limit name) (Decoder.natural limit name) := by
  intro j x h
  unfold Decoder.natural at h
  split at h
  next n =>
    split_ifs at h with hrange
    obtain rfl := Except.ok.inj h
    have hcast : ((n.toNat : Nat) : Int) = n := Int.toNat_of_nonneg hrange.1
    simp only [Json.ofNat, Decoder.natural, hcast, if_pos hrange]
  next => contradiction

theorem word32 : Restores .ofNat Decoder.word32 Decoder.word32 :=
  natural _ _

theorem count : Restores .ofNat Decoder.count Decoder.count :=
  natural _ _

theorem texts : Restores (fun xs => .arr (xs.map .str)) Decoder.texts Decoder.texts := by
  intro j xs h
  clear h
  change (xs.map Json.str).mapM Decoder.text = .ok xs
  induction xs with
  | nil => rfl
  | cons x xs ih =>
      rw [List.map_cons, List.mapM_cons, ih]
      rfl

theorem moment : Restores (fun t => .str t.text) Decoder.moment Decoder.moment := by
  intro j t h
  unfold Decoder.moment at h
  split at h
  · exact moment_text (Timestamp.shown_of_parse (mapError_eq_ok_iff.mp h))
  · contradiction

/-- A type whose values are written as texts, where what is made of a text is made again of the
text that is written for it. -/
theorem named {make : String → α} {name : α → String} (h : ∀ s, make (name (make s)) = make s) :
    Restores (fun x => .str (name x)) (fun j => (Decoder.text j).map make)
      (fun j => (Decoder.text j).map make) := by
  intro j x hread
  cases hs : Decoder.text j with
  | error e => simp [hs, Except.map] at hread
  | ok s =>
      obtain rfl : make s = x := by simpa [hs, Except.map] using hread
      exact congrArg Except.ok (h s)

theorem variant {known : List (String × α)} {name : α → String}
    (h : ∀ x, known.lookup (name x) = some x) (reading : Reading) :
    Restores (fun x => .str (name x)) (.variant known reading) (.variant known reading) := by
  intro j x _
  simp only [Decoder.variant, Decoder.variant.find, h x]

theorem nullable {encode : α → Json} {decode again : Decoder α}
    (h : Restores encode decode again) (hnull : ∀ x, again .null ≠ .ok x) :
    Restores (.ofOption encode) (.nullable decode) (.nullable again) := by
  intro j x hread
  cases x with
  | none => rfl
  | some x =>
      have hagain := h j x (nullable_eq_ok_some hread)
      have hne : encode x ≠ .null := fun heq => hnull x (heq ▸ hagain)
      change Decoder.nullable again (encode x) = .ok (some x)
      rw [nullable_of_ne_null again hne, hagain]
      rfl

theorem congr {encode encode' : α → Json} {decode again : Decoder α}
    (h : Restores encode decode again) (heq : ∀ x, encode' x = encode x) :
    Restores encode' decode again :=
  fun j x hread => heq x ▸ h j x hread

/-- Null is no value where a value may be missing. -/
theorem value? :
    Restores (fun x => x.getD .null) (.nullable Decoder.value) (.nullable Decoder.value) := by
  intro j x hread
  cases j <;> obtain rfl := Except.ok.inj hread <;> rfl

theorem text? : Restores .ofText? (.nullable Decoder.text) (.nullable Decoder.text) :=
  (text.nullable nofun).congr fun x => by cases x <;> rfl

theorem named? {make : String → α} {name : α → String} (h : ∀ s, make (name (make s)) = make s) :
    Restores (fun x => .ofText? (x.map name)) (.nullable fun j => (Decoder.text j).map make)
      (.nullable fun j => (Decoder.text j).map make) :=
  ((named h).nullable nofun).congr fun x => by cases x <;> rfl

theorem moment? :
    Restores (fun t => .ofText? (t.map Moment.text)) (.nullable .moment) (.nullable .moment) :=
  (moment.nullable nofun).congr fun t => by cases t <;> rfl

end Restores

end Decoder

namespace Record

open Json (Slot)

/-! ## What comes out of a description -/

/-- A structure is put together from some object or from some items. -/
def Yields (r : Record α) (x : α) : Prop :=
  (∃ fields, r.ofFields fields = .ok x) ∨
    ∃ whole position items rest, r.ofItems whole position items = .ok (x, rest)

theorem Yields.of_decode {r : Record α} {name : String} {reading : Reading} {j : Json} {x : α}
    (h : r.decode name reading j = .ok x) : r.Yields x := by
  unfold decode at h
  split at h
  · obtain ⟨-, -, hfields⟩ := bind_eq_ok_iff.mp h
    exact .inl ⟨_, hfields⟩
  · obtain ⟨⟨y, rest⟩, hitems, hrest⟩ := bind_eq_ok_iff.mp h
    obtain rfl : y = x := by
      dsimp only at hrest
      split at hrest
      · exact Except.ok.inj hrest
      · split at hrest <;> contradiction
    exact .inr ⟨_, _, _, _, hitems⟩
  · contradiction

theorem Yields.pure {x y : α} (h : (Record.pure x).Yields y) : y = x := by
  rcases h with ⟨fields, ⟨⟩⟩ | ⟨whole, position, items, rest, ⟨⟩⟩
  all_goals rfl

theorem Yields.seq {r : Record (α → β)} {s : Record α} {y : β} (h : (r.seq s).Yields y) :
    ∃ f x, r.Yields f ∧ s.Yields x ∧ f x = y := by
  rcases h with ⟨fields, h⟩ | ⟨whole, position, items, rest, h⟩
  · obtain ⟨f, hf, h⟩ := bind_eq_ok_iff.mp h
    obtain ⟨x, hx, h⟩ := bind_eq_ok_iff.mp h
    exact ⟨f, x, .inl ⟨_, hf⟩, .inl ⟨_, hx⟩, Except.ok.inj h⟩
  · obtain ⟨⟨f, middle⟩, hf, h⟩ := bind_eq_ok_iff.mp h
    obtain ⟨⟨x, last⟩, hx, h⟩ := bind_eq_ok_iff.mp h
    exact ⟨f, x, .inr ⟨_, _, _, _, hf⟩, .inr ⟨_, _, _, _, hx⟩,
      (Prod.mk.inj (Except.ok.inj h)).1⟩

theorem Yields.single {name : String} {decode : Decoder α} {absent short : Option α} {x : α}
    (h : (single name decode absent short).Yields x) :
    (∃ j, decode j = .ok x) ∨ absent = some x ∨ short = some x := by
  rcases h with ⟨fields, h⟩ | ⟨whole, position, items, rest, h⟩
  · dsimp only [Record.single] at h
    split at h
    · exact .inl ⟨_, h⟩
    · exact .inr (.inl (congrArg some (Except.ok.inj h)))
    · contradiction
  · dsimp only [Record.single] at h
    split at h
    · obtain ⟨y, hy, h⟩ := bind_eq_ok_iff.mp h
      obtain ⟨rfl, -⟩ := Prod.mk.inj (Except.ok.inj h)
      exact .inl ⟨_, hy⟩
    · obtain ⟨rfl, -⟩ := Prod.mk.inj (Except.ok.inj h)
      exact .inr (.inr rfl)
    · contradiction

/-! ## What goes into a description -/

/-- Slots are enough for a structure to be read from an object, whatever else the object has. -/
def Reads (r : Record α) (slots : List Slot) (x : α) : Prop :=
  ∀ fields : List (String × Json), (fields.map Prod.fst).Nodup →
    (∀ slot ∈ slots, fields.lookup slot.1 = slot.2) →
      r.ofFields fields = .ok x ∧ ∀ field ∈ fields, r.check field.1 field.2 = .ok ()

theorem Reads.decode {r : Record α} {slots : List Slot} {x : α} (h : r.Reads slots x)
    (name : String) (reading : Reading) {fields : List (String × Json)}
    (hnodup : (fields.map Prod.fst).Nodup)
    (hslots : ∀ slot ∈ slots, fields.lookup slot.1 = slot.2) :
    r.decode name reading (.obj fields) = .ok x := by
  obtain ⟨hread, hcheck⟩ := h fields hnodup hslots
  exact bind_eq_ok_iff.mpr ⟨(), forM_eq_ok_iff.mpr hcheck, hread⟩

theorem Reads.pure (x : α) : (Record.pure x).Reads [] x :=
  fun _ _ _ => ⟨rfl, fun _ _ => rfl⟩

theorem Reads.seq {r : Record (α → β)} {s : Record α} {f : α → β} {x : α}
    {slots more : List Slot} (hf : r.Reads slots f) (hx : s.Reads more x) :
    (r.seq s).Reads (slots ++ more) (f x) := by
  intro fields hnodup hslots
  obtain ⟨hreadFirst, hcheckFirst⟩ := hf fields hnodup fun slot hmem =>
    hslots slot (List.mem_append_left more hmem)
  obtain ⟨hreadMore, hcheckMore⟩ := hx fields hnodup fun slot hmem =>
    hslots slot (List.mem_append_right slots hmem)
  exact ⟨bind_eq_ok_iff.mpr ⟨f, hreadFirst, bind_eq_ok_iff.mpr ⟨x, hreadMore, rfl⟩⟩,
    fun field hmem => bind_eq_ok_iff.mpr ⟨(), hcheckFirst field hmem, hcheckMore field hmem⟩⟩

theorem Reads.single {name : String} {decode : Decoder α} {absent short : Option α} {j : Json}
    {x : α} (h : decode j = .ok x) :
    (single name decode absent short).Reads [(name, some j)] x := by
  intro fields hnodup hslots
  have hfound : fields.lookup name = some j := hslots (name, some j) List.mem_cons_self
  refine ⟨by simp only [Record.single, hfound, h], fun field hmem => ?_⟩
  dsimp only [Record.single]
  split_ifs with hname
  · have hvalue := Json.lookup_of_mem hnodup hmem
    rw [hname, hfound] at hvalue
    rw [← Option.some.inj hvalue, h]
    rfl
  · rfl

theorem Reads.absent {name : String} {decode : Decoder α} {short : Option α} (x : α) :
    (Record.single name decode (some x) short).Reads [(name, none)] x := by
  intro fields hnodup hslots
  have hmissing : fields.lookup name = none := hslots (name, none) List.mem_cons_self
  refine ⟨by simp only [Record.single, hmissing], fun field hmem => if_neg ?_⟩
  intro hname
  have hvalue := Json.lookup_of_mem hnodup hmem
  rw [hname, hmissing] at hvalue
  contradiction

/-! ## From one to the other -/

/-- Whatever one description yields, another one reads from slots that belong to it. -/
def Restores (belongs : α → List Slot → Prop) (r s : Record α) : Prop :=
  ∀ x, r.Yields x → ∃ slots, belongs x slots ∧ s.Reads slots x

namespace Restores

theorem pure {belongs : α → List Slot → Prop} {x : α} (h : belongs x []) :
    Restores belongs (Record.pure x) (Record.pure x) := by
  intro y hy
  obtain rfl := hy.pure
  exact ⟨[], h, .pure y⟩

theorem seq {belongs : β → List Slot → Prop} {part : α → List Slot} {r s : Record (α → β)}
    {t u : Record α}
    (hfirst : Restores (fun f slots => ∀ x, belongs (f x) (slots ++ part x)) r s)
    (hpart : Restores (fun x slots => slots = part x) t u) :
    Restores belongs (r.seq t) (s.seq u) := by
  intro y hy
  obtain ⟨f, x, hf, hx, rfl⟩ := hy.seq
  obtain ⟨slots, hbelongs, hreads⟩ := hfirst f hf
  obtain ⟨_, rfl, hreadsPart⟩ := hpart x hx
  exact ⟨_, hbelongs x, hreads.seq hreadsPart⟩

variable {name : String} {first again : Decoder α}

theorem field {encode : α → Json} (h : Decoder.Restores encode first again) :
    Restores (fun x slots => slots = [(name, some (encode x))]) (Record.field name first)
      (Record.field name again) := by
  intro x hx
  rcases hx.single with ⟨j, hj⟩ | hnone | hnone
  · exact ⟨_, rfl, .single (h j x hj)⟩
  all_goals contradiction

theorem defaulted {encode : α → Json} (h : Decoder.Restores encode first again) {given later : α}
    (hgiven : again (encode given) = .ok given) :
    Restores (fun x slots => slots = [(name, some (encode x))])
      (Record.defaulted name first given) (Record.defaulted name again later) := by
  intro x hx
  refine ⟨_, rfl, .single ?_⟩
  rcases hx.single with ⟨j, hj⟩ | heq | heq
  · exact h j x hj
  all_goals exact Option.some.inj heq ▸ hgiven

theorem optional {encode : Option α → Json}
    (h : Decoder.Restores encode (.nullable first) (.nullable again)) :
    Restores (fun x slots => slots = [(name, some (encode x))]) (Record.optional name first)
      (Record.optional name again) := by
  intro x hx
  refine ⟨_, rfl, .single ?_⟩
  rcases hx.single with ⟨j, hj⟩ | heq | heq
  · exact h j x hj
  · exact Option.some.inj heq ▸ h .null none rfl
  · contradiction

/-- A field that is left out where there is nothing to say. -/
theorem omitted {encode : α → Json}
    (h : Decoder.Restores (.ofOption encode) (.nullable first) (.nullable again)) :
    Restores (fun x slots => slots = [(name, x.map encode)]) (Record.optional name first)
      (Record.optional name again) := by
  intro x hx
  refine ⟨_, rfl, ?_⟩
  cases x with
  | none => exact .absent none
  | some x =>
      rcases hx.single with ⟨j, hj⟩ | heq | heq
      · exact .single (h j _ hj)
      · exact nomatch Option.some.inj heq
      · contradiction

end Restores

end Record

/-- A structure is decoded again from the object that its slots fill. -/
theorem Decoder.Restores.record {encode : α → Json} {r s : Record α}
    (h : Record.Restores (fun x slots => encode x = .ofFields (Json.filled slots) ∧
      (slots.map Prod.fst).Nodup) r s) (name : String) (reading : Reading) :
    Restores encode (r.decode name reading) (s.decode name reading) := by
  intro j x hread
  obtain ⟨slots, ⟨hencode, hnodup⟩, hreads⟩ := h x (.of_decode hread)
  rw [hencode]
  exact hreads.decode name reading (Json.sorted_sortFields _).nodup fun slot hmem =>
    Json.lookup_sortFields_filled hnodup hmem

end Gatehouse
