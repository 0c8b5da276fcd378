import Gatehouse.Config.Interpolation
import Mathlib

/-! # The grammar of a text with references

Read from the left, a text is a row of literals with references between them.
In a literal no reference begins, and a name ends at the first closing brace; so
there is one reading only, whatever dollar signs and braces stand in the text
besides. What filling in comes to is told by the reading: all literals and
values in their order, or the error of the first reference that has no value,
the one that is never closed coming last of all.
-/

namespace Gatehouse.Interpolation

/-- What begins a reference. -/
def opening : List Char := ['$', '\x7b']

/-- A part of a text in which no reference begins. -/
@[ext]
structure Literal where
  chars : List Char
  plain : ¬ opening <:+: chars

/-- What stands between the beginning of a reference and the next closing brace, or the end. -/
@[ext]
structure Name where
  chars : List Char
  unbroken : '\x7d' ∉ chars

/-- The name as a text. -/
def Name.text (name : Name) : String :=
  String.ofList name.chars

/-- A text as it is read: references, each with the literal before it, and the literal behind them
all, which may be followed by a reference that is never closed. -/
@[ext]
structure Source where
  references : List (Literal × Name)
  last : Literal
  unclosed? : Option Name

namespace Source

/-- A literal and the reference behind it, as they are written. -/
def entry (reference : Literal × Name) : List Char :=
  reference.1.chars ++ (opening ++ (reference.2.chars ++ ['\x7d']))

/-- What stands behind the last literal. -/
def ending : Option Name → List Char
  | some rest => opening ++ rest.chars
  | none => []

/-- The text that is read so. -/
def written (source : Source) : List Char :=
  source.references.flatMap entry ++ (source.last.chars ++ ending source.unclosed?)

/-- The literals with a value behind each but the last. -/
def filled (source : Source) (values : List String) : List Char :=
  (List.zipWith (fun reference value => reference.1.chars ++ value.toList)
    source.references values).flatten ++ source.last.chars

/-- All variables of some references are set. -/
def AllSet (env : Environment) (references : List (Literal × Name)) : Prop :=
  ∀ reference ∈ references, (env.get? reference.2.text).isSome

/-- What filling in the references comes to. -/
inductive Yields (env : Environment) (source : Source) :
    Except InterpolationError String → Prop where
  | filled (values : List String) (hclosed : source.unclosed? = none)
      (hvalues : source.references.map (fun reference => env.get? reference.2.text) =
        values.map some) :
      Yields env source (.ok (String.ofList (source.filled values)))
  | missing (before after : List (Literal × Name)) (literal : Literal) (name : Name)
      (hreferences : source.references = before ++ (literal, name) :: after)
      (hbefore : AllSet env before) (hunset : env.get? name.text = none) :
      Yields env source (.error (.missing name.text))
  | unterminated (rest : Name) (hunclosed : source.unclosed? = some rest)
      (hset : AllSet env source.references) :
      Yields env source (.error .unterminated)

end Source

section Splitting

variable {name rest : List Char}

theorem splitName_append (hname : '\x7d' ∉ name) (rest : List Char) :
    splitName (name ++ '\x7d' :: rest) = some (name, rest) := by
  have hkept : ∀ c ∈ name, decide (c ≠ '\x7d') = true := by
    intro c hc
    rw [decide_eq_true_eq]
    rintro rfl
    exact hname hc
  rw [splitName, List.dropWhile_append_of_pos hkept, List.takeWhile_append_of_pos hkept]
  simp

theorem splitName_eq_none (hname : '\x7d' ∉ name) : splitName name = none := by
  have hdropped : name.dropWhile (· ≠ '\x7d') = [] := by
    rw [List.dropWhile_eq_nil_iff]
    intro c hc
    rw [decide_eq_true_eq]
    rintro rfl
    exact hname hc
  rw [splitName, hdropped]

theorem of_splitName {cs : List Char} (hsplit : splitName cs = some (name, rest)) :
    '\x7d' ∉ name ∧ cs = name ++ '\x7d' :: rest := by
  unfold splitName at hsplit
  split at hsplit
  next => contradiction
  next c tail hdropped =>
    cases hsplit
    have hstop : c = '\x7d' := by
      have hhead := List.head?_dropWhile_not (fun c : Char => decide (c ≠ '\x7d')) cs
      rw [hdropped] at hhead
      simpa using hhead
    subst hstop
    refine ⟨fun hmem => ?_, ?_⟩
    · simpa using List.mem_takeWhile_imp hmem
    · rw [← hdropped, List.takeWhile_append_dropWhile]

theorem of_splitName_eq_none {cs : List Char} (hsplit : splitName cs = none) :
    '\x7d' ∉ cs := by
  unfold splitName at hsplit
  split at hsplit
  next hdropped =>
    intro hmem
    simpa using List.dropWhile_eq_nil_iff.mp hdropped _ hmem
  next => contradiction

end Splitting

section Parts

/-- Where no reference begins, a character stands for itself. -/
theorem parts_cons {c : Char} {rest : List Char} (hplain : ¬ opening <+: c :: rest) :
    parts (c :: rest) = .plain c :: parts rest := by
  rw [parts]
  rintro tail rfl rfl
  exact hplain ⟨tail, rfl⟩

theorem parts_reference (name : Name) (rest : List Char) :
    parts (opening ++ (name.chars ++ '\x7d' :: rest)) = .reference name.text :: parts rest := by
  have hsplit := splitName_append name.unbroken rest
  rw [opening, List.cons_append, List.cons_append, List.nil_append, parts]
  split
  next hnone => simp [hsplit] at hnone
  next found after hfound =>
    rw [hsplit] at hfound
    cases hfound
    rfl

theorem parts_unclosed (name : Name) : parts (opening ++ name.chars) = [.unclosed] := by
  have hsplit := splitName_eq_none name.unbroken
  rw [opening, List.cons_append, List.cons_append, List.nil_append, parts]
  split
  next => rfl
  next found after hfound => simp [hsplit] at hfound

/-- A literal reaches up to where a reference begins. -/
theorem parts_literal {chars : List Char} (hplain : ¬ opening <:+: chars) (rest : List Char)
    (hrest : rest.head? ≠ some '\x7b') :
    parts (chars ++ rest) = chars.map .plain ++ parts rest := by
  induction chars with
  | nil => rfl
  | cons c chars ih =>
      have htail : ¬ opening <:+: chars := by
        intro hmem
        exact hplain (hmem.trans (List.suffix_cons c chars).isInfix)
      have hhead : ¬ opening <+: c :: (chars ++ rest) := by
        rw [opening, List.cons_prefix_cons]
        rintro ⟨rfl, hbrace⟩
        cases chars with
        | nil =>
            obtain ⟨tail, rfl⟩ := hbrace
            exact hrest rfl
        | cons d others =>
            rw [List.cons_append, List.cons_prefix_cons] at hbrace
            obtain ⟨rfl, -⟩ := hbrace
            exact hplain ⟨[], others, rfl⟩
      rw [List.cons_append, parts_cons hhead, ih htail]
      rfl

end Parts

namespace Source

/-- The parts of a literal and of the reference behind it. -/
def entryParts (reference : Literal × Name) : List Part :=
  reference.1.chars.map .plain ++ [.reference reference.2.text]

/-- The parts of what stands behind the last literal. -/
def endingParts : Option Name → List Part
  | some _ => [.unclosed]
  | none => []

/-- The parts of a text that is read so. -/
def parts (source : Source) : List Part :=
  source.references.flatMap entryParts ++
    (source.last.chars.map .plain ++ endingParts source.unclosed?)

theorem parts_written (source : Source) : Interpolation.parts source.written = source.parts := by
  obtain ⟨references, last, unclosed?⟩ := source
  induction references with
  | nil =>
      cases unclosed? with
      | none =>
          have hend := parts_literal last.plain [] (by simp)
          simpa [written, ending, parts, endingParts, Interpolation.parts] using hend
      | some rest =>
          have hend := parts_literal last.plain (opening ++ rest.chars) (by simp [opening])
          rw [parts_unclosed] at hend
          simpa [written, ending, parts, endingParts] using hend
  | cons reference others ih =>
      obtain ⟨literal, name⟩ := reference
      simp only [written, parts, List.flatMap_cons, entry, entryParts, List.append_assoc,
        List.cons_append, List.nil_append] at ih ⊢
      rw [parts_literal literal.plain _ (by simp [opening]), parts_reference, ih]

@[simp] theorem written_cons (literal : Literal) (name : Name)
    (references : List (Literal × Name)) (last : Literal) (unclosed? : Option Name) :
    written ⟨(literal, name) :: references, last, unclosed?⟩ = literal.chars ++
      (opening ++ (name.chars ++ '\x7d' :: written ⟨references, last, unclosed?⟩)) := by
  simp [written, entry]

/-- What follows a literal: nothing, or the beginning of a reference. -/
def Follows (rest : List Char) : Prop :=
  rest = [] ∨ opening <+: rest

/-- No literal goes on beyond the place where a reference begins. -/
theorem eq_nil_of_follows {chars front rest : List Char} (hplain : ¬ opening <:+: chars ++ front)
    (hrest : Follows rest) (hfront : Follows (front ++ rest)) : front = [] := by
  cases front with
  | nil => rfl
  | cons c front =>
      exfalso
      obtain hnil | hbegins := hfront
      · contradiction
      · rw [opening, List.cons_append, List.cons_prefix_cons] at hbegins
        obtain ⟨rfl, hbrace⟩ := hbegins
        cases front with
        | nil =>
            obtain rfl | ⟨tail, rfl⟩ := hrest
            · simp at hbrace
            · simp [opening] at hbrace
        | cons d others =>
            rw [List.cons_append, List.cons_prefix_cons] at hbrace
            obtain ⟨rfl, -⟩ := hbrace
            exact hplain ⟨chars, others, by simp [opening]⟩

theorem literal_append_inj {literal other : Literal} {front rest : List Char}
    (hfront : Follows front) (hrest : Follows rest)
    (hsame : literal.chars ++ front = other.chars ++ rest) : literal = other ∧ front = rest := by
  rcases List.append_eq_append_iff.mp hsame with
    ⟨more, hother, hfollows⟩ | ⟨more, hliteral, hfollows⟩
  · obtain rfl := eq_nil_of_follows (hother ▸ other.plain) hrest (hfollows ▸ hfront)
    exact ⟨Literal.ext (by simpa using hother.symm), hfollows⟩
  · obtain rfl := eq_nil_of_follows (hliteral ▸ literal.plain) hfront (hfollows ▸ hrest)
    exact ⟨Literal.ext (by simpa using hliteral), hfollows.symm⟩

theorem follows_ending (unclosed? : Option Name) : Follows (ending unclosed?) := by
  cases unclosed? with
  | none => exact .inl rfl
  | some rest => exact .inr (List.prefix_append _ _)

/-- A reference that is never closed is none that is closed. -/
theorem ending_ne (unclosed? : Option Name) (name : Name) (rest : List Char) :
    ending unclosed? ≠ opening ++ (name.chars ++ '\x7d' :: rest) := by
  cases unclosed? with
  | none => simp [ending, opening]
  | some unclosed =>
      intro hsame
      apply unclosed.unbroken
      rw [List.append_cancel_left hsame]
      simp

theorem ending_injective : Function.Injective ending := by
  intro unclosed? rest? hsame
  cases unclosed? with
  | none =>
      cases rest? with
      | none => rfl
      | some => simp [ending, opening] at hsame
  | some unclosed =>
      cases rest? with
      | none => simp [ending, opening] at hsame
      | some rest => rw [Name.ext (List.append_cancel_left hsame)]

theorem name_append_inj {name other : Name} {front rest : List Char}
    (hsame : name.chars ++ '\x7d' :: front = other.chars ++ '\x7d' :: rest) :
    name = other ∧ front = rest := by
  have hsplit := splitName_append name.unbroken front
  rw [hsame, splitName_append other.unbroken] at hsplit
  obtain ⟨hname, hfront⟩ := Prod.mk.inj (Option.some.inj hsplit)
  exact ⟨Name.ext hname.symm, hfront.symm⟩

/-- A text is read in one way only. -/
theorem written_injective : Function.Injective written := by
  have hreference : ∀ rest, Follows (opening ++ rest) := fun rest => .inr (List.prefix_append _ _)
  rintro ⟨references, last, unclosed?⟩ ⟨others, final, rest?⟩ hsame
  induction references generalizing others with
  | nil =>
      cases others with
      | nil =>
          obtain ⟨rfl, hending⟩ :=
            literal_append_inj (follows_ending unclosed?) (follows_ending rest?) hsame
          rw [ending_injective hending]
      | cons other others =>
          rw [written_cons] at hsame
          obtain ⟨-, hending⟩ :=
            literal_append_inj (follows_ending unclosed?) (hreference _) hsame
          exact (ending_ne _ _ _ hending).elim
  | cons reference references ih =>
      rw [written_cons] at hsame
      cases others with
      | nil =>
          obtain ⟨-, hending⟩ := literal_append_inj (hreference _) (follows_ending rest?) hsame
          exact (ending_ne _ _ _ hending.symm).elim
      | cons other others =>
          rw [written_cons] at hsame
          obtain ⟨hliteral, hopened⟩ := literal_append_inj (hreference _) (hreference _) hsame
          obtain ⟨hname, hrest⟩ := name_append_inj (List.append_cancel_left hopened)
          obtain ⟨hothers, hlast, hunclosed⟩ := Source.mk.inj (ih others hrest)
          rw [Prod.ext hliteral hname, hothers, hlast, hunclosed]

end Source

theorem exists_written_cons {c : Char} (source : Source)
    (hplain : ¬ opening <+: c :: source.written) :
    ∃ longer : Source, longer.written = c :: source.written := by
  have hlonger : ∀ (literal : Literal) (tail : List Char),
      source.written = literal.chars ++ tail → ¬ opening <:+: c :: literal.chars := by
    intro literal tail hwritten hmem
    rcases List.infix_cons_iff.mp hmem with hbegins | hmem
    · rw [hwritten, ← List.cons_append] at hplain
      exact hplain (hbegins.trans (List.prefix_append _ _))
    · exact literal.plain hmem
  obtain ⟨references, last, unclosed?⟩ := source
  cases references with
  | nil => exact ⟨⟨[], ⟨c :: last.chars, hlonger last _ rfl⟩, unclosed?⟩, rfl⟩
  | cons reference others =>
      obtain ⟨literal, name⟩ := reference
      have hliteral := hlonger literal _ (Source.written_cons ..)
      refine ⟨⟨(⟨c :: literal.chars, hliteral⟩, name) :: others, last, unclosed?⟩, ?_⟩
      rw [Source.written_cons, Source.written_cons, List.cons_append]

/-- Every text can be read. -/
theorem exists_written (cs : List Char) : ∃ source : Source, source.written = cs := by
  have hempty : ¬ opening <:+: [] := by simp [opening]
  fun_induction parts cs with
  | case1 => exact ⟨⟨[], ⟨[], hempty⟩, none⟩, rfl⟩
  | case2 rest hsplit =>
      exact ⟨⟨[], ⟨[], hempty⟩, some ⟨rest, of_splitName_eq_none hsplit⟩⟩, rfl⟩
  | case3 rest name after hsplit ih =>
      obtain ⟨hname, rfl⟩ := of_splitName hsplit
      obtain ⟨source, rfl⟩ := ih
      refine ⟨{ source with references := (⟨[], hempty⟩, ⟨name, hname⟩) :: source.references }, ?_⟩
      simp [Source.written, Source.entry, opening]
  | case4 c rest hplain ih =>
      obtain ⟨source, rfl⟩ := ih
      apply exists_written_cons
      rw [opening, List.cons_prefix_cons]
      rintro ⟨rfl, tail, hwritten⟩
      exact hplain tail rfl hwritten.symm

section Filling

variable {env : Environment}

/-- Fills in a row of parts. -/
def fill (env : Environment) (row : List Part) : Except InterpolationError (List Char) :=
  (row.mapM (Part.value env)).map List.flatten

theorem interpolate_eq (env : Environment) (text : String) :
    interpolate env text = (fill env (parts text.toList)).map String.ofList := by
  rw [interpolate, fill]
  cases (parts text.toList).mapM (Part.value env) <;> rfl

variable {front : List Part} {chars : List Char}

theorem fill_append (hfront : fill env front = .ok chars) (rest : List Part) :
    fill env (front ++ rest) = (fill env rest).map (chars ++ ·) := by
  rw [fill, List.mapM_append]
  cases hvalues : front.mapM (Part.value env) with
  | error e => simp [fill, hvalues, Except.map] at hfront
  | ok values =>
      obtain rfl : values.flatten = chars := by
        rw [fill, hvalues] at hfront
        exact Except.ok.inj hfront
      rw [fill]
      cases rest.mapM (Part.value env) with
      | error e => rfl
      | ok others => exact congrArg Except.ok List.flatten_append

theorem fill_append_error {e : InterpolationError} (hfront : fill env front = .error e)
    (rest : List Part) : fill env (front ++ rest) = .error e := by
  rw [fill, List.mapM_append]
  cases hvalues : front.mapM (Part.value env) with
  | error other =>
      rw [fill, hvalues] at hfront
      exact congrArg Except.error (Except.error.inj hfront)
  | ok values => simp [fill, hvalues, Except.map] at hfront

theorem fill_plain (env : Environment) (chars : List Char) :
    fill env (chars.map .plain) = .ok chars := by
  induction chars with
  | nil => rfl
  | cons c chars ih =>
      have hfirst : fill env [.plain c] = .ok [c] := rfl
      rw [List.map_cons, ← List.singleton_append, fill_append hfirst, ih]
      rfl

end Filling

namespace Source

variable {env : Environment} {source : Source} {references : List (Literal × Name)}

theorem AllSet.exists_values (hset : AllSet env references) : ∃ values : List String,
    references.map (fun reference => env.get? reference.2.text) = values.map some := by
  induction references with
  | nil => exact ⟨[], rfl⟩
  | cons reference references ih =>
      obtain ⟨values, hvalues⟩ := ih fun other hother => hset other (List.mem_cons_of_mem _ hother)
      obtain ⟨value, hvalue⟩ := Option.isSome_iff_exists.mp (hset reference List.mem_cons_self)
      exact ⟨value :: values, by rw [List.map_cons, hvalue, hvalues, List.map_cons]⟩

theorem fill_entryParts {literal : Literal} {name : Name} {value : String}
    (hvalue : env.get? name.text = some value) :
    fill env (entryParts (literal, name)) = .ok (literal.chars ++ value.toList) := by
  rw [entryParts, fill_append (fill_plain env literal.chars)]
  simp [fill, Part.value, hvalue, Except.map, bind, Except.bind, pure, Except.pure]

theorem fill_entryParts_unset {literal : Literal} {name : Name}
    (hunset : env.get? name.text = none) :
    fill env (entryParts (literal, name)) = .error (.missing name.text) := by
  rw [entryParts, fill_append (fill_plain env literal.chars)]
  simp [fill, Part.value, hunset, Except.map, bind, Except.bind]

theorem fill_references {values : List String}
    (hvalues : references.map (fun reference => env.get? reference.2.text) = values.map some) :
    fill env (references.flatMap entryParts) =
      .ok (List.zipWith (fun reference value => reference.1.chars ++ value.toList)
        references values).flatten := by
  induction references generalizing values with
  | nil => rfl
  | cons reference references ih =>
      cases values with
      | nil => contradiction
      | cons value values =>
          obtain ⟨hvalue, hothers⟩ := List.cons.inj hvalues
          rw [List.flatMap_cons, fill_append (fill_entryParts hvalue), ih hothers]
          rfl

theorem AllSet.fill_append (hset : AllSet env references) (rest : List Part) :
    ∃ chars, fill env (references.flatMap entryParts ++ rest) =
      (fill env rest).map (chars ++ ·) := by
  obtain ⟨values, hvalues⟩ := hset.exists_values
  exact ⟨_, Interpolation.fill_append (fill_references hvalues) rest⟩

theorem Yields.interpolate_eq {text : String} {result : Except InterpolationError String}
    (hyields : source.Yields env result) (hwritten : source.written = text.toList) :
    interpolate env text = result := by
  rw [Interpolation.interpolate_eq, ← hwritten, parts_written, parts]
  cases hyields with
  | filled values hclosed hvalues =>
      rw [Interpolation.fill_append (fill_references hvalues), hclosed, endingParts,
        List.append_nil, fill_plain]
      rfl
  | missing before after literal name hreferences hbefore hunset =>
      obtain ⟨chars, hfill⟩ := hbefore.fill_append
        (entryParts (literal, name) ++ (after.flatMap entryParts ++
          (source.last.chars.map .plain ++ endingParts source.unclosed?)))
      rw [hreferences, List.flatMap_append, List.flatMap_cons, List.append_assoc,
        List.append_assoc, hfill, fill_append_error (fill_entryParts_unset hunset)]
      rfl
  | unterminated rest hunclosed hset =>
      obtain ⟨chars, hfill⟩ := hset.fill_append
        (source.last.chars.map .plain ++ endingParts source.unclosed?)
      rw [hfill, Interpolation.fill_append (fill_plain env source.last.chars), hunclosed]
      rfl

/-- The reading always tells what filling in comes to. -/
theorem exists_yields (env : Environment) (source : Source) :
    ∃ result, source.Yields env result := by
  by_cases hset : AllSet env source.references
  · cases hunclosed : source.unclosed? with
    | some rest => exact ⟨_, .unterminated rest hunclosed hset⟩
    | none =>
        obtain ⟨values, hvalues⟩ := hset.exists_values
        exact ⟨_, .filled values hunclosed hvalues⟩
  · have hfirst : (source.references.find? fun reference =>
        (env.get? reference.2.text).isNone).isSome := by
      simpa [AllSet, List.find?_isSome] using hset
    obtain ⟨⟨literal, name⟩, hfound⟩ := Option.isSome_iff_exists.mp hfirst
    obtain ⟨hunset, before, after, hreferences, hbefore⟩ := List.find?_eq_some_iff_append.mp hfound
    refine ⟨_, .missing before after literal name hreferences ?_ (by simpa using hunset)⟩
    intro reference hmem
    simpa [Option.isSome_iff_ne_none] using hbefore reference hmem

end Source

/-- Filling in a text follows its grammar: there is one way to read a text, it decides what filling
in comes to, and a text in which no reference begins stays as it is. -/
theorem interpolate_yields (env : Environment) (text : String) :
    ∃ source : Source, (∀ other : Source, other.written = text.toList ↔ other = source) ∧
      (∀ result, interpolate env text = result ↔ source.Yields env result) ∧
      (¬ opening <:+: text.toList → interpolate env text = .ok text) := by
  obtain ⟨source, hwritten⟩ := exists_written text.toList
  refine ⟨source, ?_, ?_, ?_⟩
  · intro other
    rw [← hwritten]
    exact Source.written_injective.eq_iff
  · intro result
    refine ⟨?_, fun hyields => hyields.interpolate_eq hwritten⟩
    rintro rfl
    obtain ⟨result, hyields⟩ := source.exists_yields env
    rwa [hyields.interpolate_eq hwritten]
  · intro hplain
    have hparts := parts_literal hplain [] (by simp)
    rw [List.append_nil, parts, List.append_nil] at hparts
    rw [interpolate_eq, hparts, fill_plain]
    exact congrArg Except.ok String.ofList_toList

end Gatehouse.Interpolation
