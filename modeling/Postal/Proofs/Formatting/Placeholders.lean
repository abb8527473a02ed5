import Mathlib.Data.List.TakeWhile
import Postal.Form
import Postal.Proofs.Text.Lines

/-!
# Placeholders

A template is cut at its placeholders in one way only, since placeholders cannot overlap: a brace is
no part of a name. Laying out an address and describing its form both go by this cut, whether the
template is read as a whole or line by line.

* `Stencil`: a template cut at placeholders.
* `Stencil.Exact.eq_of_text_eq`: there is one way to cut a template at all its placeholders.
* `placeholderNames_lines`: no placeholder stands in two lines.
* `FormSources.rows_agree_with_substitute`: the fields of a form are what an address fills in.
-/

namespace Postal

open Unicode

structure IsPlaceholderName (name : List Char) : Prop where
  filled : name ≠ []
  word : ∀ c ∈ name, isWordCharacter c = true

def placeholderText (name : List Char) : List Char :=
  '{' :: (name ++ ['}'])

def Bare (text : List Char) : Prop :=
  ∀ name, IsPlaceholderName name → ¬ placeholderText name <:+: text

theorem placeholderText_append (name after : List Char) :
    placeholderText name ++ after = '{' :: (name ++ '}' :: after) := by
  simp [placeholderText]

theorem Bare.of_suffix {text rest : List Char} (bare : Bare text) (h : rest <:+ text) : Bare rest :=
  fun name isName there => bare name isName (there.trans h.isInfix)

/-! ## One scan -/

theorem placeholder?_eq_some_iff {text name after : List Char} :
    placeholder? text = some (name, after) ↔
      IsPlaceholderName name ∧ text = name ++ '}' :: after := by
  constructor
  · intro found
    unfold placeholder? at found
    split at found
    · rename_i c word rest taken dropped
      cases found
      refine ⟨⟨nofun, fun c mem => ?_⟩, ?_⟩
      · rw [← taken] at mem
        exact List.mem_takeWhile_imp mem
      · rw [← taken, ← dropped, List.takeWhile_append_dropWhile]
    · cases found
  · rintro ⟨⟨filled, word⟩, rfl⟩
    obtain ⟨c, letters, rfl⟩ := List.exists_cons_of_ne_nil filled
    have brace : isWordCharacter '}' = false := by decide
    have taken : (c :: letters ++ '}' :: after).takeWhile isWordCharacter = c :: letters := by
      rw [List.takeWhile_append_of_pos word, List.takeWhile_cons_of_neg (by simp [brace]),
        List.append_nil]
    have dropped : (c :: letters ++ '}' :: after).dropWhile isWordCharacter = '}' :: after := by
      rw [List.dropWhile_append_of_pos word, List.dropWhile_cons_of_neg (by simp [brace])]
    rw [placeholder?, taken, dropped]
    rfl

theorem templatePieces_placeholder {name : List Char} (isName : IsPlaceholderName name)
    (after : List Char) :
    templatePieces (placeholderText name ++ after) = .placeholder name :: templatePieces after := by
  have found : placeholder? (name ++ '}' :: after) = some (name, after) :=
    placeholder?_eq_some_iff.mpr ⟨isName, rfl⟩
  rw [placeholderText_append, templatePieces, if_pos rfl]
  split
  · rename_i there
    rw [found] at there
    cases there
    rfl
  · rename_i missing
    rw [found] at missing
    cases missing

theorem templatePieces_character {c : Char} {rest : List Char}
    (plain : c = '{' → placeholder? rest = none) :
    templatePieces (c :: rest) = .character c :: templatePieces rest := by
  rw [templatePieces]
  split
  · rename_i brace
    split
    · rename_i there
      rw [plain brace] at there
      cases there
    · rfl
  · rfl

theorem placeholder?_append {c : Char} (apart : isWordCharacter c = false) (closes : c ≠ '}')
    (before after : List Char) :
    placeholder? (before ++ c :: after) =
      (placeholder? before).map fun (name, rest) => (name, rest ++ c :: after) := by
  cases found : placeholder? before with
  | some parts =>
    obtain ⟨name, rest⟩ := parts
    obtain ⟨isName, rfl⟩ := placeholder?_eq_some_iff.mp found
    exact placeholder?_eq_some_iff.mpr ⟨isName, by simp⟩
  | none =>
    rw [Option.map_none, ← Option.not_isSome_iff_eq_none, Option.isSome_iff_exists]
    rintro ⟨⟨name, rest⟩, there⟩
    obtain ⟨isName, split⟩ := placeholder?_eq_some_iff.mp there
    have outside : c ∉ name ++ ['}'] := by
      intro mem
      rcases List.mem_append.mp mem with letter | brace
      · rw [isName.word c letter] at apart
        cases apart
      · exact closes (List.mem_singleton.mp brace)
    have split' : before ++ c :: after = (name ++ ['}']) ++ rest := by simp [split]
    rcases List.append_eq_append_iff.mp split' with ⟨more, taken, left⟩ | ⟨more, taken, left⟩
    · cases more with
      | nil =>
        rw [List.append_nil] at taken
        have within : placeholder? before = some (name, []) :=
          placeholder?_eq_some_iff.mpr ⟨isName, taken.symm⟩
        rw [found] at within
        cases within
      | cons d more =>
        obtain ⟨rfl, -⟩ := List.cons.inj left
        exact outside (by simp [taken])
    · have within : placeholder? before = some (name, more) :=
        placeholder?_eq_some_iff.mpr ⟨isName, by simp [taken]⟩
      rw [found] at within
      cases within

theorem templatePieces_append {c : Char} (apart : isWordCharacter c = false) (closes : c ≠ '}')
    (before after : List Char) :
    templatePieces (before ++ c :: after) = templatePieces before ++ templatePieces (c :: after) := by
  fun_induction templatePieces before with
  | case1 => rfl
  | case2 rest name onward found shorter ih =>
    obtain ⟨isName, rfl⟩ := placeholder?_eq_some_iff.mp found
    have moved : '{' :: (name ++ '}' :: onward) ++ c :: after =
        placeholderText name ++ (onward ++ c :: after) := by
      simp [placeholderText]
    rw [moved, templatePieces_placeholder isName, ih, List.cons_append]
  | case3 rest missing ih =>
    rw [List.cons_append, templatePieces_character, ih, List.cons_append]
    intro _
    rw [placeholder?_append apart closes, missing, Option.map_none]
  | case4 d rest other ih =>
    rw [List.cons_append, templatePieces_character (fun brace => absurd brace other), ih,
      List.cons_append]

theorem templatePieces_of_bare {text : List Char} (bare : Bare text) :
    templatePieces text = text.map .character := by
  induction text with
  | nil => rw [templatePieces, List.map_nil]
  | cons c rest ih =>
    rw [templatePieces_character, ih (bare.of_suffix (List.suffix_cons c rest)), List.map_cons]
    rintro rfl
    rw [← Option.not_isSome_iff_eq_none, Option.isSome_iff_exists]
    rintro ⟨⟨name, after⟩, found⟩
    obtain ⟨isName, rfl⟩ := placeholder?_eq_some_iff.mp found
    refine bare name isName ⟨[], after, ?_⟩
    rw [List.nil_append, placeholderText_append]

/-! ## Stencils -/

/-- A template cut at placeholders: each of them with the text before it, and at last the text after
all of them. -/
inductive Stencil where
  | rest (text : List Char)
  | slot (before name : List Char) (onward : Stencil)

namespace Stencil

def text : Stencil → List Char
  | rest text => text
  | slot before name onward => before ++ (placeholderText name ++ onward.text)

def names : Stencil → List String
  | rest _ => []
  | slot _ name onward => String.ofList name :: onward.names

def fill (value : List Char → List Char) : Stencil → List Char
  | rest text => text
  | slot before name onward => before ++ (value name ++ onward.fill value)

/-- The cuts are at placeholders, and at all of them. -/
def Exact : Stencil → Prop
  | rest text => Bare text
  | slot before name onward => Bare before ∧ IsPlaceholderName name ∧ onward.Exact

def join : Stencil → List Char → Stencil → Stencil
  | rest text, name, second => slot text name second
  | slot before earlier onward, name, second => slot before earlier (onward.join name second)

def pieces : Stencil → List TemplatePiece
  | rest text => text.map .character
  | slot before name onward => before.map .character ++ .placeholder name :: onward.pieces

theorem text_join (first : Stencil) (name : List Char) (second : Stencil) :
    (first.join name second).text = first.text ++ (placeholderText name ++ second.text) := by
  induction first with
  | rest text => rfl
  | slot before earlier onward ih => simp [join, text, ih]

theorem Exact.join {first second : Stencil} (exact : first.Exact) {name : List Char}
    (isName : IsPlaceholderName name) (exact' : second.Exact) : (first.join name second).Exact := by
  induction first with
  | rest text => exact ⟨exact, isName, exact'⟩
  | slot before earlier onward ih => exact ⟨exact.1, exact.2.1, ih exact.2.2⟩

theorem exists_exact (text : List Char) : ∃ stencil : Stencil, stencil.Exact ∧ stencil.text = text := by
  induction long : text.length using Nat.strongRecOn generalizing text with
  | ind size ih =>
    by_cases bare : Bare text
    · exact ⟨.rest text, bare, rfl⟩
    · simp only [Bare, not_forall, not_not] at bare
      obtain ⟨name, isName, before, after, rfl⟩ := bare
      have longer : before.length < size ∧ after.length < size := by
        rw [← long]
        simp only [placeholderText, List.length_append, List.length_cons]
        omega
      obtain ⟨first, exact, rfl⟩ := ih before.length longer.1 before rfl
      obtain ⟨second, exact', rfl⟩ := ih after.length longer.2 after rfl
      refine ⟨first.join name second, exact.join isName exact', ?_⟩
      rw [text_join, List.append_assoc]

theorem Exact.templatePieces_text {stencil : Stencil} (exact : stencil.Exact) :
    templatePieces stencil.text = stencil.pieces := by
  induction stencil with
  | rest text => exact templatePieces_of_bare exact
  | slot before name onward ih =>
    obtain ⟨bare, isName, exact⟩ := exact
    rw [text, placeholderText_append, templatePieces_append (by decide) (by decide),
      ← placeholderText_append, templatePieces_of_bare bare, templatePieces_placeholder isName,
      ih exact, pieces]

/-! ## One cut -/

def cons (c : Char) : Stencil → Stencil
  | rest text => rest (c :: text)
  | slot before name onward => slot (c :: before) name onward

def ofPieces : List TemplatePiece → Stencil
  | [] => rest []
  | .character c :: pieces => (ofPieces pieces).cons c
  | .placeholder name :: pieces => slot [] name (ofPieces pieces)

theorem ofPieces_map_character (text : List Char) : ofPieces (text.map .character) = rest text := by
  induction text with
  | nil => rfl
  | cons c text ih => rw [List.map_cons, ofPieces, ih, cons]

theorem ofPieces_slot (before name : List Char) (pieces : List TemplatePiece) :
    ofPieces (before.map .character ++ .placeholder name :: pieces) =
      slot before name (ofPieces pieces) := by
  induction before with
  | nil => rfl
  | cons c before ih => rw [List.map_cons, List.cons_append, ofPieces, ih, cons]

theorem ofPieces_pieces (stencil : Stencil) : ofPieces stencil.pieces = stencil := by
  induction stencil with
  | rest text => exact ofPieces_map_character text
  | slot before name onward ih => rw [pieces, ofPieces_slot, ih]

theorem Exact.eq_of_text_eq {first second : Stencil} (exact : first.Exact) (exact' : second.Exact)
    (same : first.text = second.text) : first = second := by
  rw [← ofPieces_pieces first, ← ofPieces_pieces second, ← exact.templatePieces_text,
    ← exact'.templatePieces_text, same]

theorem Exact.exists_join {stencil : Stencil} (exact : stencil.Exact) {before name after : List Char}
    (isName : IsPlaceholderName name)
    (there : stencil.text = before ++ (placeholderText name ++ after)) :
    ∃ first second : Stencil, first.text = before ∧ second.text = after ∧
      stencil = first.join name second := by
  obtain ⟨first, exact', rfl⟩ := exists_exact before
  obtain ⟨second, exact'', rfl⟩ := exists_exact after
  refine ⟨first, second, rfl, rfl, exact.eq_of_text_eq (exact'.join isName exact'') ?_⟩
  rw [there, text_join]

end Stencil

/-! ## Filling in -/

def Address.filling (address : Address) (name : List Char) : List Char :=
  ((address.getNamed (String.ofList name)).getD "").toList

theorem Stencil.flatMap_pieces (stencil : Stencil) (address : Address) :
    stencil.pieces.flatMap (TemplatePiece.text address) = stencil.fill address.filling := by
  have kept (text : List Char) :
      (text.map TemplatePiece.character).flatMap (TemplatePiece.text address) = text := by
    rw [List.flatMap_map]
    exact List.flatMap_singleton' text
  induction stencil with
  | rest text => exact kept text
  | slot before name onward ih =>
    rw [pieces, List.flatMap_append, kept, List.flatMap_cons, ih]
    rfl

theorem Stencil.Exact.substitute_text {stencil : Stencil} (exact : stencil.Exact)
    (address : Address) : substitute stencil.text address = stencil.fill address.filling := by
  rw [substitute, exact.templatePieces_text, stencil.flatMap_pieces]

/-! ## Names, line by line -/

theorem Stencil.Exact.placeholderNames_text {stencil : Stencil} (exact : stencil.Exact) :
    placeholderNames stencil.text = stencil.names := by
  rw [placeholderNames, exact.templatePieces_text]
  clear exact
  induction stencil with
  | rest text => simp [pieces, names]
  | slot before name onward ih => simp [pieces, names, ih]

theorem placeholderNames_append_break (before after : List Char) :
    placeholderNames (before ++ '\n' :: after) = placeholderNames before ++ placeholderNames after := by
  rw [placeholderNames, templatePieces_append (by decide) (by decide), List.filterMap_append,
    templatePieces_character (fun brace => absurd brace (by decide)), List.filterMap_cons_none rfl,
    placeholderNames, placeholderNames]

theorem placeholderNames_unlines (lines : List (List Char)) :
    placeholderNames (unlines lines) = lines.flatMap placeholderNames := by
  induction lines with
  | nil => rw [unlines, List.intercalate_nil, placeholderNames, templatePieces]; rfl
  | cons line others ih =>
    cases others with
    | nil => simp [unlines]
    | cons next others =>
      rw [unlines_cons_cons, placeholderNames_append_break, ih, ← List.flatMap_cons]

theorem placeholderNames_lines (text : List Char) :
    placeholderNames text = (lines text).flatMap placeholderNames := by
  rw [← placeholderNames_unlines, unlines_lines]

/-! ## Forms -/

namespace FormSources

theorem components_rows (sources : FormSources) :
    sources.rows.map (·.map FormField.component) =
      ((lines sources.template.toList).map placeholderNames).filter (! ·.isEmpty) := by
  have named (names : List String) : (names.map sources.field).map FormField.component = names := by
    rw [List.map_map]
    exact List.map_id names
  have filled : (fun fields : List FormField => ! fields.isEmpty) =
      (fun names : List String => ! names.isEmpty) ∘ (·.map FormField.component) := by
    funext fields
    cases fields <;> rfl
  have split : lines sources.template.toList = splitWhere (· == '\n') sources.template.toList := rfl
  rw [rows, filled, ← List.filter_map, List.map_map, split]
  congr 1
  exact List.map_congr_left fun line _ => named (placeholderNames line)

/-- A template is cut at all placeholders that stand in it, and so are its lines. A form has a row of
fields for each line that is cut, by the names in that line, and all its fields are those of the whole
template in their order. Laying out an address puts a value in place of each of these placeholders,
which is the last that is done to it, and keeps all else of the template. -/
theorem rows_agree_with_substitute (sources : FormSources) :
    ∃ (stencil : Stencil) (rows : List Stencil),
      stencil.Exact ∧ stencil.text = sources.template.toList ∧
      (∀ before name after, IsPlaceholderName name →
        sources.template.toList = before ++ (placeholderText name ++ after) →
          ∃ first second : Stencil, first.text = before ∧ second.text = after ∧
            stencil = first.join name second) ∧
      (∀ row ∈ rows, row.Exact) ∧ rows.map Stencil.text = lines sources.template.toList ∧
      sources.rows.flatten.map FormField.component = stencil.names ∧
      sources.rows.map (·.map FormField.component) =
        (rows.map Stencil.names).filter (! ·.isEmpty) ∧
      ∀ address, substitute sources.template.toList address = stencil.fill address.filling := by
  obtain ⟨stencil, exact, whole⟩ := Stencil.exists_exact sources.template.toList
  choose cut cutExact cutText using Stencil.exists_exact
  have cutNames : ∀ line, (cut line).names = placeholderNames line := fun line => by
    rw [← (cutExact line).placeholderNames_text, cutText]
  have rowNames : sources.rows.map (·.map FormField.component) =
      (((lines sources.template.toList).map cut).map Stencil.names).filter (! ·.isEmpty) := by
    rw [sources.components_rows, List.map_map]
    congr 1
    exact List.map_congr_left fun line _ => (cutNames line).symm
  refine ⟨stencil, (lines sources.template.toList).map cut, exact, whole, ?_, ?_, ?_, ?_, rowNames, ?_⟩
  · intro before name after isName there
    exact exact.exists_join isName (whole.trans there)
  · exact List.forall_mem_map.mpr fun line _ => cutExact line
  · rw [List.map_map]
    exact (List.map_congr_left fun line _ => cutText line).trans (List.map_id _)
  · rw [List.map_flatten, sources.components_rows, List.flatten_filter_not_isEmpty,
      ← exact.placeholderNames_text, whole, placeholderNames_lines, List.flatMap_def]
  · intro address
    rw [← whole, exact.substitute_text]

-- Braces around a placeholder are kept, and a value that looks like a placeholder is not filled in.
example :
    substitute "\x7b\x7blocality\x7d\x7d \x7bno name\x7d".toList
        { locality := some "\x7bregion\x7d", region := some "Hessen" } =
      "\x7b\x7bregion\x7d\x7d \x7bno name\x7d".toList := by
  decide +kernel

end FormSources

end Postal
