import Postal.Proofs.Text.Spacing
import Postal.Template

namespace Postal

open Unicode

def isBreak (c : Char) : Bool :=
  c == '\n'

theorem isBreak_iff {c : Char} : isBreak c = true ↔ c = '\n' :=
  beq_iff_eq

theorem isHorizontalSpace_iff {c : Char} : isHorizontalSpace c = true ↔ c = ' ' ∨ c = '\t' := by
  simp [isHorizontalSpace]

def lines (text : List Char) : List (List Char) :=
  splitWhere isBreak text

def unlines (lines : List (List Char)) : List Char :=
  ['\n'].intercalate lines

theorem lines_append_break (before after : List Char) :
    lines (before ++ '\n' :: after) = lines before ++ lines after :=
  splitWhere_append_separator rfl before after

theorem exists_lines_cons {c : Char} (h : isBreak c = false) (text : List Char) :
    ∃ first others, lines text = first :: others ∧ lines (c :: text) = (c :: first) :: others :=
  splitWhere_cons_of_not_separator h text

theorem exists_lines_append {c : Char} (h : isBreak c = false) (text : List Char) :
    ∃ earlier last, lines text = earlier ++ [last] ∧ lines (text ++ [c]) = earlier ++ [last ++ [c]] := by
  obtain ⟨earlier, last, first, later, before, after, split⟩ :=
    exists_splitWhere_append isBreak text []
  obtain ⟨rfl, rfl⟩ := List.cons.inj after
  have grown := split [c] (by simpa using h)
  rw [List.append_nil] at grown
  exact ⟨earlier, last, before, grown⟩

theorem unlines_cons_cons (line next : List Char) (others : List (List Char)) :
    unlines (line :: next :: others) = line ++ '\n' :: unlines (next :: others) := by
  simp [unlines]

theorem unlines_lines (text : List Char) : unlines (lines text) = text := by
  induction text with
  | nil => rfl
  | cons c text ih =>
    cases parts : isBreak c with
    | true =>
      obtain rfl := isBreak_iff.mp parts
      have split : lines ('\n' :: text) = [] :: lines text := lines_append_break [] text
      obtain ⟨first, others, rest⟩ := List.exists_cons_of_ne_nil (splitWhere_ne_nil isBreak text)
      rw [lines, rest] at ih
      rw [split, lines, rest, unlines_cons_cons, ih, List.nil_append]
    | false =>
      obtain ⟨first, others, split, more⟩ := exists_lines_cons parts text
      rw [more]
      rw [split] at ih
      cases others with
      | nil => simpa [unlines] using ih
      | cons next others =>
        rw [unlines_cons_cons] at ih ⊢
        rw [List.cons_append, ih]

theorem isBreak_of_isHorizontalSpace {c : Char} (h : isHorizontalSpace c = true) :
    isBreak c = false := by
  rcases isHorizontalSpace_iff.mp h with rfl | rfl <;> decide

theorem isHorizontalSpace_of_isBreak {c : Char} (h : isBreak c = true) :
    isHorizontalSpace c = false := by
  obtain rfl := isBreak_iff.mp h
  decide

theorem lines_collapse (text : List Char) :
    lines (collapse isHorizontalSpace ' ' text) =
      (lines text).map (collapse isHorizontalSpace ' ') :=
  splitWhere_collapse (fun _ => isHorizontalSpace_of_isBreak) (by decide) text

/-- What a function tells of a text it tells of its lines one after the other. Spaces and tabs at the
ends of a line do not matter to it, nor how many of them stand together. -/
structure Linewise {α : Type} (f : List Char → List α) : Prop where
  empty : f [] = []
  split : ∀ before after, f (before ++ '\n' :: after) = f before ++ f after
  first : ∀ {c}, isHorizontalSpace c = true → ∀ text, f (c :: text) = f text
  last : ∀ {c}, isHorizontalSpace c = true → ∀ text, f (text ++ [c]) = f text
  inside : ∀ text, f (collapse isHorizontalSpace ' ' text) = f text

theorem linewise_filled {α : Type} {g : List Char → List α} (empty : g [] = [])
    (first : ∀ {c}, isHorizontalSpace c = true → ∀ line, g (c :: line) = g line)
    (last : ∀ {c}, isHorizontalSpace c = true → ∀ line, g (line ++ [c]) = g line)
    (inside : ∀ line, g (collapse isHorizontalSpace ' ' line) = g line) :
    Linewise fun text => ((lines text).map g).filter (! ·.isEmpty) where
  empty := by
    change ([g []]).filter (! ·.isEmpty) = []
    simp [empty]
  split before after := by
    simp only [lines_append_break, List.map_append, List.filter_append]
  first space text := by
    obtain ⟨line, others, split, more⟩ := exists_lines_cons (isBreak_of_isHorizontalSpace space) text
    rw [split, more, List.map_cons, List.map_cons, first space]
  last space text := by
    obtain ⟨earlier, line, split, more⟩ :=
      exists_lines_append (isBreak_of_isHorizontalSpace space) text
    rw [split, more, List.map_append, List.map_append, List.map_singleton, List.map_singleton,
      last space]
  inside text := by
    have same : g ∘ collapse isHorizontalSpace ' ' = g := funext inside
    rw [lines_collapse, List.map_map, same]

def tightened (text : List Char) : List Char :=
  collapse (· == '\n') '\n'
    (dropSpaceBeforeBreak (dropSpaceAfterBreak (collapse isHorizontalSpace ' ' text)))

theorem cleanWhitespace_eq_trim (text : List Char) :
    cleanWhitespace text = trim (tightened text) := rfl

def AlikeTo {α : Type} (f : List Char → List α) (text other : List Char) : Prop :=
  ∀ before, f (before ++ text) = f (before ++ other)

namespace AlikeTo

variable {α : Type} {f : List Char → List α} {text other third : List Char}

theorem cons (h : AlikeTo f text other) (c : Char) : AlikeTo f (c :: text) (c :: other) := by
  intro before
  have after := h (before ++ [c])
  rwa [List.append_assoc, List.append_assoc] at after

theorem trans (h : AlikeTo f text other) (h' : AlikeTo f other third) : AlikeTo f text third :=
  fun before => (h before).trans (h' before)

end AlikeTo

namespace Linewise

variable {α : Type} {f : List Char → List α} (linewise : Linewise f)
include linewise

theorem after_break {text other : List Char} (same : f text = f other) :
    AlikeTo f ('\n' :: text) ('\n' :: other) := by
  intro before
  rw [linewise.split, linewise.split, same]

theorem break_first (text : List Char) : f ('\n' :: text) = f text := by
  have split := linewise.split [] text
  rwa [linewise.empty] at split

theorem break_last (text : List Char) : f (text ++ ['\n']) = f text := by
  rw [linewise.split, linewise.empty, List.append_nil]

theorem alike_dropSpaceAfterBreak (text : List Char) : AlikeTo f (dropSpaceAfterBreak text) text := by
  fun_induction dropSpaceAfterBreak text with
  | case1 rest ih =>
    have spaced : AlikeTo f ('\n' :: rest) ('\n' :: ' ' :: rest) :=
      linewise.after_break (linewise.first rfl rest).symm
    exact (ih.cons '\n').trans spaced
  | case2 c rest _ ih => exact ih.cons c
  | case3 => exact fun _ => rfl

theorem alike_dropSpaceBeforeBreak (text : List Char) :
    AlikeTo f (dropSpaceBeforeBreak text) text := by
  fun_induction dropSpaceBeforeBreak text with
  | case1 rest ih =>
    have spaced : AlikeTo f ('\n' :: rest) (' ' :: '\n' :: rest) := by
      intro before
      have moved : before ++ ' ' :: '\n' :: rest = (before ++ [' ']) ++ '\n' :: rest := by simp
      rw [moved, linewise.split, linewise.split, linewise.last rfl]
    exact (ih.cons '\n').trans spaced
  | case2 c rest _ ih => exact ih.cons c
  | case3 => exact fun _ => rfl

theorem alike_collapse_breaks (text : List Char) :
    AlikeTo f (collapse (· == '\n') '\n' text) text ∧
      AlikeTo f ('\n' :: collapseAfter (· == '\n') '\n' true text) ('\n' :: text) := by
  induction text with
  | nil => exact ⟨fun _ => rfl, fun _ => rfl⟩
  | cons c text ih =>
    by_cases here : c = '\n'
    · subst here
      have double : AlikeTo f ('\n' :: text) ('\n' :: '\n' :: text) :=
        linewise.after_break (linewise.break_first text).symm
      refine ⟨?_, ?_⟩
      · simpa [collapse, collapseAfter] using ih.2
      · simpa [collapseAfter] using ih.2.trans double
    · have kept : ∀ inRun, collapseAfter (· == '\n') '\n' inRun (c :: text) =
          c :: collapse (· == '\n') '\n' text := by
        intro inRun
        simp [collapse, collapseAfter, here]
      rw [collapse, kept, kept]
      exact ⟨ih.1.cons c, (ih.1.cons c).cons '\n'⟩

theorem tightened (text : List Char) : f (Postal.tightened text) = f text := by
  have spaced := linewise.inside text
  have after := linewise.alike_dropSpaceAfterBreak (collapse isHorizontalSpace ' ' text)
  have before := linewise.alike_dropSpaceBeforeBreak
    (dropSpaceAfterBreak (collapse isHorizontalSpace ' ' text))
  have breaks := linewise.alike_collapse_breaks
    (dropSpaceBeforeBreak (dropSpaceAfterBreak (collapse isHorizontalSpace ' ' text)))
  exact ((breaks.1.trans (before.trans after)) []).trans spaced

theorem cleanWhitespace (trimmed : ∀ text, f (trim text) = f text) (text : List Char) :
    f (Postal.cleanWhitespace text) = f text :=
  (trimmed (Postal.tightened text)).trans (linewise.tightened text)

end Linewise

end Postal
