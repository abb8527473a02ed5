import Mathlib.Data.List.Chain
import Postal.Proofs.Text.Lines

namespace Postal

open Unicode

/-! ## Cleaned lines -/

def cleanLine (line : List Char) : List Char :=
  strip (· == ' ') (collapse isHorizontalSpace ' ' line)

def cleanLines (text : List Char) : List (List Char) :=
  ((lines text).map cleanLine).filter (! ·.isEmpty)

theorem linewise_cleanLines : Linewise cleanLines := by
  have run : ∀ {c}, isHorizontalSpace c = true → ∀ other ∈ [c], isHorizontalSpace other = true :=
    fun space => by simpa using space
  refine linewise_filled rfl ?first ?last ?inside
  case first => exact fun space => strip_collapse_append_left rfl (run space)
  case last => exact fun space => strip_collapse_append rfl (run space)
  case inside => exact fun line => congrArg (strip _) (collapse_collapse (fun _ h => h) rfl line)

def visible (text : List Char) : List Char :=
  text.filter (! isWhitespace ·)

def visibleLines (text : List Char) : List (List Char) :=
  ((lines text).map visible).filter (! ·.isEmpty)

theorem visible_cons {c : Char} (h : isWhitespace c = true) (text : List Char) :
    visible (c :: text) = visible text := by
  simp [visible, h]

theorem visible_append {c : Char} (h : isWhitespace c = true) (text : List Char) :
    visible (text ++ [c]) = visible text := by
  simp [visible, h]

theorem isWhitespace_of_isHorizontalSpace {c : Char} (h : isHorizontalSpace c = true) :
    isWhitespace c = true := by
  rcases isHorizontalSpace_iff.mp h with rfl | rfl <;> decide

theorem linewise_visibleLines : Linewise visibleLines := by
  refine linewise_filled rfl ?first ?last ?inside
  case first => exact fun space => visible_cons (isWhitespace_of_isHorizontalSpace space)
  case last => exact fun space => visible_append (isWhitespace_of_isHorizontalSpace space)
  case inside =>
    refine fun line => filter_collapse (fun c space => ?_) (by decide) line
    simp [isWhitespace_of_isHorizontalSpace space]

theorem visibleLines_trim (text : List Char) : visibleLines (trim text) = visibleLines text := by
  refine apply_trim visibleLines ?first ?last text
  case first =>
    intro c blank text
    cases parts : isBreak c with
    | true =>
      obtain rfl := isBreak_iff.mp parts
      exact linewise_visibleLines.break_first text
    | false =>
      obtain ⟨line, others, split, more⟩ := exists_lines_cons parts text
      simp only [visibleLines, split, more, List.map_cons, visible_cons blank]
  case last =>
    intro c blank text
    cases parts : isBreak c with
    | true =>
      obtain rfl := isBreak_iff.mp parts
      exact linewise_visibleLines.break_last text
    | false =>
      obtain ⟨earlier, line, split, more⟩ := exists_lines_append parts text
      simp only [visibleLines, split, more, List.map_append, List.map_singleton,
        visible_append blank]

theorem flatten_visibleLines (text : List Char) : (visibleLines text).flatten = visible text := by
  rw [visibleLines, List.flatten_filter_not_isEmpty]
  conv_rhs => rw [← unlines_lines text]
  induction lines text with
  | nil => rfl
  | cons line others ih =>
    cases others with
    | nil => simp [unlines]
    | cons next others =>
      have hidden : visible ('\n' :: unlines (next :: others)) =
          visible (unlines (next :: others)) := visible_cons (by decide) _
      rw [unlines_cons_cons, List.map_cons, List.flatten_cons, ih, ← hidden]
      exact (List.filter_append ..).symm

/-! ## Tight texts -/

def isJoint (c : Char) : Bool :=
  c == ' ' || c == '\n'

theorem isJoint_iff {c : Char} : isJoint c = true ↔ c = ' ' ∨ c = '\n' := by
  simp [isJoint]

theorem isJoint_eq_false_iff {c : Char} : isJoint c = false ↔ c ≠ ' ' ∧ isBreak c = false := by
  simp [isJoint, isBreak]

structure Tight (text : List Char) : Prop where
  apart : text.IsChain fun a b => isJoint a = true → isJoint b = false
  noTab : '\t' ∉ text

theorem Tight.of_isInfix {text part : List Char} (tight : Tight text) (h : part <:+: text) :
    Tight part where
  apart := List.IsChain.infix tight.apart h
  noTab mem := tight.noTab (h.subset mem)

theorem isChain_collapse {mark : Char} {before after : Char → Char → Prop}
    (keeps : ∀ a b, before a b → ¬ (a = mark ∧ b = mark) → after a b) {text : List Char}
    (chain : text.IsChain before) : (collapse (· == mark) mark text).IsChain after := by
  have next : ∀ text c, (c :: text).IsChain before →
      (c :: collapseAfter (· == mark) mark (c == mark) text).IsChain after := by
    intro text
    induction text with
    | nil => exact fun c _ => .singleton c
    | cons d text ih =>
      intro c chain
      obtain ⟨near, chain⟩ := List.isChain_cons_cons.mp chain
      have later := ih d chain
      by_cases marked : d = mark
      · subst marked
        rw [beq_self_eq_true] at later
        by_cases run : c = d
        · subst run
          simpa [collapseAfter] using later
        · simp only [collapseAfter, beq_self_eq_true, ↓reduceIte, beq_false_of_ne run]
          exact .cons_cons (keeps c d near fun both => run both.1) later
      · rw [beq_false_of_ne marked] at later
        simp only [collapseAfter, beq_false_of_ne marked]
        exact .cons_cons (keeps c d near fun both => marked both.2) later
  cases text with
  | nil => exact .nil
  | cons c text =>
    have later := next text c chain
    by_cases marked : c = mark
    · simpa [collapse, collapseAfter, marked] using later
    · simpa [collapse, collapseAfter, marked, beq_false_of_ne marked] using later

theorem collapse_eq_collapse_map {test : Char → Bool} {mark : Char} (marked : test mark = true)
    (text : List Char) : collapse test mark text =
      collapse (· == mark) mark (text.map fun c => if test c then mark else c) := by
  suffices h : ∀ inRun, collapseAfter test mark inRun text =
      collapseAfter (· == mark) mark inRun (text.map fun c => if test c then mark else c) from
    h false
  induction text with
  | nil => exact fun _ => rfl
  | cons c text ih =>
    intro inRun
    by_cases tested : test c = true
    · simp [collapseAfter, tested, ih]
    · have other : (c == mark) = false := beq_false_of_ne fun same => tested (same ▸ marked)
      simp [collapseAfter, tested, other, ih]

theorem isChain_spaced (text : List Char) :
    (collapse isHorizontalSpace ' ' text).IsChain fun a b => a = ' ' → b ≠ ' ' := by
  rw [collapse_eq_collapse_map rfl]
  have any : ∀ text : List Char, text.IsChain fun _ _ => True := by
    intro text
    induction text with
    | nil => exact .nil
    | cons c rest ih => exact List.isChain_cons.mpr ⟨fun _ _ => trivial, ih⟩
  exact isChain_collapse (fun a b _ apart first second => apart ⟨first, second⟩) (any _)

theorem head?_dropSpaceAfterBreak (text : List Char) :
    (dropSpaceAfterBreak text).head? = text.head? := by
  fun_cases dropSpaceAfterBreak text <;> rfl

theorem isChain_dropSpaceAfterBreak {text : List Char}
    (chain : text.IsChain fun a b => a = ' ' → b ≠ ' ') :
    (dropSpaceAfterBreak text).IsChain fun a b => isJoint a = true → b ≠ ' ' := by
  fun_induction dropSpaceAfterBreak text with
  | case1 rest ih =>
    obtain ⟨-, chain⟩ := List.isChain_cons_cons.mp chain
    obtain ⟨near, chain⟩ := List.isChain_cons.mp chain
    refine List.isChain_cons.mpr ⟨fun b first _ => ?_, ih chain⟩
    rw [head?_dropSpaceAfterBreak] at first
    exact near b first rfl
  | case2 c rest noBreak ih =>
    obtain ⟨near, chain⟩ := List.isChain_cons.mp chain
    refine List.isChain_cons.mpr ⟨fun b first joint => ?_, ih chain⟩
    rw [head?_dropSpaceAfterBreak] at first
    rcases isJoint_iff.mp joint with rfl | rfl
    · exact near b first rfl
    · rintro rfl
      obtain ⟨others, rfl⟩ := List.head?_eq_some_iff.mp first
      exact noBreak others rfl rfl
  | case3 => exact .nil

theorem head?_dropSpaceBeforeBreak (text : List Char) :
    ∀ b ∈ (dropSpaceBeforeBreak text).head?, b ∈ text.head? ∨ ' ' ∈ text.head? := by
  fun_cases dropSpaceBeforeBreak text with
  | case1 rest => exact fun _ _ => .inr rfl
  | case2 c rest _ => exact fun _ first => .inl first
  | case3 => exact nofun

theorem isChain_dropSpaceBeforeBreak {text : List Char}
    (chain : text.IsChain fun a b => isJoint a = true → b ≠ ' ') :
    (dropSpaceBeforeBreak text).IsChain fun a b =>
      isJoint a = true → isJoint b = true → a = '\n' ∧ b = '\n' := by
  fun_induction dropSpaceBeforeBreak text with
  | case1 rest ih =>
    obtain ⟨-, chain⟩ := List.isChain_cons_cons.mp chain
    obtain ⟨near, chain⟩ := List.isChain_cons.mp chain
    refine List.isChain_cons.mpr ⟨fun b first _ joint => ⟨rfl, ?_⟩, ih chain⟩
    refine (isJoint_iff.mp joint).resolve_left ?_
    rintro rfl
    rcases head?_dropSpaceBeforeBreak rest ' ' first with space | space <;>
      exact near ' ' space rfl rfl
  | case2 c rest noSpace ih =>
    obtain ⟨near, chain⟩ := List.isChain_cons.mp chain
    refine List.isChain_cons.mpr ⟨fun b first joint joint' => ?_, ih chain⟩
    rcases head?_dropSpaceBeforeBreak rest b first with here | space
    · obtain rfl := (isJoint_iff.mp joint').resolve_left (near b here joint)
      obtain ⟨others, rfl⟩ := List.head?_eq_some_iff.mp here
      exact ⟨(isJoint_iff.mp joint).resolve_left fun space => noSpace others space rfl, rfl⟩
    · exact absurd rfl (near ' ' space joint)
  | case3 => exact .nil

theorem dropSpaceAfterBreak_sublist (text : List Char) : (dropSpaceAfterBreak text).Sublist text := by
  fun_induction dropSpaceAfterBreak text with
  | case1 rest ih => exact (ih.cons ' ').cons_cons '\n'
  | case2 c rest _ ih => exact ih.cons_cons c
  | case3 => exact .slnil

theorem dropSpaceBeforeBreak_sublist (text : List Char) :
    (dropSpaceBeforeBreak text).Sublist text := by
  fun_induction dropSpaceBeforeBreak text with
  | case1 rest ih => exact (ih.cons_cons '\n').cons ' '
  | case2 c rest _ ih => exact ih.cons_cons c
  | case3 => exact .slnil

theorem tight_tightened (text : List Char) : Tight (tightened text) where
  apart := by
    have spaced := isChain_dropSpaceBeforeBreak (isChain_dropSpaceAfterBreak (isChain_spaced text))
    refine isChain_collapse (fun a b near apart first => ?_) spaced
    exact Bool.eq_false_iff.mpr fun second => apart (near first second)
  noTab := by
    intro mem
    rcases mem_collapseAfter mem with ⟨inside, -⟩ | ⟨⟨⟩⟩
    have spaced := (dropSpaceAfterBreak_sublist _).subset
      ((dropSpaceBeforeBreak_sublist _).subset inside)
    rcases mem_collapseAfter spaced with ⟨-, kept⟩ | ⟨⟨⟩⟩
    exact absurd kept (by decide)

/-! ## Lines of tight texts -/

structure Stripped (line : List Char) : Prop where
  filled : line ≠ []
  first : line.head? ≠ some ' '
  last : line.getLast? ≠ some ' '

theorem Stripped.of_head? {line : List Char} {c : Char} (first : line.head? = some c)
    (noSpace : c ≠ ' ') (last : line.getLast? ≠ some ' ') : Stripped line where
  filled := by
    rintro rfl
    cases first
  first := by
    rw [first]
    exact fun same => noSpace (Option.some.inj same)
  last := last

theorem Stripped.strip_eq {line : List Char} (stripped : Stripped line) :
    strip (· == ' ') line = line := by
  refine strip_eq_self (fun c first => beq_false_of_ne ?_) (fun c last => beq_false_of_ne ?_)
  · rintro rfl
    exact stripped.first first
  · rintro rfl
    exact stripped.last last

theorem Tight.exists_lines {text : List Char} (tight : Tight text) (filled : text ≠ [])
    (last : ∀ c ∈ text.getLast?, isJoint c = false) :
    ∃ first others, lines text = first :: others ∧ (∀ line ∈ others, Stripped line) ∧
      first.getLast? ≠ some ' ' ∧
      ∀ c ∈ text.head?, if isBreak c then first = [] else first.head? = some c := by
  induction text with
  | nil => exact absurd rfl filled
  | cons c rest ih =>
    by_cases alone : rest = []
    · subst alone
      obtain ⟨noSpace, noBreak⟩ := isJoint_eq_false_iff.mp (last c rfl)
      refine ⟨[c], [], splitWhere_of_forall_not (by simpa using noBreak), nofun, ?_, ?_⟩
      · exact fun same => noSpace (Option.some.inj same)
      · rintro _ ⟨⟨⟩⟩
        simp [noBreak]
    · obtain ⟨near, chain⟩ := List.isChain_cons.mp tight.apart
      have tight' : Tight rest := ⟨chain, fun mem => tight.noTab (List.mem_cons_of_mem c mem)⟩
      obtain ⟨first, others, split, stripped, ends, begins⟩ := ih tight' alone (by
        rwa [List.getLast?_cons_of_ne_nil alone] at last)
      obtain ⟨next, later, rfl⟩ := List.exists_cons_of_ne_nil alone
      specialize begins next rfl
      specialize near next rfl
      cases parts : isBreak c with
      | true =>
        obtain rfl := isBreak_iff.mp parts
        obtain ⟨noSpace, noBreak⟩ := isJoint_eq_false_iff.mp (near rfl)
        rw [if_neg (by simp [noBreak])] at begins
        have split' : lines ('\n' :: next :: later) = [] :: first :: others := by
          rw [← split]
          exact lines_append_break [] _
        have stripped' : Stripped first := .of_head? begins noSpace ends
        have every : ∀ line ∈ first :: others, Stripped line :=
          List.forall_mem_cons.mpr ⟨stripped', stripped⟩
        refine ⟨[], first :: others, split', every, nofun, ?_⟩
        rintro _ ⟨⟨⟩⟩
        rfl
      | false =>
        obtain ⟨_, _, split', more⟩ := exists_lines_cons parts (next :: later)
        rw [split] at split'
        cases split'
        refine ⟨c :: first, others, more, stripped, ?_, ?_⟩
        · cases first with
          | nil =>
            -- The break that follows allows no space before it.
            rintro ⟨⟨⟩⟩
            obtain ⟨-, noBreak⟩ := isJoint_eq_false_iff.mp (near rfl)
            rw [if_neg (by simp [noBreak])] at begins
            cases begins
          | cons d first => rwa [List.getLast?_cons_cons]
        · rintro _ ⟨⟨⟩⟩
          simp [parts]

theorem Tight.collapse_eq {text : List Char} (tight : Tight text) :
    collapse isHorizontalSpace ' ' text = text := by
  refine collapseAfter_eq_self (fun c mem space => ?_) (fun double => ?_) nofun
  · refine (isHorizontalSpace_iff.mp space).resolve_right ?_
    rintro rfl
    exact tight.noTab mem
  · have apart := List.IsChain.infix tight.apart double
    cases (List.isChain_cons_cons.mp apart).1 rfl

theorem unlines_cleanLines {text : List Char} (tight : Tight text)
    (first : ∀ c ∈ text.head?, isJoint c = false) (last : ∀ c ∈ text.getLast?, isJoint c = false) :
    unlines (cleanLines text) = text := by
  cases text with
  | nil => rfl
  | cons c rest =>
    obtain ⟨line, others, split, stripped, ends, begins⟩ := tight.exists_lines nofun last
    obtain ⟨noSpace, noBreak⟩ := isJoint_eq_false_iff.mp (first c rfl)
    specialize begins c rfl
    rw [if_neg (by simp [noBreak])] at begins
    have every : ∀ line ∈ lines (c :: rest), Stripped line := by
      rw [split]
      exact List.forall_mem_cons.mpr ⟨.of_head? begins noSpace ends, stripped⟩
    have spaced : (lines (c :: rest)).map (collapse isHorizontalSpace ' ') = lines (c :: rest) := by
      rw [← lines_collapse, tight.collapse_eq]
    have kept : (lines (c :: rest)).map cleanLine = lines (c :: rest) := by
      calc (lines (c :: rest)).map cleanLine
        _ = ((lines (c :: rest)).map (collapse isHorizontalSpace ' ')).map (strip (· == ' ')) := by
          rw [List.map_map]
          rfl
        _ = (lines (c :: rest)).map (strip (· == ' ')) := by rw [spaced]
        _ = (lines (c :: rest)).map id :=
          List.map_congr_left fun line mem => (every line mem).strip_eq
        _ = lines (c :: rest) := List.map_id _
    rw [cleanLines, kept, List.filter_eq_self.mpr, unlines_lines]
    exact fun line mem => by simpa using (every line mem).filled

/-! ## Cleaning -/

theorem isWhitespace_of_isJoint {c : Char} (h : isJoint c = true) : isWhitespace c = true := by
  rcases isJoint_iff.mp h with rfl | rfl <;> decide

theorem cleanLines_strip (text : List Char) : cleanLines (strip isJoint text) = cleanLines text := by
  refine apply_strip cleanLines ?first ?last text <;> intro c joint text <;>
    rcases isJoint_iff.mp joint with rfl | rfl
  case first.inl => exact linewise_cleanLines.first rfl text
  case first.inr => exact linewise_cleanLines.break_first text
  case last.inl => exact linewise_cleanLines.last rfl text
  case last.inr => exact linewise_cleanLines.break_last text

theorem unlines_cleanLines_eq_strip (text : List Char) :
    unlines (cleanLines text) = strip isJoint (tightened text) := by
  have tight : Tight (strip isJoint (tightened text)) :=
    (tight_tightened text).of_isInfix (strip_isInfix isJoint _)
  have kept := unlines_cleanLines tight (head?_strip isJoint _) (getLast?_strip isJoint _)
  rwa [cleanLines_strip, linewise_cleanLines.tightened] at kept

theorem cleanWhitespace_eq (text : List Char) :
    cleanWhitespace text = trim (unlines (cleanLines text)) := by
  have inner : trim (strip isJoint (tightened text)) = trim (tightened text) :=
    apply_strip trim (fun joint => trim_cons (isWhitespace_of_isJoint joint))
      (fun joint => trim_append (isWhitespace_of_isJoint joint)) _
  rw [unlines_cleanLines_eq_strip, inner, cleanWhitespace_eq_trim]

theorem cleanWhitespace_cleanWhitespace (text : List Char) :
    cleanWhitespace (cleanWhitespace text) = cleanWhitespace text := by
  have tight : Tight (cleanWhitespace text) :=
    (tight_tightened text).of_isInfix (strip_isInfix isWhitespace _)
  have visible : ∀ {c}, isWhitespace c = false → isJoint c = false := by
    intro c shown
    exact Bool.eq_false_iff.mpr fun joint => by simp [isWhitespace_of_isJoint joint] at shown
  have kept := unlines_cleanLines tight (fun c first => visible (head?_trim _ c first))
    (fun c last => visible (getLast?_trim _ c last))
  rw [cleanWhitespace_eq, kept, cleanWhitespace_eq_trim, trim_trim]

/-- Cleaning a text cleans it line by line and drops the white space at its ends. Cleaning again
changes nothing. What can be seen of the text stays in its order, and stays divided into lines. -/
theorem cleanWhitespace_line_by_line (text : List Char) :
    cleanWhitespace text = trim (unlines (cleanLines text)) ∧
      cleanWhitespace (cleanWhitespace text) = cleanWhitespace text ∧
      visible (cleanWhitespace text) = visible text ∧
      visibleLines (cleanWhitespace text) = visibleLines text := by
  have seen : visibleLines (cleanWhitespace text) = visibleLines text :=
    linewise_visibleLines.cleanWhitespace visibleLines_trim text
  refine ⟨cleanWhitespace_eq text, cleanWhitespace_cleanWhitespace text, ?_, seen⟩
  rw [← flatten_visibleLines, seen, flatten_visibleLines]

example : cleanWhitespace " 1\t Main St \n\t\n\n  Springfield\n".toList =
    "1 Main St\nSpringfield".toList := by decide

end Postal
