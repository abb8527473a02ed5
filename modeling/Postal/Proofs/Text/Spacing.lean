import Mathlib.Data.List.Basic
import Mathlib.Data.List.Induction
import Postal.Text.Blank
import Postal.Text.Split

namespace Postal

open Unicode

/-! ## Pieces -/

section Pieces

variable {α : Type} {separator : α → Bool}

theorem splitWhere_of_forall_not {items : List α} (h : ∀ item ∈ items, separator item = false) :
    splitWhere separator items = [items] := by
  induction items with
  | nil => rfl
  | cons item items ih =>
    obtain ⟨piece, others, split, more⟩ :=
      splitWhere_cons_of_not_separator (h item List.mem_cons_self) items
    rw [ih fun other mem => h other (List.mem_cons_of_mem _ mem)] at split
    cases split
    exact more

theorem not_separator_of_mem_splitWhere {items piece : List α}
    (h : piece ∈ splitWhere separator items) : ∀ item ∈ piece, separator item = false := by
  induction items generalizing piece with
  | nil =>
    obtain rfl := List.mem_singleton.mp h
    exact nofun
  | cons first items ih =>
    cases separates : separator first with
    | true =>
      rw [splitWhere_cons_of_separator separates] at h
      rcases List.mem_cons.mp h with rfl | later
      · exact nofun
      · exact ih later
    | false =>
      obtain ⟨head, others, split, more⟩ := splitWhere_cons_of_not_separator separates items
      rw [more] at h
      rw [split] at ih
      rcases List.mem_cons.mp h with rfl | later
      · intro item mem
        rcases List.mem_cons.mp mem with rfl | mem
        · exact separates
        · exact ih List.mem_cons_self item mem
      · exact ih (List.mem_cons_of_mem head later)

theorem splitWhere_append_separator {mark : α} (h : separator mark = true) (before after : List α) :
    splitWhere separator (before ++ mark :: after) =
      splitWhere separator before ++ splitWhere separator after := by
  induction before with
  | nil => exact splitWhere_cons_of_separator h after
  | cons item before ih =>
    cases separates : separator item with
    | true =>
      rw [List.cons_append, splitWhere_cons_of_separator separates,
        splitWhere_cons_of_separator separates, ih, List.cons_append]
    | false =>
      obtain ⟨piece, others, split, more⟩ := splitWhere_cons_of_not_separator separates before
      obtain ⟨piece', others', split', more'⟩ :=
        splitWhere_cons_of_not_separator separates (before ++ mark :: after)
      rw [ih, split, List.cons_append] at split'
      cases split'
      rw [List.cons_append, more', more, List.cons_append]

theorem splitWhere_map {f : α → α}
    (same : ∀ item, separator (f item) = separator item) (items : List α) :
    splitWhere separator (items.map f) = (splitWhere separator items).map (List.map f) := by
  induction items with
  | nil => rfl
  | cons item items ih =>
    cases separates : separator item with
    | true =>
      rw [List.map_cons, splitWhere_cons_of_separator ((same item).trans separates),
        splitWhere_cons_of_separator separates, ih]
      rfl
    | false =>
      obtain ⟨piece, others, split, more⟩ := splitWhere_cons_of_not_separator separates items
      obtain ⟨piece', others', split', more'⟩ :=
        splitWhere_cons_of_not_separator ((same item).trans separates) (items.map f)
      rw [ih, split, List.map_cons] at split'
      cases split'
      rw [List.map_cons, more', more]
      rfl

theorem splitWhere_intercalate {mark : α} (h : separator mark = true) {pieces : List (List α)}
    (whole : ∀ piece ∈ pieces, ∀ item ∈ piece, separator item = false) (given : pieces ≠ []) :
    splitWhere separator ([mark].intercalate pieces) = pieces := by
  induction pieces with
  | nil => exact absurd rfl given
  | cons piece others ih =>
    obtain ⟨plain, whole⟩ := List.forall_mem_cons.mp whole
    cases others with
    | nil => simpa using splitWhere_of_forall_not plain
    | cons next others =>
      rw [List.intercalate_cons_cons, List.append_assoc, List.singleton_append,
        splitWhere_append_separator h, splitWhere_of_forall_not plain,
        ih whole (List.cons_ne_nil next others), List.singleton_append]

theorem exists_splitWhere_append (separator : α → Bool) (before after : List α) :
    ∃ earlier last first later, splitWhere separator before = earlier ++ [last] ∧
      splitWhere separator after = first :: later ∧
        ∀ middle, (∀ item ∈ middle, separator item = false) →
          splitWhere separator (before ++ (middle ++ after)) =
            earlier ++ (last ++ (middle ++ first)) :: later := by
  induction before with
  | nil =>
    cases split : splitWhere separator after with
    | nil => exact absurd split (splitWhere_ne_nil separator after)
    | cons first later =>
      refine ⟨[], [], first, later, rfl, rfl, ?_⟩
      intro middle joined
      induction middle with
      | nil => exact split
      | cons item middle ih =>
        obtain ⟨piece, others, rest, more⟩ :=
          splitWhere_cons_of_not_separator (joined item List.mem_cons_self) (middle ++ after)
        have shorter := ih fun other mem => joined other (List.mem_cons_of_mem _ mem)
        rw [List.nil_append, rest] at shorter
        cases shorter
        exact more
  | cons item before ih =>
    obtain ⟨earlier, last, first, later, splitBefore, splitAfter, splitAll⟩ := ih
    cases separates : separator item with
    | true =>
      refine ⟨[] :: earlier, last, first, later, ?_, splitAfter, ?_⟩
      · rw [splitWhere_cons_of_separator separates, splitBefore, List.cons_append]
      · intro middle joined
        rw [List.cons_append, splitWhere_cons_of_separator separates, splitAll middle joined,
          List.cons_append]
    | false =>
      have grow : ∀ {items pieces : List _} {piece : List α},
          splitWhere separator items = piece :: pieces →
            splitWhere separator (item :: items) = (item :: piece) :: pieces := by
        intro items pieces piece split
        obtain ⟨piece', others, split', more⟩ := splitWhere_cons_of_not_separator separates items
        rw [split] at split'
        cases split'
        exact more
      cases earlier with
      | nil =>
        refine ⟨[], item :: last, first, later, grow splitBefore, splitAfter, ?_⟩
        exact fun middle joined => grow (splitAll middle joined)
      | cons piece earlier =>
        refine ⟨(item :: piece) :: earlier, last, first, later, grow splitBefore, splitAfter, ?_⟩
        exact fun middle joined => grow (splitAll middle joined)

end Pieces

/-! ## Trimming -/

section Stripping

variable {edge : Char → Bool}

def strip (edge : Char → Bool) (text : List Char) : List Char :=
  ((text.dropWhile edge).reverse.dropWhile edge).reverse

theorem strip_cons {c : Char} (h : edge c = true) (text : List Char) :
    strip edge (c :: text) = strip edge text := by
  rw [strip, List.dropWhile_cons_of_pos h, strip]

theorem dropWhile_reverse_append {c : Char} (h : edge c = true) (text : List Char) :
    ((text ++ [c]).reverse.dropWhile edge).reverse = (text.reverse.dropWhile edge).reverse := by
  rw [List.reverse_append, List.reverse_singleton, List.singleton_append,
    List.dropWhile_cons_of_pos h]

theorem strip_append {c : Char} (h : edge c = true) (text : List Char) :
    strip edge (text ++ [c]) = strip edge text := by
  induction text with
  | nil => exact strip_cons h []
  | cons first text ih =>
    by_cases dropped : edge first = true
    · rw [List.cons_append, strip_cons dropped, strip_cons dropped, ih]
    · have starts : ∀ rest, (first :: rest).dropWhile edge = first :: rest :=
        fun rest => List.dropWhile_cons_of_neg dropped
      rw [strip, strip, List.cons_append, starts, starts, ← List.cons_append,
        dropWhile_reverse_append h]

theorem apply_strip {β : Type} (f : List Char → β)
    (first : ∀ {c}, edge c = true → ∀ text, f (c :: text) = f text)
    (last : ∀ {c}, edge c = true → ∀ text, f (text ++ [c]) = f text) (text : List Char) :
    f (strip edge text) = f text := by
  have start : ∀ text, f (text.dropWhile edge) = f text := by
    intro text
    induction text with
    | nil => rfl
    | cons c text ih =>
      by_cases dropped : edge c = true
      · rw [List.dropWhile_cons_of_pos dropped, first dropped, ih]
      · rw [List.dropWhile_cons_of_neg dropped]
  have stop : ∀ text, f (text.reverse.dropWhile edge).reverse = f text := by
    intro text
    induction text using List.reverseRecOn with
    | nil => rfl
    | append_singleton text c ih =>
      by_cases dropped : edge c = true
      · rw [dropWhile_reverse_append dropped, last dropped, ih]
      · rw [List.reverse_append, List.reverse_singleton, List.singleton_append,
          List.dropWhile_cons_of_neg dropped, List.reverse_cons, List.reverse_reverse]
  exact (stop (text.dropWhile edge)).trans (start text)

theorem dropWhile_eq_self {text : List Char} (first : ∀ c ∈ text.head?, edge c = false) :
    text.dropWhile edge = text := by
  cases text with
  | nil => rfl
  | cons c rest => exact List.dropWhile_cons_of_neg (by simp [first c rfl])

theorem dropWhile_reverse_eq_self {text : List Char}
    (last : ∀ c ∈ text.getLast?, edge c = false) : (text.reverse.dropWhile edge).reverse = text := by
  rw [dropWhile_eq_self, List.reverse_reverse]
  rwa [List.head?_reverse]

theorem strip_eq_self {text : List Char} (first : ∀ c ∈ text.head?, edge c = false)
    (last : ∀ c ∈ text.getLast?, edge c = false) : strip edge text = text := by
  rw [strip, dropWhile_eq_self first, dropWhile_reverse_eq_self last]

theorem head?_dropWhile_not (edge : Char → Bool) (text : List Char) :
    ∀ c ∈ (text.dropWhile edge).head?, edge c = false := by
  intro c first
  have stops := List.head?_dropWhile_not edge text
  rw [first] at stops
  exact Bool.eq_false_iff.mpr (by simpa using stops)

theorem strip_prefix_dropWhile (edge : Char → Bool) (text : List Char) :
    strip edge text <+: text.dropWhile edge :=
  List.reverse_suffix.mp (by simpa [strip] using List.dropWhile_suffix edge)

theorem strip_isInfix (edge : Char → Bool) (text : List Char) : strip edge text <:+: text :=
  (strip_prefix_dropWhile edge text).isInfix.trans (List.dropWhile_suffix edge).isInfix

theorem head?_strip (edge : Char → Bool) (text : List Char) :
    ∀ c ∈ (strip edge text).head?, edge c = false := by
  intro c first
  obtain ⟨rest, whole⟩ := strip_prefix_dropWhile edge text
  apply head?_dropWhile_not edge text
  rw [← whole, List.head?_append, first]
  rfl

theorem getLast?_strip (edge : Char → Bool) (text : List Char) :
    ∀ c ∈ (strip edge text).getLast?, edge c = false := by
  intro c last
  rw [strip, List.getLast?_reverse] at last
  exact head?_dropWhile_not _ _ c last

end Stripping

theorem trim_cons {c : Char} (h : isWhitespace c = true) (text : List Char) :
    trim (c :: text) = trim text :=
  strip_cons h text

theorem trim_append {c : Char} (h : isWhitespace c = true) (text : List Char) :
    trim (text ++ [c]) = trim text :=
  strip_append h text

theorem apply_trim {β : Type} (f : List Char → β)
    (first : ∀ {c}, isWhitespace c = true → ∀ text, f (c :: text) = f text)
    (last : ∀ {c}, isWhitespace c = true → ∀ text, f (text ++ [c]) = f text) (text : List Char) :
    f (trim text) = f text :=
  apply_strip f first last text

theorem trim_ne_nil {text : List Char} (visible : ∃ c ∈ text, isWhitespace c = false) :
    trim text ≠ [] := by
  have same : ((trim text).any fun c => ! isWhitespace c) = text.any fun c => ! isWhitespace c :=
    apply_trim (fun text => text.any fun c => ! isWhitespace c) (fun blank text => by simp [blank])
      (fun blank text => by simp [blank]) text
  intro empty
  rw [empty] at same
  obtain ⟨c, mem, shown⟩ := visible
  have blank := List.any_eq_false.mp same.symm c mem
  simp [shown] at blank

theorem trim_trim (text : List Char) : trim (trim text) = trim text :=
  apply_trim trim trim_cons trim_append text

theorem trim_eq_self {text : List Char} (first : ∀ c ∈ text.head?, isWhitespace c = false)
    (last : ∀ c ∈ text.getLast?, isWhitespace c = false) : trim text = text :=
  strip_eq_self first last

theorem head?_trim (text : List Char) : ∀ c ∈ (trim text).head?, isWhitespace c = false :=
  head?_strip isWhitespace text

theorem getLast?_trim (text : List Char) : ∀ c ∈ (trim text).getLast?, isWhitespace c = false :=
  getLast?_strip isWhitespace text

/-! ## Collapsing -/

section Collapsing

variable {test : Char → Bool} {mark : Char}

theorem collapseAfter_of_forall {run : List Char} (h : ∀ c ∈ run, test c = true) (rest : List Char) :
    collapseAfter test mark true (run ++ rest) = collapseAfter test mark true rest := by
  induction run with
  | nil => rfl
  | cons c run ih =>
    rw [List.cons_append, collapseAfter, if_pos (h c List.mem_cons_self), if_pos rfl]
    exact ih fun other mem => h other (List.mem_cons_of_mem _ mem)

theorem collapseAfter_append_run {run : List Char} (filled : run ≠ []) (h : ∀ c ∈ run, test c = true)
    (inRun : Bool) (before after : List Char) :
    collapseAfter test mark inRun (before ++ (run ++ after)) =
      collapseAfter test mark inRun before ++
        (if (before.getLast?.map test).getD inRun then [] else [mark]) ++
          collapseAfter test mark true after := by
  induction before generalizing inRun with
  | nil =>
    cases run with
    | nil => exact absurd rfl filled
    | cons c run =>
      have rest : collapseAfter test mark true (run ++ after) =
          collapseAfter test mark true after :=
        collapseAfter_of_forall (fun other mem => h other (List.mem_cons_of_mem c mem)) after
      cases inRun <;> simp [collapseAfter, h c List.mem_cons_self, rest]
  | cons c before ih =>
    have last : ∀ inRun, (((c :: before).getLast?.map test).getD inRun) =
        (before.getLast?.map test).getD (test c) := by
      intro inRun
      rw [List.getLast?_cons]
      cases before.getLast? <;> rfl
    rw [last, List.cons_append, collapseAfter, collapseAfter]
    cases tested : test c with
    | true => cases inRun <;> simp [ih]
    | false => simp [ih]

theorem strip_collapseAfter {edge : Char → Bool} (hMark : edge mark = true) (inRun : Bool)
    (text : List Char) :
    strip edge (collapseAfter test mark inRun text) = strip edge (collapse test mark text) := by
  cases inRun with
  | false => rfl
  | true =>
    cases text with
    | nil => rfl
    | cons c text =>
      rw [collapse, collapseAfter, collapseAfter]
      by_cases tested : test c = true
      · simp [tested, strip_cons hMark]
      · simp [tested]

theorem strip_collapse_append_left {edge : Char → Bool} (hMark : edge mark = true)
    {run : List Char} (h : ∀ c ∈ run, test c = true) (text : List Char) :
    strip edge (collapse test mark (run ++ text)) = strip edge (collapse test mark text) := by
  by_cases empty : run = []
  · rw [empty, List.nil_append]
  · rw [collapse, ← List.nil_append (run ++ text), collapseAfter_append_run empty h]
    exact (strip_cons hMark _).trans (strip_collapseAfter hMark true text)

theorem strip_collapse_append {edge : Char → Bool} (hMark : edge mark = true) {run : List Char}
    (h : ∀ c ∈ run, test c = true) (text : List Char) :
    strip edge (collapse test mark (text ++ run)) = strip edge (collapse test mark text) := by
  by_cases empty : run = []
  · rw [empty, List.append_nil]
  · rw [collapse, ← List.append_nil run, collapseAfter_append_run empty h, collapseAfter,
      List.append_nil, ← collapse]
    split
    · rw [List.append_nil]
    · exact strip_append hMark _

theorem trim_collapse_append_left (hMark : isWhitespace mark = true) {run : List Char}
    (h : ∀ c ∈ run, test c = true) (text : List Char) :
    trim (collapse test mark (run ++ text)) = trim (collapse test mark text) :=
  strip_collapse_append_left hMark h text

theorem trim_collapse_append (hMark : isWhitespace mark = true) {run : List Char}
    (h : ∀ c ∈ run, test c = true) (text : List Char) :
    trim (collapse test mark (text ++ run)) = trim (collapse test mark text) :=
  strip_collapse_append hMark h text

theorem splitWhere_collapse {separator : Char → Bool}
    (apart : ∀ c, separator c = true → test c = false) (hMark : separator mark = false)
    (text : List Char) : splitWhere separator (collapse test mark text) =
      (splitWhere separator text).map (collapse test mark) := by
  suffices h : ∀ inRun, ∃ piece others, splitWhere separator text = piece :: others ∧
      splitWhere separator (collapseAfter test mark inRun text) =
        collapseAfter test mark inRun piece :: others.map (collapse test mark) by
    obtain ⟨piece, others, split, collapsed⟩ := h false
    rw [split]
    exact collapsed
  induction text with
  | nil => exact fun inRun => ⟨[], [], rfl, rfl⟩
  | cons c text ih =>
    intro inRun
    rw [collapseAfter]
    cases separates : separator c with
    | true =>
      obtain ⟨piece, others, split, collapsed⟩ := ih false
      refine ⟨[], piece :: others, ?_, ?_⟩
      · rw [splitWhere_cons_of_separator separates, split]
      · rw [if_neg (by simp [apart c separates]), splitWhere_cons_of_separator separates, collapsed]
        rfl
    | false =>
      obtain ⟨piece, others, split, more⟩ := splitWhere_cons_of_not_separator separates text
      refine ⟨c :: piece, others, more, ?_⟩
      rw [collapseAfter]
      -- A collapsed text that goes on with one more character which does not separate.
      have grow : ∀ {mark' : Char} (inRun : Bool), separator mark' = false →
          splitWhere separator (mark' :: collapseAfter test mark inRun text) =
            (mark' :: collapseAfter test mark inRun piece) :: others.map (collapse test mark) := by
        intro mark' inRun joined
        obtain ⟨piece', others', split', collapsed⟩ := ih inRun
        rw [split] at split'
        cases split'
        obtain ⟨_, _, rest, more'⟩ := splitWhere_cons_of_not_separator joined
          (collapseAfter test mark inRun text)
        rw [collapsed] at rest
        cases rest
        exact more'
      cases tested : test c with
      | true =>
        cases inRun with
        | true =>
          obtain ⟨piece', others', split', collapsed⟩ := ih true
          rw [split] at split'
          cases split'
          exact collapsed
        | false => exact grow true hMark
      | false => exact grow false separates

theorem mem_collapseAfter {inRun : Bool} {c : Char} {text : List Char}
    (h : c ∈ collapseAfter test mark inRun text) : (c ∈ text ∧ test c = false) ∨ c = mark := by
  have later : ∀ {first : Char} {text : List Char},
      (c ∈ text ∧ test c = false) ∨ c = mark → (c ∈ first :: text ∧ test c = false) ∨ c = mark :=
    fun found => found.imp_left fun inside => ⟨List.mem_cons_of_mem _ inside.1, inside.2⟩
  induction text generalizing inRun with
  | nil => cases h
  | cons first text ih =>
    rw [collapseAfter] at h
    split at h
    · split at h
      · exact later (ih h)
      · rcases List.mem_cons.mp h with rfl | rest
        · exact .inr rfl
        · exact later (ih rest)
    · rename_i kept
      rcases List.mem_cons.mp h with rfl | rest
      · exact .inl ⟨List.mem_cons_self, Bool.not_eq_true _ ▸ kept⟩
      · exact later (ih rest)

theorem filter_collapse {keep : Char → Bool} (hTest : ∀ c, test c = true → keep c = false)
    (hMark : keep mark = false) (text : List Char) :
    (collapse test mark text).filter keep = text.filter keep := by
  suffices h : ∀ inRun, (collapseAfter test mark inRun text).filter keep = text.filter keep from
    h false
  induction text with
  | nil => exact fun _ => rfl
  | cons c text ih =>
    intro inRun
    rw [collapseAfter]
    by_cases collapsed : test c = true
    · rw [if_pos collapsed, List.filter_cons_of_neg (by simp [hTest c collapsed])]
      cases inRun with
      | true => exact ih true
      | false => exact (List.filter_cons_of_neg (by simp [hMark])).trans (ih true)
    · rw [if_neg collapsed, List.filter_cons, ih, ← List.filter_cons]

theorem collapseAfter_append_of_not {c : Char} (h : test c = false) (inRun : Bool)
    (text : List Char) :
    collapseAfter test mark inRun (text ++ [c]) = collapseAfter test mark inRun text ++ [c] := by
  induction text generalizing inRun with
  | nil => simp [collapseAfter, h]
  | cons first text ih =>
    rw [List.cons_append, collapseAfter, collapseAfter, ih, ih]
    cases test first <;> cases inRun <;> rfl

theorem collapse_collapse {wider : Char → Bool} (implies : ∀ c, test c = true → wider c = true)
    (marked : wider mark = true) (text : List Char) :
    collapse wider mark (collapse test mark text) = collapse wider mark text := by
  suffices h : ∀ inRun outer, (inRun = true → outer = true) →
      collapseAfter wider mark outer (collapseAfter test mark inRun text) =
        collapseAfter wider mark outer text from h false false id
  induction text with
  | nil => exact fun _ _ _ => rfl
  | cons c text ih =>
    intro inRun outer within
    cases tested : test c with
    | false =>
      rw [collapseAfter, tested]
      simp only [Bool.false_eq_true, ↓reduceIte, collapseAfter]
      simp only [ih false _ nofun]
    | true =>
      have tested' := implies c tested
      cases inRun with
      | true =>
        obtain rfl := within rfl
        simp [collapseAfter, tested, tested', ih true true id]
      | false =>
        cases outer <;> simp [collapseAfter, tested, tested', marked, ih true true id]

theorem collapseAfter_eq_self {text : List Char} (marks : ∀ c ∈ text, test c = true → c = mark)
    (apart : ¬ [mark, mark] <:+: text) {inRun : Bool}
    (fresh : inRun = true → text.head? ≠ some mark) : collapseAfter test mark inRun text = text := by
  induction text generalizing inRun with
  | nil => rfl
  | cons c text ih =>
    have marks' : ∀ other ∈ text, test other = true → other = mark :=
      fun other mem => marks other (List.mem_cons_of_mem c mem)
    have apart' : ¬ [mark, mark] <:+: text :=
      fun within => apart (within.trans (List.suffix_cons c text).isInfix)
    cases tested : test c with
    | false =>
      have outside : (false : Bool) = true → text.head? ≠ some mark := by simp
      simp [collapseAfter, tested, ih marks' apart' outside]
    | true =>
      obtain rfl := marks c List.mem_cons_self tested
      have next : text.head? ≠ some c := by
        intro again
        obtain ⟨rest, rfl⟩ := List.head?_eq_some_iff.mp again
        exact apart ⟨[], rest, rfl⟩
      cases inRun with
      | true => exact absurd rfl (fresh rfl)
      | false => simp [collapseAfter, tested, ih marks' apart' fun _ => next]

theorem trim_collapse_cons {c : Char} (hMark : isWhitespace mark = true)
    (blank : isWhitespace c = true) (text : List Char) :
    trim (collapse test mark (c :: text)) = trim (collapse test mark text) := by
  cases tested : test c with
  | true =>
    have run : ∀ other ∈ [c], test other = true := by simpa using tested
    exact trim_collapse_append_left hMark run text
  | false =>
    have kept : collapse test mark (c :: text) = c :: collapse test mark text := by
      simp [collapse, collapseAfter, tested]
    rw [kept, trim_cons blank]

theorem trim_collapse_concat {c : Char} (hMark : isWhitespace mark = true)
    (blank : isWhitespace c = true) (text : List Char) :
    trim (collapse test mark (text ++ [c])) = trim (collapse test mark text) := by
  cases tested : test c with
  | true =>
    have run : ∀ other ∈ [c], test other = true := by simpa using tested
    exact trim_collapse_append hMark run text
  | false => rw [collapse, collapseAfter_append_of_not tested, trim_append blank, collapse]

theorem trim_collapse_trim (hMark : isWhitespace mark = true) (text : List Char) :
    trim (collapse test mark (trim text)) = trim (collapse test mark text) :=
  apply_trim (fun text => trim (collapse test mark text)) (trim_collapse_cons hMark)
    (trim_collapse_concat hMark) text

end Collapsing

/-! ## Single spaces -/

structure SingleSpaced (text : List Char) : Prop where
  blank : ∀ c ∈ text, isWhitespace c = true → c = ' '
  apart : ¬ [' ', ' '] <:+: text
  first : text.head? ≠ some ' '
  last : text.getLast? ≠ some ' '

theorem SingleSpaced.of_forall_not {text : List Char} (h : ∀ c ∈ text, isWhitespace c = false) :
    SingleSpaced text := by
  have space : ' ' ∉ text := fun mem => absurd (h ' ' mem) (by decide)
  refine ⟨fun c mem blank => ?_, fun within => ?_, fun first => ?_, fun last => ?_⟩
  · rw [h c mem] at blank
    cases blank
  · exact space (within.subset List.mem_cons_self)
  · exact space (List.mem_of_head? first)
  · exact space (List.mem_of_getLast? last)

theorem SingleSpaced.ne_newline {text : List Char} (h : SingleSpaced text) : ∀ c ∈ text, c ≠ '\n' := by
  rintro c mem rfl
  exact absurd (h.blank '\n' mem (by decide)) (by decide)

theorem SingleSpaced.not_isWhitespace {text : List Char} (h : SingleSpaced text) {c : Char}
    (mem : c ∈ text) (visible : c ≠ ' ') : isWhitespace c = false := by
  cases blank : isWhitespace c with
  | false => rfl
  | true => exact absurd (h.blank c mem blank) visible

theorem SingleSpaced.head?_not_isWhitespace {text : List Char} (h : SingleSpaced text) :
    ∀ c ∈ text.head?, isWhitespace c = false :=
  fun _ first => h.not_isWhitespace (List.mem_of_head? first) fun space => h.first (space ▸ first)

theorem SingleSpaced.getLast?_not_isWhitespace {text : List Char} (h : SingleSpaced text) :
    ∀ c ∈ text.getLast?, isWhitespace c = false :=
  fun _ last => h.not_isWhitespace (List.mem_of_getLast? last) fun space => h.last (space ▸ last)

theorem SingleSpaced.trim_eq {text : List Char} (h : SingleSpaced text) : trim text = text :=
  trim_eq_self h.head?_not_isWhitespace h.getLast?_not_isWhitespace

theorem SingleSpaced.trimEnd_eq {text : List Char} (h : SingleSpaced text) : trimEnd text = text :=
  dropWhile_reverse_eq_self h.getLast?_not_isWhitespace

theorem SingleSpaced.collapseAfter_eq {test : Char → Bool} {text : List Char} (h : SingleSpaced text)
    (blank : ∀ c, test c = true → isWhitespace c = true) (inRun : Bool) :
    collapseAfter test ' ' inRun text = text :=
  collapseAfter_eq_self (fun c mem tested => h.blank c mem (blank c tested)) h.apart
    fun _ => h.first

theorem SingleSpaced.append_space {word text : List Char}
    (plain : ∀ c ∈ word, isWhitespace c = false) (filled : word ≠ []) (h : SingleSpaced text)
    (filled' : text ≠ []) : SingleSpaced (word ++ ' ' :: text) := by
  have space : ' ' ∉ word := fun mem => absurd (plain ' ' mem) (by decide)
  refine ⟨?blank, ?apart, ?first, ?last⟩
  case blank =>
    intro c mem blank
    rcases List.mem_append.mp mem with mem | mem
    · rw [plain c mem] at blank
      cases blank
    · rcases List.mem_cons.mp mem with rfl | mem
      · rfl
      · exact h.blank c mem blank
  case apart =>
    rintro ⟨before, after, split⟩
    rw [List.append_assoc] at split
    -- The two spaces start in the word, at the space after it, or in the text.
    rcases List.append_eq_append_iff.mp split with ⟨rest, rfl, rest_eq⟩ | ⟨rest, rfl, rest_eq⟩
    · cases rest with
      | nil => exact h.first (by rw [← (List.cons.inj rest_eq).2]; rfl)
      | cons c rest =>
        obtain ⟨rfl, -⟩ := List.cons.inj rest_eq
        exact space (List.mem_append_right before List.mem_cons_self)
    · cases rest with
      | nil => exact h.first (by rw [(List.cons.inj rest_eq).2]; rfl)
      | cons c rest => exact h.apart ⟨rest, after, by rw [(List.cons.inj rest_eq).2]; simp⟩
  case first =>
    rw [List.head?_append_of_ne_nil word filled]
    exact fun first => space (List.mem_of_head? first)
  case last =>
    rw [List.getLast?_append_of_ne_nil word (List.cons_ne_nil ' ' text),
      List.getLast?_cons_of_ne_nil filled']
    exact h.last

theorem head?_intercalate (mark : List Char) {line : List Char} (filled : line ≠ [])
    (others : List (List Char)) :
    (mark.intercalate (line :: others)).head? = line.head? := by
  cases others with
  | nil => simp
  | cons next others =>
    rw [List.intercalate_cons_cons, List.append_assoc, List.head?_append_of_ne_nil line filled]

theorem trim_intercalate {mark : List Char} {lines : List (List Char)}
    (filled : ∀ line ∈ lines, line ≠ []) (single : ∀ line ∈ lines, SingleSpaced line) :
    trim (mark.intercalate lines) = mark.intercalate lines := by
  have first : ∀ c ∈ (mark.intercalate lines).head?, isWhitespace c = false := by
    cases lines with
    | nil => nofun
    | cons line others =>
      rw [head?_intercalate mark (filled line List.mem_cons_self)]
      exact (single line List.mem_cons_self).head?_not_isWhitespace
  have last : ∀ c ∈ (mark.intercalate lines).getLast?, isWhitespace c = false := by
    clear first
    induction lines with
    | nil => nofun
    | cons line others ih =>
      cases others with
      | nil => simpa using (single line List.mem_cons_self).getLast?_not_isWhitespace
      | cons next others =>
        have later := ih (fun other mem => filled other (List.mem_cons_of_mem line mem))
          fun other mem => single other (List.mem_cons_of_mem line mem)
        have next_filled : next ≠ [] := filled next (List.mem_cons_of_mem line List.mem_cons_self)
        have rest_filled : mark.intercalate (next :: others) ≠ [] := by
          intro empty
          have starts := head?_intercalate mark next_filled others
          rw [empty] at starts
          exact next_filled (List.head?_eq_none_iff.mp starts.symm)
        rw [List.intercalate_cons_cons, List.getLast?_append_of_ne_nil _ rest_filled]
        exact later
  exact trim_eq_self first last

end Postal
