import Mathlib.Data.List.Basic
import Postal.Fragment.Extraction

namespace Postal

theorem mem_before_of_pairwise {α : Type} {less : α → α → Prop} {items before after : List α} {item : α}
    (ordered : items.Pairwise less) (split : items = before ++ item :: after) {other : α}
    (mem : other ∈ items) (ne : other ≠ item) (notLater : ¬ less item other) : other ∈ before := by
  rw [split] at ordered mem
  rcases List.mem_append.mp mem with earlier | mem
  · exact earlier
  · rcases List.mem_cons.mp mem with rfl | later
    · exact absurd rfl ne
    · have inOrder := (List.pairwise_cons.mp (List.pairwise_append.mp ordered).2.1).1 other later
      exact absurd inOrder notLater

namespace LineChoice

def IsFirst (choice : LineChoice) (fragments : List (List Char)) (found : List Char → Prop)
    (index : Nat) : Prop :=
  match choice with
  | .first => index = 0
  | .last | .unrecognized => index + 1 = fragments.length
  | .forward => ∀ earlier < index, ∀ fragment ∈ fragments[earlier]?, ¬ found fragment
  | .backward => ∀ later > index, ∀ fragment ∈ fragments[later]?, ¬ found fragment

def firstTried? (choice : LineChoice) (fragments : List (List Char)) : Option (List Char) :=
  match choice with
  | .first | .forward => fragments.head?
  | .last | .backward | .unrecognized => fragments.getLast?

theorem lt_of_mem_candidates {choice : LineChoice} {count index : Nat}
    (h : index ∈ choice.candidates count) : index < count := by
  cases choice with
  | first | last | unrecognized =>
    have listed := List.mem_of_mem_take h
    simpa using listed
  | forward | backward => simpa [candidates] using h

theorem candidates_first (count : Nat) : candidates .first (count + 1) = [0] := by
  simp [candidates, List.range_succ_eq_map]

theorem candidates_last (count : Nat) : candidates .last (count + 1) = [count] := by
  simp [candidates, List.range_succ]

theorem candidates_backward (count : Nat) :
    candidates .backward (count + 1) = count :: (List.range count).reverse := by
  simp [candidates, List.range_succ]

theorem isFirst_of_split {choice : LineChoice} {fragments : List (List Char)}
    {found : List Char → Prop} {index : Nat} {before after : List Nat}
    (split : choice.candidates fragments.length = before ++ index :: after)
    (missed : ∀ other ∈ before, ∀ fragment ∈ fragments[other]?, ¬ found fragment) :
    choice.IsFirst fragments found index := by
  have reached : ∀ {other fragment}, fragment ∈ fragments[other]? →
      other ∈ List.range fragments.length := by
    intro other fragment located
    obtain ⟨bound, -⟩ := List.getElem?_eq_some_iff.mp located
    exact List.mem_range.mpr bound
  have tried : index ∈ choice.candidates fragments.length := by simp [split]
  obtain ⟨count, length⟩ : ∃ count, fragments.length = count + 1 := by
    refine Nat.exists_eq_succ_of_ne_zero fun nothing => ?_
    rw [nothing] at tried
    cases choice <;> simp [candidates] at tried
  cases choice with
  | first =>
    rw [length, candidates_first] at tried
    exact List.mem_singleton.mp tried
  | last | unrecognized =>
    rw [length] at tried
    change index ∈ candidates .last (count + 1) at tried
    rw [candidates_last] at tried
    rw [IsFirst, length, List.mem_singleton.mp tried]
  | forward =>
    intro earlier less fragment located
    refine missed earlier ?_ fragment located
    exact mem_before_of_pairwise List.pairwise_lt_range split (reached located) (by omega) (by omega)
  | backward =>
    intro later less fragment located
    refine missed later ?_ fragment located
    have descending : (List.range fragments.length).reverse.Pairwise fun a b => b < a :=
      List.pairwise_reverse.mpr List.pairwise_lt_range
    exact mem_before_of_pairwise descending split (List.mem_reverse.mpr (reached located)) (by omega)
      (by omega)

theorem firstTried?_eq (choice : LineChoice) (fragments : List (List Char)) :
    choice.firstTried? fragments =
      (choice.candidates fragments.length).head?.bind (fragments[·]?) := by
  cases length : fragments.length with
  | zero =>
    rw [List.eq_nil_of_length_eq_zero length]
    cases choice <;> rfl
  | succ count =>
    have start : (List.range (count + 1)).head? = some 0 := by simp [List.range_succ_eq_map]
    have stop : (List.range (count + 1)).reverse.head? = some count := by simp [List.range_succ]
    have head : fragments.head? = fragments[0]? := List.head?_eq_getElem?
    have last : fragments.getLast? = fragments[count]? := by
      rw [List.getLast?_eq_getElem?, length, Nat.add_sub_cancel]
    cases choice <;> simp [firstTried?, candidates, List.head?_take, start, stop, head, last]

end LineChoice

end Postal
