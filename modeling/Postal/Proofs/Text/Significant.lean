import Postal.Fragment.Extraction
import Postal.Proofs.Text.Spacing

namespace Postal

open Unicode

/-- Whether a character is neither white space nor one of the marks between parts of an address. -/
def isSignificant (c : Char) : Bool :=
  ! (isWhitespace c || c == '-' || c == ',' || c == '，')

def significant (text : List Char) : List Char :=
  text.filter isSignificant

@[simp] theorem significant_nil : significant [] = [] := rfl

@[simp] theorem significant_append (a b : List Char) :
    significant (a ++ b) = significant a ++ significant b :=
  List.filter_append a b

@[simp] theorem significant_reverse (text : List Char) :
    significant text.reverse = (significant text).reverse :=
  List.filter_reverse

theorem significant_cons_of_not {c : Char} (h : isSignificant c = false) (text : List Char) :
    significant (c :: text) = significant text := by
  simp [significant, h]

theorem significant_cons (c : Char) (text : List Char) :
    significant (c :: text) = significant [c] ++ significant text :=
  significant_append [c] text

theorem isSignificant_of_isWhitespace {c : Char} (h : isWhitespace c = true) :
    isSignificant c = false := by
  simp [isSignificant, h]

theorem significant_dropWhile {test : Char → Bool}
    (h : ∀ c, test c = true → isSignificant c = false) (text : List Char) :
    significant (text.dropWhile test) = significant text := by
  induction text with
  | nil => rfl
  | cons c text ih =>
    by_cases dropped : test c = true
    · rw [List.dropWhile_cons_of_pos dropped, ih, significant_cons_of_not (h c dropped)]
    · rw [List.dropWhile_cons_of_neg dropped]

theorem significant_dropWhileEnd {test : Char → Bool}
    (h : ∀ c, test c = true → isSignificant c = false) (text : List Char) :
    significant (text.reverse.dropWhile test).reverse = significant text := by
  rw [significant_reverse, significant_dropWhile h, significant_reverse, List.reverse_reverse]

@[simp] theorem significant_trimStart (text : List Char) :
    significant (trimStart text) = significant text :=
  significant_dropWhile (fun _ => isSignificant_of_isWhitespace) text

@[simp] theorem significant_trimEnd (text : List Char) :
    significant (trimEnd text) = significant text :=
  significant_dropWhileEnd (fun _ => isSignificant_of_isWhitespace) text

@[simp] theorem significant_trim (text : List Char) : significant (trim text) = significant text := by
  rw [trim, significant_trimEnd, significant_trimStart]

theorem significant_collapse {test : Char → Bool} {mark : Char}
    (hTest : ∀ c, test c = true → isSignificant c = false) (hMark : isSignificant mark = false)
    (text : List Char) : significant (collapse test mark text) = significant text :=
  filter_collapse hTest hMark text

theorem significant_flatten_splitWhere {separator : Char → Bool}
    (h : ∀ c, separator c = true → isSignificant c = false) (text : List Char) :
    significant (splitWhere separator text).flatten = significant text := by
  induction text with
  | nil => rfl
  | cons c text ih =>
    cases separates : separator c with
    | true =>
      rw [splitWhere_cons_of_separator separates, significant_cons_of_not (h c separates)]
      exact ih
    | false =>
      obtain ⟨piece, others, split, more⟩ := splitWhere_cons_of_not_separator separates text
      rw [split] at ih
      rw [more, significant_cons, ← ih]
      exact significant_cons c _

@[simp] theorem significant_flatten_removeEmpty (fragments : List (List Char)) :
    significant (removeEmpty fragments).flatten = significant fragments.flatten := by
  induction fragments with
  | nil => rfl
  | cons fragment others ih =>
    rw [List.flatten_cons, significant_append, ← ih, ← significant_trim fragment,
      ← significant_append]
    cases trimmed : trim fragment with
    | nil =>
      have : removeEmpty (fragment :: others) = removeEmpty others := by
        simp [removeEmpty, trimmed]
      rw [this, List.nil_append]
    | cons c rest =>
      have : removeEmpty (fragment :: others) = (c :: rest) :: removeEmpty others := by
        simp [removeEmpty, trimmed]
      rw [this, List.flatten_cons]

theorem isSignificant_of_isFragmentSeparator {c : Char} (h : isFragmentSeparator c = true) :
    isSignificant c = false := by
  simp only [isFragmentSeparator, Bool.or_eq_true, beq_iff_eq] at h
  rcases h with (rfl | rfl) | rfl <;> decide

theorem isSignificant_of_isInnerSpace {c : Char} (h : isInnerSpace c = true) :
    isSignificant c = false := by
  simp only [isInnerSpace, Bool.or_eq_true, beq_iff_eq] at h
  rcases h with (rfl | rfl) | rfl <;> decide

theorem significant_splitFragments (text : List Char) :
    significant (splitFragments text).flatten = significant text := by
  rw [splitFragments, significant_flatten_removeEmpty,
    significant_flatten_splitWhere fun _ => isSignificant_of_isFragmentSeparator, significant_trim,
    significant_collapse (fun _ => isSignificant_of_isInnerSpace) (by decide)]

theorem significant_intercalate {joint : List Char} (h : significant joint = [])
    (fragments : List (List Char)) :
    significant (joint.intercalate fragments) = significant fragments.flatten := by
  induction fragments with
  | nil => rfl
  | cons fragment others ih =>
    cases others with
    | nil => simp [List.intercalate]
    | cons next others =>
      rw [List.intercalate_cons_cons, significant_append, significant_append, h, List.append_nil,
        ih, ← significant_append]
      rfl

@[simp] theorem significant_dropHyphen (text : List Char) :
    significant (dropHyphen text) = significant text := by
  unfold dropHyphen
  split
  · exact (significant_cons_of_not (by decide) _).symm
  · rfl

@[simp] theorem significant_trimHyphens (text : List Char) :
    significant (trimHyphens text) = significant text :=
  significant_dropWhileEnd (fun c hyphen => by simp_all [isSignificant]) text

@[simp] theorem significant_cleanExtract (value : List Char) :
    significant (cleanExtract value) = significant value := by
  simp [cleanExtract]

@[simp] theorem significant_joinRest (script : Script) (before after : List Char) :
    significant (joinRest script before after) = significant (before ++ after) := by
  unfold joinRest
  rw [significant_trim,
    significant_collapse (fun _ => isSignificant_of_isWhitespace) (by decide)]
  cases script with
  | latin => simp [significant_cons_of_not (show isSignificant ' ' = false by decide)]
  | asian => rfl

end Postal
