namespace Postal

def splitWhere {α : Type} (separator : α → Bool) (items : List α) : List (List α) :=
  items.foldr (fun item pieces =>
    if separator item then [] :: pieces
    else match pieces with
      | [] => [[item]]
      | piece :: others => (item :: piece) :: others) [[]]

@[simp] theorem splitWhere_nil {α : Type} (separator : α → Bool) :
    splitWhere separator ([] : List α) = [[]] := rfl

theorem splitWhere_cons_of_separator {α : Type} {separator : α → Bool} {item : α}
    (h : separator item = true) (items : List α) :
    splitWhere separator (item :: items) = [] :: splitWhere separator items := by
  simp [splitWhere, h]

theorem splitWhere_ne_nil {α : Type} (separator : α → Bool) (items : List α) :
    splitWhere separator items ≠ [] := by
  cases items with
  | nil => simp
  | cons item items =>
    simp only [splitWhere, List.foldr_cons]
    split
    · simp
    · split <;> simp

theorem splitWhere_cons_of_not_separator {α : Type} {separator : α → Bool} {item : α}
    (h : separator item = false) (items : List α) :
    ∃ piece others, splitWhere separator items = piece :: others ∧
      splitWhere separator (item :: items) = (item :: piece) :: others := by
  cases hs : splitWhere separator items with
  | nil => exact absurd hs (splitWhere_ne_nil separator items)
  | cons piece others =>
    refine ⟨piece, others, rfl, ?_⟩
    simp only [splitWhere, List.foldr_cons, h] at hs ⊢
    simp [hs]

end Postal
