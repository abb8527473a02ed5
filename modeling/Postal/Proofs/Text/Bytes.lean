import Mathlib.Data.List.Basic

namespace Postal

def byteLength (text : List Char) : Nat :=
  (String.ofList text).utf8ByteSize

@[simp] theorem byteLength_nil : byteLength [] = 0 := rfl

@[simp] theorem byteLength_cons (c : Char) (text : List Char) :
    byteLength (c :: text) = c.utf8Size + byteLength text := by
  rw [byteLength, String.ofList_cons, String.utf8ByteSize_append, String.utf8ByteSize_singleton]
  rfl

@[simp] theorem byteLength_append (first second : List Char) :
    byteLength (first ++ second) = byteLength first + byteLength second := by
  rw [byteLength, String.ofList_append, String.utf8ByteSize_append]
  rfl

@[simp] theorem byteLength_reverse (text : List Char) :
    byteLength text.reverse = byteLength text := by
  induction text with
  | nil => rfl
  | cons c text ih => simp [ih, Nat.add_comm]

theorem eq_nil_of_byteLength {text : List Char} (none : byteLength text = 0) : text = [] := by
  cases text with
  | nil => rfl
  | cons c text =>
    rw [byteLength_cons] at none
    have := c.utf8Size_pos
    omega

def splitAtByte? : List Char → Nat → Option (List Char × List Char)
  | text, 0 => some ([], text)
  | [], _ + 1 => none
  | c :: text, offset + 1 =>
    if c.utf8Size ≤ offset + 1 then
      (splitAtByte? text (offset + 1 - c.utf8Size)).map fun (before, after) => (c :: before, after)
    else none

theorem splitAtByte?_append (before after : List Char) :
    splitAtByte? (before ++ after) (byteLength before) = some (before, after) := by
  induction before with
  | nil => cases after <;> rfl
  | cons c before ih =>
    have size := c.utf8Size_pos
    obtain ⟨offset, is⟩ : ∃ offset, byteLength (c :: before) = offset + 1 :=
      ⟨byteLength (c :: before) - 1, by rw [byteLength_cons]; omega⟩
    have rest : offset + 1 - c.utf8Size = byteLength before := by
      rw [← is, byteLength_cons, Nat.add_sub_cancel_left]
    have fits : c.utf8Size ≤ offset + 1 := by
      rw [← is, byteLength_cons]
      omega
    rw [is, List.cons_append, splitAtByte?, if_pos fits, rest, ih]
    rfl

theorem splitAtByte?_eq_some_iff {text before after : List Char} {offset : Nat} :
    splitAtByte? text offset = some (before, after) ↔
      text = before ++ after ∧ byteLength before = offset := by
  constructor
  · intro split
    induction text, offset using splitAtByte?.induct generalizing before with
    | case1 text =>
      rw [splitAtByte?] at split
      cases split
      exact ⟨rfl, rfl⟩
    | case2 offset => cases split
    | case3 c text offset fits ih =>
      rw [splitAtByte?, if_pos fits] at split
      obtain ⟨⟨before', after'⟩, rest, parts⟩ := Option.map_eq_some_iff.mp split
      cases parts
      obtain ⟨rfl, length⟩ := ih rest
      refine ⟨rfl, ?_⟩
      rw [byteLength_cons, length]
      omega
    | case4 c text offset inside =>
      rw [splitAtByte?, if_neg inside] at split
      cases split
  · rintro ⟨rfl, rfl⟩
    exact splitAtByte?_append before after

def IsBoundary (text : List Char) (offset : Nat) : Prop :=
  String.Pos.Raw.IsValid (String.ofList text) ⟨offset⟩

theorem isBoundary_iff {text : List Char} {offset : Nat} : IsBoundary text offset ↔
    ∃ before after, text = before ++ after ∧ byteLength before = offset := by
  rw [IsBoundary, String.Pos.Raw.isValid_iff_exists_append]
  constructor
  · rintro ⟨before, after, split, offset⟩
    refine ⟨before.toList, after.toList, ?_, ?_⟩
    · rw [← String.toList_append, ← split, String.toList_ofList]
    · rw [byteLength, String.ofList_toList]
      exact (congrArg String.Pos.Raw.byteIdx offset).symm
  · rintro ⟨before, after, rfl, rfl⟩
    exact ⟨String.ofList before, String.ofList after, String.ofList_append, rfl⟩

theorem exists_parts {text : List Char} {start stop : Nat} (ordered : start ≤ stop)
    (isStart : IsBoundary text start) (isStop : IsBoundary text stop) :
    ∃ before middle after, text = before ++ middle ++ after ∧ byteLength before = start ∧
      byteLength (before ++ middle) = stop := by
  obtain ⟨before, rest, rfl, rfl⟩ := isBoundary_iff.mp isStart
  obtain ⟨upTo, after, split, rfl⟩ := isBoundary_iff.mp isStop
  rcases List.append_eq_append_iff.mp split with ⟨middle, rfl, rfl⟩ | ⟨middle, rfl, rfl⟩
  · exact ⟨before, middle, after, (List.append_assoc ..).symm, rfl, rfl⟩
  · -- The second offset is not before the first one, so there is nothing between them.
    rw [byteLength_append] at ordered
    obtain rfl : middle = [] := eq_nil_of_byteLength (by omega)
    exact ⟨upTo, [], rest, by simp, by simp, by simp⟩

inductive BoundsError where
  | noItem (index count : Nat)
  | noPredecessor
  | outOfOrder (start stop : Nat)
  | noBoundary (offset : Nat)
deriving Repr

abbrev Checked := Except BoundsError

namespace Checked

variable {α β : Type}

@[simp] theorem ok_bind (value : α) (rest : α → Checked β) :
    ((.ok value : Checked α) >>= rest) = rest value := rfl

@[simp] theorem pure_eq (value : α) : (pure value : Checked α) = .ok value := rfl

theorem bind_eq_ok_iff {step : Checked α} {rest : α → Checked β} {value : β} :
    step >>= rest = .ok value ↔ ∃ middle, step = .ok middle ∧ rest middle = .ok value := by
  cases step with
  | error cause => exact iff_of_false nofun nofun
  | ok middle =>
    constructor
    · exact fun ends => ⟨middle, rfl, ends⟩
    · rintro ⟨_, ⟨⟩, ends⟩
      exact ends

def item (items : List α) (index : Nat) : Checked α :=
  match items[index]? with
  | some item => .ok item
  | none => .error (.noItem index items.length)

def replace (items : List α) (index : Nat) (new : α) : Checked (List α) :=
  if index < items.length then .ok (items.set index new)
  else .error (.noItem index items.length)

def remove (items : List α) (index : Nat) : Checked (α × List α) := do
  let item ← item items index
  return (item, items.eraseIdx index)

def predecessor (count : Nat) : Checked Nat :=
  if count = 0 then .error .noPredecessor else .ok (count - 1)

def splitAt (text : List Char) (offset : Nat) : Checked (List Char × List Char) :=
  match splitAtByte? text offset with
  | some parts => .ok parts
  | none => .error (.noBoundary offset)

def upTo (text : List Char) (stop : Nat) : Checked (List Char) :=
  (splitAt text stop).map (·.1)

def after (text : List Char) (start : Nat) : Checked (List Char) :=
  (splitAt text start).map (·.2)

def parts (text : List Char) (start stop : Nat) :
    Checked (List Char × List Char × List Char) := do
  if stop < start then throw (.outOfOrder start stop)
  let (upTo, after) ← splitAt text stop
  let (before, middle) ← splitAt upTo start
  return (before, middle, after)

def slice (text : List Char) (start stop : Nat) : Checked (List Char) :=
  (parts text start stop).map fun (_, middle, _) => middle

def cutOut (text : List Char) (start stop : Nat) : Checked (List Char) :=
  (parts text start stop).map fun (before, _, after) => before ++ after

theorem item_eq_ok {items : List α} {index : Nat} {found : α} (there : items[index]? = some found) :
    item items index = .ok found := by
  rw [item, there]

theorem replace_eq_ok {items : List α} {index : Nat} (lt : index < items.length) (new : α) :
    replace items index new = .ok (items.set index new) :=
  if_pos lt

theorem remove_eq_ok {items : List α} {index : Nat} {found : α}
    (there : items[index]? = some found) :
    remove items index = .ok (found, items.eraseIdx index) := by
  rw [remove, item_eq_ok there]
  rfl

theorem predecessor_eq_ok {count : Nat} (some : count ≠ 0) :
    predecessor count = .ok (count - 1) :=
  if_neg some

theorem splitAt_append (before rest : List Char) :
    splitAt (before ++ rest) (byteLength before) = .ok (before, rest) := by
  rw [splitAt, splitAtByte?_append]

theorem splitAt_eq_ok_iff {text before rest : List Char} {offset : Nat} :
    splitAt text offset = .ok (before, rest) ↔
      text = before ++ rest ∧ byteLength before = offset := by
  rw [← splitAtByte?_eq_some_iff, splitAt]
  cases splitAtByte? text offset with
  | none => exact ⟨nofun, nofun⟩
  | some parts =>
    constructor
    · rintro ⟨⟩
      rfl
    · rintro ⟨⟩
      rfl

theorem upTo_append (before rest : List Char) :
    upTo (before ++ rest) (byteLength before) = .ok before := by
  rw [upTo, splitAt_append]
  rfl

theorem after_append (before rest : List Char) :
    after (before ++ rest) (byteLength before) = .ok rest := by
  rw [after, splitAt_append]
  rfl

theorem parts_append (before middle rest : List Char) :
    parts (before ++ middle ++ rest) (byteLength before) (byteLength (before ++ middle)) =
      .ok (before, middle, rest) := by
  have ordered : ¬ byteLength (before ++ middle) < byteLength before := by
    rw [byteLength_append]
    omega
  rw [parts, if_neg ordered]
  simp only [splitAt_append, ok_bind, pure_eq]

theorem parts_ok_iff {text : List Char} {start stop : Nat} :
    (∃ three, parts text start stop = .ok three) ↔
      start ≤ stop ∧ IsBoundary text start ∧ IsBoundary text stop := by
  constructor
  · rintro ⟨three, parted⟩
    rw [parts] at parted
    split at parted
    · cases parted
    · rename_i ordered
      obtain ⟨⟨upTo, rest⟩, first, parted⟩ := bind_eq_ok_iff.mp parted
      obtain ⟨⟨before, middle⟩, second, -⟩ := bind_eq_ok_iff.mp parted
      obtain ⟨rfl, isStop⟩ := splitAt_eq_ok_iff.mp first
      obtain ⟨rfl, isStart⟩ := splitAt_eq_ok_iff.mp second
      exact ⟨Nat.le_of_not_lt ordered,
        isBoundary_iff.mpr ⟨before, middle ++ rest, List.append_assoc .., isStart⟩,
        isBoundary_iff.mpr ⟨before ++ middle, rest, rfl, isStop⟩⟩
  · rintro ⟨ordered, isStart, isStop⟩
    obtain ⟨before, middle, rest, rfl, rfl, rfl⟩ := exists_parts ordered isStart isStop
    exact ⟨_, parts_append before middle rest⟩

theorem slice_append (before middle rest : List Char) :
    slice (before ++ middle ++ rest) (byteLength before) (byteLength (before ++ middle)) =
      .ok middle := by
  rw [slice, parts_append]
  rfl

theorem cutOut_append (before middle rest : List Char) :
    cutOut (before ++ middle ++ rest) (byteLength before) (byteLength (before ++ middle)) =
      .ok (before ++ rest) := by
  rw [cutOut, parts_append]
  rfl

section Searches

variable {items : List α} {step : α → Checked (Option β)}

theorem findSomeM?_eq_ok {found : α → Option β}
    (steps : ∀ item ∈ items, step item = .ok (found item)) :
    items.findSomeM? step = .ok (items.findSome? found) := by
  induction items with
  | nil => rfl
  | cons item items ih =>
    rw [List.findSomeM?_cons, steps item List.mem_cons_self, List.findSome?_cons]
    cases found item with
    | some value => rfl
    | none => exact ih fun other mem => steps other (List.mem_cons_of_mem _ mem)

theorem exists_findSomeM? (steps : ∀ item ∈ items, ∃ found, step item = .ok found) :
    ∃ found, items.findSomeM? step = .ok found ∧
      ∀ value, found = some value → ∃ item ∈ items, step item = .ok (some value) := by
  induction items with
  | nil => exact ⟨none, rfl, nofun⟩
  | cons item items ih =>
    obtain ⟨others, goesOn, origin⟩ := ih fun other mem => steps other (List.mem_cons_of_mem _ mem)
    obtain ⟨found, here⟩ := steps item List.mem_cons_self
    rw [List.findSomeM?_cons, here]
    cases found with
    | some value =>
      refine ⟨some value, rfl, fun value' same => ⟨item, List.mem_cons_self, ?_⟩⟩
      rw [here, same]
    | none =>
      refine ⟨others, goesOn, fun value' same => ?_⟩
      obtain ⟨origin, mem, from'⟩ := origin value' same
      exact ⟨origin, List.mem_cons_of_mem _ mem, from'⟩

end Searches

end Checked

end Postal
