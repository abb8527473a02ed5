import Mathlib.Data.List.DropRight
import Postal.Json.Printer
import Postal.Json.Reader

namespace Postal

def Json.ofTexts (texts : List (String × String)) : List (String × Json) :=
  texts.map fun (key, text) => (key, .string text)

namespace JsonReader

open Json

theorem hexDigit?_hexCharacter : ∀ digit < 16, hexDigit? (hexCharacter digit) = some digit := by
  decide

theorem readEscapedUnit_hexCharacter {value : Nat} (small : value < 0x20) (rest : List Char) :
    readEscapedUnit ('0' :: '0' :: hexCharacter (value / 16) :: hexCharacter (value % 16) :: rest) =
      .ok (Char.ofNat value, rest) := by
  have high := hexDigit?_hexCharacter (value / 16) (by omega)
  have low := hexDigit?_hexCharacter (value % 16) (by omega)
  have zero : hexDigit? '0' = some 0 := rfl
  have number : 16 * (value / 16) + value % 16 = value := Nat.div_add_mod value 16
  have unit : readUnit ('0' :: '0' :: hexCharacter (value / 16) :: hexCharacter (value % 16) ::
      rest) = .ok (value, rest) := by
    simp [readUnit, hexNumber, high, low, zero, number]
  have notLow : ¬(0xDC00 ≤ value ∧ value ≤ 0xDFFF) := by omega
  have notHigh : ¬(0xD800 ≤ value ∧ value ≤ 0xDBFF) := by omega
  simp only [readEscapedUnit, unit, bind, Except.bind, if_neg notLow, if_neg notHigh]
  rfl

theorem readCharacters_escapeCharacter (c : Char) (before rest : List Char) (limit : Nat) :
    readCharacters before (limit + 1) (escapeCharacter c ++ rest) =
      readCharacters (c :: before) limit rest := by
  unfold escapeCharacter
  split_ifs with quotes backslash newline carriage tab backspace formFeed control
  · rw [beq_iff_eq.mp quotes]; rfl
  · rw [beq_iff_eq.mp backslash]; rfl
  · rw [beq_iff_eq.mp newline]; rfl
  · rw [beq_iff_eq.mp carriage]; rfl
  · rw [beq_iff_eq.mp tab]; rfl
  · rw [beq_iff_eq.mp backspace]; rfl
  · rw [beq_iff_eq.mp formFeed]; rfl
  · have unit := readEscapedUnit_hexCharacter control rest
    rw [Char.ofNat_toNat] at unit
    simp only [List.cons_append, List.nil_append, readCharacters, unit]
    rfl
  · rw [beq_iff_eq] at quotes backslash
    rw [List.singleton_append, readCharacters, if_neg control]
    all_goals simp [quotes, backslash]

theorem readCharacters_escaped (text before rest : List Char) {limit : Nat}
    (enough : text.length < limit) :
    readCharacters before limit (text.flatMap escapeCharacter ++ '\"' :: rest) =
      .ok (before.reverse ++ text, rest) := by
  induction text generalizing before limit with
  | nil =>
    obtain ⟨more, rfl⟩ := Nat.exists_eq_add_one.mpr enough
    rw [List.append_nil]
    rfl
  | cons c text ih =>
    obtain ⟨more, rfl⟩ := Nat.exists_eq_add_one.mpr (Nat.zero_lt_of_lt enough)
    rw [List.flatMap_cons, List.append_assoc, readCharacters_escapeCharacter,
      ih (c :: before) (Nat.lt_of_succ_lt_succ enough), List.reverse_cons, List.append_assoc]
    rfl

theorem quote_append (text : String) (rest : List Char) :
    quote text ++ rest = '\"' :: (text.toList.flatMap escapeCharacter ++ '\"' :: rest) := by
  simp [quote]

theorem length_le_length_escaped (text : List Char) :
    text.length ≤ (text.flatMap escapeCharacter).length := by
  induction text with
  | nil => exact Nat.le_refl 0
  | cons c text ih =>
    have some : 0 < (escapeCharacter c).length := by
      unfold escapeCharacter
      split_ifs <;> exact Nat.zero_lt_succ _
    rw [List.flatMap_cons, List.length_append, List.length_cons]
    omega

theorem length_lt_length_quote (text : String) : text.toList.length < (quote text).length := by
  have escaped := length_le_length_escaped text.toList
  rw [quote, List.length_append, List.length_cons]
  omega

theorem readString_quote (text : String) (rest : List Char) {limit : Nat}
    (enough : text.toList.length < limit) :
    readString limit (text.toList.flatMap escapeCharacter ++ '\"' :: rest) = .ok (text, rest) := by
  rw [readString, readCharacters_escaped _ _ _ enough]
  simp [bind, Except.bind, pure, Except.pure]

theorem readMembers_skip (wanted : Selection) (depth : Nat) (before : List (String × Json))
    (limit : Nat) (rest : List Char) :
    readMembers wanted depth before limit (skip rest) =
      readMembers wanted depth before limit rest := by
  have twice : skip (skip rest) = skip rest := List.dropWhile_idempotent isBlank rest
  cases limit with
  | zero => rw [readMembers, readMembers]
  | succ limit => rw [readMembers, readMembers, twice]

theorem skip_newLine (level : Nat) (rest : List Char) : skip (newLine level ++ rest) = skip rest := by
  have blank : ∀ c ∈ newLine level, isBlank c = true := by
    intro c mem
    rcases List.mem_cons.mp mem with rfl | mem
    · rfl
    · rw [(List.mem_replicate.mp mem).2]
      rfl
  exact List.dropWhile_append_of_pos blank

theorem skip_quote (text : String) (rest : List Char) :
    skip (quote text ++ rest) = quote text ++ rest := by
  rw [quote_append]
  rfl

theorem readValue_quote (wanted : Selection) (depth : Nat) (text : String) (rest : List Char)
    {limit : Nat} (enough : text.toList.length < limit) :
    readValue wanted depth (limit + 1) (' ' :: (quote text ++ rest)) =
      .ok (.string text, rest) := by
  have skipped : skip (' ' :: (quote text ++ rest)) = quote text ++ rest := skip_quote text rest
  rw [quote_append] at skipped
  simp only [readValue, quote_append, skipped, readString_quote _ _ enough]
  rfl

def memberText (level : Nat) (member : String × String) : List Char :=
  newLine level ++ (quote member.1 ++ ':' :: ' ' :: quote member.2)

theorem prettyMembers_singleton (level : Nat) (member : String × String) :
    prettyMembers level (ofTexts [member]) = memberText level member :=
  List.append_assoc ..

theorem prettyMembers_cons (level : Nat) (member next : String × String)
    (others : List (String × String)) :
    prettyMembers level (ofTexts (member :: next :: others)) =
      memberText level member ++ ',' :: prettyMembers level (ofTexts (next :: others)) := by
  simp [ofTexts, prettyMembers, prettyAt, scalarText, memberText]

theorem length_lt_length_memberText (level : Nat) (member : String × String) :
    member.1.toList.length + member.2.toList.length + 2 < (memberText level member).length := by
  have key := length_lt_length_quote member.1
  have text := length_lt_length_quote member.2
  simp only [memberText, List.length_append, List.length_cons]
  omega

theorem readMembers_memberText (depth : Nat) (before : List (String × Json)) (level : Nat)
    (member : String × String) (rest : List Char) {limit : Nat}
    (enough : (memberText level member).length ≤ limit) :
    readMembers .all depth before (limit + 1) (memberText level member ++ rest) =
      match skip rest with
      | [] => .error .unexpectedEnd
      | ',' :: rest => readMembers .all depth ((member.1, .string member.2) :: before) limit rest
      | '}' :: rest => .ok (((member.1, .string member.2) :: before).reverse, rest)
      | c :: _ => .error (.unexpectedCharacter c) := by
  obtain ⟨key, text⟩ := member
  have long : key.toList.length + text.toList.length + 2 < (memberText level (key, text)).length :=
    length_lt_length_memberText level (key, text)
  -- One step is spent on the member and one on its value; the rest is enough for both texts.
  obtain ⟨more, rfl⟩ : ∃ more, limit = more + 2 := ⟨limit - 2, by omega⟩
  let value := ' ' :: (quote text ++ rest)
  have keyRead : readString (more + 2) _ = .ok (key, ':' :: value) :=
    readString_quote key (':' :: value) (by omega)
  have keyNext : skip (quote key ++ ':' :: value) = quote key ++ ':' :: value := skip_quote key _
  have valueNext : skip (':' :: value) = ':' :: value := rfl
  have valueRead : readValue .all depth (more + 1) value = .ok (.string text, rest) :=
    readValue_quote .all depth text rest (by omega)
  have read : readMember .all depth before key (more + 2) value =
      .ok ((key, .string text) :: before, rest) := by
    simp only [readMember, Selection.member?, valueRead]
    rfl
  have written : memberText level (key, text) ++ rest =
      newLine level ++ (quote key ++ ':' :: value) := by
    simp [memberText, value]
  rw [quote_append key] at keyNext
  rw [written, readMembers, skip_newLine, quote_append key, keyNext]
  simp only [keyRead, bind, Except.bind, valueNext, read]
  rfl

theorem readMembers_pretty (depth level lower : Nat) (first : String × String)
    (others : List (String × String)) (before : List (String × Json)) (rest : List Char)
    {limit : Nat} (enough : (prettyMembers level (ofTexts (first :: others))).length < limit) :
    readMembers .all depth before limit
        (prettyMembers level (ofTexts (first :: others)) ++ (newLine lower ++ '}' :: rest)) =
      .ok (before.reverse ++ ofTexts (first :: others), rest) := by
  obtain ⟨limit, rfl⟩ := Nat.exists_eq_add_one.mpr (Nat.zero_lt_of_lt enough)
  induction others generalizing first before limit with
  | nil =>
    -- The brace follows a line break.
    rw [prettyMembers_singleton] at enough ⊢
    rw [readMembers_memberText depth before level first _ (Nat.le_of_lt_succ enough), skip_newLine]
    exact congrArg (fun members => Except.ok (members, rest)) List.reverse_cons
  | cons next others ih =>
    rw [prettyMembers_cons] at enough ⊢
    rw [List.length_append, List.length_cons] at enough
    rw [List.append_assoc, readMembers_memberText depth before level first _ (by omega)]
    obtain ⟨fewer, rfl⟩ : ∃ fewer, limit = fewer + 1 := ⟨limit - 1, by omega⟩
    refine (ih next ((first.1, .string first.2) :: before) fewer (by omega)).trans ?_
    rw [List.reverse_cons, List.append_assoc]
    rfl

theorem exists_skip_prettyMembers (level : Nat) (first : String × String)
    (others : List (String × String)) (rest : List Char) :
    ∃ more, skip (prettyMembers level (ofTexts (first :: others)) ++ rest) = '\"' :: more := by
  have starts : ∃ more,
      prettyMembers level (ofTexts (first :: others)) = memberText level first ++ more := by
    cases others with
    | nil => exact ⟨[], by rw [prettyMembers_singleton, List.append_nil]⟩
    | cons next others => exact ⟨_, prettyMembers_cons level first next others⟩
  obtain ⟨more, written⟩ := starts
  rw [written, memberText, List.append_assoc, List.append_assoc, skip_newLine, List.append_assoc,
    skip_quote, quote_append]
  exact ⟨_, rfl⟩

end JsonReader

open JsonReader

theorem Json.readSelected_pretty (first : String × String) (others : List (String × String))
    {blanks : List Char} (blank : ∀ c ∈ blanks, isBlank c = true) :
    let value := Json.object (ofTexts (first :: others))
    readSelected .all (value.prettyAt 0 ++ blanks) = .ok value := by
  intro value
  have ended : skip blanks = [] := List.dropWhile_eq_nil_iff.mpr blank
  let members := prettyMembers 1 (ofTexts (first :: others)) ++ (newLine 0 ++ '}' :: blanks)
  have written : value.prettyAt 0 ++ blanks = '{' :: members := by
    simp [value, members, prettyAt, ofTexts]
  have opened : skip ('{' :: members) = '{' :: members := rfl
  obtain ⟨more, next⟩ : ∃ more, skip members = '\"' :: more :=
    exists_skip_prettyMembers 1 first others _
  have read : readMembers .all (depthLimit - 1) [] (3 * members.length + 5) ('\"' :: more) =
      .ok (ofTexts (first :: others), blanks) := by
    rw [← next, readMembers_skip]
    exact readMembers_pretty _ 1 0 first others [] blanks (by simp [members]; omega)
  have limit : 3 * ('{' :: members).length + 3 = 3 * members.length + 5 + 1 := rfl
  have whole : readValue .all depthLimit (3 * members.length + 5 + 1) ('{' :: members) =
      .ok (value, blanks) := by
    simp only [readValue, opened, next]
    change (readMembers .all (depthLimit - 1) [] (3 * members.length + 5) ('\"' :: more) >>=
      fun given => .ok (Json.object given.1, given.2)) = _
    rw [read]
    rfl
  rw [written, readSelected, limit, whole]
  simp only [bind, Except.bind, ended]
  rfl

namespace Json

theorem insertMember_perm {key : String} (value : Json) {members : List (String × Json)}
    (new : key ∉ members.map Prod.fst) :
    (insertMember key value members).Perm ((key, value) :: members) := by
  induction members with
  | nil => exact .refl _
  | cons first members ih =>
    obtain ⟨name, other⟩ := first
    obtain ⟨apart, later⟩ := List.ne_and_not_mem_of_not_mem_cons new
    change key ≠ name at apart
    rw [insertMember, if_neg apart]
    split
    · exact .refl _
    · exact ((ih later).cons _).trans (.swap ..)

theorem sortMembers_perm {members : List (String × Json)} (once : (members.map Prod.fst).Nodup) :
    (sortMembers members).Perm members := by
  induction members using List.reverseRecOn with
  | nil => exact .refl _
  | append_singleton members last ih =>
    have apart := (((List.perm_append_singleton last members).map Prod.fst).nodup_iff).mp once
    obtain ⟨new, once⟩ := List.nodup_cons.mp apart
    have before := ih once
    rw [← (before.map Prod.fst).mem_iff] at new
    have added : sortMembers (members ++ [last]) =
        insertMember last.1 last.2 (sortMembers members) := by
      rw [sortMembers, List.foldl_append]
      rfl
    rw [added]
    exact ((insertMember_perm last.2 new).trans (before.cons last)).trans
      (List.perm_append_singleton last members).symm

theorem sortedMembers_ofTexts (texts : List (String × String)) :
    sortedMembers (ofTexts texts) = ofTexts texts := by
  induction texts with
  | nil => rfl
  | cons first texts ih => exact congrArg (List.cons _) ih

theorem read_pretty (first : String × String) (others : List (String × String))
    {blanks : List Char} (blank : ∀ c ∈ blanks, isBlank c = true) :
    let members := ofTexts (first :: others)
    read ((object members).prettyAt 0 ++ blanks) = .ok (.object (sortMembers members)) := by
  intro members
  rw [read, readSelected_pretty first others blank]
  simp only [Except.map, sorted, sortedMembers_ofTexts]
  rfl

end Json

end Postal
