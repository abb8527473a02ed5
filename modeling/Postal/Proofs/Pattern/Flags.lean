import Postal.Proofs.Pattern.LetterCase

namespace Postal.PatternReader

open Unicode

/-! ## Changes of flags -/

/-- Whether every question mark after an opening parenthesis is followed by a colon, so that it
opens a group without changing a flag. -/
def keepsFlags : List Char → Bool
  | [] => true
  | c :: rest =>
    (c != '(' || rest.head? != some '?' || rest[1]? == some ':') && keepsFlags rest

theorem keepsFlags_of_suffix {rest text : List Char} (suffix : rest <:+ text)
    (h : keepsFlags text = true) : keepsFlags rest = true := by
  obtain ⟨front, rfl⟩ := suffix
  induction front with
  | nil => exact h
  | cons c front ih => exact ih (Bool.and_eq_true_iff.mp h).2

theorem colon_of_keepsFlags {rest : List Char} (h : keepsFlags ('(' :: '?' :: rest) = true) :
    rest.head? = some ':' := by
  have checked := (Bool.and_eq_true_iff.mp h).1
  simpa [List.head?_eq_getElem?] using checked

/-! ## What reading yields -/

section Yields

variable {α β : Type} {rest whole : List Char} {property : α → Prop} {property' : β → Prop}

def Yields (rest : List Char) (property : α → Prop)
    (result : Except PatternError (α × List Char)) : Prop :=
  ∀ value after, result = .ok (value, after) → property value ∧ after <:+ rest

theorem Yields.error (cause : PatternError) : Yields rest property (.error cause) :=
  nofun

theorem Yields.ok {value : α} {after : List Char} (h : property value) (suffix : after <:+ rest) :
    Yields rest property (.ok (value, after)) := by
  rintro _ _ ⟨⟩
  exact ⟨h, suffix⟩

theorem Yields.mono {result : Except PatternError (α × List Char)}
    (h : Yields rest property result) (suffix : rest <:+ whole) : Yields whole property result :=
  fun value after read => (h value after read).imp_right (·.trans suffix)

theorem Yields.imp {weaker : α → Prop} {result : Except PatternError (α × List Char)}
    (h : Yields rest property result) (implies : ∀ value, property value → weaker value) :
    Yields rest weaker result :=
  fun value after read => (h value after read).imp_left (implies value)

theorem Yields.bind {first : Except PatternError (α × List Char)}
    {then' : α × List Char → Except PatternError (β × List Char)} (h : Yields rest property first)
    (next : ∀ value after, property value → after <:+ rest →
      Yields after property' (then' (value, after))) :
    Yields rest property' (first >>= then') := by
  intro value after read
  cases result : first with
  | error cause => rw [result] at read; cases read
  | ok pair =>
    obtain ⟨middle, left⟩ := pair
    rw [result] at read
    obtain ⟨holds, suffix⟩ := h middle left result
    exact (next middle left holds suffix).mono suffix value after read

theorem Yields.ite {condition : Prop} [Decidable condition]
    {first second : Except PatternError (α × List Char)} (h : Yields rest property first)
    (h' : Yields rest property second) :
    Yields rest property (if condition then first else second) := by
  split
  · exact h
  · exact h'

theorem Yields.bind_step {γ : Type} {first : Except PatternError γ}
    {then' : γ → Except PatternError (β × List Char)}
    (next : ∀ value, first = .ok value → Yields rest property' (then' value)) :
    Yields rest property' (first >>= then') := by
  cases result : first with
  | error cause => exact .error cause
  | ok value => exact next value result

end Yields

/-! ## Numbers and escapes -/

abbrev Leaves {α : Type} (rest : List Char) (result : Except PatternError (α × List Char)) : Prop :=
  Yields rest (fun _ => True) result

@[simp] theorem skip_lenient (rest : List Char) : skip .lenient rest = rest := rfl

theorem takeRun_suffix (test : Char → Bool) (limit : Nat) (rest : List Char) :
    (takeRun .lenient test limit rest).2 <:+ rest := by
  fun_induction takeRun .lenient test limit rest with
  | case1 limit c rest fits run after taken ih =>
    rw [taken] at ih
    exact ih.trans (List.suffix_cons c rest)
  | case2 => exact List.suffix_rfl
  | case3 => exact List.suffix_rfl

theorem readNumber_leaves (rest : List Char) : Leaves rest (readNumber .lenient rest) := by
  unfold readNumber
  dsimp only
  split
  · exact .error _
  · refine .ok trivial ?_
    exact (takeRun_suffix _ _ _).trans ((takeRun_suffix _ _ _).trans (List.dropWhile_suffix _))

theorem readHexDigits_leaves (count : Nat) (rest : List Char) :
    Leaves rest (readHexDigits .lenient count rest) := by
  fun_induction readHexDigits .lenient count rest with
  | case1 rest => exact .ok trivial List.suffix_rfl
  | case2 => exact .error _
  | case3 => exact .error _
  | case4 count c rest digit ih =>
    refine Yields.mono (.bind ih ?_) (List.suffix_cons c rest)
    exact fun _ _ _ _ => .ok trivial List.suffix_rfl

def Escape.Blind : Escape → Prop
  | .literal _ _ | .assertion _ => True
  | .characters cls => cls.Blind

theorem readCodePoint_yields (count : Nat) (rest : List Char) :
    Yields rest Escape.Blind (readCodePoint .lenient count rest) := by
  unfold readCodePoint
  have drop : next .lenient rest <:+ rest := List.drop_suffix 1 rest
  split
  · exact .error _
  · rename_i inner shape
    rw [shape] at drop
    have digits := (takeRun_suffix (· != '}') inner.length inner).trans
      ((List.suffix_cons _ inner).trans drop)
    dsimp only
    split
    · exact .error _
    · split
      · exact .error _
      · exact .bind_step fun c _ => .ok trivial ((List.drop_suffix 1 _).trans digits)
  · exact (Yields.bind (readHexDigits_leaves count _) fun digits after _ _ =>
      .bind_step fun c _ => .ok trivial List.suffix_rfl).mono drop

theorem finishClass_blind {negated : Bool} {cls finished : CharClass}
    (h : finishClass .lenient negated cls = .ok finished) : finished.Blind := by
  cases negated <;> cases h
  · exact CharClass.blind_folded cls
  · exact (CharClass.blind_folded cls).complement

theorem readProperty_yields (negated : Bool) (rest : List Char) :
    Yields rest Escape.Blind (readProperty .lenient negated rest) := by
  unfold readProperty
  extract_lets resume
  have named {name after : List Char} (left : after <:+ next .lenient rest) :
      Yields rest Escape.Blind (resume (name, after)) := by
    dsimp only [resume]
    split
    · exact .error _
    · split
      · exact .error _
      · refine .bind_step fun cls finished => ?_
        exact .ok (finishClass_blind finished) (left.trans (List.drop_suffix 1 rest))
  split
  · exact .error _
  · rename_i inner shape
    dsimp only
    split
    · exact .error _
    · refine named ((List.drop_suffix 1 _).trans ?_)
      rw [shape]
      exact (takeRun_suffix _ _ _).trans (List.suffix_cons _ inner)
  · rename_i c after _ shape
    split
    · exact .error _
    · exact named (shape ▸ List.suffix_cons c after)

theorem shorthandClass_blind {letter : Char} {cls : CharClass}
    (h : shorthandClass .lenient letter = .ok cls) : cls.Blind := by
  have plain : ∀ kind : CharClass, kind.Blind →
      (if letter.isLower = true then Except.ok kind else .ok kind.complement) =
        (.ok cls : Except PatternError CharClass) → cls.Blind := by
    intro kind blind chosen
    split at chosen <;> cases chosen
    · exact blind
    · exact blind.complement
  unfold shorthandClass at h
  refine plain _ ?_ h
  split
  · exact CharClass.blind_decimal
  · split
    · exact CharClass.blind_whitespace
    · exact CharClass.blind_word

theorem readBoundary_yields (rest : List Char) :
    Yields rest Escape.Blind (readBoundary .lenient rest) := by
  unfold readBoundary
  dsimp only
  split
  · rename_i inner
    split
    · exact .error _
    · rename_i c after shape
      split
      · exact .ok trivial List.suffix_rfl
      · have name := (takeRun_suffix (fun c => c.isAlpha || c == '-') (next .lenient ('{' :: inner)).length
          (next .lenient ('{' :: inner))).trans (List.drop_suffix 1 _)
        have past := (List.drop_suffix 1 _).trans name
        split
        · exact .error _
        · repeat' split
          all_goals first | exact .ok trivial past | exact .error _
  · exact .ok trivial List.suffix_rfl

theorem readEscape_yields (rest : List Char) :
    Yields rest Escape.Blind (readEscape .lenient rest) := by
  unfold readEscape
  split
  · exact .error _
  · rename_i c after
    have one : after <:+ c :: after := List.suffix_cons c after
    refine .ite (.error _) ?_
    iterate 3 refine .ite (readCodePoint_yields _ _) ?_
    refine .ite (readProperty_yields _ _) ?_
    refine .ite (.bind_step fun cls known => .ok (shorthandClass_blind known) one) ?_
    refine .ite (.ok trivial one) ?_
    split
    · exact .ok trivial one
    iterate 2 refine .ite (.ok trivial one) ?_
    refine .ite ((readBoundary_yields after).mono one) ?_
    iterate 3 refine .ite (.ok trivial one) ?_
    exact .error _

/-! ## Brackets -/

theorem next_suffix (condition : Bool) (rest : List Char) :
    (if condition then next .lenient rest else rest) <:+ rest := by
  cases condition
  · exact List.suffix_rfl
  · exact List.drop_suffix 1 rest

theorem openBracket_leaves (rest : List Char) : Leaves rest (openBracket .lenient rest) := by
  unfold openBracket
  refine .ite (.error _) (.ok trivial ?_)
  refine (next_suffix _ _).trans ((takeRun_suffix _ _ _).trans ?_)
  exact (next_suffix _ _).trans (List.drop_suffix 1 rest)

theorem asciiClass?_suffix {rest after : List Char} {cls : CharClass} {negated : Bool}
    (h : asciiClass? rest = some (cls, negated, after)) : after <:+ rest := by
  unfold asciiClass? at h
  split at h
  · rename_i inner
    dsimp only at h
    split at h
    · rename_i past shape
      obtain ⟨_, _, same⟩ := Option.map_eq_some_iff.mp h
      cases same
      have colon : ':' :: ']' :: after <:+ inner := by
        rw [← shape]
        refine (List.dropWhile_suffix _).trans ?_
        split
        · exact List.drop_suffix 1 inner
        · exact List.suffix_rfl
      exact (((List.suffix_cons _ after).trans (List.suffix_cons _ _)).trans colon).trans
        ((List.suffix_cons _ inner).trans (List.suffix_cons _ _))
    · cases h
  · cases h

theorem readClassItem_leaves (rest : List Char) : Leaves rest (readClassItem .lenient rest) := by
  unfold readClassItem
  split
  · exact .error _
  · rename_i c after
    have one : after <:+ c :: after := List.suffix_cons c after
    refine .ite ?_ (.ok trivial one)
    exact ((readEscape_yields after).mono one).imp fun _ _ => trivial

theorem readClassRange_leaves (rest : List Char) : Leaves rest (readClassRange .lenient rest) := by
  unfold readClassRange
  refine .bind (readClassItem_leaves rest) fun first rest _ _ => .ite (.error _) (.ite ?_ ?_)
  · split
    · exact .ok trivial List.suffix_rfl
    · exact .bind_step fun c _ => .ok trivial List.suffix_rfl
  · refine .ite (.error _) (Yields.mono ?_ (List.drop_suffix 1 rest))
    refine .bind (readClassItem_leaves _) fun last rest _ _ => ?_
    refine .bind_step fun first _ => .bind_step fun last _ => ?_
    exact .ite (.error _) (.ok trivial List.suffix_rfl)

theorem close_blind {bracket : OpenBracket} {part : ClassPart}
    (h : bracket.close .lenient = .ok part) : part.cls.Blind := by
  unfold OpenBracket.close at h
  dsimp only at h
  cases finished : finishClass .lenient bracket.negated (bracket.current .lenient).cls with
  | error cause => rw [finished] at h; cases h
  | ok cls =>
    rw [finished] at h
    cases h
    exact finishClass_blind finished

theorem readBracketInside_yields (bracket : OpenBracket) (outer : List OpenBracket) (limit : Nat)
    (rest : List Char) :
    Yields rest (·.cls.Blind) (readBracketInside .lenient bracket outer limit rest) := by
  induction limit generalizing bracket outer rest with
  | zero => exact .error _
  | succ limit ih =>
    have past (marks : List Char) {after : List Char} (bracket : OpenBracket) (outer : List OpenBracket)
        (shape : rest = marks ++ after) :
        Yields rest (·.cls.Blind) (readBracketInside .lenient bracket outer limit after) :=
      (ih bracket outer after).mono (shape ▸ List.suffix_append marks after)
    unfold readBracketInside
    rw [skip_lenient]
    split
    · exact .error _
    · rename_i inner
      split
      · rename_i cls negated after named
        exact .bind_step fun cls _ => (ih _ _ _).mono (asciiClass?_suffix named)
      · exact .bind (openBracket_leaves _) fun nested after _ _ => ih _ _ _
    · rename_i after
      refine .bind_step fun part closed => ?_
      split
      · exact .ok (close_blind closed) (List.suffix_cons _ after)
      · exact past [']'] _ _ rfl
    · exact past ['&', '&'] _ _ rfl
    · exact past ['-', '-'] _ _ rfl
    · exact past ['~', '~'] _ _ rfl
    · exact .bind (readClassRange_leaves _) fun part after _ _ => ih _ _ _

theorem readBracket_yields (rest : List Char) :
    Yields rest (·.cls.Blind) (readBracket .lenient rest) := by
  unfold readBracket
  exact .bind (openBracket_leaves rest) fun bracket after _ _ => readBracketInside_yields _ _ _ _

/-! ## Parts of a pattern -/

def Part.Blind (part : Part) : Prop :=
  part.node.Blind

theorem blind_seqOf {nodes : List Node} (h : ∀ node ∈ nodes, node.Blind) :
    (Node.seqOf nodes).Blind := by
  fun_induction Node.seqOf nodes with
  | case1 => trivial
  | case2 node => exact h node List.mem_cons_self
  | case3 node others _ ih =>
    obtain ⟨first, rest⟩ := List.forall_mem_cons.mp h
    exact ⟨first, ih rest⟩

theorem blind_altOf {nodes : List Node} (h : ∀ node ∈ nodes, node.Blind) :
    (Node.altOf nodes).Blind := by
  fun_induction Node.altOf nodes with
  | case1 => trivial
  | case2 node => exact h node List.mem_cons_self
  | case3 node others _ ih =>
    obtain ⟨first, rest⟩ := List.forall_mem_cons.mp h
    exact ⟨first, ih rest⟩

theorem blind_repeated {node : Node} (h : node.Blind) (least : Nat) (most : Option Nat)
    (greedy : Bool) : (Node.repeated least most greedy node).Blind := by
  unfold Node.repeated
  split <;> exact h

structure Level.Blind (level : Level) : Prop where
  alternatives : ∀ part ∈ level.alternatives, part.Blind
  parts : ∀ part, some part ∈ level.parts → part.Blind

theorem Level.blind_empty : Level.Blind ⟨[], []⟩ :=
  ⟨nofun, nofun⟩

theorem Level.Blind.sequence {level : Level} (blind : level.Blind) : level.sequence.Blind := by
  unfold Level.sequence
  split
  · trivial
  · rename_i part alone
    cases part with
    | none => trivial
    | some part => exact blind.parts part (alone ▸ List.mem_cons_self)
  · refine blind_seqOf (List.forall_mem_map.mpr fun part mem => blind.parts part ?_)
    obtain ⟨_, listed, rfl⟩ := List.mem_filterMap.mp mem
    exact List.mem_reverse.mp listed

theorem Level.Blind.choice {level : Level} (blind : level.Blind) : level.choice.Blind := by
  unfold Level.choice
  split
  · exact blind.sequence
  · refine blind_altOf (List.forall_mem_map.mpr fun part mem => ?_)
    rcases List.mem_cons.mp (List.mem_reverse.mp mem) with rfl | mem
    · exact blind.sequence
    · exact blind.alternatives part mem

structure State.Blind (state : State) : Prop where
  flags : state.flags = .lenient
  level : state.level.Blind
  enclosing : ∀ outer ∈ state.enclosing, outer.1.Blind ∧ outer.2.2 = .lenient

namespace State.Blind

variable {state : State}

theorem add (blind : state.Blind) {part : Part} (h : part.Blind) : (state.add part).Blind where
  flags := blind.flags
  level := by
    refine ⟨blind.level.alternatives, fun other mem => ?_⟩
    rcases List.mem_cons.mp mem with same | mem
    · cases same
      exact h
    · exact blind.level.parts other mem
  enclosing := blind.enclosing

theorem repeatLast (blind : state.Blind) {least : Nat} {most : Option Nat} {greedy : Bool}
    {next : State} (h : state.repeatLast least most greedy = .ok next) : next.Blind := by
  unfold State.repeatLast at h
  split at h
  · rename_i part parts latest
    cases h
    have first := blind.level.parts part (latest ▸ List.mem_cons_self)
    refine ⟨blind.flags, ⟨blind.level.alternatives, fun other mem => ?_⟩, blind.enclosing⟩
    rcases List.mem_cons.mp mem with same | mem
    · cases same
      exact blind_repeated first _ _ _
    · exact blind.level.parts other (latest ▸ List.mem_cons_of_mem _ mem)
  · cases h

theorem opened (blind : state.Blind) (kind : GroupKind) : (state.open kind state.flags).Blind where
  flags := blind.flags
  level := Level.blind_empty
  enclosing := List.forall_mem_cons.mpr ⟨⟨blind.level, blind.flags⟩, blind.enclosing⟩

theorem openNumbered (blind : state.Blind) : state.openNumbered.Blind :=
  ⟨blind.flags, Level.blind_empty, (blind.opened (.numbered (state.groups + 1))).enclosing⟩

theorem close (blind : state.Blind) {next : State} (h : state.close = .ok next) : next.Blind := by
  unfold State.close at h
  split at h
  · cases h
  · rename_i level kind flags enclosing nested
    cases h
    obtain ⟨⟨outerLevel, outerFlags⟩, others⟩ :=
      List.forall_mem_cons.mp (nested ▸ blind.enclosing)
    refine State.Blind.add ⟨outerFlags, outerLevel, others⟩ ?_
    cases kind <;> exact blind.level.choice

end State.Blind

theorem literalPart_blind {c : Char} {isByte : Bool} {part : Part}
    (h : literalPart .lenient c isByte = .ok part) : part.Blind := by
  cases h
  exact CharClass.blind_folded _

theorem dotClass_blind {cls : CharClass} (h : dotClass .lenient = .ok cls) : cls.Blind := by
  cases h
  exact (CharClass.blind_single (forall_capitals (by decide))).complement

theorem readShortRepetition_yields {state : State} (blind : state.Blind) (least : Nat)
    (most : Option Nat) (after : List Char) :
    Yields after State.Blind (readShortRepetition state least most after) := by
  refine .bind_step fun next repeated => .ok (blind.repeatLast repeated) ?_
  split
  · exact List.drop_suffix 1 after
  · exact List.suffix_rfl

theorem readCountedRepetition_yields {state : State} (blind : state.Blind) (rest : List Char) :
    Yields rest State.Blind (readCountedRepetition state rest) := by
  unfold readCountedRepetition
  rw [blind.flags]
  refine .bind ((readNumber_leaves _).mono (List.drop_suffix 1 rest)) fun least rest _ _ => ?_
  dsimp -zeta only
  extract_lets resume
  have resumes (most : Option Nat) (after : List Char) :
      Yields after State.Blind (resume (most, after)) := by
    refine .ite (.error _) (.ite (.error _) ?_)
    refine .bind_step fun next repeated => .ok (blind.repeatLast repeated) ?_
    refine List.IsSuffix.trans ?_ (List.drop_suffix 1 after)
    split
    · exact List.drop_suffix 1 _
    · exact List.suffix_rfl
  refine .ite (.ite ?_ ?_) ?_
  · exact (resumes _ _).mono (List.drop_suffix 1 rest)
  · refine .bind ((readNumber_leaves _).mono (List.drop_suffix 1 rest)) fun most after _ _ => ?_
    exact resumes _ _
  · exact resumes _ _

theorem readGroupName_leaves (names : List (List Char)) (rest : List Char) :
    Leaves rest (readGroupName names rest) := by
  unfold readGroupName
  dsimp only
  split
  · exact .error _
  · exact .error _
  · rename_i shape
    refine .ite (.error _) (.ite (.error _) (.ok trivial ?_))
    exact (List.suffix_cons _ _).trans (shape ▸ List.dropWhile_suffix _)

theorem readGroup_yields {state : State} (blind : state.Blind) {rest : List Char}
    (keeps : keepsFlags ('(' :: rest) = true) :
    Yields rest State.Blind (readGroup state rest) := by
  unfold readGroup
  dsimp only
  refine .ite (.error _) (.ite ?_ ?_)
  · refine .bind ((readGroupName_leaves _ _).mono (List.drop_suffix _ rest)) fun name after _ _ => ?_
    exact .ok ⟨blind.flags, blind.openNumbered.level, blind.openNumbered.enclosing⟩ List.suffix_rfl
  · split
    · rename_i opening
      obtain ⟨more, rfl⟩ := List.isPrefixOf_iff_prefix.mp opening
      obtain ⟨after, rfl⟩ := List.head?_eq_some_iff.mp (colon_of_keepsFlags keeps)
      exact .ok (blind.opened .plain) (List.suffix_append ['?', ':'] after)
    · exact .ok blind.openNumbered List.suffix_rfl

theorem readPart_yields {state : State} (blind : state.Blind) {c : Char} {after : List Char}
    (keeps : keepsFlags (c :: after) = true) :
    Yields (c :: after) State.Blind (readPart state c after) := by
  have one : after <:+ c :: after := List.suffix_cons c after
  have literal (mark : Char) (isByte : Bool) (left : List Char) : Yields left State.Blind
      (literalPart .lenient mark isByte >>= fun part => pure (state.add part, left)) :=
    .bind_step fun part known => .ok (blind.add (literalPart_blind known)) List.suffix_rfl
  have alternatives : ∀ part ∈ state.level.sequence :: state.level.alternatives, part.Blind :=
    List.forall_mem_cons.mpr ⟨blind.level.sequence, blind.level.alternatives⟩
  unfold readPart
  dsimp only
  rw [blind.flags]
  by_cases opens : (c == '(') = true
  · rw [if_pos opens]
    rw [eq_of_beq opens] at keeps
    exact (readGroup_yields blind keeps).mono one
  rw [if_neg opens]
  refine .ite (.bind_step fun next closed => .ok (blind.close closed) one) ?_
  refine .ite (.ok ⟨rfl, ⟨alternatives, nofun⟩, blind.enclosing⟩ one) ?_
  refine .ite ?_ ?_
  · exact .bind (readBracket_yields _) fun part left known _ => .ok (blind.add known) List.suffix_rfl
  iterate 3 refine .ite ((readShortRepetition_yields blind _ _ _).mono one) ?_
  refine .ite (readCountedRepetition_yields blind _) ?_
  refine .ite (.bind_step fun cls known => .ok (blind.add (dotClass_blind known)) one) ?_
  iterate 2 refine .ite (.ok (blind.add trivial) one) ?_
  refine .ite ?_ ((literal c false after).mono one)
  refine .bind ((readEscape_yields after).mono one) fun escape left known suffix => ?_
  cases escape with
  | literal mark isByte => exact literal mark isByte left
  | characters cls => exact .ok (blind.add known) List.suffix_rfl
  | assertion assertion => exact .ok (blind.add trivial) List.suffix_rfl

theorem readParts_blind {state last : State} (blind : state.Blind) (limit : Nat) {rest : List Char}
    (keeps : keepsFlags rest = true) (h : readParts state limit rest = .ok last) : last.Blind := by
  induction limit generalizing state rest with
  | zero =>
    cases h
    exact blind
  | succ limit ih =>
    rw [readParts, blind.flags, skip_lenient] at h
    split at h
    · cases h
      exact blind
    · rename_i c after
      cases read : readPart state c after with
      | error cause => rw [read] at h; cases h
      | ok result =>
        obtain ⟨next, left⟩ := result
        rw [read] at h
        obtain ⟨nextBlind, suffix⟩ := readPart_yields blind keeps next left read
        exact ih nextBlind (keepsFlags_of_suffix suffix keeps) h

theorem read_blind {text : List Char} {node : Node} (keeps : keepsFlags text = true)
    (h : read .lenient text = .ok node) : node.Blind := by
  unfold read at h
  cases last : readParts ⟨.lenient, ⟨[], []⟩, [], 0, []⟩ text.length text with
  | error cause => rw [last] at h; cases h
  | ok state =>
    have started : State.Blind ⟨.lenient, ⟨[], []⟩, [], 0, []⟩ := ⟨rfl, Level.blind_empty, nofun⟩
    have blind := (readParts_blind started _ keeps last).level.choice
    rw [last] at h
    iterate 3
      change ite _ _ _ = _ at h
      split at h
      · cases h
    cases h
    exact blind

end Postal.PatternReader

namespace Postal

theorem Pattern.blind_of_compile {source : String} {pattern : Pattern}
    (keeps : PatternReader.keepsFlags source.toList = true)
    (h : compile .lenient source = .ok pattern) : pattern.node.Blind := by
  unfold compile at h
  cases read : PatternReader.read .lenient source.toList with
  | error cause => rw [read] at h; cases h
  | ok node =>
    rw [read] at h
    cases h
    exact PatternReader.read_blind keeps read

end Postal
