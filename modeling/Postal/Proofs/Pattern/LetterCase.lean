import Postal.Pattern.Reader
import Postal.Proofs.Text.LetterCase

/-!
# Case-blind patterns

A class is blind if it holds a letter of ASCII in both cases or in neither. A pattern made of blind
classes finds the same matches in a text whatever the case of its letters: no thread of a search can
tell the text from the lowered one.
-/

namespace Postal

open Unicode

namespace CharClass

/-- The class holds a letter of ASCII in both cases or in neither. -/
def Blind (cls : CharClass) : Prop :=
  ∀ c, cls.contains c.toLower = cls.contains c

theorem Blind.complement {cls : CharClass} (blind : cls.Blind) : cls.complement.Blind :=
  fun c => congrArg (! ·) (blind c)

theorem blind_decimal : decimal.Blind :=
  isDecimal_toLower

theorem blind_whitespace : whitespace.Blind :=
  isWhitespace_toLower

theorem blind_word : word.Blind :=
  isWordCharacter_toLower

theorem blind_single {mark : Char} (h : ∀ letter ∈ capitals, letter.toLower ≠ mark ∧ letter ≠ mark) :
    (single mark).Blind := by
  have same (c : Char) : (single mark).contains c = (c == mark) := by
    rw [Bool.eq_iff_iff]
    simp only [single, contains, Bool.and_eq_true, decide_eq_true_eq, beq_iff_eq]
    exact ⟨fun between => Char.le_antisymm between.2 between.1, fun equal => equal ▸ ⟨Char.le_refl _, Char.le_refl _⟩⟩
  intro c
  rw [same, same, toLower_beq h]

theorem blind_folded (cls : CharClass) : cls.folded.Blind :=
  fun c => (caseVariants_toLower c).any_eq

end CharClass

def Node.Blind : Node → Prop
  | empty | assertion _ => True
  | chars cls => cls.Blind
  | seq a b | alt a b => a.Blind ∧ b.Blind
  | repetition _ _ _ body | group _ body => body.Blind

theorem isWordNeighbour_lowered (ascii : Bool) (neighbour : Option Char) :
    isWordNeighbour ascii (neighbour.map Char.toLower) = isWordNeighbour ascii neighbour := by
  cases neighbour with
  | none => rfl
  | some c =>
    exact apply_toLower (fun c => isWordNeighbour ascii (some c))
      (forall_capitals (by cases ascii <;> decide)) c

theorem lowered_beq {mark : Char}
    (h : ∀ letter ∈ capitals, letter.toLower ≠ mark ∧ letter ≠ mark) (neighbour : Option Char) :
    (neighbour.map Char.toLower == some mark) = (neighbour == some mark) := by
  cases neighbour with
  | none => rfl
  | some c => exact toLower_beq h c

theorem Assertion.holds_lowered (assertion : Assertion) (before after : Option Char) :
    assertion.holds (before.map Char.toLower) (after.map Char.toLower) =
      assertion.holds before after := by
  have newline : ∀ letter ∈ capitals, letter.toLower ≠ '\n' ∧ letter ≠ '\n' :=
    forall_capitals (by decide)
  have carriage : ∀ letter ∈ capitals, letter.toLower ≠ '\r' ∧ letter ≠ '\r' :=
    forall_capitals (by decide)
  cases assertion <;>
    simp only [holds, isWordNeighbour_lowered, lowered_beq newline, lowered_beq carriage,
      Option.isNone_map, bne]

def Place.lowered (place : Place) : Place :=
  ⟨place.before.map Char.toLower, place.position, place.after.map Char.toLower⟩

def Frame.Blind : Frame → Prop
  | pattern node => node.Blind
  | closeGroup _ => True
  | loop _ _ body => body.Blind

def Thread.Blind (thread : Thread) : Prop :=
  ∀ frame ∈ thread.frames, frame.Blind

def Unfolding.Blind : Unfolding → Prop
  | waiting | stuck => True
  | one next => next.Blind
  | two preferred other => preferred.Blind ∧ other.Blind

theorem Unfolding.blind_branch {inside outside : Thread} (greedy : Bool) (first : inside.Blind)
    (second : outside.Blind) : (branch greedy inside outside).Blind := by
  cases greedy
  · exact ⟨second, first⟩
  · exact ⟨first, second⟩

namespace Thread

theorem blind_cons {frame : Frame} {frames : List Frame} {start : Nat} {opened : List (Nat × Nat)}
    {groups : List (Nat × Span)} :
    Blind ⟨frame :: frames, start, opened, groups⟩ ↔
      frame.Blind ∧ Blind ⟨frames, start, opened, groups⟩ :=
  List.forall_mem_cons

theorem unfoldOnce_lowered (place : Place) {thread : Thread} (blind : thread.Blind) :
    thread.unfoldOnce place.lowered = thread.unfoldOnce place := by
  obtain ⟨frames, start, opened, groups⟩ := thread
  match frames with
  | [] => rfl
  | .closeGroup _ :: _ => rfl
  | .loop _ mark _ :: _ => cases mark <;> rfl
  | .pattern node :: rest =>
    obtain ⟨first, -⟩ := blind_cons.mp blind
    cases node with
    | chars cls =>
      have same : (place.after.map Char.toLower).any cls.contains = place.after.any cls.contains := by
        rw [Option.any_map]
        exact congrArg place.after.any (funext first)
      simp only [unfoldOnce, Place.lowered, same]
    | assertion assertion => simp only [unfoldOnce, Place.lowered, Assertion.holds_lowered]
    | repetition least most greedy body =>
      rcases least with _ | _ | least <;> rcases most with _ | _ | most <;> rfl
    | _ => rfl

theorem blind_unfoldOnce (place : Place) {thread : Thread} (blind : thread.Blind) :
    (thread.unfoldOnce place).Blind := by
  obtain ⟨frames, start, opened, groups⟩ := thread
  match frames with
  | [] => trivial
  | .closeGroup _ :: rest => exact (blind_cons.mp blind).2
  | .loop greedy mark body :: rest =>
    obtain ⟨first, others⟩ := blind_cons.mp blind
    cases mark with
    | hasRead =>
      exact Unfolding.blind_branch greedy (blind_cons.mpr ⟨first, blind_cons.mpr ⟨first, others⟩⟩) others
    | firstRound => exact others
    | laterRound => trivial
  | .pattern node :: rest =>
    obtain ⟨first, others⟩ := blind_cons.mp blind
    cases node with
    | empty => exact others
    | chars cls =>
      simp only [unfoldOnce]
      split <;> trivial
    | assertion assertion =>
      simp only [unfoldOnce]
      split
      · exact others
      · trivial
    | seq a b => exact blind_cons.mpr ⟨first.1, blind_cons.mpr ⟨first.2, others⟩⟩
    | alt a b => exact ⟨blind_cons.mpr ⟨first.1, others⟩, blind_cons.mpr ⟨first.2, others⟩⟩
    | group index body => exact blind_cons.mpr ⟨first, blind_cons.mpr ⟨trivial, others⟩⟩
    | repetition least most greedy body =>
      -- Whatever is left of a repetition has the same body.
      have once {frame : Frame} (left : frame.Blind) :
          Blind ⟨.pattern body :: frame :: rest, start, opened, groups⟩ :=
        blind_cons.mpr ⟨first, blind_cons.mpr ⟨left, others⟩⟩
      rcases least with _ | _ | least <;> rcases most with _ | _ | most
      · exact Unfolding.blind_branch greedy (once first) others
      · exact others
      · exact Unfolding.blind_branch greedy (once first) others
      all_goals exact once first

theorem unfold_lowered (place : Place) (seen : FrameSet) (thread : Thread) (blind : thread.Blind) :
    thread.unfold place.lowered seen = thread.unfold place seen ∧
      ∀ waiting ∈ (thread.unfold place seen).2, waiting.Blind := by
  induction seen, thread using Thread.unfold.induct place with
  | case1 seen thread step =>
    rw [unfold, unfold, unfoldOnce_lowered place blind, step]
    exact ⟨rfl, nofun⟩
  | case2 seen thread next step ih =>
    have nextBlind := blind_unfoldOnce place blind
    rw [step] at nextBlind
    rw [unfold, unfold, unfoldOnce_lowered place blind, step]
    exact ih nextBlind
  | case3 seen thread step known =>
    rw [unfold, unfold, unfoldOnce_lowered place blind, step]
    simp [known]
  | case4 seen thread step new =>
    rw [unfold, unfold, unfoldOnce_lowered place blind, step]
    simpa [new] using blind
  | case5 seen thread preferred other step known =>
    rw [unfold, unfold, unfoldOnce_lowered place blind, step]
    simp [known]
  | case6 seen thread preferred other step new first ihPreferred ihOther =>
    have nextBlind := blind_unfoldOnce place blind
    rw [step] at nextBlind
    obtain ⟨blindPreferred, blindOther⟩ := nextBlind
    obtain ⟨samePreferred, waitingPreferred⟩ := ihPreferred blindPreferred
    obtain ⟨sameOther, waitingOther⟩ := ihOther blindOther
    rw [unfold, unfold, unfoldOnce_lowered place blind, step]
    simp only [new, samePreferred]
    exact ⟨by rw [sameOther], List.forall_mem_append.mpr ⟨waitingPreferred, waitingOther⟩⟩

end Thread

theorem unfoldAll_lowered (place : Place) (seen : FrameSet) {threads : List Thread}
    (blind : ∀ thread ∈ threads, thread.Blind) :
    unfoldAll place.lowered seen threads = unfoldAll place seen threads ∧
      ∀ waiting ∈ unfoldAll place seen threads, waiting.Blind := by
  induction threads generalizing seen with
  | nil => exact ⟨rfl, nofun⟩
  | cons thread others ih =>
    obtain ⟨first, blindOthers⟩ := List.forall_mem_cons.mp blind
    obtain ⟨same, waiting⟩ := thread.unfold_lowered place seen first
    obtain ⟨sameOthers, waitingOthers⟩ := ih (thread.unfold place seen).1 blindOthers
    simp only [unfoldAll, same, sameOthers, true_and]
    exact List.forall_mem_append.mpr ⟨waiting, waitingOthers⟩

theorem Frame.Blind.afterRead {frame : Frame} (blind : frame.Blind) : frame.afterRead.Blind := by
  cases frame <;> exact blind

namespace Thread

theorem read?_lowered (c : Char) {thread : Thread} (blind : thread.Blind) :
    thread.read? c.toLower = thread.read? c := by
  obtain ⟨frames, start, opened, groups⟩ := thread
  unfold read?
  split
  · rename_i cls rest waits
    cases waits
    obtain ⟨first, -⟩ := blind_cons.mp blind
    rw [first]
  · rfl

theorem Blind.of_read {c : Char} {thread next : Thread} (blind : thread.Blind)
    (read : thread.read? c = some next) : next.Blind := by
  obtain ⟨frames, start, opened, groups⟩ := thread
  unfold read? at read
  split at read
  · rename_i cls rest waits
    cases waits
    split at read
    · cases read
      intro frame mem
      obtain ⟨before, listed, rfl⟩ := List.mem_map.mp mem
      exact ((blind_cons.mp blind).2 before listed).afterRead
    · cases read
  · cases read

theorem read?_lowered_all (c : Char) {threads : List Thread}
    (blind : ∀ thread ∈ threads, thread.Blind) :
    threads.filterMap (·.read? c.toLower) = threads.filterMap (·.read? c) ∧
      ∀ next ∈ threads.filterMap (·.read? c), next.Blind := by
  refine ⟨List.filterMap_congr fun thread mem => read?_lowered c (blind thread mem), ?_⟩
  intro next mem
  obtain ⟨thread, listed, reads⟩ := List.mem_filterMap.mp mem
  exact (blind thread listed).of_read reads

end Thread

namespace Node

variable {node : Node}

theorem blind_started (blind : node.Blind) {threads : List Thread}
    (others : ∀ thread ∈ threads, thread.Blind) (found : Option Match) (position : Nat) :
    ∀ thread ∈ if found.isNone then threads ++ [Thread.begin node position] else threads,
      thread.Blind := by
  have begun : (Thread.begin node position).Blind := Thread.blind_cons.mpr ⟨blind, nofun⟩
  split
  · exact List.forall_mem_append.mpr ⟨others, List.forall_mem_singleton.mpr begun⟩
  · exact others

/-- A search by a blind pattern takes the same course in the lowered text. -/
theorem scan_lowered (blind : node.Blind) (rest : List Char) (before : Option Char)
    (position : Nat) {threads : List Thread} (others : ∀ thread ∈ threads, thread.Blind)
    (found : Option Match) :
    node.scan (before.map Char.toLower) position threads found (rest.map Char.toLower) =
      node.scan before position threads found rest := by
  induction rest generalizing before position threads found with
  | nil =>
    have started := blind_started blind others found position
    have same := (unfoldAll_lowered ⟨before, position, none⟩ .empty started).1
    simp only [Place.lowered, Option.map_none] at same
    simp only [List.map_nil, scan, List.head?_nil, same]
  | cons c rest ih =>
    have started := blind_started blind others found position
    obtain ⟨same, waiting⟩ := unfoldAll_lowered ⟨before, position, some c⟩ .empty started
    simp only [Place.lowered, Option.map_some] at same
    -- Only threads before the first finished one read on, and these are blind too.
    have live := fun thread mem =>
      waiting thread ((List.takeWhile_sublist fun waits : Thread => ! waits.frames.isEmpty).mem mem)
    obtain ⟨read, left⟩ := Thread.read?_lowered_all c live
    simp only [List.map_cons, scan, List.head?_cons, same, read]
    refine ite_congr rfl (fun _ => rfl) fun _ => ?_
    exact ih (some c) _ left _

theorem findAt?_lowered (blind : node.Blind) (text : List Char) (position : Nat) :
    node.findAt? (text.map Char.toLower) position = node.findAt? text position := by
  have before : characterBefore (text.map Char.toLower) position =
      (characterBefore text position).map Char.toLower := by
    unfold characterBefore
    split <;> simp
  simp only [findAt?, findFrom?, List.length_map, before, ← List.map_drop]
  split
  · exact scan_lowered blind _ _ _ (List.forall_mem_nil _) none
  · rfl

theorem findAfter?_lowered (blind : node.Blind) (text : List Char) (position : Nat) :
    node.findAfter? (text.map Char.toLower) position = node.findAfter? text position := by
  simp only [findAfter?, findAt?_lowered blind]

theorem find?_lowered (blind : node.Blind) (text : List Char) :
    node.find? (text.map Char.toLower) = node.find? text :=
  scan_lowered blind text none 0 (List.forall_mem_nil _) none

theorem matchesAfter_lowered (blind : node.Blind) (text : List Char) (limit position : Nat) :
    node.matchesAfter (text.map Char.toLower) limit position =
      node.matchesAfter text limit position := by
  induction limit generalizing position with
  | zero => rfl
  | succ limit ih => simp only [matchesAfter, findAfter?_lowered blind, ih]

theorem allMatches_lowered (blind : node.Blind) (text : List Char) :
    node.allMatches (text.map Char.toLower) = node.allMatches text := by
  simp only [allMatches, find?_lowered blind, List.length_map, matchesAfter_lowered blind]

end Node

end Postal
