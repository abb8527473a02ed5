import Postal.Pattern.Node

/-!
# Finding patterns in text

A search keeps a list of threads in order of preference. A thread is what remains to be matched, as
a list of frames, together with the groups found so far. At every position each thread is unfolded
until it waits for the next character or is complete; then that character is read. Of several
threads with the same frames only the most preferred is kept, so a search takes a number of steps
that is linear in the text. The leftmost match is found, and among those the one that the pattern
prefers.
-/

namespace Postal

structure Span where
  start : Nat
  stop : Nat
deriving DecidableEq, Repr

/-- How far the current round of a loop has come: a round in which no character has been read is
the first round or a later one. -/
inductive LoopMark where
  | hasRead
  | firstRound
  | laterRound
deriving DecidableEq, Repr

inductive Frame where
  | pattern (node : Node)
  | closeGroup (index : Nat)
  | loop (greedy : Bool) (mark : LoopMark) (body : Node)
deriving DecidableEq, Repr

namespace Frame

def weight : Frame → Nat
  | pattern node => node.weight
  | closeGroup _ => 1
  | loop _ .hasRead body => body.weight + 3
  | loop _ _ _ => 1

def afterRead : Frame → Frame
  | loop greedy _ body => loop greedy .hasRead body
  | frame => frame

end Frame

def framesWeight (frames : List Frame) : Nat :=
  total (frames.map Frame.weight)

/-- A set of lists of frames, filed by the binary digits of their weights, lowest digit first. -/
inductive FrameSet where
  | empty
  | node (here : List (List Frame)) (even odd : FrameSet)

namespace FrameSet

def here : FrameSet → List (List Frame)
  | empty => []
  | node here _ _ => here

def branch (odd : Bool) : FrameSet → FrameSet
  | empty => empty
  | node _ evens odds => if odd then odds else evens

def containsAt (frames : List Frame) : FrameSet → Nat → Bool
  | empty, _ => false
  | node here evens odds, key =>
    if key = 0 then here.contains frames
    else if key % 2 = 1 then odds.containsAt frames (key / 2)
    else evens.containsAt frames (key / 2)

def insertAt (frames : List Frame) : Nat → Nat → FrameSet → FrameSet
  | 0, _, set => .node (frames :: set.here) (set.branch false) (set.branch true)
  | digits + 1, key, set =>
    if key = 0 then .node (frames :: set.here) (set.branch false) (set.branch true)
    else if key % 2 = 1 then
      .node set.here (set.branch false) (insertAt frames digits (key / 2) (set.branch true))
    else .node set.here (insertAt frames digits (key / 2) (set.branch false)) (set.branch true)

def contains (set : FrameSet) (frames : List Frame) : Bool :=
  set.containsAt frames (framesWeight frames)

def insert (set : FrameSet) (frames : List Frame) : FrameSet :=
  insertAt frames (framesWeight frames) (framesWeight frames) set

theorem containsAt_zero (set : FrameSet) (frames : List Frame) :
    set.containsAt frames 0 = set.here.contains frames := by
  cases set <;> simp [containsAt, here]

theorem containsAt_of_ne_zero (set : FrameSet) (frames : List Frame) {key : Nat} (h : key ≠ 0) :
    set.containsAt frames key =
      (set.branch (decide (key % 2 = 1))).containsAt frames (key / 2) := by
  cases set with
  | empty => simp [containsAt, branch]
  | node here evens odds =>
    rw [containsAt, if_neg h]
    split <;> simp_all [branch]

theorem containsAt_insertAt (frames other : List Frame) (digits key place : Nat) (set : FrameSet)
    (h : key ≤ digits) :
    (insertAt frames digits key set).containsAt other place =
      (decide (key = place) && decide (other = frames) || set.containsAt other place) := by
  induction digits generalizing key place set with
  | zero =>
    obtain rfl : key = 0 := by omega
    by_cases atRoot : place = 0
    · subst atRoot
      simp [insertAt, containsAt_zero, here]
    · rw [containsAt_of_ne_zero _ _ atRoot, containsAt_of_ne_zero _ _ atRoot]
      have : ¬ 0 = place := fun equal => atRoot equal.symm
      cases decide (place % 2 = 1) <;> simp [insertAt, branch, this]
  | succ digits ih =>
    by_cases filedHere : key = 0
    · subst filedHere
      by_cases atRoot : place = 0
      · subst atRoot
        simp [insertAt, containsAt_zero, here]
      · rw [containsAt_of_ne_zero _ _ atRoot, containsAt_of_ne_zero _ _ atRoot]
        have : ¬ 0 = place := fun equal => atRoot equal.symm
        cases decide (place % 2 = 1) <;> simp [insertAt, branch, this]
    · by_cases atRoot : place = 0
      · subst atRoot
        rw [insertAt, if_neg filedHere]
        split <;> simp [containsAt_zero, here, filedHere]
      · rw [containsAt_of_ne_zero _ _ atRoot, containsAt_of_ne_zero set _ atRoot, insertAt,
          if_neg filedHere]
        have smaller : key / 2 ≤ digits := by omega
        by_cases odd : key % 2 = 1 <;> by_cases placeOdd : place % 2 = 1
        · have : key = place ↔ key / 2 = place / 2 := by omega
          simp [odd, placeOdd, branch, ih _ _ _ smaller, this]
        · have : ¬ key = place := fun equal => placeOdd (equal ▸ odd)
          simp [odd, placeOdd, branch, this]
        · have : ¬ key = place := fun equal => odd (equal ▸ placeOdd)
          simp [odd, placeOdd, branch, this]
        · have : key = place ↔ key / 2 = place / 2 := by omega
          simp [odd, placeOdd, branch, ih _ _ _ smaller, this]

theorem contains_insert (set : FrameSet) (frames other : List Frame) :
    (set.insert frames).contains other = (decide (other = frames) || set.contains other) := by
  rw [contains, insert, containsAt_insertAt _ _ _ _ _ _ (Nat.le_refl _), contains]
  by_cases equal : other = frames
  · simp [equal]
  · simp [equal]

end FrameSet

structure Thread where
  frames : List Frame
  start : Nat
  opened : List (Nat × Nat)
  groups : List (Nat × Span)
deriving Repr

structure Match where
  span : Span
  groups : List (Nat × Span)
deriving DecidableEq, Repr

def Match.group? (found : Match) (index : Nat) : Option Span :=
  if index = 0 then some found.span else found.groups.lookup index

structure Place where
  before : Option Char
  position : Nat
  after : Option Char
deriving Repr

inductive Unfolding where
  | waiting
  | stuck
  | one (next : Thread)
  | two (preferred other : Thread)
deriving Repr

def Unfolding.branch (greedy : Bool) (inside outside : Thread) : Unfolding :=
  if greedy then .two inside outside else .two outside inside

/-- Unfolds the first frame of a thread. A thread that waits for a character other than the next one
cannot go on. A round of a loop that has read nothing ends the loop if it is the first round, and
fails if it is a later one. -/
def Thread.unfoldOnce (place : Place) (thread : Thread) : Unfolding :=
  match thread.frames with
  | [] => .waiting
  | .closeGroup index :: rest =>
    let start := (thread.opened.lookup index).getD place.position
    .one { thread with
      frames := rest
      groups := (index, ⟨start, place.position⟩) :: thread.groups }
  | .loop _ .laterRound _ :: _ => .stuck
  | .loop _ .firstRound _ :: rest => .one { thread with frames := rest }
  | .loop greedy .hasRead body :: rest =>
    .branch greedy { thread with frames := .pattern body :: .loop greedy .laterRound body :: rest }
      { thread with frames := rest }
  | .pattern node :: rest =>
    match node with
    | .empty => .one { thread with frames := rest }
    | .chars cls => if place.after.any cls.contains then .waiting else .stuck
    | .assertion assertion =>
      if assertion.holds place.before place.after then .one { thread with frames := rest }
      else .stuck
    | .seq first second => .one { thread with frames := .pattern first :: .pattern second :: rest }
    | .alt first second =>
      .two { thread with frames := .pattern first :: rest }
        { thread with frames := .pattern second :: rest }
    | .group index body =>
      .one { thread with
        frames := .pattern body :: .closeGroup index :: rest
        opened := (index, place.position) :: thread.opened }
    | .repetition 0 (some 0) _ _ => .one { thread with frames := rest }
    | .repetition 0 (some (more + 1)) greedy body =>
      .branch greedy
        { thread with
          frames := .pattern body :: .pattern (.repetition 0 (some more) greedy body) :: rest }
        { thread with frames := rest }
    | .repetition 0 none greedy body =>
      .branch greedy
        { thread with frames := .pattern body :: .loop greedy .firstRound body :: rest }
        { thread with frames := rest }
    | .repetition 1 none greedy body =>
      .one { thread with frames := .pattern body :: .loop greedy .firstRound body :: rest }
    | .repetition (least + 2) none greedy body =>
      .one { thread with
        frames := .pattern body :: .pattern (.repetition (least + 1) none greedy body) :: rest }
    | .repetition (least + 1) (some most) greedy body =>
      .one { thread with
        frames := .pattern body :: .pattern (.repetition least (some (most - 1)) greedy body) ::
          rest }

theorem Unfolding.branch_eq_two {greedy : Bool} {inside outside preferred other : Thread}
    (h : Unfolding.branch greedy inside outside = .two preferred other) :
    (preferred = inside ∧ other = outside) ∨ (preferred = outside ∧ other = inside) := by
  cases greedy <;> simp_all [Unfolding.branch]

theorem Unfolding.branch_ne_one {greedy : Bool} {inside outside next : Thread} :
    Unfolding.branch greedy inside outside ≠ .one next := by
  cases greedy <;> simp [Unfolding.branch]

theorem framesWeight_cons (frame : Frame) (frames : List Frame) :
    framesWeight (frame :: frames) = frame.weight + framesWeight frames := by
  simp [framesWeight, total]

theorem weight_add_lt {fewer more : Nat} (weight : Nat) (h : fewer < more) :
    weight + fewer * (weight + 3) < more * (weight + 3) := by
  have := Nat.mul_le_mul_right (weight + 3) h
  rw [Nat.succ_mul] at this
  omega

theorem Thread.weight_lt_of_unfoldOnce_one {place : Place} {thread next : Thread}
    (h : thread.unfoldOnce place = .one next) :
    framesWeight next.frames < framesWeight thread.frames := by
  unfold unfoldOnce at h
  split at h
  case h_1 => cases h
  case h_2 frames => cases h; simp [frames, framesWeight_cons, Frame.weight]
  case h_3 => cases h
  case h_4 frames => cases h; simp [frames, framesWeight_cons, Frame.weight]
  case h_5 => exact absurd h Unfolding.branch_ne_one
  case h_6 frames =>
    split at h
    case h_2 => split at h <;> cases h
    case h_3 =>
      split at h
      · cases h; simp [frames, framesWeight_cons, Frame.weight, Node.weight]
      · cases h
    case h_8 => exact absurd h Unfolding.branch_ne_one
    case h_9 => exact absurd h Unfolding.branch_ne_one
    case h_12 rest _ least most greedy body =>
      cases h
      simp only [frames, framesWeight_cons, Frame.weight, Node.weight, Option.getD_some]
      have : least + (most - 1) + 2 < least + 1 + most + 2 := by omega
      have := weight_add_lt body.weight this
      simp only [Nat.succ_eq_add_one] at this ⊢
      omega
    case h_11 rest _ least greedy body =>
      cases h
      simp only [frames, framesWeight_cons, Frame.weight, Node.weight, Option.getD_none]
      have := weight_add_lt body.weight (show least + 1 + 0 + 2 < least + 1 + 1 + 0 + 2 by omega)
      simp only [Nat.succ_eq_add_one] at this ⊢
      omega
    all_goals cases h
    all_goals simp only [frames, framesWeight_cons, Frame.weight, Node.weight, Option.getD_none,
      Option.getD_some]
    all_goals omega

theorem Thread.weight_lt_of_unfoldOnce_two {place : Place} {thread preferred other : Thread}
    (h : thread.unfoldOnce place = .two preferred other) :
    framesWeight preferred.frames < framesWeight thread.frames ∧
      framesWeight other.frames < framesWeight thread.frames := by
  unfold unfoldOnce at h
  split at h
  case h_5 frames =>
    rcases Unfolding.branch_eq_two h with ⟨rfl, rfl⟩ | ⟨rfl, rfl⟩ <;>
      simp only [frames, framesWeight_cons, Frame.weight] <;> omega
  case h_6 frames =>
    split at h
    case h_2 => split at h <;> cases h
    case h_3 => split at h <;> cases h
    case h_5 =>
      cases h
      simp only [frames, framesWeight_cons, Frame.weight, Node.weight]
      omega
    case h_8 rest _ more greedy body =>
      have := weight_add_lt body.weight (show 0 + more + 2 < 0 + (more + 1) + 2 by omega)
      have : 0 < (0 + more + 2) * (body.weight + 3) := Nat.mul_pos (by omega) (by omega)
      rcases Unfolding.branch_eq_two h with ⟨rfl, rfl⟩ | ⟨rfl, rfl⟩ <;>
        simp only [frames, framesWeight_cons, Frame.weight, Node.weight, Option.getD_some,
          Nat.succ_eq_add_one] <;> omega
    case h_9 rest _ greedy body =>
      rcases Unfolding.branch_eq_two h with ⟨rfl, rfl⟩ | ⟨rfl, rfl⟩ <;>
        simp only [frames, framesWeight_cons, Frame.weight, Node.weight, Option.getD_none] <;> omega
    all_goals cases h
  all_goals cases h

/-- Unfolds a thread at a place until every thread that it becomes waits for the next character or
is complete. Frames that have waited or branched before at this place are passed over, since the
threads they became are preferred. The result is all frames that have waited or branched so far and
the waiting threads. -/
def Thread.unfold (place : Place) (seen : FrameSet) (thread : Thread) :
    FrameSet × List Thread :=
  match _ : thread.unfoldOnce place with
  | .stuck => (seen, [])
  | .one next => next.unfold place seen
  | .waiting =>
    if seen.contains thread.frames then (seen, []) else (seen.insert thread.frames, [thread])
  | .two preferred other =>
    if seen.contains thread.frames then (seen, [])
    else
      let first := preferred.unfold place (seen.insert thread.frames)
      let second := other.unfold place first.1
      (second.1, first.2 ++ second.2)
termination_by framesWeight thread.frames
decreasing_by
  · exact weight_lt_of_unfoldOnce_one ‹_›
  · exact (weight_lt_of_unfoldOnce_two ‹_›).1
  · exact (weight_lt_of_unfoldOnce_two ‹_›).2

def unfoldAll (place : Place) (seen : FrameSet) : List Thread → List Thread
  | [] => []
  | thread :: others =>
    let unfolded := thread.unfold place seen
    unfolded.2 ++ unfoldAll place unfolded.1 others

def Thread.read? (c : Char) (thread : Thread) : Option Thread :=
  match thread.frames with
  | .pattern (.chars cls) :: rest =>
    if cls.contains c then some { thread with frames := rest.map Frame.afterRead } else none
  | _ => none

def Thread.finish (position : Nat) (thread : Thread) : Match :=
  ⟨⟨thread.start, position⟩, thread.groups⟩

def Thread.begin (node : Node) (position : Nat) : Thread :=
  ⟨[.pattern node], position, [], []⟩

namespace Node

/-- Reads the rest of a text with the given threads. A new thread of least preference starts at
every position until a match is found. A match ends all threads that are less preferred. -/
def scan (node : Node) (before : Option Char) (position : Nat) (threads : List Thread)
    (found : Option Match) (rest : List Char) : Option Match :=
  let place : Place := ⟨before, position, rest.head?⟩
  let started := if found.isNone then threads ++ [Thread.begin node position] else threads
  let waiting := unfoldAll place .empty started
  let live := waiting.takeWhile (! ·.frames.isEmpty)
  let found := match (waiting.dropWhile (! ·.frames.isEmpty)).head? with
    | some complete => some (complete.finish position)
    | none => found
  match rest with
  | [] => found
  | c :: rest =>
    let threads := live.filterMap (·.read? c)
    if threads.isEmpty && found.isSome then found
    else node.scan (some c) (position + 1) threads found rest

def findFrom? (node : Node) (before : Option Char) (position : Nat) (rest : List Char) :
    Option Match :=
  node.scan before position [] none rest

def find? (node : Node) (text : List Char) : Option Match :=
  node.findFrom? none 0 text

def characterBefore (text : List Char) (position : Nat) : Option Char :=
  if position = 0 then none else text[position - 1]?

def findAt? (node : Node) (text : List Char) (position : Nat) : Option Match :=
  if position ≤ text.length then
    node.findFrom? (characterBefore text position) position (text.drop position)
  else none

/-- The next match after one that ended at `position`: an empty match right there is passed over. -/
def findAfter? (node : Node) (text : List Char) (position : Nat) : Option Match :=
  match node.findAt? text position with
  | none => none
  | some found =>
    if found.span.start = position ∧ found.span.stop = position then
      node.findAt? text (position + 1)
    else some found

def matchesAfter (node : Node) (text : List Char) : Nat → Nat → List Match
  | 0, _ => []
  | limit + 1, position =>
    match node.findAfter? text position with
    | none => []
    | some found => found :: node.matchesAfter text limit found.span.stop

/-- All matches in a text, each after the end of the one before. Their ends increase, so there are
no more of them than positions. -/
def allMatches (node : Node) (text : List Char) : List Match :=
  match node.find? text with
  | none => []
  | some found => found :: node.matchesAfter text text.length found.span.stop

end Node

end Postal
