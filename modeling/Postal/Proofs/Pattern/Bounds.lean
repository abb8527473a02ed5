import Postal.Pattern.Reader

namespace Postal

def Span.Within (span : Span) (length : Nat) : Prop :=
  span.start ≤ span.stop ∧ span.stop ≤ length

structure Thread.Within (thread : Thread) (position : Nat) : Prop where
  start : thread.start ≤ position
  opened : ∀ entry ∈ thread.opened, entry.2 ≤ position
  groups : ∀ entry ∈ thread.groups, entry.2.Within position

structure Match.Within (found : Match) (length : Nat) : Prop where
  span : found.span.Within length
  groups : ∀ entry ∈ found.groups, entry.2.Within length

theorem Span.Within.mono {span : Span} {shorter longer : Nat} (h : span.Within shorter)
    (le : shorter ≤ longer) : span.Within longer :=
  ⟨h.1, Nat.le_trans h.2 le⟩

theorem Thread.Within.mono {thread : Thread} {earlier later : Nat} (h : thread.Within earlier)
    (le : earlier ≤ later) : thread.Within later where
  start := Nat.le_trans h.start le
  opened entry mem := Nat.le_trans (h.opened entry mem) le
  groups entry mem := (h.groups entry mem).mono le

theorem Match.Within.mono {found : Match} {shorter longer : Nat} (h : found.Within shorter)
    (le : shorter ≤ longer) : found.Within longer where
  span := h.span.mono le
  groups entry mem := (h.groups entry mem).mono le

theorem Match.Within.group {found : Match} {length index : Nat} {span : Span}
    (h : found.Within length) (group : found.group? index = some span) : span.Within length := by
  rw [Match.group?] at group
  split at group
  · cases group
    exact h.span
  · obtain ⟨before, after, split, -⟩ := List.lookup_eq_some_iff.1 group
    exact h.groups (index, span) (by simp [split])

theorem Thread.Within.withFrames {thread : Thread} {position : Nat} (h : thread.Within position)
    (frames : List Frame) : Thread.Within { thread with frames := frames } position :=
  ⟨h.start, h.opened, h.groups⟩

theorem Thread.Within.begin (node : Node) (position : Nat) :
    (Thread.begin node position).Within position where
  start := Nat.le_refl position
  opened _ mem := absurd mem List.not_mem_nil
  groups _ mem := absurd mem List.not_mem_nil

theorem Thread.Within.finish {thread : Thread} {position : Nat} (h : thread.Within position) :
    (thread.finish position).Within position :=
  ⟨⟨h.start, Nat.le_refl position⟩, h.groups⟩

theorem Thread.Within.openGroup {thread : Thread} {position : Nat} (h : thread.Within position)
    (frames : List Frame) (index : Nat) :
    Thread.Within { thread with frames := frames, opened := (index, position) :: thread.opened }
      position where
  start := h.start
  opened entry mem := by
    rcases List.mem_cons.1 mem with rfl | mem
    · exact Nat.le_refl position
    · exact h.opened entry mem
  groups := h.groups

theorem Thread.Within.closeGroup {thread : Thread} {position : Nat} (h : thread.Within position)
    (frames : List Frame) (index : Nat) :
    let start := (thread.opened.lookup index).getD position
    Thread.Within { thread with
      frames := frames, groups := (index, ⟨start, position⟩) :: thread.groups } position where
  start := h.start
  opened := h.opened
  groups entry mem := by
    rcases List.mem_cons.1 mem with rfl | mem
    · refine ⟨?_, Nat.le_refl position⟩
      cases opened : thread.opened.lookup index with
      | none => exact Nat.le_refl position
      | some start =>
        obtain ⟨before, after, split, -⟩ := List.lookup_eq_some_iff.1 opened
        exact h.opened (index, start) (by simp [split])
    · exact h.groups entry mem

theorem Thread.Within.of_branch {thread preferred other : Thread} {greedy : Bool} {position : Nat}
    {inside outside : List Frame} (h : thread.Within position)
    (branch : Unfolding.branch greedy { thread with frames := inside }
      { thread with frames := outside } = .two preferred other) :
    preferred.Within position ∧ other.Within position := by
  rcases Unfolding.branch_eq_two branch with ⟨rfl, rfl⟩ | ⟨rfl, rfl⟩
  · exact ⟨h.withFrames inside, h.withFrames outside⟩
  · exact ⟨h.withFrames outside, h.withFrames inside⟩

theorem Thread.within_of_unfoldOnce_one {place : Place} {thread next : Thread}
    (h : thread.Within place.position) (step : thread.unfoldOnce place = .one next) :
    next.Within place.position := by
  unfold unfoldOnce at step
  split at step
  case h_1 => cases step
  case h_2 => cases step; exact h.closeGroup _ _
  case h_3 => cases step
  case h_4 => cases step; exact h.withFrames _
  case h_5 => exact absurd step Unfolding.branch_ne_one
  case h_6 =>
    split at step
    case h_2 => split at step <;> cases step
    case h_3 =>
      split at step
      · cases step; exact h.withFrames _
      · cases step
    case h_6 => cases step; exact h.openGroup _ _
    case h_8 => exact absurd step Unfolding.branch_ne_one
    case h_9 => exact absurd step Unfolding.branch_ne_one
    all_goals cases step
    all_goals exact h.withFrames _

theorem Thread.within_of_unfoldOnce_two {place : Place} {thread preferred other : Thread}
    (h : thread.Within place.position) (step : thread.unfoldOnce place = .two preferred other) :
    preferred.Within place.position ∧ other.Within place.position := by
  unfold unfoldOnce at step
  split at step
  case h_5 => exact h.of_branch step
  case h_6 =>
    split at step
    case h_2 => split at step <;> cases step
    case h_3 => split at step <;> cases step
    case h_5 => cases step; exact ⟨h.withFrames _, h.withFrames _⟩
    case h_8 => exact h.of_branch step
    case h_9 => exact h.of_branch step
    all_goals cases step
  all_goals cases step

theorem Thread.unfold_within {place : Place} (seen : FrameSet) (thread : Thread)
    (h : thread.Within place.position) :
    ∀ waiting ∈ (thread.unfold place seen).2, waiting.Within place.position := by
  induction seen, thread using Thread.unfold.induct place with
  | case1 seen thread step =>
    rw [unfold, step]
    simp
  | case2 seen thread next step ih =>
    rw [unfold, step]
    exact ih (within_of_unfoldOnce_one h step)
  | case3 seen thread step known =>
    rw [unfold, step]
    simp [known]
  | case4 seen thread step new =>
    rw [unfold, step]
    simpa [new] using h
  | case5 seen thread preferred other step known =>
    rw [unfold, step]
    simp [known]
  | case6 seen thread preferred other step new first ihPreferred ihOther =>
    obtain ⟨hPreferred, hOther⟩ := within_of_unfoldOnce_two h step
    intro waiting mem
    rw [unfold, step] at mem
    simp only [new] at mem
    rcases List.mem_append.1 mem with mem | mem
    · exact ihPreferred hPreferred waiting mem
    · exact ihOther hOther waiting mem

theorem unfoldAll_within (place : Place) (seen : FrameSet) (threads : List Thread)
    (h : ∀ thread ∈ threads, thread.Within place.position) :
    ∀ waiting ∈ unfoldAll place seen threads, waiting.Within place.position := by
  induction threads generalizing seen with
  | nil => simp [unfoldAll]
  | cons thread others ih =>
    intro waiting mem
    rcases List.mem_append.1 mem with mem | mem
    · exact thread.unfold_within seen (h thread List.mem_cons_self) waiting mem
    · exact ih _ (fun other mem => h other (List.mem_cons_of_mem _ mem)) waiting mem

theorem Thread.Within.of_read {c : Char} {thread next : Thread} {position : Nat}
    (h : thread.Within position) (read : thread.read? c = some next) :
    next.Within (position + 1) := by
  unfold read? at read
  split at read
  · split at read
    · cases read
      exact (h.withFrames _).mono (Nat.le_succ position)
    · cases read
  · cases read

namespace Node

theorem started_within (node : Node) {position : Nat} {threads : List Thread}
    (h : ∀ thread ∈ threads, thread.Within position) (found : Option Match) :
    ∀ thread ∈ if found.isNone then threads ++ [Thread.begin node position] else threads,
      thread.Within position := by
  split
  · intro thread mem
    rcases List.mem_append.1 mem with mem | mem
    · exact h thread mem
    · exact List.mem_singleton.1 mem ▸ Thread.Within.begin node position
  · exact h

theorem best_within {waiting : List Thread} {found : Option Match} {position length : Nat}
    (hWaiting : ∀ thread ∈ waiting, thread.Within position) (le : position ≤ length)
    (hFound : ∀ best ∈ found, best.Within length) :
    ∀ best ∈ match (waiting.dropWhile (! ·.frames.isEmpty)).head? with
      | some complete => some (complete.finish position)
      | none => found, best.Within length := by
  split
  · rename_i complete head
    rintro best ⟨⟩
    have mem := (List.dropWhile_sublist _).mem (List.mem_of_mem_head? head)
    exact (hWaiting complete mem).finish.mono le
  · exact hFound

theorem scan_within (node : Node) {length : Nat} (rest : List Char) (before : Option Char)
    {position : Nat} {threads : List Thread} {found : Option Match}
    (end_eq : position + rest.length = length)
    (hThreads : ∀ thread ∈ threads, thread.Within position)
    (hFound : ∀ best ∈ found, best.Within length) :
    ∀ best ∈ node.scan before position threads found rest, best.Within length := by
  induction rest generalizing before position threads found with
  | nil =>
    have hWaiting := unfoldAll_within ⟨before, position, none⟩ .empty _
      (node.started_within hThreads found)
    exact best_within hWaiting (by simp at end_eq; omega) hFound
  | cons c rest ih =>
    have hWaiting := unfoldAll_within ⟨before, position, some c⟩ .empty _
      (node.started_within hThreads found)
    rw [List.length_cons] at end_eq
    have hBest := best_within hWaiting (show position ≤ length by omega) hFound
    rw [scan]
    refine iteInduction (motive := fun result : Option Match => ∀ best ∈ result, best.Within length)
      (fun _ => hBest) fun _ => ih (some c) (show position + 1 + rest.length = length by omega) ?_
        hBest
    intro next mem
    obtain ⟨thread, live, read⟩ := List.mem_filterMap.1 mem
    exact (hWaiting thread ((List.takeWhile_sublist _).mem live)).of_read read

theorem findAt?_within {node : Node} {text : List Char} {position : Nat} {found : Match}
    (h : node.findAt? text position = some found) : found.Within text.length := by
  unfold findAt? at h
  split at h
  · refine node.scan_within (text.drop position) _ ?_ (by simp) (by simp) found h
    rw [List.length_drop]
    omega
  · cases h

theorem findAfter?_within {node : Node} {text : List Char} {position : Nat} {found : Match}
    (h : node.findAfter? text position = some found) : found.Within text.length := by
  unfold findAfter? at h
  split at h
  · cases h
  · rename_i first located
    split at h
    · exact findAt?_within h
    · cases h
      exact findAt?_within located

theorem find?_within {node : Node} {text : List Char} {found : Match}
    (h : node.find? text = some found) : found.Within text.length :=
  node.scan_within text none (by simp) (by simp) (by simp) found h

theorem matchesAfter_within (node : Node) (text : List Char) (limit position : Nat) :
    ∀ found ∈ node.matchesAfter text limit position, found.Within text.length := by
  induction limit generalizing position with
  | zero => simp [matchesAfter]
  | succ limit ih =>
    unfold matchesAfter
    split
    · simp
    · rename_i first located
      intro found mem
      rcases List.mem_cons.1 mem with rfl | mem
      · exact findAfter?_within located
      · exact ih _ found mem

theorem allMatches_within (node : Node) (text : List Char) :
    ∀ found ∈ node.allMatches text, found.Within text.length := by
  unfold allMatches
  split
  · simp
  · rename_i first located
    intro found mem
    rcases List.mem_cons.1 mem with rfl | mem
    · exact find?_within located
    · exact node.matchesAfter_within text _ _ found mem

end Node

theorem Pattern.group_within_of_find? {pattern : Pattern} {text : List Char} {index : Nat}
    {span : Span} (h : (pattern.find? text).bind (·.group? index) = some span) :
    span.Within text.length := by
  obtain ⟨found, located, group⟩ := Option.bind_eq_some_iff.1 h
  exact (Node.find?_within located).group group

theorem Pattern.group_within_of_findLast? {pattern : Pattern} {text : List Char} {index : Nat}
    {span : Span} (h : (pattern.findLast? text).bind (·.group? index) = some span) :
    span.Within text.length := by
  obtain ⟨found, located, group⟩ := Option.bind_eq_some_iff.1 h
  exact (pattern.node.allMatches_within text found (List.mem_of_getLast? located)).group group

end Postal
