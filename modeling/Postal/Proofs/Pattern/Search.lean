import Mathlib.Data.List.TakeWhile
import Postal.Pattern.Reader

namespace Postal

open Unicode

/-! ## Unfolding one thread -/

namespace Thread

variable {place : Place} {seen : FrameSet} {thread next preferred other : Thread}

theorem unfold_of_stuck (step : thread.unfoldOnce place = .stuck) :
    thread.unfold place seen = (seen, []) := by
  rw [unfold, step]

theorem unfold_of_one (step : thread.unfoldOnce place = .one next) :
    thread.unfold place seen = next.unfold place seen := by
  rw [unfold, step]

theorem unfold_of_waiting (step : thread.unfoldOnce place = .waiting)
    (new : seen.contains thread.frames = false) :
    thread.unfold place seen = (seen.insert thread.frames, [thread]) := by
  rw [unfold, step]
  simp [new]

theorem unfold_of_two (step : thread.unfoldOnce place = .two preferred other)
    (new : seen.contains thread.frames = false) :
    thread.unfold place seen =
      let first := preferred.unfold place (seen.insert thread.frames)
      let second := other.unfold place first.1
      (second.1, first.2 ++ second.2) := by
  rw [unfold, step]
  simp [new]

theorem unfold_of_known (step : thread.unfoldOnce place = .two preferred other)
    (known : seen.contains thread.frames = true) : thread.unfold place seen = (seen, []) := by
  rw [unfold, step]
  simp [known]

theorem unfold_waiting (step : thread.unfoldOnce place = .waiting) :
    (thread.unfold place seen).2 = [] ∨ (thread.unfold place seen).2 = [thread] := by
  rw [unfold, step]
  cases seen.contains thread.frames <;> simp

end Thread

/-! ## One step of a search -/

namespace Node

variable {node : Node} {before : Option Char} {position : Nat} {threads : List Thread}

def waitingAt (node : Node) (place : Place) (threads : List Thread) : List Thread :=
  unfoldAll place .empty (threads ++ [Thread.begin node place.position])

theorem scan_of_complete {rest : List Char} {complete : Thread} {later : List Thread}
    (waiting : node.waitingAt ⟨before, position, rest.head?⟩ threads = complete :: later)
    (done : complete.frames = []) :
    node.scan before position threads none rest = some (complete.finish position) := by
  rw [waitingAt] at waiting
  cases rest with
  | nil =>
    rw [List.head?_nil] at waiting
    rw [scan]
    simp [waiting, done]
  | cons c rest =>
    rw [List.head?_cons] at waiting
    rw [scan]
    simp [waiting, done]

theorem scan_nil_of_idle (idle : node.waitingAt ⟨before, position, none⟩ threads = []) :
    node.scan before position threads none [] = none := by
  rw [waitingAt] at idle
  rw [scan]
  simp [idle]

theorem scan_cons_of_live {c : Char} {rest : List Char}
    (live : ∀ thread ∈ node.waitingAt ⟨before, position, some c⟩ threads, thread.frames ≠ []) :
    node.scan before position threads none (c :: rest) =
      node.scan (some c) (position + 1)
        ((node.waitingAt ⟨before, position, some c⟩ threads).filterMap (·.read? c)) none rest := by
  rw [scan]
  rw [waitingAt] at live ⊢
  simp only [Option.isNone_none, ↓reduceIte, List.head?_cons]
  generalize unfoldAll _ _ _ = waiting at live ⊢
  have alive : ∀ thread ∈ waiting, (! thread.frames.isEmpty) = true := by
    intro thread mem
    simp [live thread mem]
  have whole : waiting.takeWhile (! ·.frames.isEmpty) = waiting := List.takeWhile_eq_self_iff.mpr alive
  have nothing : waiting.dropWhile (! ·.frames.isEmpty) = [] := List.dropWhile_eq_nil_iff.mpr alive
  rw [whole, nothing]
  simp

theorem allMatches_of_findAt? {text : List Char} {found : Match} (first : node.find? text = some found)
    (after : node.findAt? text found.span.stop = none) : node.allMatches text = [found] := by
  rw [allMatches, first]
  dsimp only
  cases text.length with
  | zero => rfl
  | succ limit => rw [matchesAfter, findAfter?, after]

end Node

/-! ## Words of a class -/

namespace Node

variable {cls : CharClass} {place : Place} {seen : FrameSet} {count start : Nat}

def boundary : Node :=
  .assertion (.wordBoundary false)

def copies (cls : CharClass) (count : Nat) : Node :=
  .repetition count (some count) true (.chars cls)

def word (cls : CharClass) (count : Nat) : Node :=
  .seq boundary (.seq (copies cls count) boundary)

def wordThread (cls : CharClass) (count start : Nat) : Thread :=
  ⟨[.pattern (copies cls count), .pattern boundary], start, [], []⟩

def wordWaiting (cls : CharClass) (count start : Nat) : Thread :=
  ⟨[.pattern (.chars cls), .pattern (copies cls count), .pattern boundary], start, [], []⟩

def Bounds (place : Place) : Prop :=
  (Assertion.wordBoundary false).holds place.before place.after = true

theorem unfold_boundary (h : Bounds place) (frames : List Frame) :
    Thread.unfold place seen ⟨.pattern boundary :: frames, start, [], []⟩ =
      Thread.unfold place seen ⟨frames, start, [], []⟩ :=
  Thread.unfold_of_one (if_pos h)

theorem unfold_boundary_stuck (h : ¬ Bounds place) (frames : List Frame) :
    Thread.unfold place seen ⟨.pattern boundary :: frames, start, [], []⟩ = (seen, []) :=
  Thread.unfold_of_stuck (if_neg h)

theorem unfold_begin_word (h : Bounds place) :
    (Thread.begin (word cls count) start).unfold place seen =
      (wordThread cls count start).unfold place seen := by
  have opened : (Thread.begin (word cls count) start).unfoldOnce place =
      .one ⟨[.pattern boundary, .pattern (.seq (copies cls count) boundary)], start, [], []⟩ := rfl
  have split : Thread.unfoldOnce place ⟨[.pattern (.seq (copies cls count) boundary)], start, [], []⟩ =
      .one (wordThread cls count start) := rfl
  rw [Thread.unfold_of_one opened, unfold_boundary h, Thread.unfold_of_one split]

theorem unfold_begin_word_stuck (h : ¬ Bounds place) :
    (Thread.begin (word cls count) start).unfold place seen = (seen, []) := by
  have opened : (Thread.begin (word cls count) start).unfoldOnce place =
      .one ⟨[.pattern boundary, .pattern (.seq (copies cls count) boundary)], start, [], []⟩ := rfl
  rw [Thread.unfold_of_one opened, unfold_boundary_stuck h]

theorem unfold_wordThread_succ :
    (wordThread cls (count + 1) start).unfold place seen =
      (wordWaiting cls count start).unfold place seen := by
  apply Thread.unfold_of_one
  cases count <;> rfl

theorem unfold_wordThread_stuck (h : place.after.any cls.contains = false) :
    (wordThread cls (count + 1) start).unfold place seen = (seen, []) := by
  have stuck : (wordWaiting cls count start).unfoldOnce place = .stuck := by
    simp [wordWaiting, Thread.unfoldOnce, h]
  rw [unfold_wordThread_succ, Thread.unfold_of_stuck stuck]

theorem unfold_wordThread_reads (h : place.after.any cls.contains = true) :
    ((wordThread cls (count + 1) start).unfold place .empty).2 = [wordWaiting cls count start] := by
  have waits : (wordWaiting cls count start).unfoldOnce place = .waiting := by
    simp [wordWaiting, Thread.unfoldOnce, h]
  rw [unfold_wordThread_succ, Thread.unfold_of_waiting waits rfl]

theorem unfold_wordThread_zero (h : Bounds place) :
    ((wordThread cls 0 start).unfold place .empty).2 = [⟨[], start, [], []⟩] := by
  have skipped : (wordThread cls 0 start).unfoldOnce place =
      .one ⟨[.pattern boundary], start, [], []⟩ := rfl
  have done : Thread.unfoldOnce place ⟨[], start, [], []⟩ = .waiting := rfl
  rw [Thread.unfold_of_one skipped, unfold_boundary h, Thread.unfold_of_waiting done rfl]

theorem read?_wordWaiting {c : Char} (h : cls.contains c = true) :
    (wordWaiting cls count start).read? c = some (wordThread cls count start) := by
  simp [wordWaiting, Thread.read?, h, wordThread, Frame.afterRead]

theorem bounds_iff {before after : Option Char} {position : Nat} :
    Bounds ⟨before, position, after⟩ ↔
      isWordNeighbour false before ≠ isWordNeighbour false after := by
  simp [Bounds, Assertion.holds]

theorem scan_wordThread {cls : CharClass} (whole start : Nat) {digits rest : List Char}
    (members : ∀ c ∈ digits, cls.contains c = true ∧ isWordCharacter c = true)
    (ends : isWordNeighbour false rest.head? = false) {before : Char}
    (inside : isWordCharacter before = true) (position : Nat) :
    (word cls whole).scan (some before) position [wordThread cls digits.length start] none
      (digits ++ rest) = some ⟨⟨start, position + digits.length⟩, []⟩ := by
  have neighbour : ∀ {c : Char}, isWordCharacter c = true → isWordNeighbour false (some c) = true := by
    intro c isWord
    simp [isWordNeighbour, isWord]
  induction digits generalizing before position with
  | nil =>
    have bounds : Bounds ⟨some before, position, rest.head?⟩ := by
      rw [bounds_iff, neighbour inside, ends]
      decide
    have waiting : ∃ later, (word cls whole).waitingAt ⟨some before, position, rest.head?⟩
        [wordThread cls 0 start] = ⟨[], start, [], []⟩ :: later := by
      rw [waitingAt, List.singleton_append, unfoldAll, unfold_wordThread_zero bounds]
      exact ⟨_, rfl⟩
    obtain ⟨later, waiting⟩ := waiting
    exact scan_of_complete waiting rfl
  | cons c digits ih =>
    obtain ⟨member, isWord⟩ := members c List.mem_cons_self
    have inner : ¬ Bounds ⟨some before, position, some c⟩ := by
      rw [bounds_iff, neighbour inside, neighbour isWord]
      decide
    have waiting : (word cls whole).waitingAt ⟨some before, position, some c⟩
        [wordThread cls (digits.length + 1) start] = [wordWaiting cls digits.length start] := by
      rw [waitingAt, List.singleton_append, unfoldAll, unfoldAll, unfoldAll,
        unfold_begin_word_stuck inner, unfold_wordThread_reads (by simpa using member)]
      rfl
    rw [List.cons_append, List.length_cons, scan_cons_of_live, waiting]
    · have rest := ih (fun other mem => members other (List.mem_cons_of_mem c mem)) isWord
        (position + 1)
      rw [List.filterMap_cons, read?_wordWaiting member]
      simpa [Nat.add_assoc, Nat.add_comm 1] using rest
    · rw [waiting]
      simp [wordWaiting]

theorem scan_word_none {cls : CharClass} {count : Nat} {rest : List Char}
    (others : ∀ c ∈ rest, cls.contains c = false) (before : Option Char) (position : Nat) :
    (word cls (count + 1)).scan before position [] none rest = none := by
  have idle : ∀ place : Place, place.after.any cls.contains = false →
      (word cls (count + 1)).waitingAt place [] = [] := by
    intro place other
    rw [waitingAt, List.nil_append, unfoldAll, unfoldAll, List.append_nil]
    by_cases bounds : Bounds place
    · rw [unfold_begin_word bounds, unfold_wordThread_stuck other]
    · rw [unfold_begin_word_stuck bounds]
  induction rest generalizing before position with
  | nil => exact scan_nil_of_idle (idle _ rfl)
  | cons c rest ih =>
    have nothing := idle ⟨before, position, some c⟩ (by simpa using others c List.mem_cons_self)
    rw [scan_cons_of_live, nothing, List.filterMap_nil]
    · exact ih (fun other mem => others other (List.mem_cons_of_mem c mem)) (some c) (position + 1)
    · simp [nothing]

/-- A word at the start of a text is its only match if no other character is of the class. -/
theorem allMatches_word {cls : CharClass} {count : Nat} {digits rest : List Char}
    (length : digits.length = count + 1)
    (members : ∀ c ∈ digits, cls.contains c = true ∧ isWordCharacter c = true)
    (ends : isWordNeighbour false rest.head? = false)
    (others : ∀ c ∈ rest, cls.contains c = false) :
    (word cls (count + 1)).allMatches (digits ++ rest) = [⟨⟨0, digits.length⟩, []⟩] := by
  have after : (word cls (count + 1)).findAt? (digits ++ rest) digits.length = none := by
    rw [findAt?, if_pos (by simp), List.drop_left]
    exact scan_word_none others _ _
  refine allMatches_of_findAt? ?_ after
  cases digits with
  | nil => cases length
  | cons c digits =>
    obtain ⟨member, isWord⟩ := members c List.mem_cons_self
    have bounds : Bounds ⟨none, 0, some c⟩ := by
      simp [bounds_iff, isWordNeighbour, isWord]
    have waiting : (word cls (count + 1)).waitingAt ⟨none, 0, some c⟩ [] =
        [wordWaiting cls count 0] := by
      rw [waitingAt, List.nil_append, unfoldAll, unfoldAll, List.append_nil,
        unfold_begin_word bounds, unfold_wordThread_reads (by simpa using member)]
    rw [find?, findFrom?, List.cons_append, scan_cons_of_live, waiting]
    · have rest := scan_wordThread (count + 1) 0
        (fun other mem => members other (List.mem_cons_of_mem c mem)) ends isWord 1
      rw [List.filterMap_cons, read?_wordWaiting member]
      rw [List.length_cons, Nat.add_right_cancel_iff] at length
      simpa [length, Nat.add_comm 1] using rest
    · rw [waiting]
      simp [wordWaiting]

/-! ## Runs up to the end of a line -/

def ending : Node :=
  .assertion .lineEnd

def lineTail (cls : CharClass) : Node :=
  .seq (.repetition 1 none true (.chars cls)) ending

def tailThread (cls : CharClass) (start : Nat) : Thread :=
  ⟨[.loop true .hasRead (.chars cls), .pattern ending], start, [], []⟩

def tailWaiting (cls : CharClass) (mark : LoopMark) (start : Nat) : Thread :=
  ⟨[.pattern (.chars cls), .loop true mark (.chars cls), .pattern ending], start, [], []⟩

def endingThread (start : Nat) : Thread :=
  ⟨[.pattern ending], start, [], []⟩

theorem unfoldOnce_tailThread :
    (tailThread cls start).unfoldOnce place =
      .two (tailWaiting cls .laterRound start) (endingThread start) := rfl

theorem unfold_endingThread_stuck {c : Char} (next : place.after = some c) (inLine : c ≠ '\n') :
    (endingThread start).unfold place seen = (seen, []) := by
  apply Thread.unfold_of_stuck
  simp [endingThread, ending, Thread.unfoldOnce, Assertion.holds, next, inLine]

theorem unfold_endingThread_done (last : place.after = none) (new : seen.contains [] = false) :
    ((endingThread start).unfold place seen).2 = [⟨[], start, [], []⟩] := by
  have ended : (endingThread start).unfoldOnce place = .one ⟨[], start, [], []⟩ := by
    simp [endingThread, ending, Thread.unfoldOnce, Assertion.holds, last]
  have done : Thread.unfoldOnce place ⟨[], start, [], []⟩ = .waiting := rfl
  rw [Thread.unfold_of_one ended, Thread.unfold_of_waiting done new]

theorem unfold_begin_lineTail :
    (Thread.begin (lineTail cls) start).unfold place seen =
      (tailWaiting cls .firstRound start).unfold place seen := by
  have opened : (Thread.begin (lineTail cls) start).unfoldOnce place =
      .one ⟨[.pattern (.repetition 1 none true (.chars cls)), .pattern ending], start, [], []⟩ := rfl
  have entered : Thread.unfoldOnce place
      ⟨[.pattern (.repetition 1 none true (.chars cls)), .pattern ending], start, [], []⟩ =
        .one (tailWaiting cls .firstRound start) := rfl
  rw [Thread.unfold_of_one opened, Thread.unfold_of_one entered]

theorem unfoldOnce_tailWaiting {mark : LoopMark} (h : place.after.any cls.contains = true) :
    (tailWaiting cls mark start).unfoldOnce place = .waiting := by
  simp [tailWaiting, Thread.unfoldOnce, h]

theorem unfold_tailWaiting_stuck {mark : LoopMark} (h : place.after.any cls.contains = false) :
    (tailWaiting cls mark start).unfold place seen = (seen, []) := by
  apply Thread.unfold_of_stuck
  simp [tailWaiting, Thread.unfoldOnce, h]

theorem read?_tailWaiting {mark : LoopMark} {c : Char} (h : cls.contains c = true) :
    (tailWaiting cls mark start).read? c = some (tailThread cls start) := by
  simp [tailWaiting, Thread.read?, h, tailThread, Frame.afterRead]

theorem unfoldAll_tailThreads (known : seen.contains (tailThread cls start).frames = true)
    (starts : List Nat) (threads : List Thread) :
    unfoldAll place seen (starts.map (tailThread cls) ++ threads) = unfoldAll place seen threads := by
  induction starts with
  | nil => rfl
  | cons other starts ih =>
    have passedOver : (tailThread cls other).unfold place seen = (seen, []) :=
      Thread.unfold_of_known unfoldOnce_tailThread known
    rw [List.map_cons, List.cons_append, unfoldAll, passedOver]
    exact ih

/-- Inside of a run the oldest thread goes on. Only the latest one waits besides it. -/
theorem waitingAt_tailThread (before : Option Char) {c : Char} (position : Nat)
    (member : cls.contains c = true) (inLine : c ≠ '\n') (start : Nat) (starts : List Nat) :
    ∃ more, (more = [] ∨ more = [tailWaiting cls .firstRound position]) ∧
      (lineTail cls).waitingAt ⟨before, position, some c⟩
          ((start :: starts).map (tailThread cls)) = tailWaiting cls .laterRound start :: more := by
  let place : Place := ⟨before, position, some c⟩
  let known := (FrameSet.empty.insert (tailThread cls start).frames).insert
    (tailWaiting cls .laterRound start).frames
  have reads : place.after.any cls.contains = true := by simpa [place] using member
  have different : (tailWaiting cls .laterRound start).frames ≠ (tailThread cls start).frames := by
    simp [tailWaiting, tailThread]
  have new : (FrameSet.empty.insert (tailThread cls start).frames).contains
      (tailWaiting cls .laterRound start).frames = false := by
    rw [FrameSet.contains_insert, decide_eq_false different]
    rfl
  have unfolded : (tailThread cls start).unfold place .empty =
      (known, [tailWaiting cls .laterRound start]) := by
    rw [Thread.unfold_of_two unfoldOnce_tailThread rfl,
      Thread.unfold_of_waiting (unfoldOnce_tailWaiting reads) new]
    dsimp only
    rw [unfold_endingThread_stuck rfl inLine]
    rfl
  have passedOver : known.contains (tailThread cls start).frames = true := by
    simp [known, FrameSet.contains_insert]
  refine ⟨((Thread.begin (lineTail cls) position).unfold place known).2, ?_, ?_⟩
  · rw [unfold_begin_lineTail]
    exact Thread.unfold_waiting (unfoldOnce_tailWaiting reads)
  · rw [waitingAt, List.map_cons, List.cons_append, unfoldAll, unfolded,
      unfoldAll_tailThreads passedOver, unfoldAll, unfoldAll, List.append_nil, List.singleton_append]

theorem scan_tailThread (start : Nat) {text : List Char}
    (members : ∀ c ∈ text, cls.contains c = true ∧ c ≠ '\n') (before : Option Char)
    (position : Nat) (starts : List Nat) :
    (lineTail cls).scan before position ((start :: starts).map (tailThread cls)) none text =
      some ⟨⟨start, position + text.length⟩, []⟩ := by
  induction text generalizing before position starts with
  | nil =>
    have waiting : ∃ later, (lineTail cls).waitingAt ⟨before, position, [].head?⟩
        ((start :: starts).map (tailThread cls)) = ⟨[], start, [], []⟩ :: later := by
      rw [waitingAt, List.map_cons, List.cons_append, unfoldAll,
        Thread.unfold_of_two unfoldOnce_tailThread rfl, unfold_tailWaiting_stuck rfl]
      dsimp only
      rw [unfold_endingThread_done rfl (by rw [FrameSet.contains_insert]; rfl)]
      exact ⟨_, rfl⟩
    obtain ⟨later, waiting⟩ := waiting
    exact scan_of_complete waiting rfl
  | cons c text ih =>
    obtain ⟨member, inLine⟩ := members c List.mem_cons_self
    obtain ⟨more, alike, waiting⟩ :=
      waitingAt_tailThread before position member inLine start starts
    have read : ∃ starts : List Nat,
        more.filterMap (·.read? c) = starts.map (tailThread cls) := by
      rcases alike with rfl | rfl
      · exact ⟨[], rfl⟩
      · exact ⟨[position], by rw [List.filterMap_cons, read?_tailWaiting member]; rfl⟩
    obtain ⟨starts', read⟩ := read
    rw [scan_cons_of_live, waiting, List.filterMap_cons, read?_tailWaiting member]
    · have rest := ih (fun other mem => members other (List.mem_cons_of_mem c mem)) (some c)
        (position + 1) starts'
      rw [List.map_cons, ← read] at rest
      rw [List.length_cons, Nat.add_comm text.length 1, ← Nat.add_assoc]
      exact rest
    · rw [waiting]
      rcases alike with rfl | rfl <;> simp [tailWaiting]

theorem waitingAt_begin_lineTail :
    (lineTail cls).waitingAt place [] =
      ((tailWaiting cls .firstRound place.position).unfold place .empty).2 := by
  rw [waitingAt, List.nil_append, unfoldAll, unfoldAll, List.append_nil, unfold_begin_lineTail]

theorem allMatches_lineTail {text : List Char} (filled : text ≠ [])
    (members : ∀ c ∈ text, cls.contains c = true ∧ c ≠ '\n') :
    (lineTail cls).allMatches text = [⟨⟨0, text.length⟩, []⟩] := by
  have after : (lineTail cls).findAt? text text.length = none := by
    rw [findAt?, if_pos (Nat.le_refl _), List.drop_length]
    apply scan_nil_of_idle
    rw [waitingAt_begin_lineTail, unfold_tailWaiting_stuck rfl]
  refine allMatches_of_findAt? ?_ after
  cases text with
  | nil => exact absurd rfl filled
  | cons c text =>
    obtain ⟨member, inLine⟩ := members c List.mem_cons_self
    have reads : (Option.some c).any cls.contains = true := by simpa using member
    have waiting : (lineTail cls).waitingAt ⟨none, 0, some c⟩ [] =
        [tailWaiting cls .firstRound 0] := by
      rw [waitingAt_begin_lineTail, Thread.unfold_of_waiting (unfoldOnce_tailWaiting reads) rfl]
    rw [find?, findFrom?, scan_cons_of_live, waiting, List.filterMap_cons,
      read?_tailWaiting member]
    · have rest := scan_tailThread 0 (fun other mem => members other (List.mem_cons_of_mem c mem))
        (some c) 1 []
      rw [List.length_cons, Nat.add_comm text.length 1]
      exact rest
    · rw [waiting]
      simp [tailWaiting]

end Node

end Postal
