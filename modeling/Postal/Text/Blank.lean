import Postal.Unicode.Character

namespace Postal

open Unicode

def trimStart (text : List Char) : List Char :=
  text.dropWhile isWhitespace

def trimEnd (text : List Char) : List Char :=
  (text.reverse.dropWhile isWhitespace).reverse

def trim (text : List Char) : List Char :=
  trimEnd (trimStart text)

/-- A text with every run of characters that satisfy a test reduced to one `mark`; `inRun` says
whether such a run precedes it. -/
def collapseAfter (test : Char → Bool) (mark : Char) (inRun : Bool) : List Char → List Char
  | [] => []
  | c :: rest =>
    if test c then
      if inRun then collapseAfter test mark true rest
      else mark :: collapseAfter test mark true rest
    else c :: collapseAfter test mark false rest

def collapse (test : Char → Bool) (mark : Char) (text : List Char) : List Char :=
  collapseAfter test mark false text

def isBlank (text : List Char) : Bool :=
  text.all isWhitespace

theorem mem_of_mem_trimStart {c : Char} {text : List Char} (h : c ∈ trimStart text) : c ∈ text :=
  (List.dropWhile_sublist isWhitespace).mem h

theorem mem_of_mem_trimEnd {c : Char} {text : List Char} (h : c ∈ trimEnd text) : c ∈ text := by
  have := (List.dropWhile_sublist isWhitespace).mem (List.mem_reverse.1 h)
  exact List.mem_reverse.1 this

theorem mem_of_mem_trim {c : Char} {text : List Char} (h : c ∈ trim text) : c ∈ text :=
  mem_of_mem_trimStart (mem_of_mem_trimEnd h)

end Postal
