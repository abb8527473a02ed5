import Postal.Address.Basic
import Postal.Unicode.Character

namespace Postal

open Unicode

def asianRanges : List (Nat × Nat) :=
  [(0x1100, 0x11FF),    -- Hangul Jamo
   (0x2E80, 0x2FDF),    -- radicals
   (0x3005, 0x3007),    -- iteration mark, closing mark, zero
   (0x3021, 0x3029),    -- Hangzhou numerals
   (0x3040, 0x309F),    -- Hiragana
   (0x30A0, 0x30FF),    -- Katakana
   (0x3100, 0x312F),    -- Bopomofo
   (0x3130, 0x318F),    -- Hangul compatibility Jamo
   (0x31A0, 0x31BF),    -- extended Bopomofo
   (0x31F0, 0x31FF),    -- Katakana phonetic extensions
   (0x3400, 0x4DBF),    -- ideographs, extension A
   (0x4E00, 0x9FFF),    -- ideographs
   (0xA960, 0xA97F),    -- Hangul Jamo, extension A
   (0xAC00, 0xD7AF),    -- Hangul syllables
   (0xD7B0, 0xD7FF),    -- Hangul Jamo, extension B
   (0xF900, 0xFAFF),    -- compatibility ideographs
   (0xFF66, 0xFF9F),    -- halfwidth Katakana
   (0xFFA0, 0xFFDC),    -- halfwidth Hangul
   (0x20000, 0x3134F)]  -- ideographs, further extensions

def isAsianCharacter (c : Char) : Bool :=
  asianRanges.any fun (first, last) => first ≤ c.toNat && c.toNat ≤ last

def isOtherLetter (c : Char) : Bool :=
  ! isAsianCharacter c && isAlphabetic c

/-- The script family of some fragments: Asian if there is an Asian character and there are at least
as many of them as of other letters. -/
def detectScript (fragments : List (List Char)) : Script :=
  let asian := fragments.flatten.countP isAsianCharacter
  let other := fragments.flatten.countP isOtherLetter
  if 0 < asian ∧ other ≤ asian then .asian else .latin

end Postal
