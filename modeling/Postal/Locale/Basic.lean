import Postal.Text.Split

namespace Postal

structure Locale where
  language : Option String
  script : Option String
  region : Option String
deriving DecidableEq, Repr, Inhabited

namespace Locale

def rootSpec : String := "root"

def undetermined : String := "und"

def root : Locale := ⟨none, none, none⟩

def tagParts (tag : List Char) : List (List Char) :=
  (splitWhere (fun c => c == '-' || c == '_') tag).filter (! ·.isEmpty)

/-- Whether a part is the language: two or three letters in first place. Standing alone it must be
in lower case, since two capitals alone name a region. -/
def isLanguagePart (lone isFirst : Bool) (part : List Char) : Bool :=
  isFirst && (part.length == 2 || part.length == 3) && part.all Char.isAlpha &&
    (! lone || part.all Char.isLower)

def titlecase : List Char → List Char
  | [] => []
  | c :: rest => c.toUpper :: rest.map Char.toLower

def addPart (lone isFirst : Bool) (locale : Locale) (part : List Char) : Locale :=
  if isLanguagePart lone isFirst part then
    { locale with language := some (String.ofList (part.map Char.toLower)) }
  else if part.length == 4 && part.all Char.isAlpha && locale.script.isNone then
    { locale with script := some (String.ofList (titlecase part)) }
  else if part.length == 2 && part.all Char.isAlpha && locale.region.isNone then
    { locale with region := some (String.ofList (part.map Char.toUpper)) }
  else if part.length == 3 && part.all Char.isDigit && locale.region.isNone then
    { locale with region := some (String.ofList part) }
  else locale

def determined (locale : Locale) : Locale :=
  if locale.language = some undetermined then { locale with language := none } else locale

def ofParts : List (List Char) → Locale
  | [] => root
  | first :: others =>
    let start := addPart others.isEmpty true root first
    determined (others.foldl (addPart others.isEmpty false) start)

def ofTag (tag : String) : Locale :=
  ofParts (tagParts tag.toList)

/-- The locale of a region alone, under which the data of a territory are found. Any text is taken
for a region. -/
def ofRegion (region : String) : Locale :=
  ⟨none, none, some (String.ofList (region.toList.map Char.toUpper))⟩

def withLanguageOf (locale other : Locale) : Locale :=
  { other with region := locale.region }

def isAsian (locale : Locale) : Bool :=
  locale.language == some "zh" || locale.language == some "ja" || locale.language == some "ko"

def spec (locale : Locale) : String :=
  if locale = root then rootSpec
  else
    "-".intercalate (locale.language.getD undetermined :: locale.script.toList ++
      locale.region.toList)

/-- The specs under which data for the locale are looked up, most specific first: those with the
language, then the region alone, then the root. -/
def chain (locale : Locale) : List String :=
  let withLanguage := match locale.language with
    | none => []
    | some _ =>
      (if locale.script.isSome && locale.region.isSome then [locale.spec] else []) ++
      (if locale.region.isSome then [{ locale with script := none }.spec] else []) ++
      (if locale.script.isSome then [{ locale with region := none }.spec] else []) ++
      [{ locale with script := none, region := none }.spec]
  let ofRegion :=
    if locale.region.isSome then [{ locale with language := none, script := none }.spec] else []
  withLanguage ++ ofRegion ++ [rootSpec]

end Locale

end Postal
