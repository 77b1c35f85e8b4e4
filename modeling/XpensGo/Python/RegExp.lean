import XpensGo.Python.Text

/-!
# Regular expressions of Python

The fragment of the `re` module that consists of tests on single characters,
greedy and lazy repetitions of a test, alternatives, one capturing group and the
assertions `\b` and `$`.  `alternatives` lists the ways in which a pattern
matches at a place in the order in which a backtracking matcher meets them.
-/

namespace Python

/-- The ASCII letter that `re.IGNORECASE` takes a character for. -/
def foldCase (char : Char) : Char :=
  if 'A' ≤ char && char ≤ 'Z' then
    Char.ofNat (char.toNat + 0x20)
  else if char.toNat = 0x130 || char.toNat = 0x131 then
    'i'
  else if char.toNat = 0x17f then
    's'
  else if char.toNat = 0x212a then
    'k'
  else
    char

/-- Patterns.  A text is matched by the capturing group at most once. -/
inductive Pattern where
  | empty
  | one (test : Char → Bool)
  | repeated (test : Char → Bool) (least : Nat) (most : Option Nat)
      (greedy : Bool)
  | sequence (first second : Pattern)
  | either (left right : Pattern)
  | group (body : Pattern)
  /-- `\b`, with the test `\w`. -/
  | boundary (isWord : Char → Bool)
  /-- `$`. -/
  | ending

/-- A place in a text: the characters before it, the last one first, and after
it, and what the group has captured. -/
structure Place where
  before : List Char
  after : List Char
  captured : Option (List Char) := none

namespace Place

/-- The place so many characters further on. -/
def advance (place : Place) (count : Nat) : Place :=
  { place with
    before := (place.after.take count).reverse ++ place.before
    after := place.after.drop count }

/-- The text between a place and a later one. -/
def upTo (start finish : Place) : List Char :=
  start.after.take (start.after.length - finish.after.length)

def atBoundary (isWord : Char → Bool) (place : Place) : Bool :=
  place.before.head?.any isWord != place.after.head?.any isWord

def atEnding (place : Place) : Bool :=
  place.after = [] || place.after = ['\n']

end Place

namespace Pattern

/-- The numbers of characters that a repetition takes, in the order in which it
tries them. -/
def counts (test : Char → Bool) (least : Nat) (most : Option Nat)
    (greedy : Bool) (text : List Char) : List Nat :=
  let longest := (text.takeWhile test).length
  let available := (most.map (fun most => min most longest)).getD longest
  let tried := (List.range (available + 1)).filter (fun count => least ≤ count)
  if greedy then tried.reverse else tried

def alternatives : Pattern → Place → List Place
  | .empty, place => [place]
  | .one test, place =>
      if place.after.head?.any test then [place.advance 1] else []
  | .repeated test least most greedy, place =>
      (counts test least most greedy place.after).map place.advance
  | .sequence first second, place =>
      (alternatives first place).flatMap (alternatives second)
  | .either left right, place =>
      alternatives left place ++ alternatives right place
  | .group body, place =>
      (alternatives body place).map (fun finish =>
        { finish with captured := some (place.upTo finish) })
  | .boundary isWord, place =>
      if place.atBoundary isWord then [place] else []
  | .ending, place => if place.atEnding then [place] else []

/-- A match: the text before it, its own text, the text of the group and the
text after it. -/
structure Match where
  skipped : String
  text : String
  captured : Option String
  rest : List Char

/-- `re.match` at a place. -/
def matchAt (pattern : Pattern) (start : Place) : Option Match :=
  (pattern.alternatives start).head?.map (fun finish =>
    { skipped := String.ofList start.before.reverse
      text := String.ofList (start.upTo finish)
      captured := finish.captured.map String.ofList
      rest := finish.after })

/-- The match at the first place, from the given one on, that has one. -/
def searchFrom (pattern : Pattern) : List Char → List Char → Option Match
  | before, [] =>
      pattern.matchAt
        { before := before
          after := [] }
  | before, char :: after =>
      match pattern.matchAt
        { before := before
          after := char :: after } with
      | some found => some found
      | none => searchFrom pattern (char :: before) after

/-- `re.search`. -/
def search (pattern : Pattern) (text : String) : Option Match :=
  pattern.searchFrom [] text.toList

/-- `re.split` by a pattern that matches no empty text; every match takes a
character. -/
def splitFrom (pattern : Pattern) : Nat → List Char → List String
  | 0, text => [String.ofList text]
  | fuel + 1, text =>
      match pattern.searchFrom [] text with
      | none => [String.ofList text]
      | some found => found.skipped :: splitFrom pattern fuel found.rest

def split (pattern : Pattern) (text : String) : List String :=
  pattern.splitFrom text.toList.length text.toList

/-- A text as it is. -/
def exactly (text : String) : Pattern :=
  text.toList.foldr (fun char rest =>
    .sequence (.one (fun other => other = char)) rest) .empty

/-- A text in any case. -/
def anyCase (text : String) : Pattern :=
  text.toList.foldr (fun char rest =>
    .sequence (.one (fun other => foldCase other = foldCase char)) rest) .empty

/-- `body?`. -/
def optional (body : Pattern) : Pattern :=
  .either body .empty

/-- `\s*`. -/
def spaces : Pattern :=
  .repeated isSpace 0 none true

/-- `\s+`. -/
def someSpaces : Pattern :=
  .repeated isSpace 1 none true

def sequences (parts : List Pattern) : Pattern :=
  parts.foldr .sequence .empty

def choices (first : Pattern) (others : List Pattern) : Pattern :=
  others.foldl .either first

end Pattern

end Python
