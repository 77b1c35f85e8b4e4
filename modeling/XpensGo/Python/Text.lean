/-!
# Texts of Python

Methods of `str` that depend on no table of Unicode beyond white space.
-/

namespace Python

/-- `str.isspace` of one character, which is also `\s`. -/
def isSpace (char : Char) : Bool :=
  let code := char.toNat
  (0x09 ≤ code && code ≤ 0x0d) || (0x1c ≤ code && code ≤ 0x20) ||
    code = 0x85 || code = 0xa0 || code = 0x1680 ||
    (0x2000 ≤ code && code ≤ 0x200a) || code = 0x2028 || code = 0x2029 ||
    code = 0x202f || code = 0x205f || code = 0x3000

/-- `text.rstrip(characters)`, for a test on the characters. -/
def rstripWhere (removed : Char → Bool) (text : String) : String :=
  String.ofList (text.toList.reverse.dropWhile removed).reverse

/-- `text.strip(characters)`. -/
def stripWhere (removed : Char → Bool) (text : String) : String :=
  rstripWhere removed (String.ofList (text.toList.dropWhile removed))

/-- `text.strip()`. -/
def strip (text : String) : String :=
  stripWhere isSpace text

def startsWith (first : Char) (text : String) : Bool :=
  text.toList.head? = some first

def endsWith (last : Char) (text : String) : Bool :=
  text.toList.getLast? = some last

/-- The characters after so many that are passed over, less every occurrence of
a word. -/
def removeFrom (word : List Char) : Nat → List Char → List Char
  | _, [] => []
  | passed + 1, _ :: text => removeFrom word passed text
  | 0, char :: text =>
      if word.isPrefixOf (char :: text) then
        removeFrom word (word.length - 1) text
      else
        char :: removeFrom word 0 text

/-- `text.replace(word, "")`. -/
def remove (word text : String) : String :=
  String.ofList (removeFrom word.toList 0 text.toList)

/-- The characters at which `splitlines` ends a line; a line feed ends the one
of the carriage return before it. -/
def isLineEnd (char : Char) : Bool :=
  let code := char.toNat
  (0x0a ≤ code && code ≤ 0x0d) || (0x1c ≤ code && code ≤ 0x1e) ||
    code = 0x85 || code = 0x2028 || code = 0x2029

/-- The lines from a place on, the first of which goes on with what is read of
it. -/
def linesFrom (read : List Char) : List Char → List String
  | [] => if read = [] then [] else [String.ofList read.reverse]
  | char :: text =>
      if isLineEnd char && !(char = '\r' && text.head? = some '\n') then
        String.ofList (char :: read).reverse :: linesFrom [] text
      else
        linesFrom (char :: read) text

/-- `text.splitlines(keepends=True)`. -/
def splitlines (text : String) : List String :=
  linesFrom [] text.toList

end Python
