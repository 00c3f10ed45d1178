import ContentEngine.Text.Ranges
/-!
# Blank characters, and what is done about them

A character is blank if Unicode calls it white space or if it is one of the four ASCII separators
U+001C to U+001F. The zero-width space U+200B is not blank. Texts that people type are trimmed of
blanks at both ends, and runs of blanks inside a line of text collapse to one space.
-/

namespace ContentEngine

/-- Whether a character is blank. -/
def isBlank (c : Char) : Bool :=
  let n := c.toNat
  (9 ≤ n && n ≤ 13) || (28 ≤ n && n ≤ 32) || n == 0x85 || n == 0xa0 || n == 0x1680
    || (0x2000 ≤ n && n ≤ 0x200a) || n == 0x2028 || n == 0x2029 || n == 0x202f || n == 0x205f
    || n == 0x3000

/-- What is left of a text when the characters of a class are taken off both its ends. -/
def trimBy (p : Char → Bool) (text : List Char) : List Char :=
  ((text.dropWhile p).reverse.dropWhile p).reverse

/-- A text with each longest run of characters of a class replaced by one separator. `within` says
whether the text continues a run whose separator has been written already. -/
def replaceRunsFrom (p : Char → Bool) (separator : Char) (within : Bool) : List Char → List Char
  | [] => []
  | c :: rest =>
    if p c then
      if within then replaceRunsFrom p separator true rest
      else separator :: replaceRunsFrom p separator true rest
    else c :: replaceRunsFrom p separator false rest

/-- A text with each longest run of characters of a class replaced by one separator. -/
def replaceRuns (p : Char → Bool) (separator : Char) (text : List Char) : List Char :=
  replaceRunsFrom p separator false text

/-- A text without the blanks at its ends. -/
def trim (text : String) : String :=
  String.ofList (trimBy isBlank text.toList)

/-- A text on one line: runs of blanks become one space, and there is none at either end. -/
def collapse (text : String) : String :=
  String.ofList (trimBy isBlank (replaceRuns isBlank ' ' text.toList))

/-- Whether a text holds nothing but blanks. -/
def isBlankText (text : String) : Bool :=
  text.toList.all isBlank

end ContentEngine
