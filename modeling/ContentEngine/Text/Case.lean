import ContentEngine.Text.CaseTable
/-!
# Upper and lower case

The full Unicode case maps: a character may have a form of several characters (`ß` is `SS` in upper
case, `İ` is `i` with a dot above in lower case), and a capital sigma at the end of a word has a
lower-case form of its own. ASCII is decided without a table.
-/

namespace ContentEngine

/-- Whether a character is a letter `A` to `Z`. -/
def isAsciiUpper (c : Char) : Bool :=
  'A' ≤ c && c ≤ 'Z'

/-- Whether a character is a letter `a` to `z`. -/
def isAsciiLower (c : Char) : Bool :=
  'a' ≤ c && c ≤ 'z'

/-- Whether a character is a digit `0` to `9`. -/
def isAsciiDigit (c : Char) : Bool :=
  '0' ≤ c && c ≤ '9'

/-- The image of a character under a case map that is given by its stretches. -/
def caseImage (ranges : List CaseRange) (c : Char) : Char :=
  (ranges.findSome? fun r => r.image? c).getD c

/-- The lower-case form of a character that is not a capital sigma. -/
def lowerChar (c : Char) : List Char :=
  if c.toNat < 128 then [if isAsciiUpper c then Char.ofNat (c.toNat + 32) else c]
  else if c = '\u0130' then ['i', '\u0307']
  else [caseImage lowerRanges c]

/-- The upper-case form of a character. -/
def upperChar (c : Char) : List Char :=
  if c.toNat < 128 then [if isAsciiLower c then Char.ofNat (c.toNat - 32) else c]
  else
    match upperExpansions.lookup c.toNat with
    | some expansion => expansion.toList
    | none => [caseImage upperRanges c]

/-- Whether a character is passed over in the search for a neighbouring letter. -/
def isCaseIgnorable (c : Char) : Bool :=
  caseIgnorable.contains c

/-- Whether a character is a letter that has a case. -/
def isCased (c : Char) : Bool :=
  if c.toNat < 128 then isAsciiUpper c || isAsciiLower c else casedLetters.contains c

/-- Whether the next character that is not passed over is a letter. -/
def meetsCased (text : List Char) : Bool :=
  match text.dropWhile isCaseIgnorable with
  | [] => false
  | c :: _ => isCased c

/-- A text in lower case, where `before` is what precedes it, the nearest character first. A capital
sigma takes its final form if a letter precedes it and none follows it. -/
def lowerAfter (before : List Char) : List Char → List Char
  | [] => []
  | c :: rest =>
    if c = '\u03a3' then
      (if meetsCased before && !meetsCased rest then '\u03c2' else '\u03c3')
        :: lowerAfter (c :: before) rest
    else lowerChar c ++ lowerAfter (c :: before) rest

/-- A text in lower case. -/
def lower (text : List Char) : List Char :=
  lowerAfter [] text

/-- A text in upper case. -/
def upper (text : List Char) : List Char :=
  text.flatMap upperChar

/-- A string in lower case. -/
def lowerText (text : String) : String :=
  String.ofList (lower text.toList)

/-- A string in upper case. -/
def upperText (text : String) : String :=
  String.ofList (upper text.toList)

end ContentEngine
