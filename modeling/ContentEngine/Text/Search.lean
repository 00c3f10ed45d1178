/-!
# Splitting, finding and replacing

Operations on texts as lists of characters. Texts that are looked for are short and fixed, so the
plain algorithms do.
-/

namespace ContentEngine

/-- The parts of a text between the occurrences of a character. There is one more part than there
are occurrences. -/
def splitAtChar (separator : Char) : List Char → List (List Char)
  | [] => [[]]
  | c :: rest =>
    match splitAtChar separator rest with
    | [] => [[c]]
    | part :: parts => if c = separator then [] :: part :: parts else (c :: part) :: parts

/-- Whether a text occurs in another. -/
def occursIn (pattern : List Char) : List Char → Bool
  | [] => pattern.isEmpty
  | c :: rest => pattern.isPrefixOf (c :: rest) || occursIn pattern rest

/-- A text with the occurrences of a pattern replaced, from left to right. `skip` characters are
left of the occurrence that was replaced last. -/
def replaceFrom (pattern replacement : List Char) (skip : Nat) : List Char → List Char
  | [] => []
  | c :: rest =>
    match skip with
    | k + 1 => replaceFrom pattern replacement k rest
    | 0 =>
      if pattern.isPrefixOf (c :: rest) then
        replacement ++ replaceFrom pattern replacement (pattern.length - 1) rest
      else c :: replaceFrom pattern replacement 0 rest

/-- A text with the occurrences of a non-empty pattern replaced, from left to right. -/
def replaceAll (pattern replacement text : List Char) : List Char :=
  replaceFrom pattern replacement 0 text

/-- A text before the first occurrence of a character, and after it if there is one. -/
def cutAtFirst (separator : Char) : List Char → List Char × Option (List Char)
  | [] => ([], none)
  | c :: rest =>
    if c = separator then ([], some rest)
    else ((c :: (cutAtFirst separator rest).1), (cutAtFirst separator rest).2)

/-- A text before the last occurrence of a character and after it, if there is one. -/
def cutAtLast? (separator : Char) (text : List Char) : Option (List Char × List Char) :=
  match cutAtFirst separator text.reverse with
  | (_, none) => none
  | (after, some before) => some (before.reverse, after.reverse)

/-- The text that joins some texts, with a separator between two neighbours. -/
def joinTexts (separator : String) : List String → String
  | [] => ""
  | [text] => text
  | text :: rest => text ++ separator ++ joinTexts separator rest

end ContentEngine
