import ContentEngine.Domain.Label
import ContentEngine.Domain.Mapping
import ContentEngine.Text.Printable
/-!
# Domain names

The domain names under which mail can be delivered: labels between dots, at least two of them, of
which the last ends with a letter. Names that are set aside for other uses are none. If anything in
a name leads from right to left, the directions of all its labels have to be readable, since a label
can mislead about the one beside it.
-/

namespace ContentEngine

/-- Whether a text from outside ASCII may be shown: nothing in it is invisible, and it does not
start with a mark that would attach to what stands before it. -/
def isSafeText (text : List Char) : Bool :=
  text.all (fun c => isPrintable c && c != ' ') && !text.head?.any isMark

namespace Domain

/-- Whether a character may stand in a domain name as it is typed. -/
def isNameChar (c : Char) : Bool :=
  isAsciiUpper c || isAsciiLower c || isAsciiDigit c || c == '-' || c == '.' || 128 ≤ c.toNat

/-- Whether hyphens make a label one of those that are kept for later use. -/
def isKeptForLater (label : List Char) : Bool :=
  isMarked label && label.take 2 != ['x', 'n']

/-- The names that are set aside, with all names that end in them. -/
def setAside : List String := ["arpa", "invalid", "local", "localhost", "onion", "test"]

/-- The most characters that a name may have when it is exchanged. -/
def maxNameLength : Nat := 253

/-- A domain name: its labels. -/
structure Name where
  labels : List Label
deriving Repr, DecidableEq

namespace Name

/-- A name as it is exchanged. -/
def exchanged (name : Name) : List Char :=
  List.intercalate ['.'] (name.labels.map (·.exchanged))

/-- A name as it is shown. -/
def shown (name : Name) : List Char :=
  List.intercalate ['.'] (name.labels.map (·.shown))

/-- Whether the directions of a name do not mislead. -/
def isReadable (name : Name) : Bool :=
  let directions := name.labels.map fun label => label.shown.map direction
  !directions.any (·.any (·.isReversed)) || directions.all Domain.isReadable

/-- Whether mail can be delivered under a name. -/
def isPublic (name : Name) : Bool :=
  2 ≤ name.labels.length
    && name.exchanged.getLast?.any (fun c => isAsciiUpper c || isAsciiLower c)
    && (name.labels.getLast?.all fun label => !setAside.contains (String.ofList label.exchanged))
    && name.exchanged.length ≤ maxNameLength

/-- The domain name that a text denotes, in any of its spellings. -/
def ofText? (text : List Char) : Option Name := do
  let plain := plainName text
  let labels := splitAtChar '.' plain
  if text.all isNameChar && isSafeText text && plain.all isNameChar
      && labels.all (fun label => !label.isEmpty && label.head? != some '-'
        && label.getLast? != some '-' && !isKeptForLater label) then
    let labels ← labels.mapM Label.ofText?
    if isPublic ⟨labels⟩ && isReadable ⟨labels⟩ then some ⟨labels⟩ else none
  else none

end Name

end Domain

end ContentEngine
