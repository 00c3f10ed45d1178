import ContentEngine.Domain.Letter
import ContentEngine.Domain.Punycode
import ContentEngine.Text.Normal
/-!
# Labels of domain names

A label is one of the parts between the dots of a domain name. It is known under two forms, which
are the same for labels in ASCII: the one that is shown, and the one that computers exchange, which
starts with `xn--`. A shown label is in its shortest spelling, it holds letters of domain names
only, and those that depend on their neighbours stand between the right ones. Each of the two forms
determines the other.
-/

namespace ContentEngine

namespace Domain

/-- Whether a character is one of the Arabic digits. -/
def isArabicDigit (c : Char) : Bool :=
  0x660 ≤ c.toNat && c.toNat ≤ 0x669

/-- Whether a character is one of the Persian digits. -/
def isPersianDigit (c : Char) : Bool :=
  0x6f0 ≤ c.toNat && c.toNat ≤ 0x6f9

/-- Whether a character is one of the two quotes of Hebrew. -/
def isHebrewQuote (c : Char) : Bool :=
  c == '\u05f3' || c == '\u05f4'

/-- Whether a character that depends on its neighbours may stand in a label, after some characters,
the last one first, and before others. Joiners without width may stand nowhere: nobody sees them, so
that two names would look the same. -/
def isPlaced (label before after : List Char) (c : Char) : Bool :=
  if c = '\u00b7' then before.head? == some 'l' && after.head? == some 'l'
  else if c = '\u0375' then after.head?.any greekRanges.contains
  else if isHebrewQuote c then before.head?.any hebrewRanges.contains
  else if c = '\u30fb' then label.any fun d => d != '\u30fb' && japaneseRanges.contains d
  else if isArabicDigit c then !label.any isPersianDigit
  else if isPersianDigit c then !label.any isArabicDigit
  else false

/-- Whether all characters of a part of a label may stand there, after some characters, the last one
first. -/
def allPlaced (label before : List Char) : List Char → Bool
  | [] => true
  | c :: rest => (isLetter c || isPlaced label before rest c) && allPlaced label (c :: before) rest

/-! ### Directions -/

/-- Whether a direction leads from right to left. -/
def Direction.isReversed : Direction → Bool
  | rightToLeft | arabic | arabicNumber => true
  | _ => false

/-- Whether a direction may end a label that leads from right to left, before its last marks. -/
def Direction.endsReversed : Direction → Bool
  | rightToLeft | arabic | arabicNumber | number => true
  | _ => false

/-- Whether a direction may end a label that leads from left to right, before its last marks. -/
def Direction.endsForward : Direction → Bool
  | leftToRight | number => true
  | _ => false

/-- The last of some directions, marks left out. -/
def lastDirection? (directions : List Direction) : Option Direction :=
  directions.reverse.find? (· != .mark)

/-- Whether the directions of a label do not mislead. It leads where its first character leads, all
of it leads there, and so does its end; digits may stand in it, but of one kind only. -/
def isReadable (directions : List Direction) : Bool :=
  match directions.head? with
  | some .leftToRight =>
    !directions.any (·.isReversed) && (lastDirection? directions).any (·.endsForward)
  | some .rightToLeft | some .arabic =>
    !directions.contains .leftToRight && (lastDirection? directions).any (·.endsReversed)
      && !(directions.contains .number && directions.contains .arabicNumber)
  | _ => false

/-! ### The two forms -/

/-- Whether a label has hyphens in its third and fourth place. -/
def isMarked (label : List Char) : Bool :=
  (label.drop 2).take 2 == ['-', '-']

/-- Whether a label may be shown. -/
def isShown (label : List Char) : Bool :=
  composed label == label && !isMarked label
    && label.head? != some '-' && label.getLast? != some '-'
    && !label.head?.any isMark && allPlaced label [] label

/-- Whether a text is in ASCII. -/
def isAscii (text : List Char) : Bool :=
  text.all fun c => c.toNat < 128

/-- What announces a label that stands for another one. -/
def encodedMark : List Char := "xn--".toList

/-- The most characters that a label may have when it is exchanged. -/
def maxLabelLength : Nat := 63

/-- A label in its two forms. -/
structure Label where
  exchanged : List Char
  shown : List Char
deriving Repr, DecidableEq

namespace Label

/-- The exchanged form of a shown label that is not in ASCII. -/
def exchange (label : List Char) : List Char :=
  encodedMark ++ Punycode.encode label

/-- The label that an exchanged one stands for: it is not in ASCII, and this is how it is
exchanged. -/
def reveal? (text : List Char) : Option (List Char) :=
  (Punycode.decode? (text.drop encodedMark.length)).filter fun shown =>
    !isAscii shown && exchange shown == text

/-- The label that is written in one of its two forms. -/
def ofText? (text : List Char) : Option Label := do
  let label : Label ←
    if !isAscii text then some ⟨exchange text, text⟩
    else if encodedMark.isPrefixOf text then
      (reveal? text).map fun shown => ⟨text, shown⟩
    else some ⟨text, text⟩
  if isShown label.shown && !label.shown.isEmpty && label.exchanged.length ≤ maxLabelLength then
    some label
  else none

end Label

end Domain

end ContentEngine
