/-!
# Sets of characters

The character classes of this library are sets of code points, and each of them is a short list of
ranges. A class is written down as text, the way the Unicode data files write one: ranges of
hexadecimal numbers, separated by blanks, a range of one code point being that number alone.
-/

namespace ContentEngine

/-- The code points from `first` to `last`, both included. -/
structure CodeRange where
  first : Nat
  last : Nat
deriving Repr, DecidableEq

/-- A set of code points, given by its ranges in increasing order. -/
abbrev CodeRanges := List CodeRange

/-- The value of a hexadecimal digit in lower case. -/
def hexDigit? (c : Char) : Option Nat :=
  if '0' ≤ c ∧ c ≤ '9' then some (c.toNat - 48)
  else if 'a' ≤ c ∧ c ≤ 'f' then some (c.toNat - 87)
  else none

/-- Reads the ranges off a list of hexadecimal numbers. `low` is the lower end of the range that is
being read, if its dash has been passed, and `value` is the number that is being read. -/
def CodeRanges.read (low : Option Nat) (value : Nat) : List Char → CodeRanges
  | [] => [⟨low.getD value, value⟩]
  | c :: rest =>
    match hexDigit? c with
    | some d => read low (16 * value + d) rest
    | none =>
      if c = '-' then read (some value) 0 rest
      else ⟨low.getD value, value⟩ :: read none 0 rest

/-- The set that a text such as `"9-d 20 85"` denotes. -/
def CodeRanges.ofText (text : String) : CodeRanges :=
  CodeRanges.read none 0 text.toList

/-- Whether a character lies in a set. -/
def CodeRanges.contains (ranges : CodeRanges) (c : Char) : Bool :=
  ranges.any fun r => r.first ≤ c.toNat && c.toNat ≤ r.last

example : CodeRanges.ofText "9-d 20 85" = [⟨9, 13⟩, ⟨32, 32⟩, ⟨133, 133⟩] := by decide

/-!
### Maps of characters

A map from characters to texts, given as text the way its ranges are: `c0>41.300` sends one code
point to two others, and `391-3a1>3b1` sends each code point of a range to the one at the same
distance from another.
-/

/-- What a map does to a range of code points: the image of the first one. The images of the others
are shifted by their distance from the first. -/
structure CodeMapping where
  range : CodeRange
  image : List Nat
deriving Repr, DecidableEq

/-- A map of characters. What it does not mention has no image. -/
abbrev CodeMap := List CodeMapping

namespace CodeMap

/-- What has been read of an entry: the ends of the range as far as they are known, the numbers of
the image, the last one first, and the number that is being read. -/
structure Reading where
  low : Option Nat
  range : Option CodeRange
  image : List Nat
  value : Nat

/-- The entry that has been read. -/
def Reading.entry (r : Reading) : CodeMapping :=
  ⟨r.range.getD ⟨r.value, r.value⟩, (r.value :: r.image).reverse⟩

/-- Reads the entries of a map. -/
def read (r : Reading) : List Char → CodeMap
  | [] => [r.entry]
  | c :: rest =>
    match hexDigit? c with
    | some d => read { r with value := 16 * r.value + d } rest
    | none =>
      if c = '-' then read { r with low := some r.value, value := 0 } rest
      else if c = '>' then
        read { r with range := some ⟨r.low.getD r.value, r.value⟩, value := 0 } rest
      else if c = '.' then read { r with image := r.value :: r.image, value := 0 } rest
      else r.entry :: read ⟨none, none, [], 0⟩ rest

/-- The map that a text such as `"c0>41.300 391-3a1>3b1"` denotes. -/
def ofText (text : String) : CodeMap :=
  read ⟨none, none, [], 0⟩ text.toList

/-- The image of a character, if the map has one. -/
def image? (m : CodeMap) (c : Char) : Option (List Char) :=
  (m.find? fun e => e.range.first ≤ c.toNat && c.toNat ≤ e.range.last).map fun e =>
    e.image.map fun n => Char.ofNat (n + (c.toNat - e.range.first))

end CodeMap

example : CodeMap.ofText "c0>41.300 391-3a1>3b1"
    = [⟨⟨0xc0, 0xc0⟩, [0x41, 0x300]⟩, ⟨⟨0x391, 0x3a1⟩, [0x3b1]⟩] := by decide

end ContentEngine
