import ContentEngine.Text.Case
import ContentEngine.Text.Search
/-!
# Punycode

How a label of a domain name is written in ASCII. The ASCII characters come first. Then, in
increasing order, come the other characters, each as the number of steps from the one before it, a
step leading to the next place in the label or, at its end, to the next character. The steps are
written as numbers of 36 digits, whose ends can be told by a threshold that adapts to the numbers
seen so far.
-/

namespace ContentEngine

namespace Punycode

/-- The digit of a number below 36: a letter, or a decimal digit for the last ten. -/
def digitChar (d : Nat) : Char :=
  if d < 26 then Char.ofNat (97 + d) else Char.ofNat (22 + d)

/-- The number that a digit stands for. -/
def digitValue? (c : Char) : Option Nat :=
  if isAsciiLower c then some (c.toNat - 97)
  else if isAsciiUpper c then some (c.toNat - 65)
  else if isAsciiDigit c then some (c.toNat - 22)
  else none

/-- The threshold at a place of a number. A digit below the threshold of its place is the
last one. -/
def threshold (place bias : Nat) : Nat :=
  if place ≤ bias then 1 else if bias + 26 ≤ place then 26 else place - bias

/-- The threshold is positive. -/
theorem threshold_pos (place bias : Nat) : 1 ≤ threshold place bias := by
  unfold threshold
  split
  · exact Nat.le_refl 1
  · split <;> omega

/-- A number divided by 35 until it is small, and what the divisions add to the bias. -/
def shrink (delta : Nat) : Nat × Nat :=
  if 455 < delta then ((shrink (delta / 35)).1, (shrink (delta / 35)).2 + 36) else (delta, 0)
termination_by delta
decreasing_by all_goals exact Nat.div_lt_self (by omega) (by omega)

/-- The bias after a number, when so many characters are in place. -/
def adapt (delta places : Nat) (first : Bool) : Nat :=
  let halved := if first then delta / 700 else delta / 2
  let (rest, base) := shrink (halved + halved / places)
  base + 36 * rest / (rest + 38)

/-! ### Writing -/

/-- The digits of a number, from the given place on. -/
def writeNumber (bias place n : Nat) : List Char :=
  let t := threshold place bias
  if n < t then [digitChar n]
  else digitChar (t + (n - t) % (36 - t)) :: writeNumber bias (place + 36) ((n - t) / (36 - t))
termination_by n
decreasing_by
  have := threshold_pos place bias
  have := Nat.div_le_self (n - threshold place bias) (36 - threshold place bias)
  omega

/-- What has been written so far: the digits, the steps since the last character that was written,
the bias, and the number of characters in place. -/
structure Writing where
  digits : List Char
  steps : Nat
  bias : Nat
  places : Nat

/-- What is written when a label is passed once, for the occurrences of one character. `basic` is
the number of ASCII characters of the label. -/
def writePass (basic : Nat) (c : Nat) (w : Writing) : List Char → Writing
  | [] => w
  | d :: rest =>
    if d.toNat < c then writePass basic c { w with steps := w.steps + 1 } rest
    else if d.toNat = c then
      writePass basic c
        { digits := w.digits ++ writeNumber w.bias 36 w.steps
          steps := 0
          bias := adapt w.steps (w.places + 1) (w.places == basic)
          places := w.places + 1 } rest
    else writePass basic c w rest

/-- What is written for some characters in increasing order. `start` is the first one that has not
been considered yet. -/
def writeChars (label : List Char) (basic start : Nat) (w : Writing) : List Nat → Writing
  | [] => w
  | c :: rest =>
    let ready := { w with steps := w.steps + (c - start) * (w.places + 1) }
    let done := writePass basic c ready label
    writeChars label basic (c + 1) { done with steps := done.steps + 1 } rest

/-- A list of numbers in increasing order without the repeated ones. -/
def distinct : List Nat → List Nat
  | [] => []
  | n :: rest => if n ∈ rest then distinct rest else n :: distinct rest

/-- A label in ASCII. -/
def encode (label : List Char) : List Char :=
  let basic := label.filter fun c => c.toNat < 128
  let others := (label.filter fun c => 128 ≤ c.toNat).map Char.toNat
  let written := writeChars label basic.length 128 ⟨[], 0, 72, basic.length⟩
    ((distinct others).mergeSort fun a b => a ≤ b)
  basic ++ (if basic.isEmpty then [] else ['-']) ++ written.digits

/-! ### Reading -/

/-- The number at the start of some digits, when `n` has been read of it, the next digit counts
`weight` times, and it stands at the given place; and what follows the number. -/
def readNumber? (bias place n weight : Nat) : List Char → Option (Nat × List Char)
  | [] => none
  | c :: rest => do
    let d ← digitValue? c
    let t := threshold place bias
    if d < t then some (n + d * weight, rest)
    else readNumber? bias (place + 36) (n + d * weight) (weight * (36 - t)) rest

/-- What follows a number is shorter than what it was read from. -/
theorem length_lt_of_readNumber {bias place n weight : Nat} {text rest : List Char} {m : Nat}
    (h : readNumber? bias place n weight text = some (m, rest)) : rest.length < text.length := by
  induction text generalizing place n weight with
  | nil => simp [readNumber?] at h
  | cons c text ih =>
    simp only [readNumber?, Option.bind_eq_bind] at h
    cases hd : digitValue? c with
    | none => simp [hd] at h
    | some d =>
      simp only [hd, Option.bind_some] at h
      split at h
      · simp only [Option.some.injEq, Prod.mk.injEq] at h
        simp [← h.2]
      · have := ih h
        simp only [List.length_cons]
        omega

/-- The label that some digits make of the characters that are in place already. `place` is one more
than the place of the character that was put in last, and `char` is that character. -/
def insertChars (label : List Char) (place char bias : Nat) (first : Bool) (digits : List Char) :
    Option (List Char) :=
  if digits.isEmpty then some label
  else
    match _hnumber : readNumber? bias 36 0 1 digits with
    | none => none
    | some (steps, rest) =>
      let position := place + steps
      let places := label.length + 1
      let next := char + position / places
      let index := position % places
      if 0x110000 ≤ next then none
      else
        insertChars (label.take index ++ Char.ofNat next :: label.drop index) (index + 1) next
          (adapt steps places first) false rest
termination_by digits.length
decreasing_by exact length_lt_of_readNumber _hnumber

/-- The label that a text in ASCII stands for. -/
def decode? (text : List Char) : Option (List Char) :=
  match cutAtLast? '-' text with
  | some (basic, digits) => insertChars basic 0 128 72 true digits
  | none => insertChars [] 0 128 72 true text

end Punycode

end ContentEngine
