/-!
# SHA-256

The digest of a sequence of bytes: 32 bytes that stand for it. The sequence is filled up to whole
blocks of 64 bytes, and each block stirs a state of eight words in 64 rounds.
-/

namespace ContentEngine

namespace Sha256

/-- The constants of the rounds. -/
def roundConstants : List UInt32 :=
  [0x428a2f98, 0x71374491, 0xb5c0fbcf, 0xe9b5dba5, 0x3956c25b, 0x59f111f1, 0x923f82a4, 0xab1c5ed5,
   0xd807aa98, 0x12835b01, 0x243185be, 0x550c7dc3, 0x72be5d74, 0x80deb1fe, 0x9bdc06a7, 0xc19bf174,
   0xe49b69c1, 0xefbe4786, 0x0fc19dc6, 0x240ca1cc, 0x2de92c6f, 0x4a7484aa, 0x5cb0a9dc, 0x76f988da,
   0x983e5152, 0xa831c66d, 0xb00327c8, 0xbf597fc7, 0xc6e00bf3, 0xd5a79147, 0x06ca6351, 0x14292967,
   0x27b70a85, 0x2e1b2138, 0x4d2c6dfc, 0x53380d13, 0x650a7354, 0x766a0abb, 0x81c2c92e, 0x92722c85,
   0xa2bfe8a1, 0xa81a664b, 0xc24b8b70, 0xc76c51a3, 0xd192e819, 0xd6990624, 0xf40e3585, 0x106aa070,
   0x19a4c116, 0x1e376c08, 0x2748774c, 0x34b0bcb5, 0x391c0cb3, 0x4ed8aa4a, 0x5b9cca4f, 0x682e6ff3,
   0x748f82ee, 0x78a5636f, 0x84c87814, 0x8cc70208, 0x90befffa, 0xa4506ceb, 0xbef9a3f7, 0xc67178f2]

/-- The state: eight words. -/
structure State where
  a : UInt32
  b : UInt32
  c : UInt32
  d : UInt32
  e : UInt32
  f : UInt32
  g : UInt32
  h : UInt32
deriving Repr, DecidableEq

/-- The state before the first block. -/
def start : State :=
  ⟨0x6a09e667, 0xbb67ae85, 0x3c6ef372, 0xa54ff53a, 0x510e527f, 0x9b05688c, 0x1f83d9ab, 0x5be0cd19⟩

/-- A word turned to the right. -/
def turn (x n : UInt32) : UInt32 :=
  (x >>> n) ||| (x <<< (32 - n))

/-- A round with its word, the constant included. -/
def round (s : State) (word : UInt32) : State :=
  let stir := turn s.e 6 ^^^ turn s.e 11 ^^^ turn s.e 25
  let choice := (s.e &&& s.f) ^^^ ((s.e ^^^ 0xffffffff) &&& s.g)
  let first := s.h + stir + choice + word
  let stir := turn s.a 2 ^^^ turn s.a 13 ^^^ turn s.a 22
  let majority := (s.a &&& s.b) ^^^ (s.a &&& s.c) ^^^ (s.b &&& s.c)
  ⟨first + (stir + majority), s.a, s.b, s.c, s.d + first, s.e, s.f, s.g⟩

/-- The word after some words of which the last is given first. -/
def nextWord (words : List UInt32) : UInt32 :=
  let word := fun i => words.getD i 0
  let late := turn (word 1) 17 ^^^ turn (word 1) 19 ^^^ (word 1 >>> 10)
  let early := turn (word 14) 7 ^^^ turn (word 14) 18 ^^^ (word 14 >>> 3)
  late + word 6 + early + word 15

/-- So many words more, all words being given from the last one on. -/
def extend (words : List UInt32) : Nat → List UInt32
  | 0 => words
  | n + 1 => extend (nextWord words :: words) n

/-- The words of some bytes. -/
def wordsOf : List UInt8 → List UInt32
  | a :: b :: c :: d :: rest =>
    ((a.toUInt32 <<< 24) ||| (b.toUInt32 <<< 16) ||| (c.toUInt32 <<< 8) ||| d.toUInt32)
      :: wordsOf rest
  | _ => []

/-- The state after a block. -/
def block (s : State) (bytes : List UInt8) : State :=
  let words := (extend (wordsOf bytes).reverse 48).reverse
  let t := (words.zip roundConstants).foldl (fun t (w, k) => round t (w + k)) s
  ⟨s.a + t.a, s.b + t.b, s.c + t.c, s.d + t.d, s.e + t.e, s.f + t.f, s.g + t.g, s.h + t.h⟩

/-- The bytes of a number, as many as are asked for. -/
def bytesOf (n : Nat) : Nat → List UInt8
  | 0 => []
  | width + 1 => UInt8.ofNat (n / Nat.pow 256 width) :: bytesOf n width

/-- A message filled up to whole blocks: a one bit, zeros, and the length in bits. -/
def padded (message : List UInt8) : List UInt8 :=
  message ++ 0x80 :: (List.replicate ((119 - message.length % 64) % 64) 0
    ++ bytesOf (8 * message.length) 8)

/-- The state after some blocks. -/
def blocks (s : State) : Nat → List UInt8 → State
  | 0, _ => s
  | n + 1, bytes => blocks (block s (bytes.take 64)) n (bytes.drop 64)

/-- The digest of a message. -/
def digest (message : List UInt8) : List UInt8 :=
  let bytes := padded message
  let s := blocks start (bytes.length / 64) bytes
  [s.a, s.b, s.c, s.d, s.e, s.f, s.g, s.h].flatMap fun word => bytesOf word.toNat 4

end Sha256

/-- A key as it is used with a block: filled up with zeros, and digested first if it is too long. -/
def macKey (key : List UInt8) : List UInt8 :=
  let short := if 64 < key.length then Sha256.digest key else key
  short ++ List.replicate (64 - short.length) 0

/-- The code that authenticates a message under a key. -/
def messageCode (key message : List UInt8) : List UInt8 :=
  let inner := (macKey key).map (· ^^^ 0x36)
  let outer := (macKey key).map (· ^^^ 0x5c)
  Sha256.digest (outer ++ Sha256.digest (inner ++ message))

end ContentEngine
