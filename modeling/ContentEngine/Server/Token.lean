import ContentEngine.Text.Case
import ContentEngine.Digest.Sha256
import ContentEngine.Text.Search
import ContentEngine.Json.Stored
import ContentEngine.Value.Number
import ContentEngine.Value.Equal
/-!
# Bearer tokens

A token says who its bearer is: a header, claims and a signature, each in base64, with points
between them. It is accepted if it has been signed with the shared secret, if the present time lies
in the time for which it is good, and if the claims that have to be texts are texts.
-/

namespace ContentEngine

/-!
### Base64

Bytes as text, six bits to a character. Both alphabets are read, the one for texts and the one for
addresses. Characters of neither are passed over, and a sequence of padding ends the text.
-/

namespace Base64

/-- The six bits that a character stands for. -/
def sextet? (c : Char) : Option Nat :=
  if isAsciiUpper c then some (c.toNat - 65)
  else if isAsciiLower c then some (c.toNat - 71)
  else if isAsciiDigit c then some (c.toNat + 4)
  else if c = '+' ∨ c = '-' then some 62
  else if c = '/' ∨ c = '_' then some 63
  else none

/-- The bytes of a text of which a group of four characters has been begun: `place` is the number of
characters in it, `bits` are those that belong to no byte yet, and `pads` is the number of padding
characters since. A group that is not completed makes the text unreadable. -/
def decodeFrom (place bits pads : Nat) : List Char → Option (List UInt8)
  | [] => if place = 0 then some [] else none
  | c :: rest =>
    if c = '=' then
      if 2 ≤ place ∧ 4 ≤ place + pads + 1 then some []
      else decodeFrom place bits (if 2 ≤ place then pads + 1 else pads) rest
    else
      match sextet? c with
      | none => decodeFrom place bits pads rest
      | some n =>
        match place with
        | 0 => decodeFrom 1 n 0 rest
        | 1 => (decodeFrom 2 (n % 16) 0 rest).map (UInt8.ofNat (4 * bits + n / 16) :: ·)
        | 2 => (decodeFrom 3 (n % 4) 0 rest).map (UInt8.ofNat (16 * bits + n / 4) :: ·)
        | _ => (decodeFrom 0 0 0 rest).map (UInt8.ofNat (64 * bits + n) :: ·)

/-- The bytes of a text whose padding may have been left out. -/
def decode? (text : List Char) : Option (List UInt8) :=
  let length := (String.ofList text).utf8ByteSize
  decodeFrom 0 0 0 (text ++ List.replicate ((4 - length % 4) % 4) '=')

end Base64

/-! ### Tokens -/

namespace Server

/-- How a token is found wanting: it is refused, or it makes a claim of a kind that cannot be
checked at all. -/
inductive TokenFault where
  | refused
  | uncheckable
deriving Repr, DecidableEq

/-- The parts of a token. `signed` is what the signature is for. -/
structure SignedToken where
  signed : List UInt8
  header : Obj
  payload : List UInt8
  signature : List UInt8

/-- The bytes of a text. -/
def utf8Bytes (text : List Char) : List UInt8 :=
  (String.ofList text).toUTF8.toList

/-- The object that some bytes denote, if they are the JSON text of one. -/
def objOfBytes? (data : List UInt8) : Option Obj :=
  match decodeBytes data with
  | .ok text => (parseJson text).bind Value.asObj?
  | .error _ => none

namespace SignedToken

/-- The parts of a token. The claims may hold points, so the header ends at the first one and the
signature starts after the last one. -/
def ofText? (text : String) : Option SignedToken := do
  let (signed, signature) ← cutAtLast? '.' text.toList
  let (header, payload) := cutAtFirst '.' signed
  let payload ← payload
  let header ← objOfBytes? (← Base64.decode? header)
  return ⟨utf8Bytes signed, header, ← Base64.decode? payload, ← Base64.decode? signature⟩

/-- Whether a token has been signed with a secret. -/
def isSignedWith (secret : List UInt8) (t : SignedToken) : Bool :=
  (Obj.get t.header "alg").isText "HS256" && t.signature == messageCode secret t.signed

end SignedToken

/-- The time that a claim names, in seconds, if the claim is made. -/
def timeClaim? (claims : Obj) (name : String) : Except TokenFault (Option Int) :=
  match Obj.get? claims name with
  | none => .ok none
  | some v =>
    match v.wholePart with
    | .ok n => .ok (some n)
    | .error .badInteger => .error .refused
    | .error _ => .error .uncheckable

/-- Whether a claim is a text or not made at all. -/
def isTextClaim (claims : Obj) (name : String) : Bool :=
  match Obj.get? claims name with
  | none | some (.str _) => true
  | some _ => false

/-- Checks claims at a time. -/
def checkClaims (now : Int) (claims : Obj) : Except TokenFault Unit := do
  let _ ← timeClaim? claims "iat"
  if (← timeClaim? claims "nbf").any fun start => decide (now < start) then throw .refused
  if (← timeClaim? claims "exp").any fun expiry => decide (expiry < now) then throw .refused
  if !isTextClaim claims "sub" || !isTextClaim claims "jti" || Obj.has claims "at_hash" then
    throw .refused

/-- The claims of a token that is accepted at a time. -/
def acceptedClaims (secret : List UInt8) (now : Int) (token : String) : Except TokenFault Obj := do
  let some t := SignedToken.ofText? token | throw .refused
  if !t.isSignedWith secret then throw .refused
  let some claims := objOfBytes? t.payload | throw .refused
  checkClaims now claims
  return claims

/-- The key with an identifier in a set of keys. -/
def findKey? (keySet : Obj) (id : Value) : Option Value :=
  (Obj.getList keySet "keys").find? fun key => (Obj.get key.members "kid").same id

end Server

end ContentEngine
