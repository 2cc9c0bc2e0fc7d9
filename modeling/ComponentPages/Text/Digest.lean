import ComponentPages.Text.Utf8

namespace ComponentPages

/-!
# Digests

The SHA-256 digest of bytes, in hexadecimal digits. Each block of sixteen words goes through
sixty-four rounds; the words of the later rounds come out of a window that slides over the
sixteen words before them.
-/

namespace Digest

/-- The constants of the rounds. -/
def roundConstants : List UInt32 :=
  [0x428a2f98, 0x71374491, 0xb5c0fbcf, 0xe9b5dba5, 0x3956c25b, 0x59f111f1, 0x923f82a4, 0xab1c5ed5,
   0xd807aa98, 0x12835b01, 0x243185be, 0x550c7dc3, 0x72be5d74, 0x80deb1fe, 0x9bdc06a7, 0xc19bf174,
   0xe49b69c1, 0xefbe4786, 0x0fc19dc6, 0x240ca1cc, 0x2de92c6f, 0x4a7484aa, 0x5cb0a9dc, 0x76f988da,
   0x983e5152, 0xa831c66d, 0xb00327c8, 0xbf597fc7, 0xc6e00bf3, 0xd5a79147, 0x06ca6351, 0x14292967,
   0x27b70a85, 0x2e1b2138, 0x4d2c6dfc, 0x53380d13, 0x650a7354, 0x766a0abb, 0x81c2c92e, 0x92722c85,
   0xa2bfe8a1, 0xa81a664b, 0xc24b8b70, 0xc76c51a3, 0xd192e819, 0xd6990624, 0xf40e3585, 0x106aa070,
   0x19a4c116, 0x1e376c08, 0x2748774c, 0x34b0bcb5, 0x391c0cb3, 0x4ed8aa4a, 0x5b9cca4f, 0x682e6ff3,
   0x748f82ee, 0x78a5636f, 0x84c87814, 0x8cc70208, 0x90befffa, 0xa4506ceb, 0xbef9a3f7, 0xc67178f2]

/-- The eight words that are carried from block to block. -/
structure State where
  a : UInt32
  b : UInt32
  c : UInt32
  d : UInt32
  e : UInt32
  f : UInt32
  g : UInt32
  h : UInt32
  deriving Repr, DecidableEq

def State.initial : State :=
  ⟨0x6a09e667, 0xbb67ae85, 0x3c6ef372, 0xa54ff53a,
    0x510e527f, 0x9b05688c, 0x1f83d9ab, 0x5be0cd19⟩

def State.words (state : State) : List UInt32 :=
  [state.a, state.b, state.c, state.d, state.e, state.f, state.g, state.h]

def State.add (state other : State) : State :=
  ⟨state.a + other.a, state.b + other.b, state.c + other.c, state.d + other.d,
    state.e + other.e, state.f + other.f, state.g + other.g, state.h + other.h⟩

/-- A word rotated to the right. -/
def rotate (word : UInt32) (places : UInt32) : UInt32 :=
  (word >>> places) ||| (word <<< (32 - places))

/-- The state after one round with a word of the schedule. -/
def round (state : State) (constant word : UInt32) : State :=
  let sum1 := rotate state.e 6 ^^^ rotate state.e 11 ^^^ rotate state.e 25
  let choice := (state.e &&& state.f) ^^^ ((~~~ state.e) &&& state.g)
  let first := state.h + sum1 + choice + constant + word
  let sum0 := rotate state.a 2 ^^^ rotate state.a 13 ^^^ rotate state.a 22
  let majority := (state.a &&& state.b) ^^^ (state.a &&& state.c) ^^^ (state.b &&& state.c)
  ⟨first + sum0 + majority, state.a, state.b, state.c,
    state.d + first, state.e, state.f, state.g⟩

/-- The word that follows a window of sixteen words. -/
def nextWord (window : List UInt32) : UInt32 :=
  let word (place : Nat) : UInt32 := window[place]?.getD 0
  let sigma0 := rotate (word 1) 7 ^^^ rotate (word 1) 18 ^^^ (word 1 >>> 3)
  let sigma1 := rotate (word 14) 17 ^^^ rotate (word 14) 19 ^^^ (word 14 >>> 10)
  sigma1 + word 9 + sigma0 + word 0

/-- The state after rounds with the given constants; the window holds the next sixteen words. -/
def rounds (state : State) (window : List UInt32) : List UInt32 → State
  | [] => state
  | constant :: later =>
      let word := window.head?.getD 0
      rounds (round state constant word) (window.drop 1 ++ [nextWord window]) later

/-- The words of bytes, the high byte first. -/
def wordsOf : Bytes → List UInt32
  | a :: b :: c :: d :: rest =>
      ((a.toUInt32 <<< 24) ||| (b.toUInt32 <<< 16) ||| (c.toUInt32 <<< 8) ||| d.toUInt32) ::
        wordsOf rest
  | _ => []

/-- The bytes of a number, `count` of them, the high byte first. -/
def bytesOf : (count : Nat) → Nat → Bytes
  | 0, _ => []
  | count + 1, number => bytesOf count (number / 256) ++ [UInt8.ofNat (number % 256)]

/-- A message with the padding that makes it a whole number of blocks. -/
def pad (message : Bytes) : Bytes :=
  let zeros := (119 - message.length % 64) % 64
  message ++ 0x80 :: List.replicate zeros 0 ++ bytesOf 8 (8 * message.length)

/-- The state after blocks of sixteen words, `count` of them. -/
def absorb : (count : Nat) → State → List UInt32 → State
  | 0, state, _ => state
  | count + 1, state, words =>
      absorb count (state.add (rounds state (words.take 16) roundConstants)) (words.drop 16)

/-- The state after a whole message. -/
def stateOf (message : Bytes) : State :=
  let words := wordsOf (pad message)
  absorb (words.length / 16) .initial words

/-- The hexadecimal digits of a number, `count` of them. -/
def hexadecimal : (count : Nat) → Nat → Text
  | 0, _ => []
  | count + 1, number => hexadecimal count (number / 16) ++ [Nat.digitChar (number % 16)]

/-- The digest of a message in hexadecimal digits. -/
def sha256 (message : Bytes) : Text :=
  (stateOf message).words.flatMap fun word => hexadecimal 8 word.toNat

end Digest

end ComponentPages
