/-!
# The SHA-512 digest and its keyed form

A message is padded to whole blocks of 128 octets; each block is folded into a state of eight words
by eighty rounds, and the last state is the digest.  The keyed form digests the message together
with the key twice, each time masked differently.
-/

namespace RelationAuth.Sha512

/-- The eight words that a digest is computed in. -/
structure State where
  a : UInt64
  b : UInt64
  c : UInt64
  d : UInt64
  e : UInt64
  f : UInt64
  g : UInt64
  h : UInt64
  deriving DecidableEq, Repr

/-- The state before the first block. -/
def State.initial : State where
  a := 0x6a09e667f3bcc908
  b := 0xbb67ae8584caa73b
  c := 0x3c6ef372fe94f82b
  d := 0xa54ff53a5f1d36f1
  e := 0x510e527fade682d1
  f := 0x9b05688c2b3e6c1f
  g := 0x1f83d9abfb41bd6b
  h := 0x5be0cd19137e2179

/-- The constants of the eighty rounds. -/
def roundConstants : List UInt64 :=
  [0x428a2f98d728ae22, 0x7137449123ef65cd, 0xb5c0fbcfec4d3b2f, 0xe9b5dba58189dbbc,
   0x3956c25bf348b538, 0x59f111f1b605d019, 0x923f82a4af194f9b, 0xab1c5ed5da6d8118,
   0xd807aa98a3030242, 0x12835b0145706fbe, 0x243185be4ee4b28c, 0x550c7dc3d5ffb4e2,
   0x72be5d74f27b896f, 0x80deb1fe3b1696b1, 0x9bdc06a725c71235, 0xc19bf174cf692694,
   0xe49b69c19ef14ad2, 0xefbe4786384f25e3, 0x0fc19dc68b8cd5b5, 0x240ca1cc77ac9c65,
   0x2de92c6f592b0275, 0x4a7484aa6ea6e483, 0x5cb0a9dcbd41fbd4, 0x76f988da831153b5,
   0x983e5152ee66dfab, 0xa831c66d2db43210, 0xb00327c898fb213f, 0xbf597fc7beef0ee4,
   0xc6e00bf33da88fc2, 0xd5a79147930aa725, 0x06ca6351e003826f, 0x142929670a0e6e70,
   0x27b70a8546d22ffc, 0x2e1b21385c26c926, 0x4d2c6dfc5ac42aed, 0x53380d139d95b3df,
   0x650a73548baf63de, 0x766a0abb3c77b2a8, 0x81c2c92e47edaee6, 0x92722c851482353b,
   0xa2bfe8a14cf10364, 0xa81a664bbc423001, 0xc24b8b70d0f89791, 0xc76c51a30654be30,
   0xd192e819d6ef5218, 0xd69906245565a910, 0xf40e35855771202a, 0x106aa07032bbd1b8,
   0x19a4c116b8d2d0c8, 0x1e376c085141ab53, 0x2748774cdf8eeb99, 0x34b0bcb5e19b48a8,
   0x391c0cb3c5c95a63, 0x4ed8aa4ae3418acb, 0x5b9cca4f7763e373, 0x682e6ff3d6b2b8a3,
   0x748f82ee5defb2fc, 0x78a5636f43172f60, 0x84c87814a1f0ab72, 0x8cc702081a6439ec,
   0x90befffa23631e28, 0xa4506cebde82bde9, 0xbef9a3f7b2c67915, 0xc67178f2e372532b,
   0xca273eceea26619c, 0xd186b8c721c0c207, 0xeada7dd6cde0eb1e, 0xf57d4f7fee6ed178,
   0x06f067aa72176fba, 0x0a637dc5a2c898a6, 0x113f9804bef90dae, 0x1b710b35131c471b,
   0x28db77f523047d84, 0x32caab7b40c72493, 0x3c9ebe0a15c9bebc, 0x431d67c49c100d4c,
   0x4cc5d4becb3e42b6, 0x597f299cfc657e2a, 0x5fcb6fab3ad6faec, 0x6c44198c4a475817]

/-- A word with its bits turned to the right by a number of places. -/
def rotate (word : UInt64) (places : UInt64) : UInt64 :=
  (word >>> places) ||| (word <<< (64 - places))

/-- The mixing of a schedule word fifteen places back. -/
def earlyMix (word : UInt64) : UInt64 :=
  rotate word 1 ^^^ rotate word 8 ^^^ (word >>> 7)

/-- The mixing of a schedule word two places back. -/
def lateMix (word : UInt64) : UInt64 :=
  rotate word 19 ^^^ rotate word 61 ^^^ (word >>> 6)

/-- The word that follows a window of sixteen words in the schedule. -/
def nextWord (window : List UInt64) : UInt64 :=
  lateMix (window.getD 14 0) + window.getD 9 0 + earlyMix (window.getD 1 0) + window.getD 0 0

/-- The schedule that a window of sixteen words starts, of a given length. -/
def schedule : Nat → List UInt64 → List UInt64
  | 0, _ => []
  | length + 1, window =>
    window.getD 0 0 :: schedule length (window.drop 1 ++ [nextWord window])

/-- One round: it takes in a word of the schedule and a constant. -/
def round (state : State) (word constant : UInt64) : State :=
  let choice := (state.e &&& state.f) ^^^ (~~~state.e &&& state.g)
  let majority := (state.a &&& state.b) ^^^ (state.a &&& state.c) ^^^ (state.b &&& state.c)
  let high := rotate state.a 28 ^^^ rotate state.a 34 ^^^ rotate state.a 39
  let low := rotate state.e 14 ^^^ rotate state.e 18 ^^^ rotate state.e 41
  let first := state.h + low + choice + constant + word
  let second := high + majority
  { a := first + second
    b := state.a
    c := state.b
    d := state.c
    e := state.d + first
    f := state.e
    g := state.f
    h := state.g }

/-- The word that eight octets spell, the first octet highest. -/
def wordOfOctets (octets : List UInt8) : UInt64 :=
  octets.foldl (fun word octet => (word <<< 8) ||| octet.toUInt64) 0

/-- The octets of a number in a given width, the first highest. -/
def octetsOfNat : Nat → Nat → List UInt8
  | 0, _ => []
  | width + 1, value => octetsOfNat width (value / 256) ++ [UInt8.ofNat value]

/-- A list cut into a number of pieces of one length. -/
def pieces {α : Type} (length : Nat) : Nat → List α → List (List α)
  | 0, _ => []
  | count + 1, items => items.take length :: pieces length count (items.drop length)

/-- The state after a block: the eighty rounds over its schedule, added to the state before. -/
def absorb (state : State) (block : List UInt8) : State :=
  let words := schedule 80 ((pieces 8 16 block).map wordOfOctets)
  let mixed := (words.zip roundConstants).foldl (fun s step => round s step.1 step.2) state
  { a := state.a + mixed.a
    b := state.b + mixed.b
    c := state.c + mixed.c
    d := state.d + mixed.d
    e := state.e + mixed.e
    f := state.f + mixed.f
    g := state.g + mixed.g
    h := state.h + mixed.h }

/-- A message followed by a one bit, zeros up to a whole block, and its length in bits. -/
def pad (message : List UInt8) : List UInt8 :=
  let zeros := (239 - message.length % 128) % 128
  message ++ [0x80] ++ List.replicate zeros 0 ++ octetsOfNat 16 (message.length * 8)

/-- The octets of the words of a state. -/
def State.octets (state : State) : List UInt8 :=
  [state.a, state.b, state.c, state.d, state.e, state.f, state.g, state.h].flatMap fun word =>
    octetsOfNat 8 word.toNat

/-- The digest of a message: 64 octets. -/
def digest (message : List UInt8) : List UInt8 :=
  let padded := pad message
  ((pieces 128 (padded.length / 128) padded).foldl absorb State.initial).octets

/-- The number of octets that a key is widened to. -/
def blockSize : Nat := 128

/-- A key as one block: a key longer than a block is replaced by its digest, and the rest of the
block is zero. -/
def keyBlock (key : List UInt8) : List UInt8 :=
  let short := if key.length > blockSize then digest key else key
  short ++ List.replicate (blockSize - short.length) 0

/-- The authentication code of a message under a key: the HMAC that SHA-512 gives. -/
def authenticate (key message : List UInt8) : List UInt8 :=
  let block := keyBlock key
  digest (block.map (· ^^^ 0x5c) ++ digest (block.map (· ^^^ 0x36) ++ message))

/-- The first of the published test vectors for the standard: the octets of a greeting under a key
of twenty equal octets. -/
example :
    authenticate (List.replicate 20 0x0b) [0x48, 0x69, 0x20, 0x54, 0x68, 0x65, 0x72, 0x65] =
      [0x87, 0xaa, 0x7c, 0xde, 0xa5, 0xef, 0x61, 0x9d, 0x4f, 0xf0, 0xb4, 0x24, 0x1a, 0x1d,
       0x6c, 0xb0, 0x23, 0x79, 0xf4, 0xe2, 0xce, 0x4e, 0xc2, 0x78, 0x7a, 0xd0, 0xb3, 0x05,
       0x45, 0xe1, 0x7c, 0xde, 0xda, 0xa8, 0x33, 0xb7, 0xd6, 0xb8, 0xa7, 0x02, 0x03, 0x8b,
       0x27, 0x4e, 0xae, 0xa3, 0xf4, 0xe4, 0xbe, 0x9d, 0x91, 0x4e, 0xeb, 0x61, 0xf1, 0x70,
       0x2e, 0x69, 0x6c, 0x20, 0x3a, 0x12, 0x68, 0x54] := by
  decide +kernel

end RelationAuth.Sha512
