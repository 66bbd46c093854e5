import RelationAuth.Json.Writer
import RelationAuth.Wire.Source

/-!
# Token headers

The first part of a token names the algorithm of its signature.  Tokens are issued with one header
only; a reader also understands the other members that a header may have, and refuses a header in
which one of them is not what it should be.
-/

namespace RelationAuth.Identity

open Source

/-- The algorithms by which tokens are signed. -/
inductive Algorithm where
  | hs256
  | hs384
  | hs512
  | es256
  | es384
  | rs256
  | rs384
  | rs512
  | ps256
  | ps384
  | ps512
  | edDsa
  deriving DecidableEq, Repr, Inhabited

namespace Algorithm

/-- The algorithms with their names. -/
def names : List (String × Algorithm) :=
  [("HS256", hs256), ("HS384", hs384), ("HS512", hs512), ("ES256", es256), ("ES384", es384),
    ("RS256", rs256), ("RS384", rs384), ("RS512", rs512), ("PS256", ps256), ("PS384", ps384),
    ("PS512", ps512), ("EdDSA", edDsa)]

/-- The algorithm with a name. -/
def ofName? (name : String) : Option Algorithm :=
  names.lookup name

end Algorithm

namespace TokenHeader

/-- The header of issued tokens. -/
def issued : Json :=
  .object [("typ", .string "JWT"), ("alg", .string "HS512")]

/-- The texts that describe a key of each type. -/
def keyMembers : List (String × List String) :=
  [("EC", ["crv", "x", "y"]), ("RSA", ["n", "e"]), ("oct", ["k"]), ("OKP", ["crv", "x"])]

/-- The names of the curves of keys. -/
def curves : List String := ["P-256", "P-384", "P-521", "Ed25519"]

/-- The names of the algorithms that a key in a header may have. -/
def keyAlgorithms : List String :=
  Algorithm.names.map Prod.fst ++ ["RSA1_5", "RSA-OAEP", "RSA-OAEP-256"]

/-- A name, if it is one of some names. -/
def oneOf? (names : List String) (name : String) : Option String :=
  if name ∈ names then some name else none

/-- The name of an algorithm: bare, or in a table of one entry that gives it nothing. -/
def readKeyAlgorithm? (node : Json) : Option String :=
  match node with
  | .object [(name, .object [])] => oneOf? keyAlgorithms name
  | _ => constant? (oneOf? keyAlgorithms) node

/-- What a key is for and where it comes from: members that keys of all types may have. -/
def readKeyUse? (members : List (String × Json)) : Option Unit := do
  let record ← recordOfTable?
    ["use", "key_ops", "alg", "kid", "x5u", "x5c", "x5t", "x5t#S256"] members
  for name in ["use", "kid", "x5u", "x5t", "x5t#S256"] do
    let _ ← record.nullable name (text? : Json → Option String)
  for name in ["key_ops", "x5c"] do
    let _ ← record.nullable name (list? (text? : Json → Option String))
  let _ ← record.nullable "alg" readKeyAlgorithm?

/-- What a key consists of: its type and the texts that describe a key of this type. -/
def readKeyMaterial? (members : List (String × Json)) : Option Unit := do
  let keyType ← (members.lookup "kty").bind (constant? (oneOf? (keyMembers.map Prod.fst)))
  let names ← keyMembers.lookup keyType
  let record ← recordOfTable? ("kty" :: names) members
  for name in names do
    let _ ← record.required name
      (if name = "crv" then constant? (oneOf? curves) else (text? : Json → Option String))

/-- A key that a header carries.  All of it must be readable, also what is passed over. -/
def readKey? (node : Json) : Option Unit := do
  let members ← table? node
  guard (node.halt? = none)
  readKeyUse? members
  readKeyMaterial? members

/-- The algorithm that a header names, if every member of the header is what it should be. -/
def readAlgorithm? (node : Json) : Option Algorithm := do
  let record ← record?
    ["typ", "alg", "cty", "jku", "jwk", "kid", "x5u", "x5c", "x5t", "x5t#S256"] node
  let algorithm ← record.required "alg" (constant? Algorithm.ofName?)
  for name in ["typ", "cty", "jku", "kid", "x5u", "x5t", "x5t#S256"] do
    let _ ← record.nullable name (text? : Json → Option String)
  let _ ← record.nullable "jwk" readKey?
  let _ ← record.nullable "x5c" (list? (text? : Json → Option String))
  return algorithm

end TokenHeader

end RelationAuth.Identity
