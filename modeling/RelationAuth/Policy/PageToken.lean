import RelationAuth.Encoding.Base64Url
import RelationAuth.Policy.Error
import RelationAuth.Text.Unsigned
import RelationAuth.Text.Utf8

/-!
# Page tokens

A listing is read in pages.  The token of a page hides a cursor: it is the URL-safe base64 text of
the cursor's decimal digits.  The empty token is the start of the listing.
-/

namespace RelationAuth.Policy.PageToken

/-- The token that stands for a cursor. -/
def encode (cursor : Nat) : String :=
  Base64Url.encode (Utf8.encode (String.ofList (Text.digitsOfNat cursor)))

/-- The cursor that a token stands for.  The empty token stands for the start of a listing. -/
def decode (token : String) : Except PolicyError Nat :=
  if token = "" then .ok 0
  else
    match (Base64Url.decode? token).bind Utf8.decode? |>.bind (Text.parseWord64? ·.toList) with
    | some cursor => .ok cursor
    | none => .error .invalidPageToken

end RelationAuth.Policy.PageToken
