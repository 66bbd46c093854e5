import RelationAuth.Policy.PageToken
import RelationAuth.Proofs.Encoding.Base64Bits
import RelationAuth.Proofs.Text.Unsigned

/-!
# The format of page tokens

A token is the text of its cursor in three layers: a numeral, its octets and their base64 text.
Each layer has a rule of its own that says what it accepts, so that the tokens that name a cursor
are told exactly, and the token written for a cursor of 64 bits is among those that name it.
-/

namespace RelationAuth.Policy.PageToken

/-- The token of a cursor is not the one that starts a listing. -/
theorem encode_ne_empty (cursor : Nat) : encode cursor ≠ "" := by
  apply Base64Url.encode_ne_empty
  intro empty
  have decoded := Utf8.decode?_encode (String.ofList (Text.digitsOfNat cursor))
  rw [empty, Utf8.decode?_nil] at decoded
  have noDigits : Text.digitsOfNat cursor = [] := by
    simpa using (congrArg String.toList (Option.some.inj decoded)).symm
  exact Nat.toDigits_ne_nil noDigits

/-- The token of a cursor is decoded to this cursor, or refused if 64 bits do not hold it. -/
theorem decode_encode_eq (cursor : Nat) :
    decode (encode cursor) =
      if cursor < word64Bound then .ok cursor else .error .invalidPageToken := by
  simp only [decode, encode_ne_empty, if_false]
  by_cases bounded : cursor < word64Bound <;>
    simp [encode, Base64Url.decode?_encode, Utf8.decode?_encode, Text.parseWord64?_digitsOfNat,
      bounded]

theorem decode_encode {cursor : Nat} (bounded : cursor < word64Bound) :
    decode (encode cursor) = .ok cursor := by
  rw [decode_encode_eq, if_pos bounded]

theorem decode_encode_word (cursor : UInt64) : decode (encode cursor.toNat) = .ok cursor.toNat :=
  decode_encode cursor.toNat_lt

/-- Whether a token is the base64 text of a numeral of a number of 64 bits. -/
def Wraps (token : String) (cursor : Nat) : Prop :=
  ∃ numeral : String, Base64Url.Spells token (Utf8.encode numeral) ∧
    Text.Denotes numeral.toList cursor ∧ cursor < 2 ^ 64

/-- Unwrapping the layers of a token one by one gives the number that it wraps. -/
theorem unwrap_eq_some_iff {token : String} {cursor : Nat} :
    ((Base64Url.decode? token).bind Utf8.decode? |>.bind (Text.parseWord64? ·.toList)) =
      some cursor ↔ Wraps token cursor := by
  constructor
  · intro read
    rcases Option.bind_eq_some_iff.mp read with ⟨numeral, textRead, numeralRead⟩
    rcases Option.bind_eq_some_iff.mp textRead with ⟨octets, tokenRead, octetsRead⟩
    rw [Utf8.decode?_eq_some_iff] at octetsRead
    subst octetsRead
    exact ⟨numeral, Base64Url.decode?_eq_some_iff.mp tokenRead,
      Text.parseWord64?_eq_some_iff.mp numeralRead⟩
  · rintro ⟨numeral, spelt, denoted⟩
    rw [Base64Url.decode?_eq_some_iff.mpr spelt, Option.bind_some, Utf8.decode?_encode,
      Option.bind_some]
    exact Text.parseWord64?_eq_some_iff.mpr denoted

theorem not_wraps_empty (cursor : Nat) : ¬Wraps "" cursor := by
  intro wrapped
  have read := unwrap_eq_some_iff.mpr wrapped
  have unread : ((Base64Url.decode? "").bind Utf8.decode? |>.bind (Text.parseWord64? ·.toList)) =
      none := by decide
  rw [unread] at read
  cases read

/-- Whether a token names a cursor: the empty token names the start of a listing, and any other
token the number whose numeral it wraps. -/
def Names (token : String) (cursor : Nat) : Prop :=
  token = "" ∧ cursor = 0 ∨ Wraps token cursor

/-- The decoder accepts exactly the tokens that name a cursor. -/
theorem decode_eq_ok_iff {token : String} {cursor : Nat} :
    decode token = .ok cursor ↔ Names token cursor := by
  by_cases start : token = ""
  · subst start
    simp [decode, Names, not_wraps_empty, eq_comm]
  · rw [decode, if_neg start, Names, ← unwrap_eq_some_iff]
    split
    · next read => simp [read, start]
    · next unread => simp only [unread, start, false_and, false_or, reduceCtorEq]

theorem decode_refuses_or_names (token : String) :
    decode token = .error .invalidPageToken ∨ ∃ cursor, decode token = .ok cursor := by
  unfold decode
  split
  · exact .inr ⟨0, rfl⟩
  · split
    · next cursor _ => exact .inr ⟨cursor, rfl⟩
    · exact .inl rfl

theorem decode_eq_error_iff {token : String} :
    decode token = .error .invalidPageToken ↔ ¬∃ cursor, Names token cursor := by
  simp only [← decode_eq_ok_iff]
  rcases decode_refuses_or_names token with refused | ⟨cursor, named⟩
  · simp [refused]
  · simp [named]

/-- The format of page tokens.  The token of a cursor of 64 bits is not empty and is read as this
cursor, so cursors that differ have tokens that differ.  A text is read as a cursor exactly if it is
empty and the cursor zero, or if it is the strict base64 text of a numeral of the cursor, which may
have a plus sign and leading zeros but has to stay below the bound of 64 bits.  Every other text is
refused as an invalid token. -/
theorem tokens_follow_format :
    (∀ cursor : UInt64,
      encode cursor.toNat ≠ "" ∧ decode (encode cursor.toNat) = .ok cursor.toNat) ∧
      (Function.Injective fun cursor : UInt64 => encode cursor.toNat) ∧
      ∀ token : String,
        (∀ cursor, decode token = .ok cursor ↔ Names token cursor) ∧
          (decode token = .error .invalidPageToken ↔ ¬∃ cursor, Names token cursor) := by
  refine ⟨fun cursor => ⟨encode_ne_empty _, decode_encode_word cursor⟩, ?_, fun token =>
    ⟨fun cursor => decode_eq_ok_iff, decode_eq_error_iff⟩⟩
  intro cursor other same
  have read : (.ok cursor.toNat : Except PolicyError Nat) = .ok other.toNat :=
    calc
      .ok cursor.toNat = decode (encode cursor.toNat) := (decode_encode_word cursor).symm
      _ = decode (encode other.toNat) := congrArg decode same
      _ = .ok other.toNat := decode_encode_word other
  exact UInt64.toNat_inj.mp (Except.ok.inj read)

/-- The numeral `+042` is read, though no cursor is written so. -/
example : decode "KzA0Mg" = .ok 42 := by
  decide

/-- A last character with bits to spare is refused where `MQ` is read. -/
example : decode "MR" = .error .invalidPageToken ∧ decode "MQ" = .ok 1 := by
  decide

end RelationAuth.Policy.PageToken
