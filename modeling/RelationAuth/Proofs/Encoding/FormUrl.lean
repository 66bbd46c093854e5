import RelationAuth.Encoding.FormUrl
import RelationAuth.Proofs.Encoding.Base64Url

/-!
# Queries read back

Whoever receives a query cuts it at its ampersands, cuts every piece at its equals sign, and takes
plus signs and percent signs for the octets that they stand for.  Neither mark occurs in a name or
a value as they are written, so the names and the values are found again as they were.
-/

namespace RelationAuth.FormUrl

/-- The value of a hexadecimal digit. -/
def hexValue? (symbol : Char) : Option Nat :=
  (List.range 16).find? fun value => hexDigit value = symbol

/-- The octets that the characters of a name or a value stand for. -/
def decodeOctets? : List Char → Option (List UInt8)
  | [] => some []
  | '%' :: high :: low :: rest =>
    match hexValue? high, hexValue? low with
    | some upper, some lower => (decodeOctets? rest).map (UInt8.ofNat (upper * 16 + lower) :: ·)
    | _, _ => none
  | '+' :: rest => (decodeOctets? rest).map (32 :: ·)
  | symbol :: rest =>
    let octet := UInt8.ofNat symbol.toNat
    if isPlain octet then (decodeOctets? rest).map (octet :: ·) else none

/-- The text that symbols of a form spell out. -/
def decodeText? (text : List Char) : Option String :=
  (decodeOctets? text).bind Utf8.decode?

/-- A name and a value on the two sides of a mark. -/
def decodePair? (text : List Char) : Option (String × String) :=
  match text.splitOn '=' with
  | [name, value] => do
    return (← decodeText? name, ← decodeText? value)
  | _ => none

/-- The names and values of the text of a query. -/
def decode? (text : String) : Option (List (String × String)) :=
  ((text.toList.splitOn '&').filter (· ≠ [])).mapM decodePair?

theorem hexValue?_hexDigit : ∀ value < 16, hexValue? (hexDigit value) = some value := by
  decide

/-- The marks between the parts of a query. -/
def marks : List Char :=
  ['&', '=']

theorem hexDigit_not_mem_marks : ∀ value < 16, hexDigit value ∉ marks := by
  decide

/-- An octet that stands for itself is written as a character that says nothing else. -/
theorem of_isPlain : ∀ code < 256, isPlain (UInt8.ofNat code) = true →
    UInt8.ofNat (Char.ofNat code).toNat = UInt8.ofNat code ∧
      Char.ofNat code ≠ '%' ∧ Char.ofNat code ≠ '+' ∧ Char.ofNat code ∉ marks := by
  decide +kernel

/-- The form of one octet is read back, whatever follows it. -/
theorem decodeOctets?_encodeOctet (octet : UInt8) (rest : List Char) :
    decodeOctets? (encodeOctet octet ++ rest) = (decodeOctets? rest).map (octet :: ·) := by
  have small := octet.toNat_lt
  unfold encodeOctet
  split
  · next plain =>
    have written := of_isPlain octet.toNat small
    rw [UInt8.ofNat_toNat] at written
    rcases written plain with ⟨same, noPercent, noPlus, -⟩
    rw [List.singleton_append, decodeOctets?.eq_4 _ _ (fun _ _ _ percent _ => noPercent percent)
      noPlus, same]
    exact if_pos plain
  · split
    · next blank =>
      have same : octet = 32 := UInt8.toNat_inj.mp blank
      subst same
      rfl
    · have high : octet.toNat / 16 < 16 := by omega
      have low : octet.toNat % 16 < 16 := by omega
      have same : octet.toNat / 16 * 16 + octet.toNat % 16 = octet.toNat := by omega
      simp only [List.cons_append, List.nil_append, decodeOctets?, hexValue?_hexDigit _ high,
        hexValue?_hexDigit _ low, same, UInt8.ofNat_toNat]

/-- The form of a text is read back. -/
theorem decodeText?_encodeText (text : String) : decodeText? (encodeText text) = some text := by
  have octets : ∀ octets, decodeOctets? (octets.flatMap encodeOctet) = some octets := by
    intro octets
    induction octets with
    | nil => rfl
    | cons octet rest ih =>
      rw [List.flatMap_cons, decodeOctets?_encodeOctet, ih, Option.map_some]
  rw [decodeText?, encodeText, octets, Option.bind_some, Utf8.decode?_encode]

/-- No mark of the query stands in the form of an octet, so the marks cut a query only where they
are meant to. -/
theorem not_mem_marks_of_mem_encodeOctet {octet : UInt8} {symbol : Char}
    (written : symbol ∈ encodeOctet octet) : symbol ∉ marks := by
  have small := octet.toNat_lt
  unfold encodeOctet at written
  split at written
  · next plain =>
    have noMark := of_isPlain octet.toNat small
    rw [UInt8.ofNat_toNat] at noMark
    rw [List.mem_singleton.mp written]
    exact (noMark plain).2.2.2
  · split at written
    · rw [List.mem_singleton.mp written]
      decide
    · simp only [List.mem_cons, List.not_mem_nil, or_false] at written
      rcases written with rfl | rfl | rfl
      · decide
      · exact hexDigit_not_mem_marks _ (by omega)
      · exact hexDigit_not_mem_marks _ (by omega)

/-- No mark occurs in a name or a value as it is written. -/
theorem mark_not_mem_encodeText {mark : Char} (isMark : mark ∈ marks) (text : String) :
    mark ∉ encodeText text := by
  intro mem
  rcases List.mem_flatMap.mp mem with ⟨octet, -, written⟩
  exact not_mem_marks_of_mem_encodeOctet written isMark

/-- The characters of a name with its value. -/
def encodePair (pair : String × String) : List Char :=
  encodeText pair.1 ++ '=' :: encodeText pair.2

theorem encodePairs_eq (pairs : List (String × String)) :
    encodePairs pairs = ['&'].intercalate (pairs.map encodePair) := by
  fun_induction encodePairs pairs with
  | case1 => rfl
  | case2 name value => simp [encodePair]
  | case3 name value rest nonempty ih =>
    rcases rest with _ | ⟨pair, rest⟩
    · exact absurd rfl nonempty
    · simp [encodePair, ih]

theorem decodePair?_encodePair (pair : String × String) :
    decodePair? (encodePair pair) = some pair := by
  have plain : ∀ piece ∈ [encodeText pair.1, encodeText pair.2], '=' ∉ piece := by
    have equals : '=' ∈ marks := by decide
    simp [mark_not_mem_encodeText equals]
  have pieces := List.splitOn_intercalate '=' plain nofun
  have joined : ['='].intercalate [encodeText pair.1, encodeText pair.2] = encodePair pair := by
    simp [encodePair]
  rw [joined] at pieces
  rw [decodePair?, pieces]
  simp [decodeText?_encodeText]

theorem splitOn_encodePairs (pairs : List (String × String)) :
    ((encodePairs pairs).splitOn '&').filter (· ≠ []) = pairs.map encodePair := by
  rcases pairs with _ | ⟨pair, rest⟩
  · rfl
  · have plain : ∀ piece ∈ (pair :: rest).map encodePair, '&' ∉ piece := by
      intro piece mem
      rcases List.mem_map.mp mem with ⟨written, -, rfl⟩
      have ampersand : '&' ∈ marks := by decide
      simp [encodePair, mark_not_mem_encodeText ampersand]
    rw [encodePairs_eq, List.splitOn_intercalate '&' plain (by simp), List.filter_eq_self]
    intro piece mem
    rcases List.mem_map.mp mem with ⟨written, -, rfl⟩
    simp [encodePair]

/-- The text of a query denotes the names and values that it was written from. -/
theorem decode?_encode (pairs : List (String × String)) : decode? (encode pairs) = some pairs := by
  rw [decode?, encode, String.toList_ofList, splitOn_encodePairs]
  exact mapM_map_eq_some fun pair _ => decodePair?_encodePair pair

end RelationAuth.FormUrl
