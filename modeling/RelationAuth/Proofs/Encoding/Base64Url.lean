import RelationAuth.Encoding.Base64Url
import RelationAuth.Text.Utf8

/-!
# Texts of octets read back

Octets are cut into groups of six bits, and each group is written as a character.  Both steps are
undone one by one, so a base64 text is read back as its octets.
-/

namespace RelationAuth

theorem mapM_map_eq_some {α β : Type} {write : α → β} {read : β → Option α} {values : List α}
    (undone : ∀ value ∈ values, read (write value) = some value) :
    (values.map write).mapM read = some values := by
  induction values with
  | nil => rfl
  | cons value rest ih =>
    rw [List.forall_mem_cons] at undone
    simp only [List.map_cons, List.mapM_cons, undone.1, ih undone.2]
    rfl

namespace Base64Url

/-- The groups of six bits that a sequence of octets is cut into. -/
def sixBitGroups : List UInt8 → List Nat
  | [] => []
  | [a] => [a.toNat / 4, a.toNat % 4 * 16]
  | [a, b] => [a.toNat / 4, a.toNat % 4 * 16 + b.toNat / 16, b.toNat % 16 * 4]
  | a :: b :: c :: rest =>
    a.toNat / 4 :: (a.toNat % 4 * 16 + b.toNat / 16) :: (b.toNat % 16 * 4 + c.toNat / 64) ::
      c.toNat % 64 :: sixBitGroups rest

theorem sixBitGroups_lt (octets : List UInt8) : ∀ group ∈ sixBitGroups octets, group < 64 := by
  fun_induction sixBitGroups octets with
  | case1 => simp
  | case2 a =>
    have := a.toNat_lt
    simp
    omega
  | case3 a b =>
    have := a.toNat_lt
    have := b.toNat_lt
    simp
    omega
  | case4 a b c rest ih =>
    have := a.toNat_lt
    have := b.toNat_lt
    have := c.toNat_lt
    simp only [List.forall_mem_cons]
    exact ⟨by omega, by omega, by omega, by omega, ih⟩

theorem encodeOctets_eq (octets : List UInt8) :
    encodeOctets octets = (sixBitGroups octets).map digit := by
  fun_induction sixBitGroups octets with
  | case1 => rfl
  | case2 a => rfl
  | case3 a b => rfl
  | case4 a b c rest ih => simp [encodeOctets, ih]

theorem digitValue?_digit : ∀ value < 64, digitValue? (digit value) = some value := by
  decide

/-- Joining the groups of six bits gives the octets back. -/
theorem joinGroups?_sixBitGroups (octets : List UInt8) :
    joinGroups? (sixBitGroups octets) = some octets := by
  fun_induction sixBitGroups octets with
  | case1 => rfl
  | case2 a =>
    have := a.toNat_lt
    have first : a.toNat / 4 * 4 + a.toNat % 4 * 16 / 16 = a.toNat := by omega
    rw [joinGroups?, if_pos (by omega), first, UInt8.ofNat_toNat]
  | case3 a b =>
    have := a.toNat_lt
    have := b.toNat_lt
    have first : a.toNat / 4 * 4 + (a.toNat % 4 * 16 + b.toNat / 16) / 16 = a.toNat := by omega
    have second : (a.toNat % 4 * 16 + b.toNat / 16) % 16 * 16 + b.toNat % 16 * 4 / 4 = b.toNat := by
      omega
    rw [joinGroups?, if_pos (by omega), first, second, UInt8.ofNat_toNat, UInt8.ofNat_toNat]
  | case4 a b c rest ih =>
    have := a.toNat_lt
    have := b.toNat_lt
    have := c.toNat_lt
    have first : a.toNat / 4 * 4 + (a.toNat % 4 * 16 + b.toNat / 16) / 16 = a.toNat := by omega
    have second : (a.toNat % 4 * 16 + b.toNat / 16) % 16 * 16 +
        (b.toNat % 16 * 4 + c.toNat / 64) / 4 = b.toNat := by omega
    have third : (b.toNat % 16 * 4 + c.toNat / 64) % 4 * 64 + c.toNat % 64 = c.toNat := by omega
    simp only [joinGroups?, ih, Option.map_some, first, second, third, UInt8.ofNat_toNat]

/-- A text of octets is read back. -/
theorem decode?_encode (octets : List UInt8) : decode? (encode octets) = some octets := by
  have digits : ((sixBitGroups octets).map digit).mapM digitValue? = some (sixBitGroups octets) :=
    mapM_map_eq_some fun group mem => digitValue?_digit group (sixBitGroups_lt octets group mem)
  simp only [decode?, encode, String.toList_ofList, decodeOctets?, encodeOctets_eq, digits,
    Option.bind_some, joinGroups?_sixBitGroups]

theorem encode_ne_empty {octets : List UInt8} (some : octets ≠ []) : encode octets ≠ "" := by
  intro empty
  have decoded := decode?_encode octets
  rw [empty] at decoded
  exact some (Option.some.inj decoded).symm

end Base64Url

theorem Utf8.decode?_encode (text : String) : Utf8.decode? (Utf8.encode text) = some text := by
  have octets : (⟨(Utf8.encode text).toArray⟩ : ByteArray) = text.toByteArray := rfl
  simp only [Utf8.decode?, octets, String.fromUTF8?, text.isValidUTF8, dif_pos]
  rfl

/-- Octets are read as a text exactly if they are that text's octets. -/
theorem Utf8.decode?_eq_some_iff {octets : List UInt8} {text : String} :
    Utf8.decode? octets = some text ↔ octets = Utf8.encode text := by
  constructor
  · intro read
    rw [Utf8.decode?, String.fromUTF8?, Option.dite_none_right_eq_some] at read
    rcases read with ⟨wellFormed, spelled⟩
    cases spelled
    rfl
  · rintro rfl
    exact Utf8.decode?_encode text

theorem Utf8.decode?_nil : Utf8.decode? [] = some "" := by
  decide

end RelationAuth
