import Mathlib.Algebra.Group.Nat.Defs
import Mathlib.Data.List.Nodup
import RelationAuth.Proofs.Encoding.Base64Url

/-!
# The bits of base64 texts

Each character of the alphabet stands for six bits.  A text spells octets when the bits of its
characters are the bits of the octets, followed by fewer than six zeros.  At most one text spells
given octets, and since every text that is read spells the octets read from it, reading accepts the
texts that spell octets and no others.
-/

namespace RelationAuth.Base64Url

/-- The lowest bits of a number, the most significant first. -/
def bits : Nat → Nat → List Bool
  | 0, _ => []
  | width + 1, value => value.testBit width :: bits width value

theorem length_bits (width value : Nat) : (bits width value).length = width := by
  induction width with
  | zero => rfl
  | succ width ih => simp [bits, ih]

theorem bits_zero (width : Nat) : bits width 0 = List.replicate width false := by
  induction width with
  | zero => rfl
  | succ width ih => simp [bits, ih, List.replicate_succ]

theorem bits_mod {width bound : Nat} (value : Nat) (within : width ≤ bound) :
    bits width (value % 2 ^ bound) = bits width value := by
  induction width with
  | zero => rfl
  | succ width ih =>
    have inside : width < bound := by omega
    simp [bits, ih (by omega), Nat.testBit_mod_two_pow, inside]

theorem bits_of_mod_eq_zero {width value : Nat} (clear : value % 2 ^ width = 0) :
    bits width value = List.replicate width false := by
  rw [← bits_mod value (Nat.le_refl width), clear, bits_zero]

/-- The bits of a number are the bits of its high part, then those of its low part. -/
theorem bits_add (high low value : Nat) :
    bits (high + low) value = bits high (value / 2 ^ low) ++ bits low value := by
  induction high with
  | zero => simp [bits]
  | succ high ih =>
    rw [Nat.succ_add]
    simp [bits, ih, Nat.testBit_div_two_pow]

theorem bits_mul_add {high low value rest : Nat} (small : rest < 2 ^ low) :
    bits (high + low) (value * 2 ^ low + rest) = bits high value ++ bits low rest := by
  have front : (value * 2 ^ low + rest) / 2 ^ low = value := by
    rw [Nat.mul_comm, Nat.mul_add_div (Nat.two_pow_pos low), Nat.div_eq_of_lt small, Nat.add_zero]
  have back : (value * 2 ^ low + rest) % 2 ^ low = rest := by
    rw [Nat.mul_comm, Nat.mul_add_mod, Nat.mod_eq_of_lt small]
  rw [bits_add, front, ← bits_mod _ (Nat.le_refl low), back]

/-- The eight bits of an octet. -/
def octetBits (octet : UInt8) : List Bool :=
  bits 8 octet.toNat

theorem octetBits_ofNat (value : Nat) : octetBits (UInt8.ofNat value) = bits 8 value := by
  rw [octetBits, UInt8.toNat_ofNat', bits_mod value (Nat.le_refl 8)]

/-- The characters of the alphabet, in the order of the six bits that they stand for. -/
def alphabet : List Char :=
  "ABCDEFGHIJKLMNOPQRSTUVWXYZabcdefghijklmnopqrstuvwxyz0123456789-_".toList

/-- The six bits that a symbol stands for. -/
def symbolBits (symbol : Char) : List Bool :=
  bits 6 (alphabet.idxOf symbol)

/-- Whether a text is a base64 text of octets: it consists of characters of the alphabet, and their
bits are those of the octets with fewer than six zeros behind them, as few as complete the last
character. -/
structure Spells (text : String) (octets : List UInt8) : Prop where
  symbols : ∀ symbol ∈ text.toList, symbol ∈ alphabet
  bits : ∃ spare < 6,
    text.toList.flatMap symbolBits = octets.flatMap octetBits ++ List.replicate spare false

theorem length_flatMap_symbolBits (symbols : List Char) :
    (symbols.flatMap symbolBits).length = 6 * symbols.length := by
  simp [List.length_flatMap, symbolBits, length_bits, Nat.mul_comm]

theorem nodup_symbolBits : (alphabet.map symbolBits).Nodup := by
  decide +kernel

/-- A text over the alphabet is known by its bits. -/
theorem eq_of_flatMap_symbolBits_eq {symbols others : List Char}
    (known : ∀ symbol ∈ symbols, symbol ∈ alphabet)
    (othersKnown : ∀ other ∈ others, other ∈ alphabet)
    (same : symbols.flatMap symbolBits = others.flatMap symbolBits) : symbols = others := by
  have lengths := congrArg List.length same
  rw [length_flatMap_symbolBits, length_flatMap_symbolBits] at lengths
  induction symbols generalizing others with
  | nil =>
    rw [List.length_nil] at lengths
    exact (List.eq_nil_of_length_eq_zero (by omega)).symm
  | cons symbol symbols ih =>
    cases others with
    | nil => simp at lengths
    | cons other others =>
      rw [List.forall_mem_cons] at known othersKnown
      rw [List.flatMap_cons, List.flatMap_cons] at same
      have widths : (symbolBits symbol).length = (symbolBits other).length := by
        rw [symbolBits, symbolBits, length_bits, length_bits]
      rcases List.append_inj same widths with ⟨sameFirst, sameRest⟩
      have first : symbol = other :=
        List.inj_on_of_nodup_map nodup_symbolBits known.1 othersKnown.1 sameFirst
      rw [List.length_cons, List.length_cons] at lengths
      rw [first, ih known.2 othersKnown.2 sameRest (by omega)]

/-- Octets are spelt by one text only. -/
theorem Spells.unique {text other : String} {octets : List UInt8} (spelt : Spells text octets)
    (otherSpelt : Spells other octets) : text = other := by
  rcases spelt with ⟨known, spare, spareLt, textBits⟩
  rcases otherSpelt with ⟨otherKnown, otherSpare, otherSpareLt, otherBits⟩
  -- Both numbers of spare zeros complete the octets to a multiple of six bits.
  have spares : spare = otherSpare := by
    have textLength := congrArg List.length textBits
    have otherLength := congrArg List.length otherBits
    rw [length_flatMap_symbolBits, List.length_append, List.length_replicate] at textLength
    rw [length_flatMap_symbolBits, List.length_append, List.length_replicate] at otherLength
    omega
  rw [← spares, ← textBits] at otherBits
  exact String.toList_inj.mp (eq_of_flatMap_symbolBits_eq known otherKnown otherBits.symm)

/-- An octet that is joined from two parts has the bits of both. -/
theorem octetBits_join {value rest : Nat} (high low : Nat) (whole : high + low = 8)
    (small : rest < 2 ^ low) :
    octetBits (UInt8.ofNat (value * 2 ^ low + rest)) = bits high value ++ bits low rest := by
  rw [octetBits_ofNat, ← whole, bits_mul_add small]

/-! Four groups `p`, `q`, `r` and `s` are joined to three octets. -/

theorem firstOctet_bits {p q : Nat} (small : q < 64) :
    octetBits (UInt8.ofNat (p * 4 + q / 16)) = bits 6 p ++ bits 2 (q / 16) :=
  octetBits_join 6 2 rfl (by omega)

theorem secondOctet_bits {q r : Nat} (small : r < 64) :
    octetBits (UInt8.ofNat (q % 16 * 16 + r / 4)) = bits 4 q ++ bits 4 (r / 4) := by
  rw [← bits_mod q (Nat.le_refl 4)]
  exact octetBits_join 4 4 rfl (by omega)

theorem thirdOctet_bits {r s : Nat} (small : s < 64) :
    octetBits (UInt8.ofNat (r % 4 * 64 + s)) = bits 2 r ++ bits 6 s := by
  rw [← bits_mod r (Nat.le_refl 2)]
  exact octetBits_join 2 6 rfl small

theorem secondGroup_bits (q : Nat) : bits 6 q = bits 2 (q / 16) ++ bits 4 q :=
  bits_add 2 4 q

theorem thirdGroup_bits (r : Nat) : bits 6 r = bits 4 (r / 4) ++ bits 2 r :=
  bits_add 4 2 r

/-- Joining groups keeps their bits, up to fewer than six spare bits that have to be clear. -/
theorem flatMap_bits_of_joinGroups? {groups : List Nat} {octets : List UInt8}
    (small : ∀ group ∈ groups, group < 64) (joined : joinGroups? groups = some octets) :
    ∃ spare < 6,
      groups.flatMap (bits 6) = octets.flatMap octetBits ++ List.replicate spare false := by
  fun_induction joinGroups? groups generalizing octets with
  | case1 =>
    cases joined
    exact ⟨0, by omega, rfl⟩
  | case2 => cases joined
  | case3 p q clear =>
    cases joined
    have spare : bits 4 q = List.replicate 4 false := bits_of_mod_eq_zero clear
    refine ⟨4, by omega, ?_⟩
    simp only [List.flatMap_cons, List.flatMap_nil, List.append_nil, List.append_assoc,
      firstOctet_bits (small q (by simp)), secondGroup_bits q, spare]
  | case4 => cases joined
  | case5 p q r clear =>
    cases joined
    have spare : bits 2 r = List.replicate 2 false := bits_of_mod_eq_zero clear
    refine ⟨2, by omega, ?_⟩
    simp only [List.flatMap_cons, List.flatMap_nil, List.append_nil, List.append_assoc,
      firstOctet_bits (small q (by simp)), secondOctet_bits (small r (by simp)),
      secondGroup_bits q, thirdGroup_bits r, spare]
  | case6 => cases joined
  | case7 p q r s rest ih =>
    rcases Option.map_eq_some_iff.mp joined with ⟨later, joinedLater, rfl⟩
    simp only [List.forall_mem_cons] at small
    rcases small with ⟨-, qSmall, rSmall, sSmall, restSmall⟩
    rcases ih restSmall joinedLater with ⟨spare, spareLt, restBits⟩
    refine ⟨spare, spareLt, ?_⟩
    simp only [List.flatMap_cons, List.append_assoc, firstOctet_bits qSmall,
      secondOctet_bits rSmall, thirdOctet_bits sSmall, secondGroup_bits q, thirdGroup_bits r,
      restBits]

theorem toNat_lt_of_digitValue? {symbol : Char} {value : Nat}
    (read : digitValue? symbol = some value) : symbol.toNat < 123 := by
  by_contra large
  have beyond : ∀ last : Char, last.toNat < 123 → ¬symbol ≤ last := by
    intro last small before
    have atMost : symbol.toNat ≤ last.toNat := before
    omega
  have others : ∀ mark : Char, mark.toNat < 123 → symbol ≠ mark := by
    rintro mark small rfl
    exact large small
  simp [digitValue?, beyond 'Z' (by decide), beyond 'z' (by decide), beyond '9' (by decide),
    others '-' (by decide), others '_' (by decide)] at read

theorem alphabet_of_code : ∀ code < 123, ∀ value ∈ digitValue? (Char.ofNat code),
    Char.ofNat code ∈ alphabet ∧ alphabet.idxOf (Char.ofNat code) = value := by
  decide +kernel

/-- The reader's digits are those of the alphabet. -/
theorem alphabet_of_digitValue? {symbol : Char} {value : Nat}
    (read : digitValue? symbol = some value) :
    symbol ∈ alphabet ∧ alphabet.idxOf symbol = value := by
  have known := alphabet_of_code symbol.toNat (toNat_lt_of_digitValue? read)
  rw [Char.ofNat_toNat] at known
  exact known value read

theorem symbols_of_mapM {symbols : List Char} {groups : List Nat}
    (read : symbols.mapM digitValue? = some groups) :
    (∀ symbol ∈ symbols, symbol ∈ alphabet) ∧ (∀ group ∈ groups, group < 64) ∧
      symbols.flatMap symbolBits = groups.flatMap (bits 6) := by
  induction symbols generalizing groups with
  | nil =>
    cases read
    simp
  | cons symbol rest ih =>
    simp only [List.mapM_cons, Option.bind_eq_bind, Option.bind_eq_some_iff, Option.pure_def,
      Option.some.injEq] at read
    rcases read with ⟨value, valueRead, later, laterRead, rfl⟩
    rcases alphabet_of_digitValue? valueRead with ⟨known, rfl⟩
    rcases ih laterRead with ⟨restKnown, laterSmall, restBits⟩
    have small : alphabet.idxOf symbol < alphabet.length := List.idxOf_lt_length_iff.mpr known
    refine ⟨List.forall_mem_cons.mpr ⟨known, restKnown⟩,
      List.forall_mem_cons.mpr ⟨small, laterSmall⟩, ?_⟩
    simp [restBits, symbolBits]

/-- What the reader accepts spells the octets that it gives. -/
theorem spells_of_decode? {text : String} {octets : List UInt8}
    (read : decode? text = some octets) : Spells text octets := by
  rcases Option.bind_eq_some_iff.mp read with ⟨groups, symbolsRead, joined⟩
  rcases symbols_of_mapM symbolsRead with ⟨known, small, textBits⟩
  refine ⟨known, ?_⟩
  rw [textBits]
  exact flatMap_bits_of_joinGroups? small joined

/-- Reading accepts the base64 text of given octets and no other text for them. -/
theorem decode?_eq_some_iff {text : String} {octets : List UInt8} :
    decode? text = some octets ↔ Spells text octets := by
  refine ⟨spells_of_decode?, fun spelt => ?_⟩
  have written : Spells (encode octets) octets := spells_of_decode? (decode?_encode octets)
  rw [spelt.unique written]
  exact decode?_encode octets

end RelationAuth.Base64Url
