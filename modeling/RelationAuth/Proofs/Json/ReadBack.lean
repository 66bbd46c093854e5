import Mathlib.Data.Option.Basic
import RelationAuth.Json.Reader
import RelationAuth.Json.Writer
import RelationAuth.Proofs.Encoding.Base64Url

/-!
# JSON read back

A value whose parts are all readable and whose numbers are integers of 64 bits is read back from its
text.  Strings come first, then numbers, and then values: a value is read at the start of any input
that goes on behind it with a mark that ends it.
-/

namespace RelationAuth.Json

/-! ### Strings -/

/-- The piece that a character is written as inside a string. -/
def pieceOf (symbol : Char) : Piece :=
  if symbol < ' ' ∧ symbol ∉ ['\x08', '\t', '\n', '\x0c', '\r'] then .code symbol.toNat
  else .symbol symbol

theorem hexUnit?_of_control :
    ∀ unit < 32, hexUnit? '0' '0' (hexDigit (unit / 16)) (hexDigit (unit % 16)) = some unit := by
  decide

theorem toNat_lt_of_control {symbol : Char} (control : symbol < ' ') : symbol.toNat < 32 := by
  simpa [Char.lt_def, UInt32.lt_iff_toNat_lt] using control

/-- A printed symbol other than the two marks of a string stands for itself. -/
theorem scanPieces_of_plain {symbol : Char} (rest : List Char) (quote : symbol ≠ '"')
    (backslash : symbol ≠ '\\') (printed : ¬symbol < ' ') :
    scanPieces (symbol :: rest) =
      (scanPieces rest).map fun scan => (.symbol symbol :: scan.1, scan.2) := by
  have unmarked : symbol ≠ strayMark := by
    rintro rfl
    exact printed (by decide)
  have start : ' ' ≤ symbol := Char.not_lt.mp printed
  have guarded : (guard (symbol ≠ '\\' ∧ (' ' ≤ symbol ∨ symbol = strayMark)) : Option Unit) =
      some () := if_pos ⟨backslash, .inl start⟩
  rw [scanPieces.eq_def]
  split
  next same => cases same
  next same => exact absurd (List.cons.inj same).1 quote
  next same => exact absurd (List.cons.inj same).1 backslash
  next same => exact absurd (List.cons.inj same).1 backslash
  next same =>
    obtain ⟨rfl, rfl⟩ := List.cons.inj same
    rw [guarded]
    simp only [if_neg unmarked]
    rcases scanPieces rest with _ | scan <;> rfl

/-- The escape of a character is scanned as its piece. -/
theorem scanPieces_escapeChar (symbol : Char) (rest : List Char) :
    scanPieces (escapeChar symbol ++ rest) =
      (scanPieces rest).map fun scan => (pieceOf symbol :: scan.1, scan.2) := by
  by_cases quote : symbol = '"'
  · subst quote
    rcases scanned : scanPieces rest with _ | scan <;>
      simp [escapeChar, scanPieces, escaped?, pieceOf, scanned]
  by_cases backslash : symbol = '\\'
  · subst backslash
    rcases scanned : scanPieces rest with _ | scan <;>
      simp [escapeChar, scanPieces, escaped?, pieceOf, scanned]
  by_cases letter : symbol ∈ ['\x08', '\t', '\n', '\x0c', '\r']
  · have plain : pieceOf symbol = .symbol symbol := by simp [pieceOf, letter]
    rw [plain]
    simp only [List.mem_cons, List.not_mem_nil, or_false] at letter
    rcases scanned : scanPieces rest with _ | scan <;>
      rcases letter with rfl | rfl | rfl | rfl | rfl <;>
      simp [escapeChar, scanPieces, escaped?, scanned]
  simp only [List.mem_cons, List.not_mem_nil, or_false, not_or] at letter
  by_cases control : symbol < ' '
  · have unit := hexUnit?_of_control symbol.toNat (toNat_lt_of_control control)
    rcases scanned : scanPieces rest with _ | scan <;>
      simp [escapeChar, quote, backslash, letter, control, scanPieces, unit, pieceOf, scanned]
  · have plain : pieceOf symbol = .symbol symbol := by simp [pieceOf, control]
    have unescaped : escapeChar symbol = [symbol] := by
      simp [escapeChar, quote, backslash, letter, control]
    rw [plain, unescaped]
    exact scanPieces_of_plain rest quote backslash control

/-- The escaped symbols of a string are scanned one by one, up to the closing quote. -/
theorem scanPieces_body (symbols rest : List Char) :
    scanPieces (symbols.flatMap escapeChar ++ '"' :: rest) = some (symbols.map pieceOf, rest) := by
  induction symbols with
  | nil => simp [scanPieces]
  | cons symbol others ih =>
    rw [List.flatMap_cons, List.append_assoc, scanPieces_escapeChar, ih]
    rfl

theorem joinPieces_code {unit : Nat} (small : unit < 0xD800) (rest : List Piece) :
    joinPieces (.code unit :: rest) = (joinPieces rest).map (Char.ofNat unit :: ·) := by
  have notHigh : isHighSurrogate unit = false := by
    simp [isHighSurrogate]
    omega
  have notLow : isLowSurrogate unit = false := by
    simp [isLowSurrogate]
    omega
  rcases rest with _ | ⟨_ | _ | _, others⟩ <;> simp [joinPieces, notHigh, notLow]
  rfl

/-- The pieces of a written string join to the string. -/
theorem joinPieces_map_pieceOf (symbols : List Char) :
    joinPieces (symbols.map pieceOf) = .ok symbols := by
  induction symbols with
  | nil => simp [joinPieces]
  | cons symbol others ih =>
    rw [List.map_cons]
    by_cases control : symbol < ' ' ∧ symbol ∉ ['\x08', '\t', '\n', '\x0c', '\r']
    · have small := toNat_lt_of_control control.1
      rw [pieceOf, if_pos control, joinPieces_code (by omega), ih, Char.ofNat_toNat]
      rfl
    · rw [pieceOf, if_neg control, joinPieces, ih]
      rfl

/-- A quoted text is read back, up to its closing quote. -/
theorem scanText_quoted (text : String) (rest : List Char) :
    scanText (text.toList.flatMap escapeChar ++ '"' :: rest) = some (.ok text, rest) := by
  rw [scanText, scanPieces_body]
  simp [joinPieces_map_pieceOf, Except.map]

/-- Whether an input goes on behind a value as inside an array or an object, or has ended. -/
def Ends (input : List Char) : Prop :=
  ∀ symbol ∈ input.head?, symbol = ',' ∨ symbol = ']' ∨ symbol = '}'

theorem Ends.skipBlanks {input : List Char} (ends : Ends input) : skipBlanks input = input := by
  rcases input with _ | ⟨symbol, rest⟩
  · rfl
  · rcases ends symbol rfl with rfl | rfl | rfl <;> rfl

/-! ### Numbers -/

theorem natOfDigits_toDigits (value : Nat) : natOfDigits (Nat.toDigits 10 value) = value := by
  have spelled : Nat.ofDigitChars 10 (Nat.toDigits 10 value) 0 = value :=
    Nat.ofDigitChars_ten_toDigits
  simpa [natOfDigits, digitOf, Nat.ofDigitChars, Nat.mul_comm] using spelled

theorem isDigit_of_mem_toDigits {value : Nat} :
    ∀ symbol ∈ Nat.toDigits 10 value, symbol.isDigit = true :=
  fun _ mem => Nat.isDigit_of_mem_toDigits (by decide) (by decide) mem

/-- The digits of a number other than zero do not begin with a zero. -/
theorem head?_toDigits_ne_zero {value : Nat} (positive : 0 < value) :
    (Nat.toDigits 10 value).head? ≠ some '0' := by
  induction value using Nat.strongRecOn with
  | ind value ih =>
    by_cases single : value < 10
    · rw [Nat.toDigits_of_lt_base single]
      have digits : ∀ digit < 10, 0 < digit → [Nat.digitChar digit].head? ≠ some '0' := by
        decide
      exact digits value single positive
    · have leading := ih (value / 10) (by omega) (by omega)
      rw [Nat.toDigits_of_base_le (by decide) (by omega)]
      rcases digits : Nat.toDigits 10 (value / 10) with _ | ⟨first, others⟩
      · exact absurd digits Nat.toDigits_ne_nil
      · simpa [digits] using leading

theorem whole_of_toDigits (value : Nat) :
    Nat.toDigits 10 value ≠ [] ∧
      ((Nat.toDigits 10 value).head? = some '0' → (Nat.toDigits 10 value).length = 1) := by
  refine ⟨Nat.toDigits_ne_nil, fun zero => ?_⟩
  rcases Nat.eq_zero_or_pos value with rfl | positive
  · rfl
  · exact absurd zero (head?_toDigits_ne_zero positive)

/-- The numeral that an integer is written as. -/
def numeralOf (value : Int) : Numeral :=
  { negative := value < 0
    whole := Nat.toDigits 10 value.natAbs
    fraction := none
    exponent := none }

theorem Ends.takeWhile_digits {rest : List Char} (ends : Ends rest) (value : Nat) :
    (Nat.toDigits 10 value ++ rest).takeWhile Char.isDigit = Nat.toDigits 10 value ∧
      (Nat.toDigits 10 value ++ rest).dropWhile Char.isDigit = rest := by
  have stops : rest.takeWhile Char.isDigit = [] ∧ rest.dropWhile Char.isDigit = rest := by
    rcases rest with _ | ⟨symbol, others⟩
    · exact ⟨rfl, rfl⟩
    · rcases ends symbol rfl with rfl | rfl | rfl <;> exact ⟨rfl, rfl⟩
  rw [List.takeWhile_append_of_pos isDigit_of_mem_toDigits,
    List.dropWhile_append_of_pos isDigit_of_mem_toDigits, stops.1, stops.2, List.append_nil]
  exact ⟨rfl, rfl⟩

theorem toDigits_eq_cons (value : Nat) :
    ∃ first others, Nat.toDigits 10 value = first :: others ∧ first.isDigit = true := by
  rcases digits : Nat.toDigits 10 value with _ | ⟨first, others⟩
  · exact absurd digits Nat.toDigits_ne_nil
  · exact ⟨first, others, rfl,
      isDigit_of_mem_toDigits first (by rw [digits]; exact List.mem_cons_self)⟩

/-- A written integer is scanned as its numeral, if what follows cannot go on with it. -/
theorem scanNumeral_integerText {rest : List Char} (ends : Ends rest) (value : Int) :
    scanNumeral (integerText value ++ rest) = some (numeralOf value, rest) := by
  rcases ends.takeWhile_digits value.natAbs with ⟨digits, after⟩
  have wellFormed : (guard (Nat.toDigits 10 value.natAbs ≠ [] ∧
      ((Nat.toDigits 10 value.natAbs).head? = some '0' →
        (Nat.toDigits 10 value.natAbs).length = 1)) : Option Unit) = some () :=
    if_pos (whole_of_toDigits value.natAbs)
  by_cases negative : value < 0
  · simp only [scanNumeral, integerText, negative, if_true, List.cons_append, digits, after,
      wellFormed]
    rcases rest with _ | ⟨symbol, others⟩
    · simp [numeralOf, negative]
    · rcases ends symbol rfl with rfl | rfl | rfl <;> simp [numeralOf, negative]
  · have unsigned : ∀ others, Nat.toDigits 10 value.natAbs ++ rest ≠ '-' :: others := by
      rcases toDigits_eq_cons value.natAbs with ⟨first, more, spelled, digit⟩
      rintro others same
      rw [spelled, List.cons_append, List.cons.injEq] at same
      rw [same.1] at digit
      cases digit
    simp only [scanNumeral, integerText, negative, if_false, digits, after, wellFormed]
    rcases rest with _ | ⟨symbol, more⟩
    · simp [numeralOf, negative]
    · rcases ends symbol rfl with rfl | rfl | rfl <;> simp [numeralOf, negative]

/-- A numeral between the least signed and the greatest unsigned word has its value. -/
theorem value?_numeralOf {value : Int} (least : -(signed64Bound : Int) ≤ value)
    (most : value < word64Bound) : (numeralOf value).value? = some (.whole value) := by
  simp only [Numeral.value?, numeralOf, natOfDigits_toDigits, maxUnsigned]
  by_cases negative : value < 0
  · have magnitude : 1 ≤ value.natAbs ∧ value.natAbs ≤ signed64Bound := by omega
    have back : -(value.natAbs : Int) = value := by omega
    rw [if_neg (by simp [negative]), if_pos (by simp [negative, magnitude]), back]
  · have magnitude : value.natAbs ≤ word64Bound - 1 := by omega
    have back : (value.natAbs : Int) = value := by omega
    simp only [negative, magnitude]
    simp [back]

/-! ### Values -/

/-- Whether every part of a value can be told from its text: the value has no unreadable part, and
its numbers are integers of 64 bits. -/
inductive Legible : Json → Prop where
  | null : Legible null
  | bool (flag : Bool) : Legible (bool flag)
  | integer {value : Int} (least : -(signed64Bound : Int) ≤ value) (most : value < word64Bound) :
      Legible (number (.whole value))
  | string (text : String) : Legible (string text)
  | array {items : List Json} (legible : ∀ item ∈ items, Legible item) : Legible (array items)
  | object {members : List (String × Json)} (legible : ∀ member ∈ members, Legible member.2) :
      Legible (object members)

/-- Whether a number can begin with a character. -/
def startsNumber (symbol : Char) : Bool :=
  symbol = '-' || symbol.isDigit

theorem integerText_eq_cons (value : Int) :
    ∃ first others, integerText value = first :: others ∧ startsNumber first = true := by
  by_cases negative : value < 0
  · exact ⟨'-', Nat.toDigits 10 value.natAbs, by simp [integerText, negative], rfl⟩
  · rcases toDigits_eq_cons value.natAbs with ⟨first, others, spelled, digit⟩
    exact ⟨first, others, by simp [integerText, negative, spelled], by simp [startsNumber, digit]⟩

theorem ne_of_startsNumber {symbol other : Char} (start : startsNumber symbol = true)
    (apart : startsNumber other = false) : symbol ≠ other := by
  rintro rfl
  rw [start] at apart
  cases apart

theorem isBlank_of_startsNumber {symbol : Char} (start : startsNumber symbol = true) :
    isBlank symbol = false := by
  have apart : symbol ≠ ' ' ∧ symbol ≠ '\n' ∧ symbol ≠ '\t' ∧ symbol ≠ '\r' :=
    ⟨ne_of_startsNumber start rfl, ne_of_startsNumber start rfl, ne_of_startsNumber start rfl,
      ne_of_startsNumber start rfl⟩
  simp [isBlank, apart]

theorem skipBlanks_cons {symbol : Char} (printed : isBlank symbol = false) (rest : List Char) :
    skipBlanks (symbol :: rest) = symbol :: rest := by
  simp [skipBlanks, printed]

/-- The text of a value begins with a character that is neither blank nor the end of an array. -/
theorem Legible.chars_eq_cons {value : Json} (legible : Legible value) :
    ∃ first others, value.chars = first :: others ∧ isBlank first = false ∧ first ≠ ']' := by
  cases legible with
  | null => exact ⟨_, _, rfl, rfl, by decide⟩
  | bool flag => cases flag <;> exact ⟨_, _, rfl, rfl, by decide⟩
  | @integer value =>
    rcases integerText_eq_cons value with ⟨first, others, spelled, start⟩
    exact ⟨first, others, spelled, isBlank_of_startsNumber start, ne_of_startsNumber start rfl⟩
  | string text => exact ⟨_, _, by rw [chars, quote], rfl, by decide⟩
  | array => exact ⟨_, _, by rw [chars], rfl, by decide⟩
  | object => exact ⟨_, _, by rw [chars], rfl, by decide⟩

/-- Whether a value is read at the start of every input that goes on behind its text.  The number of
calls that a reader is allowed grows with the text. -/
def ReadBack (value : Json) : Prop :=
  ∀ calls rest, 2 * value.chars.length ≤ calls → Ends rest →
    scanValue calls (value.chars ++ rest) = some (value, rest)

/-- A text that is not empty leaves its reader a call. -/
theorem ReadBack.of_call {value : Json} (spelled : value.chars ≠ [])
    (read : ∀ calls rest, 2 * value.chars.length ≤ calls + 1 → Ends rest →
      scanValue (calls + 1) (value.chars ++ rest) = some (value, rest)) : ReadBack value := by
  intro calls rest enough ends
  have nonempty : 0 < value.chars.length := List.length_pos_iff.mpr spelled
  obtain ⟨calls, rfl⟩ := Nat.exists_eq_succ_of_ne_zero (show calls ≠ 0 by omega)
  exact read calls rest enough ends

theorem scanValue_of_startsNumber {symbol : Char} (start : startsNumber symbol = true)
    (calls : Nat) (rest : List Char) :
    scanValue (calls + 1) (symbol :: rest) =
      (scanNumeral (symbol :: rest)).map fun scan =>
        ((scan.1.value?.map number).getD (unreadable scan.1.halt), scan.2) := by
  have letters : symbol ≠ 'n' ∧ symbol ≠ 't' ∧ symbol ≠ 'f' :=
    ⟨ne_of_startsNumber start rfl, ne_of_startsNumber start rfl, ne_of_startsNumber start rfl⟩
  have marks : symbol ≠ '"' ∧ symbol ≠ '[' ∧ symbol ≠ '{' :=
    ⟨ne_of_startsNumber start rfl, ne_of_startsNumber start rfl, ne_of_startsNumber start rfl⟩
  rw [scanValue.eq_def]
  simp only [skipBlanks_cons (isBlank_of_startsNumber start)]
  split <;> simp_all

/-- An integer between the least signed and the greatest unsigned word is read back. -/
theorem readBack_integer {value : Int} (least : -(signed64Bound : Int) ≤ value)
    (most : value < word64Bound) : ReadBack (number (.whole value)) := by
  rcases integerText_eq_cons value with ⟨first, others, spelled, start⟩
  have written : (number (.whole value)).chars = first :: others := spelled
  refine .of_call (by simp [written]) fun calls rest _ ends => ?_
  rw [written, List.cons_append, scanValue_of_startsNumber start, ← List.cons_append, ← spelled,
    scanNumeral_integerText ends value]
  simp [value?_numeralOf least most]

theorem readBack_null : ReadBack null := by
  refine .of_call (by simp [chars]) fun calls rest _ _ => ?_
  rw [chars, scanValue.eq_def]
  rfl

theorem readBack_bool (flag : Bool) : ReadBack (bool flag) := by
  cases flag <;> refine .of_call (by simp [chars]) fun calls rest _ _ => ?_
  · rw [chars, scanValue.eq_def]
    rfl
  · rw [chars, scanValue.eq_def]
    rfl

theorem readBack_string (text : String) : ReadBack (string text) := by
  refine .of_call (by simp [chars, quote]) fun calls rest _ _ => ?_
  rw [chars, quote, List.cons_append, List.append_assoc, List.singleton_append, scanValue.eq_def]
  simp [skipBlanks, isBlank, scanText_quoted, ofText]

/-- The items of an array that is not empty are read up to its closing bracket. -/
theorem scanItems_itemChars {items : List Json} (nonempty : items ≠ [])
    (readBack : ∀ item ∈ items, ReadBack item) (calls : Nat)
    (enough : 2 * (itemChars items).length + 1 ≤ calls) (rest : List Char) :
    scanItems calls (itemChars items ++ ']' :: rest) = some (items, rest) := by
  induction items generalizing calls with
  | nil => exact absurd rfl nonempty
  | cons item others ih =>
    obtain ⟨calls, rfl⟩ := Nat.exists_eq_succ_of_ne_zero (show calls ≠ 0 by omega)
    rw [List.forall_mem_cons] at readBack
    rcases others with _ | ⟨next, others⟩
    · simp only [itemChars] at enough ⊢
      have first := readBack.1 calls (']' :: rest) (by omega) (by simp [Ends])
      simp only [scanItems, first]
      rfl
    · have spelled : itemChars (item :: next :: others) =
          item.chars ++ ',' :: itemChars (next :: others) := by
        simp [itemChars]
      rw [spelled, List.length_append, List.length_cons] at enough
      have first := readBack.1 calls (',' :: (itemChars (next :: others) ++ ']' :: rest)) (by omega)
        (by simp [Ends])
      have more := ih (by simp) readBack.2 calls (by omega)
      rw [spelled, List.append_assoc, List.cons_append]
      simp only [scanItems, first]
      simp [skipBlanks, isBlank, more]

/-- The members of an object that is not empty are read up to its closing brace. -/
theorem scanMembers_memberChars {members : List (String × Json)} (nonempty : members ≠ [])
    (readBack : ∀ member ∈ members, ReadBack member.2) (calls : Nat)
    (enough : 2 * (memberChars members).length + 1 ≤ calls) (rest : List Char) :
    scanMembers calls (memberChars members ++ '}' :: rest) =
      some (members.map fun member => (.ok member.1, member.2), rest) := by
  induction members generalizing calls with
  | nil => exact absurd rfl nonempty
  | cons member others ih =>
    obtain ⟨calls, rfl⟩ := Nat.exists_eq_succ_of_ne_zero (show calls ≠ 0 by omega)
    rcases member with ⟨name, value⟩
    rw [List.forall_mem_cons] at readBack
    have readFirst : ReadBack value := readBack.1
    rcases others with _ | ⟨next, others⟩
    · simp only [memberChars, List.length_append, List.length_cons] at enough
      have first := readFirst calls ('}' :: rest) (by omega) (by simp [Ends])
      simp only [memberChars, quote, List.cons_append, List.append_assoc, List.nil_append,
        scanMembers]
      simp [skipBlanks, isBlank, scanText_quoted, first]
    · have spelled : memberChars ((name, value) :: next :: others) =
          quote name ++ ':' :: (value.chars ++ ',' :: memberChars (next :: others)) := by
        simp [memberChars]
      rw [spelled, List.length_append, List.length_cons, List.length_append, List.length_cons]
        at enough
      have first := readFirst calls (',' :: (memberChars (next :: others) ++ '}' :: rest))
        (by omega) (by simp [Ends])
      have more := ih (by simp) readBack.2 calls (by omega)
      rw [spelled]
      simp only [quote, List.cons_append, List.append_assoc, List.nil_append, scanMembers]
      simp [skipBlanks, isBlank, scanText_quoted, first, more]

theorem ofMembers_named (members : List (String × Json)) :
    ofMembers (members.map fun member => (.ok member.1, member.2)) = object members := by
  have named :
      (members.map fun member => ((.ok member.1, member.2) : Except Halt String × Json)).mapM
        (fun member => member.1.map (·, member.2)) = .ok members := by
    induction members with
    | nil => rfl
    | cons member others ih =>
      rw [List.map_cons, List.mapM_cons, ih]
      rfl
  rw [ofMembers, named]

theorem scanValue_items {symbol : Char} (printed : isBlank symbol = false)
    (begun : symbol ≠ ']') (calls : Nat) (rest : List Char) :
    scanValue (calls + 1) ('[' :: symbol :: rest) =
      (scanItems calls (symbol :: rest)).map fun scan => (array scan.1, scan.2) := by
  rw [scanValue.eq_def]
  simp only [skipBlanks_cons (show isBlank '[' = false from rfl), skipBlanks_cons printed]
  split <;> simp_all

theorem readBack_array {items : List Json} (legible : ∀ item ∈ items, Legible item)
    (readBack : ∀ item ∈ items, ReadBack item) : ReadBack (array items) := by
  refine .of_call (by simp [chars]) fun calls rest enough _ => ?_
  simp only [chars, List.length_cons, List.length_append, List.length_nil] at enough
  rw [chars, List.cons_append, List.append_assoc, List.singleton_append]
  rcases items with _ | ⟨item, others⟩
  · rw [scanValue.eq_def]
    rfl
  · have inside := scanItems_itemChars (by simp) readBack calls (by omega) rest
    rcases (legible item List.mem_cons_self).chars_eq_cons with
      ⟨first, more, spelled, printed, begun⟩
    obtain ⟨tail, start⟩ : ∃ tail, itemChars (item :: others) = first :: tail := by
      cases others <;> simp [itemChars, spelled]
    rw [start, List.cons_append] at inside ⊢
    rw [scanValue_items printed begun, inside]
    rfl

/-- An object is read back, with its members in order, if their values are. -/
theorem readBack_object {members : List (String × Json)}
    (readBack : ∀ member ∈ members, ReadBack member.2) : ReadBack (object members) := by
  refine .of_call (by simp [chars]) fun calls rest enough _ => ?_
  simp only [chars, List.length_cons, List.length_append, List.length_nil] at enough
  rw [chars, List.cons_append, List.append_assoc, List.singleton_append, scanValue.eq_def]
  rcases members with _ | ⟨member, others⟩
  · rfl
  · have inside := scanMembers_memberChars (by simp) readBack calls (by omega) rest
    obtain ⟨tail, start⟩ : ∃ tail, memberChars (member :: others) = '"' :: tail := by
      cases others <;> simp [memberChars, quote]
    have named := ofMembers_named (member :: others)
    rw [start, List.cons_append] at inside ⊢
    simp only [skipBlanks_cons (show isBlank '{' = false from rfl),
      skipBlanks_cons (show isBlank '"' = false from rfl), inside, Option.map_some, named]
    rfl

/-- Every legible value is read back, by induction on how it is built. -/
theorem Legible.readBack {value : Json} (legible : Legible value) : ReadBack value := by
  induction legible with
  | null => exact readBack_null
  | bool flag => exact readBack_bool flag
  | integer least most => exact readBack_integer least most
  | string text => exact readBack_string text
  | array legible readBack => exact readBack_array legible readBack
  | object _ readBack => exact readBack_object readBack

/-! ### Whole texts -/

theorem strayMark_ne_hexDigit :
    ∀ value < 32, strayMark ≠ hexDigit (value / 16) ∧ strayMark ≠ hexDigit (value % 16) := by
  decide

/-- The mark of a stray surrogate stands in no escape. -/
theorem strayMark_not_mem_escapeChar (symbol : Char) : strayMark ∉ escapeChar symbol := by
  have escapes : strayMark ∉ ['\\', '"', 'b', 't', 'n', 'f', 'r', 'u', '0'] := by decide
  simp only [List.mem_cons, List.not_mem_nil, or_false, not_or] at escapes
  unfold escapeChar
  by_cases control : symbol < ' '
  · have digits := strayMark_ne_hexDigit symbol.toNat (toNat_lt_of_control control)
    rw [if_pos control]
    repeat' split
    all_goals simp [escapes, digits]
  · have printed : strayMark ≠ symbol := by
      rintro rfl
      exact control (by decide)
    rw [if_neg control]
    repeat' split
    all_goals simp [escapes, printed]

theorem strayMark_not_mem_quote (text : String) : strayMark ∉ quote text := by
  have quoted : strayMark ≠ '"' := by decide
  have body : strayMark ∉ text.toList.flatMap escapeChar := by
    intro mem
    rcases List.mem_flatMap.mp mem with ⟨symbol, _, escaped⟩
    exact strayMark_not_mem_escapeChar symbol escaped
  simp [quote, quoted, body]

theorem strayMark_not_mem_integerText (value : Int) : strayMark ∉ integerText value := by
  have unsigned : strayMark ≠ '-' := by decide
  have digits : strayMark ∉ Nat.toDigits 10 value.natAbs := by
    intro mem
    cases isDigit_of_mem_toDigits _ mem
  unfold integerText
  split <;> simp [digits, unsigned]

theorem strayMark_not_mem_itemChars {items : List Json}
    (unmarked : ∀ item ∈ items, strayMark ∉ item.chars) : strayMark ∉ itemChars items := by
  have comma : strayMark ≠ ',' := by decide
  induction items with
  | nil => simp [itemChars]
  | cons item others ih =>
    rw [List.forall_mem_cons] at unmarked
    rcases others with _ | ⟨next, others⟩
    · simp [itemChars, unmarked.1]
    · simp [itemChars, unmarked.1, comma, ih unmarked.2]

theorem strayMark_not_mem_memberChars {members : List (String × Json)}
    (unmarked : ∀ member ∈ members, strayMark ∉ member.2.chars) :
    strayMark ∉ memberChars members := by
  have comma : strayMark ≠ ',' := by decide
  have colon : strayMark ≠ ':' := by decide
  induction members with
  | nil => simp [memberChars]
  | cons member others ih =>
    rcases member with ⟨name, value⟩
    have named := strayMark_not_mem_quote name
    rw [List.forall_mem_cons] at unmarked
    have first : strayMark ∉ value.chars := unmarked.1
    rcases others with _ | ⟨next, others⟩
    · simp [memberChars, named, colon, first]
    · simp [memberChars, named, colon, first, comma, ih unmarked.2]

/-- No stray mark stands in what is written of a legible value. -/
theorem Legible.strayMark_not_mem_chars {value : Json} (legible : Legible value) :
    strayMark ∉ value.chars := by
  have brackets : strayMark ∉ ['[', ']', '{', '}'] := by decide
  simp only [List.mem_cons, List.not_mem_nil, or_false, not_or] at brackets
  induction legible with
  | null => decide
  | bool flag => cases flag <;> decide
  | @integer value => exact strayMark_not_mem_integerText value
  | string text => exact strayMark_not_mem_quote text
  | array _ unmarked => simp [chars, brackets, strayMark_not_mem_itemChars unmarked]
  | object _ unmarked => simp [chars, brackets, strayMark_not_mem_memberChars unmarked]

theorem limitMembers_eq_self {members : List (String × Json)} {levels : Nat}
    (flat : ∀ member ∈ members, member.2.limitDepth levels = member.2) :
    limitMembers levels members = members := by
  induction members with
  | nil => rfl
  | cons member others ih =>
    rw [List.forall_mem_cons] at flat
    rw [limitMembers, flat.1, ih flat.2]

theorem limitItems_eq_self {items : List Json} {levels : Nat}
    (flat : ∀ item ∈ items, item.limitDepth levels = item) : limitItems levels items = items := by
  induction items with
  | nil => rfl
  | cons item others ih =>
    rw [List.forall_mem_cons] at flat
    rw [limitItems, flat.1, ih flat.2]

/-- The text of a legible value denotes the value, as far as a reader follows its nesting. -/
theorem parse?_render {value : Json} (legible : Legible value)
    (shallow : value.limitDepth maxDepth = value) : parse? value.render = some value := by
  have scanned := legible.readBack (2 * value.chars.length + 2) [] (by omega) (by simp [Ends])
  rw [List.append_nil] at scanned
  have unmarked : (guard (strayMark ∉ value.chars) : Option Unit) = some () :=
    if_pos legible.strayMark_not_mem_chars
  simp only [parse?, render, String.toList_ofList, unmarked, ofChars?, scanned, bind, Option.bind,
    shallow]
  rfl

/-- The octets of a legible and shallow value are read back. -/
theorem ofOctets?_render {value : Json} (legible : Legible value)
    (shallow : value.limitDepth maxDepth = value) :
    ofOctets? (Utf8.encode value.render) = some value := by
  rw [ofOctets?, Utf8.decode?_encode]
  exact parse?_render legible shallow

end RelationAuth.Json
