import RelationAuth.Json.Basic
import RelationAuth.Text.Utf8

/-!
# Reading JSON

The reader accepts exactly the texts of the JSON grammar.  What is well-formed but denotes no value
becomes an unreadable part of the result: a string with an unpaired surrogate escape or with an
octet that is no part of a character, an object with such a name, a number beyond every finite
value, and nesting deeper than `Json.maxDepth`.
-/

namespace RelationAuth.Json

/-- Whether a character is blank between the tokens of JSON. -/
def isBlank (symbol : Char) : Bool :=
  symbol == ' ' || symbol == '\n' || symbol == '\t' || symbol == '\r'

/-- The rest of a text after blanks. -/
def skipBlanks (input : List Char) : List Char :=
  input.dropWhile isBlank

/-- The value of a hexadecimal digit of either case. -/
def hexValue? (symbol : Char) : Option Nat :=
  if '0' ≤ symbol ∧ symbol ≤ '9' then some (symbol.toNat - 48)
  else if 'a' ≤ symbol ∧ symbol ≤ 'f' then some (symbol.toNat - 87)
  else if 'A' ≤ symbol ∧ symbol ≤ 'F' then some (symbol.toNat - 55)
  else none

/-- The unit of sixteen bits that four hexadecimal digits spell. -/
def hexUnit? (a b c d : Char) : Option Nat := do
  return (((← hexValue? a) * 16 + (← hexValue? b)) * 16 + (← hexValue? c)) * 16 + (← hexValue? d)

/-- The character that a letter after a backslash stands for. -/
def escaped? (letter : Char) : Option Char :=
  match letter with
  | '"' => some '"'
  | '\\' => some '\\'
  | '/' => some '/'
  | 'b' => some '\x08'
  | 'f' => some '\x0c'
  | 'n' => some '\n'
  | 'r' => some '\r'
  | 't' => some '\t'
  | _ => none

/-- The character in the place of an octet that is no part of a character.  No JSON text has it. -/
def strayMark : Char := '\x00'

/-- A part of a string: a character, a unit of sixteen bits given by its number, or a stray
octet. -/
inductive Piece where
  | symbol (value : Char)
  | code (unit : Nat)
  | stray
  deriving DecidableEq, Repr

/-- The pieces of a string after its opening quote, and the input after its closing quote. -/
def scanPieces : List Char → Option (List Piece × List Char)
  | [] => none
  | '"' :: rest => some ([], rest)
  | '\\' :: 'u' :: a :: b :: c :: d :: rest => do
    let unit ← hexUnit? a b c d
    let (pieces, after) ← scanPieces rest
    return (.code unit :: pieces, after)
  | '\\' :: letter :: rest => do
    let value ← escaped? letter
    let (pieces, after) ← scanPieces rest
    return (.symbol value :: pieces, after)
  | value :: rest => do
    guard (value ≠ '\\' ∧ (' ' ≤ value ∨ value = strayMark))
    let (pieces, after) ← scanPieces rest
    return (if value = strayMark then .stray :: pieces else .symbol value :: pieces, after)

/-- Whether a unit is the first of the two that spell out a character beyond 16 bits. -/
def isHighSurrogate (unit : Nat) : Bool :=
  0xD800 ≤ unit && unit ≤ 0xDBFF

/-- Whether a unit is the second of the two that spell out a character beyond 16 bits. -/
def isLowSurrogate (unit : Nat) : Bool :=
  0xDC00 ≤ unit && unit ≤ 0xDFFF

/-- The characters that pieces spell: two units that form a surrogate pair are one character, and
any other surrogate is none.  A reader gives up on a surrogate where it stands, and has the closing
quote behind it only where it looks for the second half of a pair in vain.  It gives up on a stray
octet when it has seen all of the string. -/
def joinPieces : List Piece → Except Halt (List Char)
  | [] => .ok []
  | .symbol value :: rest => (joinPieces rest).map (value :: ·)
  | .stray :: rest => joinPieces rest >>= fun _ => .error .behind
  | [.code unit] =>
    if isHighSurrogate unit then .error .behind
    else if isLowSurrogate unit then .error .inside
    else .ok [Char.ofNat unit]
  | .code high :: .code low :: rest =>
    if isHighSurrogate high then
      if isLowSurrogate low then
        let joined := Char.ofNat (0x10000 + (high - 0xD800) * 0x400 + (low - 0xDC00))
        (joinPieces rest).map (joined :: ·)
      else .error .inside
    else if isLowSurrogate high then .error .inside
    else (joinPieces (.code low :: rest)).map (Char.ofNat high :: ·)
  | .code unit :: rest =>
    if isHighSurrogate unit || isLowSurrogate unit then .error .inside
    else (joinPieces rest).map (Char.ofNat unit :: ·)

/-- The text of a string after its opening quote, or where a reader gives up on it, and the input
after its closing quote. -/
def scanText (input : List Char) : Option (Except Halt String × List Char) :=
  (scanPieces input).map fun scan => ((joinPieces scan.1).map String.ofList, scan.2)

/-- The largest number of 64 bits. -/
def maxUnsigned : Nat := word64Bound - 1

/-- Whether another digit still fits behind a significand of 64 bits. -/
def fits (significand digit : Nat) : Bool :=
  significand * 10 + digit ≤ maxUnsigned

/-- The value of a decimal digit. -/
def digitOf (symbol : Char) : Nat :=
  symbol.toNat - 48

/-- The leading digits of a whole part that fit into 64 bits, and the number of digits left over. -/
def wholePart : Nat → List Char → Nat × Nat
  | significand, [] => (significand, 0)
  | significand, symbol :: rest =>
    if fits significand (digitOf symbol) then wholePart (significand * 10 + digitOf symbol) rest
    else (significand, rest.length + 1)

/-- The digits of a fraction put behind a significand as long as they fit, and how many were. -/
def fractionPart : Nat → Nat → List Char → Nat × Nat
  | significand, taken, [] => (significand, taken)
  | significand, taken, symbol :: rest =>
    if fits significand (digitOf symbol) then
      fractionPart (significand * 10 + digitOf symbol) (taken + 1) rest
    else (significand, taken)

/-- The number that decimal digits spell. -/
def natOfDigits (symbols : List Char) : Nat :=
  symbols.foldl (fun value symbol => value * 10 + digitOf symbol) 0

/-- The parts of a number as written. -/
structure Numeral where
  negative : Bool
  whole : List Char
  /-- The digits behind the point, if there is one. -/
  fraction : Option (List Char)
  /-- The sign and the digits of the exponent, if there is one. -/
  exponent : Option (Bool × List Char)

/-- The largest exponent that is told apart from larger ones. -/
def maxExponent : Nat := 2147483647

/-- The value of a numeral that is not a plain integer. -/
def Numeral.binary? (numeral : Numeral) : Option Binary64 :=
  let (leading, dropped) := wholePart 0 numeral.whole
  let (significand, taken) := fractionPart leading 0 (numeral.fraction.getD [])
  let start : Int := (dropped : Int) - taken
  match numeral.exponent with
  | none => Binary64.ofDecimal? numeral.negative significand.toUInt64 start
  | some (down, digits) =>
    let amount := natOfDigits digits
    if amount > maxExponent then
      if significand ≠ 0 ∧ !down then none else Binary64.ofDecimal? numeral.negative 0 0
    else
      let shift : Int := if down then start - amount else start + amount
      Binary64.ofDecimal? numeral.negative significand.toUInt64 shift

/-- The value of a numeral.  Integers that fit into 64 bits stay integers, minus zero apart. -/
def Numeral.value? (numeral : Numeral) : Option Number :=
  let magnitude := natOfDigits numeral.whole
  let plain := numeral.fraction.isNone && numeral.exponent.isNone
  if plain && !numeral.negative && magnitude ≤ maxUnsigned then some (.whole magnitude)
  else if plain && numeral.negative && 1 ≤ magnitude && magnitude ≤ signed64Bound then
    some (.whole (-(magnitude : Int)))
  else numeral.binary?.map .fraction

/-- Where a reader gives up on a numeral without a value: it reads on until it knows that there is
none, which the digits of an exponent can tell before their end. -/
def Numeral.halt (numeral : Numeral) : Halt :=
  let digits := (numeral.exponent.map Prod.snd).getD []
  if natOfDigits digits.dropLast > maxExponent then .inside else .behind

/-- A number at the start of a text, part by part.  Zeros before other digits are refused. -/
def scanNumeral (input : List Char) : Option (Numeral × List Char) := do
  let (negative, unsigned) :=
    match input with
    | '-' :: rest => (true, rest)
    | _ => (false, input)
  let whole := unsigned.takeWhile Char.isDigit
  guard (whole ≠ [] ∧ (whole.head? = some '0' → whole.length = 1))
  let afterWhole := unsigned.dropWhile Char.isDigit
  let (fraction, afterFraction) ←
    match afterWhole with
    | '.' :: rest =>
      let digits := rest.takeWhile Char.isDigit
      if digits = [] then none else some (some digits, rest.dropWhile Char.isDigit)
    | _ => some (none, afterWhole)
  let exponentOf (down : Bool) (rest : List Char) :
      Option (Option (Bool × List Char) × List Char) :=
    let digits := rest.takeWhile Char.isDigit
    if digits = [] then none else some (some (down, digits), rest.dropWhile Char.isDigit)
  let (exponent, after) ←
    match afterFraction with
    | 'e' :: '+' :: rest | 'E' :: '+' :: rest => exponentOf false rest
    | 'e' :: '-' :: rest | 'E' :: '-' :: rest => exponentOf true rest
    | 'e' :: rest | 'E' :: rest => exponentOf false rest
    | _ => some (none, afterFraction)
  return ({ negative, whole, fraction, exponent }, after)

/-- A text as it was read, or the reason why it could not be read. -/
def ofText : Except Halt String → Json
  | .ok text => string text
  | .error halt => unreadable halt

/-- The members of an object, unreadable when one of the names is. -/
def ofMembers (members : List (Except Halt String × Json)) : Json :=
  match members.mapM (fun member => member.1.map (·, member.2)) with
  | .ok named => object named
  | .error _ => unreadable .inside

mutual

/-- A value at the start of an input, and the input after it.  The first argument bounds the calls
and is never reached. -/
def scanValue : Nat → List Char → Option (Json × List Char)
  | 0, _ => none
  | calls + 1, input =>
    match skipBlanks input with
    | 'n' :: 'u' :: 'l' :: 'l' :: rest => some (null, rest)
    | 't' :: 'r' :: 'u' :: 'e' :: rest => some (bool true, rest)
    | 'f' :: 'a' :: 'l' :: 's' :: 'e' :: rest => some (bool false, rest)
    | '"' :: rest => (scanText rest).map fun scan => (ofText scan.1, scan.2)
    | '[' :: rest =>
      match skipBlanks rest with
      | ']' :: after => some (array [], after)
      | _ => (scanItems calls rest).map fun scan => (array scan.1, scan.2)
    | '{' :: rest =>
      match skipBlanks rest with
      | '}' :: after => some (object [], after)
      | _ => (scanMembers calls rest).map fun scan => (ofMembers scan.1, scan.2)
    | start =>
      (scanNumeral start).map fun scan =>
        ((scan.1.value?.map number).getD (unreadable scan.1.halt), scan.2)

/-- The items of an array up to its closing bracket. -/
def scanItems : Nat → List Char → Option (List Json × List Char)
  | 0, _ => none
  | calls + 1, input => do
    let (item, after) ← scanValue calls input
    match skipBlanks after with
    | ']' :: rest => return ([item], rest)
    | ',' :: rest =>
      let (items, last) ← scanItems calls rest
      return (item :: items, last)
    | _ => none

/-- The members of an object up to its closing brace. -/
def scanMembers : Nat → List Char → Option (List (Except Halt String × Json) × List Char)
  | 0, _ => none
  | calls + 1, input =>
    match skipBlanks input with
    | '"' :: quoted => do
      let (name, afterName) ← scanText quoted
      match skipBlanks afterName with
      | ':' :: value =>
        let (member, after) ← scanValue calls value
        match skipBlanks after with
        | '}' :: rest => return ([(name, member)], rest)
        | ',' :: rest =>
          let (members, last) ← scanMembers calls rest
          return ((name, member) :: members, last)
        | _ => none
      | _ => none
    | _ => none

end

/-- The value that a sequence of characters denotes, with nothing but blanks around it.  Marks of
stray octets may stand in its strings. -/
def ofChars? (input : List Char) : Option Json := do
  let (value, after) ← scanValue (2 * input.length + 2) input
  guard (skipBlanks after = [])
  return value.limitDepth maxDepth

/-- The value that a text denotes. -/
def parse? (text : String) : Option Json := do
  guard (strayMark ∉ text.toList)
  ofChars? text.toList

/-- The characters that a sequence of octets spells, with a mark for every stray octet. -/
def charsOfOctets : Nat → List UInt8 → List Char
  | 0, _ => []
  | _, [] => []
  | bound + 1, first :: rest =>
    match Utf8.leadingCharLength? (first :: rest) with
    | some length =>
      ((Utf8.decode? ((first :: rest).take length)).getD "").toList ++
        charsOfOctets bound ((first :: rest).drop length)
    | none => strayMark :: charsOfOctets bound rest

/-- The value that a sequence of octets denotes. -/
def ofOctets? (octets : List UInt8) : Option Json :=
  match Utf8.decode? octets with
  | some text => parse? text
  | none => do
    guard (0 ∉ octets)
    ofChars? (charsOfOctets octets.length octets)

end RelationAuth.Json
