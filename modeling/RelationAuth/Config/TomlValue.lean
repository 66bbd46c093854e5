import RelationAuth.Calendar.Date
import RelationAuth.Config.Tree

/-!
# TOML values

Strings, numbers, flags and times as they stand in a TOML document.  A time is kept as its text.
-/

namespace RelationAuth.Toml

/-- Whether a character may stand in a string or a comment: no control character but the tab. -/
def isPrintable (symbol : Char) : Bool :=
  symbol == '\t' || (symbol.toNat ≥ 0x20 && symbol.toNat ≠ 0x7F)

/-- Whether a character separates tokens on a line. -/
def isBlank (symbol : Char) : Bool :=
  symbol == ' ' || symbol == '\t'

/-- The rest of a text after blanks. -/
def skipBlanks (input : List Char) : List Char :=
  input.dropWhile isBlank

/-- The rest of a text after the line break at its start, if there is one. -/
def lineBreak? : List Char → Option (List Char)
  | '\n' :: rest => some rest
  | '\r' :: '\n' :: rest => some rest
  | _ => none

/-- The input after a comment, if one stands at its start.  Control characters are refused. -/
def skipComment? : List Char → Option (List Char)
  | '#' :: rest =>
    let after := rest.dropWhile isPrintable
    if after = [] ∨ (lineBreak? after).isSome then some after else none
  | input => some input

/-- The value of a digit in a base. -/
def digitValue? (base : Nat) (symbol : Char) : Option Nat :=
  let value :=
    if symbol.isDigit then symbol.toNat - 48
    else if 'a' ≤ symbol ∧ symbol ≤ 'f' then symbol.toNat - 87
    else if 'A' ≤ symbol ∧ symbol ≤ 'F' then symbol.toNat - 55
    else base
  if value < base then some value else none

/-- The number that digits spell out in a base. -/
def natOfDigits? (base : Nat) (digits : List Char) : Option Nat :=
  digits.foldlM (fun value digit => (digitValue? base digit).map (value * base + ·)) 0

/-- The character with a number written in hexadecimal. -/
def charOfHex? (digits : List Char) : Option Char := do
  let code ← natOfDigits? 16 digits
  if code.isValidChar then some (Char.ofNat code) else none

/-- The character that a letter after a backslash stands for. -/
def escaped? (letter : Char) : Option Char :=
  ['b', 't', 'n', 'f', 'r', '"', '\\'].zip ['\x08', '\t', '\n', '\x0c', '\r', '"', '\\'] |>.lookup
    letter

/-- The characters of a string in double quotes, after its opening quote, and the input after its
closing quote. -/
def scanBasic : List Char → Option (List Char × List Char)
  | [] => none
  | '"' :: rest => some ([], rest)
  | '\\' :: 'u' :: a :: b :: c :: d :: rest => do
    let meant ← charOfHex? [a, b, c, d]
    let (text, after) ← scanBasic rest
    return (meant :: text, after)
  | '\\' :: 'U' :: a :: b :: c :: d :: e :: f :: g :: h :: rest => do
    let meant ← charOfHex? [a, b, c, d, e, f, g, h]
    let (text, after) ← scanBasic rest
    return (meant :: text, after)
  | '\\' :: letter :: rest => do
    let meant ← escaped? letter
    let (text, after) ← scanBasic rest
    return (meant :: text, after)
  | symbol :: rest => do
    guard (isPrintable symbol)
    let (text, after) ← scanBasic rest
    return (symbol :: text, after)

/-- The characters of a string in single quotes, after its opening quote, and the input after its
closing quote. -/
def scanLiteral : List Char → Option (List Char × List Char)
  | [] => none
  | '\'' :: rest => some ([], rest)
  | symbol :: rest => do
    guard (isPrintable symbol)
    let (text, after) ← scanLiteral rest
    return (symbol :: text, after)

/-- The end of a string of several lines: three quotes, before which up to two more belong to the
string. -/
def closing? (quote : Char) (input : List Char) : Option (List Char × List Char) :=
  let quotes := (input.takeWhile (· = quote)).length
  if quotes < 3 then none
  else
    let kept := min (quotes - 3) 2
    some (List.replicate kept quote, input.drop (kept + 3))

/-- Whether nothing but blanks stands before the next line break. -/
def endsLine (input : List Char) : Bool :=
  (lineBreak? (skipBlanks input)).isSome

/-- The characters of a string of several lines, after its opening quotes and a first line break,
and the input after its closing quotes.  In double quotes, a backslash at the end of a line joins
the line to the next text.  While it does, blanks and line breaks are `skipping`. -/
def scanLong (quote : Char) : Bool → List Char → Option (List Char × List Char)
  | _, [] => none
  | skipping, symbol :: rest =>
    if skipping ∧ (isBlank symbol ∨ symbol = '\n' ∨ (symbol = '\r' ∧ rest.head? = some '\n')) then
      scanLong quote true rest
    else
      match closing? quote (symbol :: rest) with
      | some (kept, after) => some (kept, after)
      | none =>
        if symbol = '\r' ∧ rest.head? = some '\n' then scanLong quote false rest
        else if symbol = '\\' ∧ quote = '"' then
          if endsLine rest then scanLong quote true rest
          else
            match rest with
            | 'u' :: a :: b :: c :: d :: after => do
              let meant ← charOfHex? [a, b, c, d]
              (scanLong quote false after).map fun scan => (meant :: scan.1, scan.2)
            | 'U' :: a :: b :: c :: d :: e :: f :: g :: h :: after => do
              let meant ← charOfHex? [a, b, c, d, e, f, g, h]
              (scanLong quote false after).map fun scan => (meant :: scan.1, scan.2)
            | letter :: after => do
              let meant ← escaped? letter
              (scanLong quote false after).map fun scan => (meant :: scan.1, scan.2)
            | [] => none
        else if symbol = '\n' ∨ isPrintable symbol then
          (scanLong quote false rest).map fun scan => (symbol :: scan.1, scan.2)
        else none

/-- A string at the start of a text: over several lines after three quotes, and in one line after a
single one, with escapes between double quotes only. -/
def scanString? (input : List Char) : Option (String × List Char) :=
  let result :=
    match input with
    | '"' :: '"' :: '"' :: rest => scanLong '"' false ((lineBreak? rest).getD rest)
    | '\'' :: '\'' :: '\'' :: rest => scanLong '\'' false ((lineBreak? rest).getD rest)
    | '"' :: rest => scanBasic rest
    | '\'' :: rest => scanLiteral rest
    | _ => none
  result.map fun scan => (String.ofList scan.1, scan.2)

/-- Digits without the underscores between them, of which none may stand at an end or beside
another. -/
def joinDigits? : List Char → Option (List Char)
  | [] => none
  | [digit] => if digit = '_' then none else some [digit]
  | '_' :: _ => none
  | digit :: '_' :: rest => (joinDigits? rest).map (digit :: ·)
  | digit :: rest => (joinDigits? rest).map (digit :: ·)

/-- The sign at the start of a token, and the rest of it. -/
def scanSign : List Char → Bool × List Char
  | '-' :: rest => (true, rest)
  | '+' :: rest => (false, rest)
  | token => (false, token)

/-- The digits of a decimal number without a leading zero. -/
def wholeDigits? (token : List Char) : Option (List Char) := do
  let digits ← joinDigits? token
  guard (digits.all Char.isDigit && (digits.length = 1 || digits.head? ≠ some '0'))
  return digits

/-- A number of 63 bits with a sign. -/
def signedOf? (negative : Bool) (value : Nat) : Option ConfigTree :=
  let signed : Int := if negative then -value else value
  if isSigned64 signed then some (.integer signed) else none

/-- An integer: in decimal, or after a mark in another base. -/
def readInteger? (token : List Char) : Option ConfigTree :=
  let inBase (base : Nat) (digits : List Char) : Option ConfigTree :=
    ((joinDigits? digits).bind (natOfDigits? base)).bind (signedOf? false)
  match token with
  | '0' :: 'x' :: digits => inBase 16 digits
  | '0' :: 'o' :: digits => inBase 8 digits
  | '0' :: 'b' :: digits => inBase 2 digits
  | _ =>
    let (negative, digits) := scanSign token
    ((wholeDigits? digits).bind (natOfDigits? 10)).bind (signedOf? negative)

/-- The power of ten behind the mark of an exponent, if there is one. -/
def readExponent? (token : List Char) : Option Int :=
  match token with
  | [] => some 0
  | _ :: rest => do
    let (negative, digits) := scanSign rest
    let value ← natOfDigits? 10 (← joinDigits? digits)
    return if negative then -value else value

/-- Whether a symbol begins an exponent. -/
def isExponentMark (symbol : Char) : Bool :=
  symbol == 'e' || symbol == 'E'

/-- A decimal number with a fraction, an exponent or both.  A positive number beyond the finite
values is refused, a negative one is infinite. -/
def readDecimal? (token : List Char) : Option ConfigTree := do
  guard (token.any fun symbol => symbol == '.' || isExponentMark symbol)
  let (negative, unsigned) := scanSign token
  let number := unsigned.takeWhile fun symbol => !isExponentMark symbol
  let exponent ← readExponent? (unsigned.dropWhile fun symbol => !isExponentMark symbol)
  let whole ← wholeDigits? (number.takeWhile (· ≠ '.'))
  let fraction ←
    match number.dropWhile (· ≠ '.') with
    | [] => some []
    | _ :: digits => joinDigits? digits
  let significand ← natOfDigits? 10 (whole ++ fraction)
  let value := Binary64.nearest negative significand (exponent - fraction.length)
  guard (value ≠ Binary64.infinity false)
  return .decimal value

/-- A number of two digits up to a bound, and the text after it. -/
def scanPair? (bound : Nat) : List Char → Option (Nat × List Char)
  | tens :: ones :: rest => do
    let value ← natOfDigits? 10 [tens, ones]
    if value ≤ bound then some (value, rest) else none
  | _ => none

/-- The text after a mark. -/
def expect? (mark : Char) : List Char → Option (List Char)
  | first :: rest => if first = mark then some rest else none
  | [] => none

/-- A date at the start of a token, and the text after it. -/
def scanDate? (token : List Char) : Option (List Char × List Char) := do
  let year ← natOfDigits? 10 (token.take 4)
  guard (token.length ≥ 10)
  let (month, afterMonth) ← scanPair? 12 (← expect? '-' (token.drop 4))
  let (day, after) ← scanPair? 31 (← expect? '-' afterMonth)
  guard ({ year, month, day } : Date).isValid
  return (token.take 10, after)

/-- A time of day at the start of a token, with as many decimals as count, and the text after it. -/
def scanTime? (token : List Char) : Option (List Char × List Char) := do
  let (_, afterHour) ← scanPair? 23 token
  let (_, afterMinute) ← scanPair? 59 (← expect? ':' afterHour)
  let (_, after) ← scanPair? 60 (← expect? ':' afterMinute)
  match after with
  | '.' :: rest =>
    let digits := rest.takeWhile Char.isDigit
    guard (digits ≠ [])
    let shown := (((digits.take 9).reverse.dropWhile (· = '0')).reverse)
    let fraction := if shown = [] then [] else '.' :: shown
    return (token.take 8 ++ fraction, rest.dropWhile Char.isDigit)
  | _ => return (token.take 8, after)

/-- The text of a distance from universal time, which may be missing.  No distance at all has a
plus sign. -/
def readOffset? : List Char → Option (List Char)
  | [] => some []
  | ['Z'] | ['z'] => some ['Z']
  | sign :: rest => do
    guard (sign = '+' ∨ sign = '-')
    let (hours, afterHours) ← scanPair? 23 rest
    let (minutes, after) ← scanPair? 59 (← expect? ':' afterHours)
    guard (after = [])
    return (if hours = 0 ∧ minutes = 0 then '+' else sign) :: rest

/-- A date, a time or both, as text. -/
def readTime? (token : List Char) : Option ConfigTree := do
  match scanDate? token with
  | some (date, []) => return .text (String.ofList date)
  | some (date, mark :: rest) =>
    guard (mark = 'T' ∨ mark = 't' ∨ mark = ' ')
    let (time, after) ← scanTime? rest
    return .text (String.ofList (date ++ 'T' :: time ++ (← readOffset? after)))
  | none =>
    let (time, after) ← scanTime? token
    guard (after = [])
    return .text (String.ofList time)

/-- A flag, a number or a time, read from its token. -/
def readToken? (token : List Char) : Option ConfigTree :=
  if token = "true".toList then some (.flag true)
  else if token = "false".toList then some (.flag false)
  else if (scanSign token).2 = "inf".toList then
    some (.decimal (Binary64.infinity (scanSign token).1))
  else if (scanSign token).2 = "nan".toList then some (.decimal Binary64.noNumber)
  else (readInteger? token).or <| (readDecimal? token).or (readTime? token)

/-- Whether a symbol may stand in a value without quotes. -/
def isTokenChar (symbol : Char) : Bool :=
  symbol.isAlphanum || symbol == '_' || symbol == '+' || symbol == '-' || symbol == '.' ||
    symbol == ':'

/-- The token at the start of an input, and the input after it.  A blank can stand between a date
and a time. -/
def scanToken (input : List Char) : List Char × List Char :=
  let token := input.takeWhile isTokenChar
  match input.dropWhile isTokenChar with
  | ' ' :: digit :: rest =>
    if digit.isDigit ∧ (scanDate? token).map Prod.snd = some [] then
      (token ++ ' ' :: (digit :: rest).takeWhile isTokenChar, (digit :: rest).dropWhile isTokenChar)
    else (token, ' ' :: digit :: rest)
  | rest => (token, rest)

end RelationAuth.Toml
