import RelationAuth.Text.Alphanumeric
import RelationAuth.Text.Blank

/-!
# Environment files

An environment file sets variables, one on each line, as `NAME=value`.  A value may be quoted, and a
quoted value may run over several lines; outside of single quotes, a dollar sign puts the value of a
variable in its place.  Variables that are set already keep their values, and reading stops at the
first line that is not well-formed.
-/

namespace RelationAuth

/-- The variables of an environment. -/
abbrev Environment := List (String × String)

namespace EnvFile

open Text

/-- Where the end of a stretch of text leaves its quotes. -/
inductive QuoteState where
  /-- Outside of quotes. -/
  | plain
  /-- Outside of quotes, after a blank. -/
  | blank
  /-- Outside of quotes, after a backslash. -/
  | escape
  /-- Inside double quotes. -/
  | double
  /-- Inside double quotes, after a backslash. -/
  | doubleEscape
  /-- Inside single quotes. -/
  | single
  /-- Inside single quotes, after a backslash. -/
  | singleEscape
  deriving DecidableEq, Repr

/-- The state after a quote, a backslash or any other character outside of quotes. -/
def QuoteState.opened (symbol : Char) : QuoteState :=
  if symbol = '\\' then escape
  else if symbol = '"' then double
  else if symbol = '\'' then single
  else plain

/-- Where a symbol leads to from a state of quotation. -/
def QuoteState.next (state : QuoteState) (symbol : Char) : QuoteState :=
  match state with
  | plain =>
    if isBlank symbol ∧ symbol ≠ '\n' ∧ symbol ≠ '\r' then blank else opened symbol
  | blank => opened symbol
  | escape => plain
  | double => if symbol = '\\' then doubleEscape else if symbol = '"' then plain else double
  | doubleEscape => double
  | single => if symbol = '\\' then singleEscape else if symbol = '\'' then plain else single
  | singleEscape => single

/-- The state at the end of a line and the part of the line before a comment, which a number sign
after a blank begins. -/
def scanLine : QuoteState → List Char → QuoteState × List Char × Bool
  | state, [] => (state, [], false)
  | state, symbol :: rest =>
    if state = .blank ∧ symbol = '#' then (.plain, [], true)
    else
      let (final, kept, comment) := scanLine (state.next symbol) rest
      (final, symbol :: kept, comment)

/-- The lines of a text, each with the line feed that ends it. -/
def linesOf : List Char → List (List Char)
  | [] => []
  | symbol :: rest =>
    if symbol = '\n' then [symbol] :: linesOf rest
    else
      match linesOf rest with
      | [] => [[symbol]]
      | first :: others => (symbol :: first) :: others

/-- A line without the break that ends it. -/
def withoutBreak (line : List Char) : List Char :=
  match line.reverse with
  | '\n' :: '\r' :: rest => rest.reverse
  | '\n' :: rest => rest.reverse
  | _ => line

/-- The settings of a file: lines joined until their quotes are closed.  Quotes that are never
closed end the list with a failure. -/
def joinLines : QuoteState → List Char → List (List Char) → List (Option (List Char))
  | state, _, [] => if state = .plain then [] else [none]
  | state, pending, line :: rest =>
    let whole := pending ++ line
    if (skipBlanks whole).head? = some '#' then joinLines .plain [] rest
    else
      match scanLine state line with
      | (_, kept, true) => some (pending ++ kept) :: joinLines .plain [] rest
      | (.plain, _, false) => some (withoutBreak whole) :: joinLines .plain [] rest
      | (open_, _, false) => joinLines open_ whole rest

/-- Where a reader of a value stands. -/
inductive ValueMode where
  /-- In plain text, inside double quotes or not. -/
  | text (quoted : Bool)
  /-- After the blank that ends a value. -/
  | ended
  /-- After a backslash. -/
  | escape (quoted : Bool)
  /-- Inside single quotes. -/
  | literal
  | name (quoted : Bool) (name : List Char)
  | braced (quoted : Bool) (name : List Char)
  deriving DecidableEq, Repr

/-- The value of a variable, which is empty where the variable is not set. -/
def valueOf (environment : Environment) (name : List Char) : List Char :=
  ((environment.lookup (String.ofList name)).getD "").toList

/-- The character that a character after a backslash stands for. -/
def unescape? (symbol : Char) : Option Char :=
  if symbol = 'n' then some '\n'
  else if symbol ∈ ['\\', '\'', '"', '$', ' '] then some symbol
  else none

/-- What a value spells out from a mode on, with the names in it replaced by what they stand for. -/
def scanValue (environment : Environment) : ValueMode → List Char → Option (List Char)
  | .text quoted, [] => if quoted then none else some []
  | .ended, [] => some []
  | .escape quoted, [] => if quoted then none else some []
  | .literal, [] => none
  | .name quoted name, [] => if quoted then none else some (valueOf environment name)
  | .braced _ _, [] => none
  | .ended, symbol :: rest =>
    if symbol = ' ' ∨ symbol = '\t' then scanValue environment .ended rest
    else if symbol = '#' then some []
    else none
  | .escape quoted, symbol :: rest => do
    let meant ← unescape? symbol
    return meant :: (← scanValue environment (.text quoted) rest)
  | .literal, symbol :: rest =>
    if symbol = '\'' then scanValue environment (.text false) rest
    else (scanValue environment .literal rest).map (symbol :: ·)
  | .name quoted name, symbol :: rest =>
    if isAlphanumeric symbol then scanValue environment (.name quoted (name ++ [symbol])) rest
    else if symbol = '\x7b' ∧ name = [] then scanValue environment (.braced quoted []) rest
    else if symbol = '$' then
      (scanValue environment (.name quoted []) rest).map (valueOf environment name ++ ·)
    else
      (scanValue environment (.text quoted) rest).map fun text =>
        valueOf environment name ++ symbol :: text
  | .braced quoted name, symbol :: rest =>
    if symbol = '\x7d' then
      (scanValue environment (.text quoted) rest).map (valueOf environment name ++ ·)
    else scanValue environment (.braced quoted (name ++ [symbol])) rest
  | .text quoted, symbol :: rest =>
    if symbol = '$' then scanValue environment (.name quoted []) rest
    else if symbol = '"' then scanValue environment (.text !quoted) rest
    else if symbol = '\\' then scanValue environment (.escape quoted) rest
    else if symbol = '\'' ∧ !quoted then scanValue environment .literal rest
    else if (symbol = ' ' ∨ symbol = '\t') ∧ !quoted then scanValue environment .ended rest
    else (scanValue environment (.text quoted) rest).map (symbol :: ·)

/-- The name at the start of a setting, and the text after it and the blanks that follow. -/
def scanKey? (input : List Char) : Option (String × List Char) :=
  match input with
  | first :: _ =>
    if first.isAlpha ∨ first = '_' then
      let isKeyChar (symbol : Char) : Bool := symbol.isAlphanum || symbol == '_' || symbol == '.'
      some (String.ofList (input.takeWhile isKeyChar), skipBlanks (input.dropWhile isKeyChar))
    else none
  | [] => none

/-- The text after an equals sign. -/
def scanEquals? (input : List Char) : Option (List Char) :=
  match input with
  | '=' :: rest => some rest
  | _ => none

/-- The name of a setting and the text of its value.  The word `export` may stand before the
name. -/
def scanSetting? (input : List Char) : Option (String × List Char) := do
  let (key, after) ← scanKey? input
  match scanEquals? after with
  | some rest => return (key, skipBlanks rest)
  | none =>
    guard (key = "export")
    let (exported, after) ← scanKey? after
    return (exported, skipBlanks (← scanEquals? after))

/-- The variable that a line sets, if it sets one. -/
def readLine (environment : Environment) (line : List Char) :
    Option (Option (String × String)) := do
  match skipBlanks (dropTrailingBlanks line) with
  | [] | '#' :: _ => return none
  | setting =>
    let (key, value) ← scanSetting? setting
    match value with
    | [] | '#' :: _ => return some (key, "")
    | value => return some (key, String.ofList (← scanValue environment (.text false) value))

/-- Whether a variable can be set.  Its name is not empty and has no equals sign, and the character
zero stands neither in its name nor in its value. -/
def canBeSet (setting : String × String) : Bool :=
  setting.1 != "" && !setting.1.toList.any (fun symbol => symbol == '=' || symbol == '\x00') &&
    !setting.2.toList.any (· == '\x00')

/-- An environment with the variables of some lines, up to the first line that is not well-formed.
There is none where a variable cannot be set. -/
def setLines? : List (Option (List Char)) → Environment → Option Environment
  | [], environment => some environment
  | line :: rest, environment =>
    match line.bind (readLine environment) with
    | none => some environment
    | some none => setLines? rest environment
    | some (some setting) =>
      if (environment.lookup setting.1).isSome then setLines? rest environment
      else if canBeSet setting then setLines? rest (environment ++ [setting])
      else none

/-- An environment with the variables of a file.  There is none where a variable cannot be set. -/
def load? (file : String) (environment : Environment) : Option Environment :=
  let text :=
    match file.toList with
    | '\uFEFF' :: rest => rest
    | text => text
  if environment.all canBeSet then setLines? (joinLines .plain [] (linesOf text)) environment
  else none

end EnvFile

end RelationAuth
