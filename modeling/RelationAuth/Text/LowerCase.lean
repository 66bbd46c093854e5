import RelationAuth.Text.CaseTable

/-!
# Lower case

A text is put into lower case character by character, with two rules of context: a capital sigma
that ends a word becomes the final small sigma, and a capital I with a dot keeps the dot as a
combining mark.  Names are compared without regard to case by comparing their lower cases.
-/

namespace RelationAuth.Text

/-- Whether a character is passed over when a neighbour's case is looked up. -/
def isCaseIgnorable (symbol : Char) : Bool :=
  inRanges caseIgnorableRanges symbol.toNat

/-- Whether a character has a case. -/
def isCased (symbol : Char) : Bool :=
  inRanges casedRanges symbol.toNat

/-- Whether the nearest character that counts for case has one. -/
def meetsCased (neighbours : List Char) : Bool :=
  ((neighbours.dropWhile isCaseIgnorable).head?.map isCased).getD false

/-- Whether a capital sigma between two contexts ends a word.  The context before it is given
nearest character first. -/
def endsWord (before after : List Char) : Bool :=
  meetsCased before && !meetsCased after

/-- The lower case of one character between its contexts. -/
def lowerChar (before : List Char) (symbol : Char) (after : List Char) : List Char :=
  if symbol = 'Σ' then [if endsWord before after then 'ς' else 'σ']
  else if symbol = 'İ' then ['i', Char.ofNat 0x307]
  else [Char.ofNat (lowerCode symbol.toNat)]

/-- The lower case of characters that follow others, the latter given nearest first. -/
def lowerAfter (before : List Char) : List Char → List Char
  | [] => []
  | symbol :: rest => lowerChar before symbol rest ++ lowerAfter (symbol :: before) rest

/-- A text in lower case. -/
def toLowerCase (text : String) : String :=
  String.ofList (lowerAfter [] text.toList)

/-- Whether one sequence of characters occurs within another without a gap. -/
def occursIn (part : List Char) : List Char → Bool
  | [] => part.isEmpty
  | symbol :: rest => part.isPrefixOf (symbol :: rest) || occursIn part rest

/-- Whether one text occurs within another when case is disregarded. -/
def containsIgnoringCase (text part : String) : Bool :=
  occursIn (toLowerCase part).toList (toLowerCase text).toList

end RelationAuth.Text
