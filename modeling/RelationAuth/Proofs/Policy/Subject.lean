import Mathlib.Data.List.TakeWhile
import Mathlib.Data.Option.Basic
import RelationAuth.Policy.Subject

/-!
# The grammar of subjects

A text of the form `namespace:object#relation` names a set, and every other text is an id.  The
parts may themselves hold marks: a namespace number signs, an object colons, and a relation both.
Since the first colon ends the namespace and the first number sign after it the object, a text falls
into such parts in one way at most.  So every text is shown as itself again, and the subjects that
their own texts name are exactly the legible ones.
-/

namespace RelationAuth.Policy

theorem splitAtMark_eq_some_iff {mark : Char} {text front back : List Char} :
    splitAtMark mark text = some (front, back) ↔ mark ∉ front ∧ text = front ++ mark :: back := by
  constructor
  · intro split
    have whole : text.takeWhile (· ≠ mark) ++ text.dropWhile (· ≠ mark) = text :=
      List.takeWhile_append_dropWhile
    unfold splitAtMark at split
    split at split
    · cases split
    · next symbol after rest =>
      have stops : symbol = mark := by
        have head := List.head?_dropWhile_not (fun other => decide (other ≠ mark)) text
        rw [rest] at head
        simpa using head
      rw [Option.some.injEq, Prod.mk.injEq] at split
      rcases split with ⟨rfl, rfl⟩
      rw [rest, stops] at whole
      refine ⟨fun mem => ?_, whole.symm⟩
      simpa using List.mem_takeWhile_imp mem
  · rintro ⟨free, rfl⟩
    have passed : ∀ symbol ∈ front, decide (symbol ≠ mark) = true := by
      intro symbol mem
      rw [decide_eq_true_iff]
      rintro rfl
      exact free mem
    rw [splitAtMark, List.dropWhile_append_of_pos passed, List.takeWhile_append_of_pos passed]
    simp

/-- Whether the parts of a set can be told apart in its text: none of them is empty, no colon stands
in the namespace and no number sign in the object, and the relation stays on one line. -/
structure SubjectSet.Legible (holders : SubjectSet) : Prop where
  namespaceName_ne_empty : holders.namespaceName ≠ ""
  object_ne_empty : holders.object ≠ ""
  relation_ne_empty : holders.relation ≠ ""
  colon_not_mem : ':' ∉ holders.namespaceName.toList
  numberSign_not_mem : '#' ∉ holders.object.toList
  newline_not_mem : '\n' ∉ holders.relation.toList

theorem SubjectSet.toList_display {holders : SubjectSet} :
    holders.display.toList = holders.namespaceName.toList ++
      ':' :: (holders.object.toList ++ '#' :: holders.relation.toList) := by
  simp [display]

namespace Subject

/-- A text names a set exactly if it is the display of a legible one. -/
theorem setOfChars?_eq_some_iff {text : List Char} {holders : SubjectSet} :
    setOfChars? text = some holders ↔ holders.Legible ∧ text = holders.display.toList := by
  constructor
  · intro named
    rcases Option.bind_eq_some_iff.mp named with ⟨⟨namespaceName, afterColon⟩, atColon, named⟩
    rcases Option.bind_eq_some_iff.mp named with ⟨⟨object, relation⟩, atNumberSign, named⟩
    rcases Option.bind_eq_some_iff.mp named with ⟨_, guarded, named⟩
    cases named
    rcases splitAtMark_eq_some_iff.mp atColon with ⟨colon, rfl⟩
    rcases splitAtMark_eq_some_iff.mp atNumberSign with ⟨numberSign, rfl⟩
    rcases (Option.guard_eq_some' _).mp guarded with
      ⟨namespaceFilled, objectFilled, relationFilled, newline⟩
    refine ⟨⟨?_, ?_, ?_, ?_, ?_, ?_⟩, ?_⟩
    · simpa using namespaceFilled
    · simpa using objectFilled
    · simpa using relationFilled
    · simpa using colon
    · simpa using numberSign
    · simpa using newline
    · simp [SubjectSet.toList_display]
  · rintro ⟨legible, rfl⟩
    have atColon : splitAtMark ':' holders.display.toList = some (holders.namespaceName.toList,
        holders.object.toList ++ '#' :: holders.relation.toList) :=
      splitAtMark_eq_some_iff.mpr ⟨legible.colon_not_mem, SubjectSet.toList_display⟩
    have atNumberSign : splitAtMark '#' (holders.object.toList ++ '#' :: holders.relation.toList) =
        some (holders.object.toList, holders.relation.toList) :=
      splitAtMark_eq_some_iff.mpr ⟨legible.numberSign_not_mem, rfl⟩
    simp [setOfChars?, atColon, atNumberSign, guard, legible.namespaceName_ne_empty,
      legible.object_ne_empty, legible.relation_ne_empty, legible.newline_not_mem]

/-- A text is read as a set exactly if it is the display of that set and the set is legible. -/
theorem parse_eq_set_iff {text : String} {holders : SubjectSet} :
    parse text = set holders ↔ holders.Legible ∧ text = holders.display := by
  rw [← String.toList_inj, ← setOfChars?_eq_some_iff, parse]
  cases setOfChars? text.toList <;> simp

/-- Every other text is read as an id, unchanged. -/
theorem parse_eq_id_iff {text name : String} :
    parse text = id name ↔
      name = text ∧ ∀ holders : SubjectSet, holders.Legible → text ≠ holders.display := by
  have unlike : setOfChars? text.toList = none ↔
      ∀ holders : SubjectSet, holders.Legible → text ≠ holders.display := by
    simp [Option.eq_none_iff_forall_ne_some, setOfChars?_eq_some_iff, String.toList_inj]
  rw [← unlike, parse]
  cases setOfChars? text.toList <;> simp [eq_comm]

theorem parse_of_no_colon {text : String} (plain : ':' ∉ text.toList) : parse text = id text := by
  refine parse_eq_id_iff.mpr ⟨rfl, ?_⟩
  rintro holders - rfl
  simp [SubjectSet.toList_display] at plain

/-- Whatever is read from a text is displayed as that text. -/
theorem display_parse (text : String) : (parse text).display = text := by
  rcases named : parse text with name | holders
  · exact (parse_eq_id_iff.mp named).1
  · exact (parse_eq_set_iff.mp named).2.symm

theorem parse_injective : Function.Injective parse := by
  intro text other same
  rw [← display_parse text, same, display_parse]

/-- Whether a subject is the one that its own text names: an id is unless its text is that of a
set, and a set is if it is legible. -/
def Legible : Subject → Prop
  | id name => ∀ holders : SubjectSet, holders.Legible → name ≠ holders.display
  | set holders => holders.Legible

/-- A subject is read back from its display exactly if it is legible. -/
theorem parse_display_iff {subject : Subject} :
    parse subject.display = subject ↔ subject.Legible := by
  cases subject with
  | id name =>
    rw [parse_eq_id_iff]
    simp [display, Legible]
  | set holders =>
    rw [parse_eq_set_iff]
    simp [display, Legible]

/-- The grammar of subjects.  A text is that of a set if it has the form
`namespace:object#relation`, with parts that can be told apart; it has this form in one way at most,
and it names the set of these parts.  Any other text is an id.  A text is shown as itself again, and
a subject is read back from its text exactly if it is an id whose text has not the form of a set, or
a set with parts that can be told apart. -/
theorem parse_follows_grammar (text : String) (subject : Subject) :
    (∀ holders, parse text = set holders ↔ holders.Legible ∧ text = holders.display) ∧
      ((parse text).isSet ↔ ∃! holders : SubjectSet, holders.Legible ∧ text = holders.display) ∧
      (parse text = id text ↔
        ¬∃ holders : SubjectSet, holders.Legible ∧ text = holders.display) ∧
      (parse text).display = text ∧
      (parse subject.display = subject ↔ subject.Legible) := by
  refine ⟨fun _ => parse_eq_set_iff, ⟨?_, ?_⟩, ?_, display_parse text, parse_display_iff⟩
  · intro isSet
    rcases named : parse text with name | holders
    · simp [named, Subject.isSet] at isSet
    · refine ⟨holders, parse_eq_set_iff.mp named, fun other spelled => ?_⟩
      have namedToo := parse_eq_set_iff.mpr spelled
      exact Subject.set.inj (namedToo.symm.trans named)
  · rintro ⟨holders, spelled, -⟩
    rw [parse_eq_set_iff.mpr spelled]
    rfl
  · simp [parse_eq_id_iff]

/-- A namespace may hold number signs, an object colons, and a relation both. -/
example : parse "a#b:c:d#e:f#g" = set ⟨"a#b", "c:d", "e:f#g"⟩ := by
  decide

end Subject

end RelationAuth.Policy
