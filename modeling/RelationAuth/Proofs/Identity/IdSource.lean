import RelationAuth.Identity.IdSource
import RelationAuth.Proofs.Action

/-!
# The ids that a source gives

A source of ids is known by the ids that it gives to the requests to come.
-/

namespace RelationAuth.Identity.IdSource

variable {numbered : Nat → String} {source : IdSource} {id : String}

/-- The id given to the request at a position among those to come, unless the source fails there. -/
def given (numbered : Nat → String) (source : IdSource) (position : Nat) : Option String :=
  source.listed[position]?.getD (some (numbered (source.asked + position + 1)))

/-- A source after one more request. -/
def rest (source : IdSource) : IdSource :=
  { listed := source.listed.tail, asked := source.asked + 1 }

/-- What a source gives after one id is what it gives one place further on. -/
theorem given_rest {position : Nat} :
    source.rest.given numbered position = source.given numbered (position + 1) := by
  rcases source with ⟨_ | ⟨first, others⟩, asked⟩
  · simp only [given, rest, List.tail_nil, List.getElem?_nil, Option.getD_none]
    congr 2
    omega
  · simp only [given, rest, List.tail_cons, List.getElem?_cons_succ]
    congr 3
    omega

theorem perform_next :
    (next numbered).perform source =
      (match source.given numbered 0 with
        | some id => .ok id
        | none => .error (.failure (.idGeneration "no entropy")), source.rest) := by
  rcases source with ⟨_ | ⟨first, others⟩, asked⟩
  · rfl
  · cases first <;> rfl

/-- Whether a source never gives an id twice. -/
def Unrepeated (numbered : Nat → String) (source : IdSource) : Prop :=
  ∀ earlier later id, source.given numbered earlier = some id →
    source.given numbered later = some id → earlier = later

/-- Whether a source will not give an id any more. -/
def Spent (numbered : Nat → String) (source : IdSource) (id : String) : Prop :=
  ∀ position, source.given numbered position ≠ some id

theorem Unrepeated.rest (unrepeated : source.Unrepeated numbered) :
    source.rest.Unrepeated numbered := by
  intro earlier later id first second
  rw [given_rest] at first second
  exact Nat.succ.inj (unrepeated _ _ id first second)

theorem Spent.rest (spent : source.Spent numbered id) : source.rest.Spent numbered id := by
  intro position
  rw [given_rest]
  exact spent (position + 1)

/-- An id that is given now is spent afterwards. -/
theorem Unrepeated.spent_rest (unrepeated : source.Unrepeated numbered)
    (given : source.given numbered 0 = some id) : source.rest.Spent numbered id := by
  intro position again
  rw [given_rest] at again
  cases unrepeated _ _ id given again

end RelationAuth.Identity.IdSource
