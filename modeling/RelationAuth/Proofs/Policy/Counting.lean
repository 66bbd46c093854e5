import RelationAuth.Proofs.Policy.Draining

/-!
# Counts and complete listings

A complete listing and its count are separate loops over the pages of a backend.  Where the pages
depend on their tokens alone, both loops run through the same tokens, in whatever states of the
backend they start: they end together, fail together with the same cause, and the count is the
length of the list that puts the pages together.
-/

namespace RelationAuth.Policy.PolicyAgent

open RelationAuth.Action

variable {σ : Type} {agent : PolicyAgent σ} {direction : Direction} {request : PolicyRequest}
  {read : String → Except PolicyError TuplePage}

/-- Every listing follows a course that the pages determine.  A list that it ends with puts the
pages together, which lead from one to the next. -/
theorem Serves.exists_follows (serves : agent.Serves direction request read) (bound : Nat)
    (token : String) :
    ∃ asked outcome, agent.Follows direction request bound token asked outcome ∧
      ∀ tuples, outcome = .ok tuples →
        ∃ pages, Pages read token pages ∧ asked = token :: pages.dropLast.map (·.nextPageToken) ∧
          tuples = pages.flatMap (·.tuples) := by
  induction bound generalizing token with
  | zero =>
    refine ⟨_, _, follows_zero _ _ _ _, ?_⟩
    rintro _ ⟨⟩
  | succ bound ih =>
    rcases answered : read token with cause | page
    · refine ⟨_, _, serves.follows_of_error answered, ?_⟩
      rintro _ ⟨⟩
    rcases goesOn : nextToken token page.nextPageToken with cause | _ | next
    · refine ⟨_, _, serves.follows_of_stall answered goesOn, ?_⟩
      rintro _ ⟨⟩
    · refine ⟨_, _, serves.follows_of_last answered goesOn, ?_⟩
      rintro _ ⟨⟩
      exact ⟨[page], .last answered (nextToken_eq_none_iff.mp goesOn), rfl, by simp⟩
    · rcases ih next with ⟨asked, outcome, later, ends⟩
      refine ⟨_, _, serves.follows_of_next answered goesOn later, ?_⟩
      rcases outcome with stop | rest <;> rintro _ ⟨⟩
      rcases ends rest rfl with ⟨pages, onward, rfl, rfl⟩
      rcases nextToken_eq_some_iff.mp goesOn with ⟨more, fresh, rfl⟩
      refine ⟨page :: pages, .next answered more fresh onward, ?_, by simp⟩
      have further : pages ≠ [] := by
        rintro rfl
        cases onward
      rw [List.dropLast_cons_of_ne_nil further, List.map_cons]

/-- A count and a complete listing over the same pages run in step.  In whatever states of the
backend they start and whatever bound is set on their pages, the count is known exactly if the list
is, and is its length; either of them stops for a cause exactly if the other does, and neither ends
before the other; and both ask for the same tokens in the same order, a thousand tuples at a time.  A
list puts together the pages asked for, of which the last one leads no further. -/
theorem count_in_step_with_all (serves : agent.Serves direction request read) (bound : Nat)
    (listing counting : σ) :
    (∀ number,
        (((agent.withPageBound bound).count direction request).perform counting).1 = .ok number ↔
          ∃ tuples, (((agent.withPageBound bound).all direction request).perform listing).1 =
            .ok tuples ∧ tuples.length = number) ∧
      (∀ stop,
        (((agent.withPageBound bound).count direction request).perform counting).1 = .error stop ↔
          (((agent.withPageBound bound).all direction request).perform listing).1 =
            .error stop) ∧
      ∃ asked : List String,
        callsMade ((agent.withPageBound bound).noting.all direction request) listing =
            asked.map (fun token => match direction with
              | .objects => .objects token 1000
              | .subjects => .subjects token 1000) ∧
          callsMade ((agent.withPageBound bound).noting.count direction request) counting =
            callsMade ((agent.withPageBound bound).noting.all direction request) listing ∧
          ∀ tuples, (((agent.withPageBound bound).all direction request).perform listing).1 =
            .ok tuples →
              ∃ pages, Pages read "" pages ∧
                asked = "" :: pages.dropLast.map (·.nextPageToken) ∧
                tuples = pages.flatMap (·.tuples) := by
  rcases serves.exists_follows bound "" with ⟨asked, outcome, follows, ends⟩
  rw [perform_count_withPageBound, callsMade_count]
  simp only [follows.perform_all, follows.callsMade_all]
  refine ⟨?_, ?_, asked, ?_, trivial, ends⟩
  · rcases outcome with stop | tuples <;> simp [Except.map]
  · rcases outcome with stop | tuples <;> simp [Except.map]
  · cases direction <;> rfl

/-- Three pages with three tuples, the second page without any. -/
def threePages (token : String) : Except PolicyError TuplePage :=
  if token = "" then .ok { tuples := [default, default], nextPageToken := "a" }
  else if token = "a" then .ok { tuples := [], nextPageToken := "b" }
  else .ok { tuples := [default], nextPageToken := "" }

/-- Three pages are counted within a bound of three, and not within two. -/
theorem count_in_step_with_all_threePages :
    (((ofPages threePages).withPageBound 3).count .subjects default).perform () = (.ok 3, ()) ∧
      (∃ tuples, ((((ofPages threePages).withPageBound 3).all .subjects default).perform ()).1 =
        .ok tuples ∧ tuples.length = 3) ∧
      ((((ofPages threePages).withPageBound 2).count .subjects default).perform ()).1 =
        .error .unfinished := by
  have serves := serves_ofPages threePages .subjects default
  rcases count_in_step_with_all serves 3 () () with ⟨lengths, _, _⟩
  rcases count_in_step_with_all serves 2 () () with ⟨_, stops, _⟩
  exact ⟨rfl, (lengths 3).mp rfl, (stops _).mpr rfl⟩

end RelationAuth.Policy.PolicyAgent
