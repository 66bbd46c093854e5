import RelationAuth.Policy.Agent
import RelationAuth.Proofs.Action
import RelationAuth.Proofs.Policy.Listing

/-!
# What agents do beyond their primitive operations

A complete listing gathers the pages that its agent answers, and a count is the length of the
listing.  What is defined on top of the primitive operations acts on a part of a larger state as the
agent by itself acts on the part.
-/

namespace RelationAuth.Policy

open RelationAuth.Action

variable {σ τ : Type} {part : τ → σ} {replace : σ → τ → τ}

theorem nextToken_eq_none_iff {current next : String} :
    nextToken current next = .ok none ↔ next = "" := by
  by_cases ended : next = ""
  · simp [nextToken, ended]
  · by_cases same : next = current <;> simp [nextToken, ended, same]

/-- A drain goes on only with a token that is neither empty nor the current one. -/
theorem nextToken_eq_some_iff {current next other : String} :
    nextToken current next = .ok (some other) ↔ next ≠ "" ∧ next ≠ current ∧ next = other := by
  by_cases ended : next = ""
  · simp [nextToken, ended]
  · rw [nextToken, if_neg ended]
    by_cases same : next = current <;> simp [ended, same]

theorem perform_drain_succ {ask : String → Action σ PolicyError TuplePage} {allowance : Nat}
    {token : String} {state : σ} :
    (drain ask (allowance + 1) token).perform state =
      match (ask token).perform state with
      | (.error stop, after) => (.error stop, after)
      | (.ok page, after) =>
        match nextToken token page.nextPageToken with
        | .error cause => (.error (.failure cause), after)
        | .ok none => (.ok page.tuples, after)
        | .ok (some next) =>
          (((drain ask allowance next).perform after).1.map (page.tuples ++ ·),
            ((drain ask allowance next).perform after).2) := by
  rw [drain, perform_bind]
  rcases (ask token).perform state with ⟨stop | page, after⟩
  · rfl
  rcases goesOn : nextToken token page.nextPageToken with cause | _ | next
  · simp [goesOn, perform_bind]
  · simp [goesOn, perform_bind]
  · simp [goesOn, perform_bind, perform_map]

/-- A drain over known pages answers all their tuples, in order, and leaves the state. -/
theorem perform_drain_of_pages {ask : String → Action σ PolicyError TuplePage}
    {read : String → Except PolicyError TuplePage} {state : σ}
    (reads : ∀ token, (ask token).perform state = ((read token).mapError .failure, state))
    {token : String} {pages : List TuplePage} (all : Pages read token pages) {allowance : Nat}
    (enough : pages.length ≤ allowance) :
    (drain ask allowance token).perform state = (.ok (pages.flatMap TuplePage.tuples), state) := by
  induction all generalizing allowance with
  | @last token page answered ended =>
    rcases allowance with _ | allowance
    · simp at enough
    rw [perform_drain_succ, reads, answered]
    simp [nextToken, ended]
  | @next token page later answered more fresh _ ih =>
    rcases allowance with _ | allowance
    · simp at enough
    have goesOn : nextToken token page.nextPageToken = .ok (some page.nextPageToken) :=
      nextToken_eq_some_iff.mpr ⟨more, fresh, rfl⟩
    rw [perform_drain_succ, reads, answered]
    simp only [mapError_ok, goesOn, ih (Nat.le_of_succ_le_succ enough)]
    rfl

/-- A counting drain asks for the same pages and takes the length of what a drain lists. -/
theorem drainCount_eq_length (page : String → Action σ PolicyError TuplePage) (allowance : Nat)
    (token : String) :
    drainCount page allowance token = List.length <$> drain page allowance token := by
  induction allowance generalizing token with
  | zero => rfl
  | succ allowance ih =>
    simp only [drainCount, drain, map_bind]
    congr
    funext current
    congr
    funext next
    cases next with
    | none => simp
    | some next => simp [ih]

theorem drain_onPart (isPart : IsPart part replace)
    {page : String → Action σ PolicyError TuplePage} {allowance : Nat} {token : String} :
    drain (fun token => (page token).onPart part replace) allowance token =
      (drain page allowance token).onPart part replace := by
  induction allowance generalizing token with
  | zero => exact (onPart_throw isPart).symm
  | succ allowance ih =>
    simp only [drain, onPart_bind isPart, onPart_ofExcept isPart]
    congr
    funext current
    congr
    funext next
    cases next with
    | none => exact (onPart_pure isPart).symm
    | some next => simp only [onPart_bind isPart, onPart_pure isPart, ih]

namespace PolicyAgent

variable {agent : PolicyAgent σ}

/-- What the outcome of a check says about its tuple: that it is granted, or that it is not. -/
def verdict : Except (Stop PolicyError) Unit → Except (Stop PolicyError) Bool
  | .ok () => .ok true
  | .error (.failure .unauthorized) => .ok false
  | .error stop => .error stop

theorem perform_isSatisfied {tuple : RelationTuple} {state : σ} :
    (agent.isSatisfied tuple).perform state =
      (verdict ((agent.check tuple.toCheckRequest).perform state).1,
        ((agent.check tuple.toCheckRequest).perform state).2) := by
  rw [isSatisfied, perform_bind, perform_attempt]
  rcases (agent.check tuple.toCheckRequest).perform state with ⟨(cause | _ | _) | _, after⟩
  · cases cause <;> rfl
  · rfl
  · rfl
  · rfl

theorem isSatisfied_onPart {tuple : RelationTuple} :
    (agent.onPart part replace).isSatisfied tuple =
      (agent.isSatisfied tuple).onPart part replace := by
  apply ext_perform
  intro whole
  rw [perform_onPart, perform_isSatisfied, perform_isSatisfied]
  rfl

theorem addMany_onPart (isPart : IsPart part replace) {requests : List PolicyRequest} :
    (agent.onPart part replace).addMany requests =
      (agent.addMany requests).onPart part replace := by
  have probes : (agent.onPart part replace).isSatisfied =
      fun tuple => (agent.isSatisfied tuple).onPart part replace :=
    funext fun _ => isSatisfied_onPart
  simp only [addMany, onPart_bind isPart, onPart_ofExcept isPart, onPart_mapM isPart, probes]
  congr
  funext tuples
  congr
  funext satisfied
  split
  · exact (onPart_pure isPart).symm
  · rfl

theorem removeMany_onPart (isPart : IsPart part replace) {requests : List PolicyRequest} :
    (agent.onPart part replace).removeMany requests =
      (agent.removeMany requests).onPart part replace := by
  simp only [removeMany, onPart_bind isPart, onPart_ofExcept isPart]
  congr
  funext tuples
  split
  · exact (onPart_pure isPart).symm
  · rfl

/-- A count is the length of the listing, in either direction and for every agent. -/
theorem count_eq_length (agent : PolicyAgent σ) (direction : Direction) (request : PolicyRequest) :
    agent.count direction request = List.length <$> agent.all direction request := by
  simp only [count, all, drainCount_eq_length, map_bind]

theorem page_onPart {direction : Direction} {request : PolicyRequest} {token : String} :
    (agent.onPart part replace).page direction request token =
      (agent.page direction request token).onPart part replace := by
  cases direction <;> rfl

theorem perform_all_onPart (isPart : IsPart part replace) {direction : Direction}
    {request : PolicyRequest} {whole : τ} :
    ((agent.onPart part replace).all direction request).perform whole =
      ((agent.all direction request).onPart part replace).perform whole := by
  have pages : (agent.onPart part replace).page direction request =
      fun token => (agent.page direction request token).onPart part replace :=
    funext fun _ => page_onPart
  rw [all, all, perform_onPart, perform_bind_ok perform_get, perform_bind_ok perform_get, pages]
  exact congrArg (fun action => Action.perform action whole) (drain_onPart isPart)

end PolicyAgent

end RelationAuth.Policy
