import Mathlib.Data.List.Induction
import RelationAuth.Policy.ScriptedAgent
import RelationAuth.Proofs.Overlap
import RelationAuth.Proofs.Policy.Agent

/-!
# What a batch writes

Adding a batch of requests writes at most once, and what it writes are the tuples that were refused,
each at its first place.  This holds for every agent, whatever its checks answer.
-/

namespace RelationAuth.Policy

open RelationAuth.Action Relation

/-! ### The refused ones of a row of checks -/

section Refused

variable {α : Type} {checked : List (α × Bool)} {value : α} {granted : Bool}
  {positions : List Nat} {batch : List α}

/-- Whether a value is refused at a position of a row of checks, and at no position before. -/
def FirstRefused (checked : List (α × Bool)) (position : Nat) : Prop :=
  ∃ value, checked[position]? = some (value, false) ∧ (value, false) ∉ checked.take position

/-- The batch of a row of checks has the refused values, in order, each from its first position. -/
structure IsBatch (checked : List (α × Bool)) (positions : List Nat) (batch : List α) : Prop where
  inOrder : positions.Pairwise (· < ·)
  mem_iff : ∀ position, position ∈ positions ↔ FirstRefused checked position
  values : batch.map some = positions.map fun position => checked[position]?.map Prod.fst

theorem FirstRefused.lt {position : Nat} (first : FirstRefused checked position) :
    position < checked.length := by
  obtain ⟨value, refused, _⟩ := first
  exact (List.getElem?_eq_some_iff.mp refused).1

/-- A further answer adds its own position if it is a first refusal, and no other. -/
theorem firstRefused_append_iff {position : Nat} :
    FirstRefused (checked ++ [(value, granted)]) position ↔
      FirstRefused checked position ∨
        position = checked.length ∧ granted = false ∧ (value, false) ∉ checked := by
  rcases Nat.lt_trichotomy position checked.length with before | rfl | beyond
  · simp [FirstRefused, List.getElem?_append_left before,
      List.take_append_of_le_length (Nat.le_of_lt before), Nat.ne_of_lt before]
  · simp [FirstRefused, and_assoc]
  · have longer : (checked ++ [(value, granted)]).length ≤ position := by
      rw [List.length_append]
      exact beyond
    have outside : ¬ FirstRefused checked position := fun first => by have := first.lt; omega
    have outside' : ¬ FirstRefused (checked ++ [(value, granted)]) position :=
      fun first => by have := first.lt; omega
    simp [outside, outside', Nat.ne_of_gt beyond]

/-- An answer that grants, or that repeats a refused value, leaves the batch. -/
theorem IsBatch.append_passed (isBatch : IsBatch checked positions batch)
    (passed : granted = true ∨ (value, false) ∈ checked) :
    IsBatch (checked ++ [(value, granted)]) positions batch where
  inOrder := isBatch.inOrder
  mem_iff position := by
    rw [isBatch.mem_iff, firstRefused_append_iff]
    grind
  values := by
    rw [isBatch.values]
    refine List.map_congr_left fun position mem => ?_
    rw [List.getElem?_append_left ((isBatch.mem_iff position).mp mem).lt]

/-- The first refusal of a value puts it at the end of the batch. -/
theorem IsBatch.append_refused (isBatch : IsBatch checked positions batch)
    (first : (value, false) ∉ checked) :
    IsBatch (checked ++ [(value, false)]) (positions ++ [checked.length]) (batch ++ [value]) where
  inOrder := by
    refine List.pairwise_append.mpr ⟨isBatch.inOrder, List.pairwise_singleton _ _, ?_⟩
    intro position mem last isLast
    rw [List.mem_singleton.mp isLast]
    exact ((isBatch.mem_iff position).mp mem).lt
  mem_iff position := by
    rw [List.mem_append, isBatch.mem_iff, firstRefused_append_iff, List.mem_singleton]
    simp [first]
  values := by
    rw [List.map_append, isBatch.values, List.map_append]
    congr 1
    · refine List.map_congr_left fun position mem => ?_
      rw [List.getElem?_append_left ((isBatch.mem_iff position).mp mem).lt]
    · simp

theorem eraseDups_append_singleton [DecidableEq α] {values : List α} :
    (values ++ [value]).eraseDups =
      if value ∈ values then values.eraseDups else values.eraseDups ++ [value] := by
  rw [List.eraseDups_append]
  split <;> simp_all [List.removeAll, List.eraseDups_cons]

/-- Choosing the refused values and dropping the repeated ones makes the batch. -/
theorem exists_isBatch [DecidableEq α] (checked : List (α × Bool)) :
    ∃ positions, IsBatch checked positions
      ((checked.filter (!·.2)).map Prod.fst).eraseDups := by
  -- The last check adds its value if it is refused and was not refused before.
  induction checked using List.reverseRecOn with
  | nil => exact ⟨[], .nil, by simp [FirstRefused], rfl⟩
  | append_singleton checked last ih =>
    obtain ⟨positions, isBatch⟩ := ih
    obtain ⟨value, granted⟩ := last
    have among : value ∈ (checked.filter (!·.2)).map Prod.fst ↔ (value, false) ∈ checked := by
      simp
    rw [List.filter_append, List.map_append]
    cases granted with
    | true => exact ⟨positions, by simpa using isBatch.append_passed (.inl rfl)⟩
    | false =>
      change ∃ positions, IsBatch _ positions (_ ++ [value]).eraseDups
      rw [eraseDups_append_singleton]
      by_cases first : (value, false) ∈ checked
      · rw [if_pos (among.mpr first)]
        exact ⟨positions, isBatch.append_passed (.inr first)⟩
      · rw [if_neg (mt among.mp first)]
        exact ⟨_, isBatch.append_refused first⟩

end Refused

/-! ### Batches of requests -/

/-- The bound on the checks that a batch keeps under way at once. -/
def maxConcurrentChecks : Nat := 32

namespace PolicyAgent

variable {σ : Type} {agent : PolicyAgent σ} {tuple : RelationTuple} {tuples : List RelationTuple}
  {requests : List PolicyRequest} {granted : List Bool} {stop : Stop PolicyError}
  {later : List (Except (Stop PolicyError) Bool)} {state : σ}

/-- The verdicts on tuples that are checked in turn. -/
def verdicts (agent : PolicyAgent σ) :
    List RelationTuple → σ → List (Except (Stop PolicyError) Bool)
  | [], _ => []
  | tuple :: rest, state =>
    let (outcome, after) := (agent.check tuple.toCheckRequest).perform state
    verdict outcome :: agent.verdicts rest after

/-- The state after tuples are checked in turn. -/
def afterChecks (agent : PolicyAgent σ) : List RelationTuple → σ → σ
  | [], state => state
  | tuple :: rest, state =>
    agent.afterChecks rest ((agent.check tuple.toCheckRequest).perform state).2

@[simp]
theorem verdicts_cons : agent.verdicts (tuple :: tuples) state =
    verdict ((agent.check tuple.toCheckRequest).perform state).1 ::
      agent.verdicts tuples ((agent.check tuple.toCheckRequest).perform state).2 :=
  rfl

/-- If every check gives a verdict, the answers are those verdicts in order. -/
theorem perform_checks_of_granted (all : agent.verdicts tuples state = granted.map .ok) :
    (tuples.mapM agent.isSatisfied).perform state =
      (.ok granted, agent.afterChecks tuples state) := by
  induction tuples generalizing granted state with
  | nil =>
    obtain rfl : granted = [] := by simpa [verdicts] using all.symm
    rfl
  | cons tuple rest ih =>
    rw [verdicts_cons] at all
    rcases granted with _ | ⟨first, granted⟩
    · simp at all
    obtain ⟨single, others⟩ := List.cons.inj all
    rw [List.mapM_cons, perform_bind, perform_isSatisfied, single]
    exact (perform_bind_ok (ih others)).trans rfl

/-- The first check that fails ends the checks, with its error and the state that it leaves. -/
theorem perform_checks_of_failed
    (failed : agent.verdicts tuples state = granted.map .ok ++ .error stop :: later) :
    (tuples.mapM agent.isSatisfied).perform state =
      (.error stop, agent.afterChecks (tuples.take (granted.length + 1)) state) := by
  induction tuples generalizing granted state with
  | nil => simp [verdicts] at failed
  | cons tuple rest ih =>
    rw [verdicts_cons] at failed
    rw [List.mapM_cons, perform_bind, perform_isSatisfied]
    rcases granted with _ | ⟨first, granted⟩
    · obtain ⟨stopped, _⟩ := List.cons.inj failed
      rw [stopped]
      rfl
    · obtain ⟨single, others⟩ := List.cons.inj failed
      rw [single]
      exact perform_bind_error (ih others)

theorem perform_checks : ((tuples.mapM agent.isSatisfied).perform state).1 =
    (agent.verdicts tuples state).mapM id := by
  induction tuples generalizing state with
  | nil => rfl
  | cons tuple rest ih =>
    rw [List.mapM_cons, perform_bind, perform_isSatisfied, verdicts_cons, List.mapM_cons]
    rcases verdict ((agent.check tuple.toCheckRequest).perform state).1 with stop | granted
    · rfl
    · rw [← ih]
      dsimp only
      rw [perform_bind]
      rcases (rest.mapM agent.isSatisfied).perform _ with ⟨stop | others, after⟩ <;> rfl

theorem mapM_ofRequest : requests.mapM RelationTuple.ofRequest =
    (requests.map RelationTuple.ofRequest).mapM id := by
  rw [List.mapM_map]
  rfl

/-- The first request that cannot be described is reported before anything is checked. -/
theorem perform_addMany_of_malformed {valid : List RelationTuple} {cause : PolicyError}
    {others : List (Except PolicyError RelationTuple)}
    (malformed : requests.map RelationTuple.ofRequest = valid.map .ok ++ .error cause :: others) :
    (agent.addMany requests).perform state = (.error (.failure cause), state) := by
  have refused : requests.mapM RelationTuple.ofRequest = .error cause := by
    rw [mapM_ofRequest, malformed, mapM_id_map_ok_append_error]
  rw [addMany, refused]
  exact perform_bind_error perform_ofExcept

/-- Requests that can all be described are checked in turn, and the refused ones written at once. -/
theorem perform_addMany_of_valid (valid : requests.map RelationTuple.ofRequest = tuples.map .ok) :
    (agent.addMany requests).perform state =
      (do
        let satisfied ← tuples.mapM agent.isSatisfied
        let written := (((tuples.zip satisfied).filter (!·.2)).map Prod.fst).eraseDups
        if written.isEmpty then return ()
        agent.write written : Action σ PolicyError Unit).perform state := by
  have described : requests.mapM RelationTuple.ofRequest = .ok tuples := by
    rw [mapM_ofRequest, valid, mapM_id_map_ok]
  rw [addMany, described]
  exact perform_bind_ok perform_ofExcept

/-- For every agent: a batch with a malformed request is refused with the first fault before
anything is checked; a batch with a check that fails otherwise than as unauthorized stops with the
first such failure before anything is written; and any other batch writes once, the tuples whose
checks are refused, or not at all if there are none.  However the checks overlap, they come to the
answer that they give in turn. -/
theorem addMany_writes_the_refused_once (agent : PolicyAgent σ) (requests : List PolicyRequest)
    (state : σ) :
    (∀ (valid : List RelationTuple) (cause : PolicyError) others,
      requests.map RelationTuple.ofRequest = valid.map .ok ++ .error cause :: others →
      (agent.addMany requests).perform state = (.error (.failure cause), state)) ∧
    ∀ tuples : List RelationTuple, requests.map RelationTuple.ofRequest = tuples.map .ok →
      (∀ (granted : List Bool) stop later,
        agent.verdicts tuples state = granted.map .ok ++ .error stop :: later →
        (agent.addMany requests).perform state =
          (.error stop, agent.afterChecks (tuples.take (granted.length + 1)) state)) ∧
      (∀ granted : List Bool, agent.verdicts tuples state = granted.map .ok →
        ∃ positions written, IsBatch (tuples.zip granted) positions written ∧
          (agent.addMany requests).perform state =
            if written = [] then (.ok (), agent.afterChecks tuples state)
            else (agent.write written).perform (agent.afterChecks tuples state)) ∧
      ∀ answer,
        (∃ last, ReflTransGen (Jobs.Step maxConcurrentChecks)
            (Jobs.start (agent.verdicts tuples state)) last ∧ last.Answers answer) ↔
          ((tuples.mapM agent.isSatisfied).perform state).1 = answer := by
  refine ⟨fun _ _ _ => perform_addMany_of_malformed, fun tuples valid => ⟨?_, ?_, fun answer => ?_⟩⟩
  · intro granted stop later failed
    rw [perform_addMany_of_valid valid]
    exact perform_bind_error (perform_checks_of_failed failed)
  · intro granted all
    obtain ⟨positions, isBatch⟩ := exists_isBatch (tuples.zip granted)
    refine ⟨positions, _, isBatch, ?_⟩
    rw [perform_addMany_of_valid valid, perform_bind_ok (perform_checks_of_granted all)]
    split <;> simp_all
  · rw [Jobs.reaches_answer_iff (by decide), perform_checks]

/-- The request that a subject views a thing. -/
def viewing (subject : String) : PolicyRequest :=
  { subjectType := "user", subject, relation := "viewer", objectType := "thing", object := "t1" }

/-- The tuple by which a subject views a thing. -/
def viewed (subject : String) : RelationTuple :=
  { namespaceName := "", objectType := "thing", object := "t1", relation := "viewer"
    subjectType := "user", subject := .id subject }

/-- Users who are to view a group, one of them twice. -/
def viewers : List String :=
  ["carol", "dave", "carol", "erin"]

/-- Checks of which the second one passes and the others are refused. -/
def mixedScript : AgentScript where
  checks := [.error .unauthorized, .ok (), .error .unauthorized, .error .unauthorized]

/-- Checks of which the second one does not reach its engine. -/
def failingScript : AgentScript where
  checks := [.error .unauthorized, .error .transport, .error (.remote 503 "busy"), .ok ()]

/-- Invalid, failing and mixed answers of a scripted backend, with a request that occurs twice. -/
theorem addMany_writes_the_refused_once_viewers :
    (ScriptedAgent.agent.addMany [viewing "carol", {}, viewing "dave"]).perform mixedScript =
        (.error (.failure (.malformed .missingSubject)), mixedScript) ∧
      (ScriptedAgent.agent.addMany (viewers.map viewing)).perform failingScript =
        (.error (.failure .transport),
          ScriptedAgent.agent.afterChecks ((viewers.map viewed).take 2) failingScript) ∧
      ∃ positions written,
        IsBatch ((viewers.map viewed).zip [false, true, false, false]) positions written ∧
        (ScriptedAgent.agent.addMany (viewers.map viewing)).perform mixedScript =
          if written = [] then
            (.ok (), ScriptedAgent.agent.afterChecks (viewers.map viewed) mixedScript)
          else
            (ScriptedAgent.agent.write written).perform
              (ScriptedAgent.agent.afterChecks (viewers.map viewed) mixedScript) := by
  refine ⟨?_, ?_, ?_⟩
  · exact (addMany_writes_the_refused_once ScriptedAgent.agent _ mixedScript).1 [viewed "carol"] _
      [.ok (viewed "dave")] (by decide)
  · exact ((addMany_writes_the_refused_once ScriptedAgent.agent _ failingScript).2
      (viewers.map viewed) (by decide)).1 [false] _ _ rfl
  · exact ((addMany_writes_the_refused_once ScriptedAgent.agent _ mixedScript).2
      (viewers.map viewed) (by decide)).2.1 [false, true, false, false] rfl

example : ((ScriptedAgent.agent.addMany (viewers.map viewing)).perform mixedScript).2.calls =
    [.write [viewed "carol", viewed "erin"]] := by
  decide

end PolicyAgent

end RelationAuth.Policy
