import Mathlib.Logic.Relation

/-!
# Overlapping jobs

A row of jobs is worked off with a bounded number of them under way at once.  They are begun in
order and may finish in any order; their results are collected in order, up to the first failure.
However the jobs overlap, this comes to an end, and the answer is the one of the jobs done in turn.
-/

namespace RelationAuth

open Relation

variable {ε α : Type}

theorem mapM_id_map_ok {values : List α} :
    (values.map (Except.ok : α → Except ε α)).mapM id = .ok values := by
  rw [List.mapM_map]
  exact (List.mapM_pure (m := Except ε)).trans (congrArg Except.ok (List.map_id values))

/-- The answers in turn stop at the first error, whatever comes after it. -/
theorem mapM_id_map_ok_append_error {values : List α} {cause : ε} {others : List (Except ε α)} :
    (values.map Except.ok ++ Except.error cause :: others).mapM id = .error cause := by
  rw [List.mapM_append, mapM_id_map_ok]
  rfl

/-- A row of jobs that is being worked off.  A job stands for its outcome. -/
structure Jobs (ε α : Type) where
  waiting : List (Except ε α)
  /-- The jobs under way, in order, each with whether it has finished. -/
  underWay : List (Except ε α × Bool)
  collected : List α

namespace Jobs

/-- Jobs of which none has begun. -/
def start (outcomes : List (Except ε α)) : Jobs ε α where
  waiting := outcomes
  underWay := []
  collected := []

/-- The next job begins where there is room, any job under way finishes, or the result of the first
one is collected. -/
inductive Step (width : Nat) : Jobs ε α → Jobs ε α → Prop
  | begins {outcome : Except ε α} {waiting : List (Except ε α)}
      {underWay : List (Except ε α × Bool)} {collected : List α}
      (room : underWay.length < width) :
      Step width ⟨outcome :: waiting, underWay, collected⟩
        ⟨waiting, underWay ++ [(outcome, false)], collected⟩
  | finishes (before : List (Except ε α × Bool)) {outcome : Except ε α}
      {waiting : List (Except ε α)} {after : List (Except ε α × Bool)} {collected : List α} :
      Step width ⟨waiting, before ++ (outcome, false) :: after, collected⟩
        ⟨waiting, before ++ (outcome, true) :: after, collected⟩
  | collects {value : α} {waiting : List (Except ε α)} {underWay : List (Except ε α × Bool)}
      {collected : List α} :
      Step width ⟨waiting, (.ok value, true) :: underWay, collected⟩
        ⟨waiting, underWay, collected ++ [value]⟩

/-- The answer of jobs: all results, or the failure that is next to be collected. -/
inductive Answers : Jobs ε α → Except ε (List α) → Prop
  | all {collected : List α} : Answers ⟨[], [], collected⟩ (.ok collected)
  | failed {cause : ε} {waiting : List (Except ε α)} {underWay : List (Except ε α × Bool)}
      {collected : List α} :
      Answers ⟨waiting, (.error cause, true) :: underWay, collected⟩ (.error cause)

/-- The outcomes of all jobs, in order. -/
def outcomes (jobs : Jobs ε α) : List (Except ε α) :=
  jobs.collected.map .ok ++ jobs.underWay.map Prod.fst ++ jobs.waiting

/-- The number of steps still to take. -/
def work (jobs : Jobs ε α) : Nat :=
  3 * jobs.waiting.length + jobs.underWay.length + jobs.underWay.countP (!·.2)

variable {width : Nat} {jobs later : Jobs ε α} {answer : Except ε (List α)}

/-- A step changes which jobs are under way, never how a job ends. -/
theorem Step.outcomes_eq (step : Step width jobs later) : later.outcomes = jobs.outcomes := by
  cases step <;> simp [outcomes]

/-- Every step leaves less work to do. -/
theorem Step.work_lt (step : Step width jobs later) : later.work < jobs.work := by
  cases step <;> simp [work]
  omega

/-- Jobs that have no answer yet can make a step, as long as one of them may be under way. -/
theorem exists_step (room : 0 < width) (jobs : Jobs ε α) :
    (∃ answer, Answers jobs answer) ∨ ∃ later, Step width jobs later := by
  obtain ⟨waiting, underWay, collected⟩ := jobs
  rcases underWay with _ | ⟨⟨outcome, _ | _⟩, underWay⟩
  · rcases waiting with _ | ⟨outcome, waiting⟩
    · exact .inl ⟨_, .all⟩
    · exact .inr ⟨_, .begins room⟩
  · exact .inr ⟨_, .finishes []⟩
  · rcases outcome with cause | value
    · exact .inl ⟨_, .failed⟩
    · exact .inr ⟨_, .collects⟩

/-- Whatever the width, the answer is that of the jobs taken in turn. -/
theorem Answers.eq_inTurn (answers : Answers jobs answer) : answer = jobs.outcomes.mapM id := by
  cases answers with
  | all =>
    simp only [outcomes, List.map_nil, List.append_nil]
    exact mapM_id_map_ok.symm
  | failed =>
    simp only [outcomes, List.map_cons, List.append_assoc, List.cons_append]
    exact mapM_id_map_ok_append_error.symm

theorem outcomes_eq_of_reached (reached : ReflTransGen (Step width) jobs later) :
    later.outcomes = jobs.outcomes := by
  induction reached with
  | refl => rfl
  | tail _ step ih => exact step.outcomes_eq.trans ih

/-- Some order of steps leads to an answer: no choice of steps is needed to end. -/
theorem exists_answer (room : 0 < width) (jobs : Jobs ε α) :
    ∃ last answer, ReflTransGen (Step width) jobs last ∧ Answers last answer := by
  -- Every step leaves less work, whichever is taken.
  induction work : jobs.work using Nat.strongRecOn generalizing jobs with
  | ind amount ih =>
    rcases exists_step room jobs with ⟨answer, answers⟩ | ⟨later, step⟩
    · exact ⟨jobs, answer, .refl, answers⟩
    · obtain ⟨last, answer, reached, answers⟩ := ih later.work (work ▸ step.work_lt) later rfl
      exact ⟨last, answer, .head step reached, answers⟩

/-- However jobs overlap, they end with the answer that they give in turn, and with no other. -/
theorem reaches_answer_iff (room : 0 < width) {outcomes : List (Except ε α)} :
    (∃ last, ReflTransGen (Step width) (start outcomes) last ∧ Answers last answer) ↔
      outcomes.mapM id = answer := by
  have inTurn {last : Jobs ε α} {other : Except ε (List α)}
      (reached : ReflTransGen (Step width) (start outcomes) last) (answers : Answers last other) :
      outcomes.mapM id = other := by
    rw [answers.eq_inTurn, outcomes_eq_of_reached reached]
    rfl
  constructor
  · rintro ⟨last, reached, answers⟩
    exact inTurn reached answers
  · rintro rfl
    obtain ⟨last, other, reached, answers⟩ := exists_answer room (start outcomes)
    exact ⟨last, reached, inTurn reached answers ▸ answers⟩

end Jobs

end RelationAuth
