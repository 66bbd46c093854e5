import Mathlib.Data.Finset.Card
import Mathlib.Data.Fintype.Pigeonhole
import Mathlib.Data.Nat.SuccPred
import Mathlib.Order.SuccPred.Relation
import RelationAuth.Policy.ScriptedAgent
import RelationAuth.Proofs.Policy.Agent

/-!
# When complete listings end

A complete listing asks a backend for one page after the other.  It compares the token of a page
with the token of the next one only, so it notices a page that leads to itself, but not a page that
leads back to an earlier one.  Where the pages depend on their tokens alone and finitely many tokens
occur, a listing therefore ends exactly if its tokens do not run in a circle, and then it asks for
no page twice.
-/

namespace RelationAuth.Policy

open RelationAuth.Action Relation Function

/-! ### Listings in both directions -/

/-- The call with which a complete listing asks for a page. -/
def Direction.call : Direction → String → AgentCall
  | objects, token => .objects token drainPageSize
  | subjects, token => .subjects token drainPageSize

theorem Direction.call_injective {direction : Direction} : Function.Injective direction.call := by
  intro left right same
  cases direction <;> simpa [Direction.call] using same

namespace PolicyAgent

variable {σ : Type}

/-- The agent with another bound on the pages of a listing.  A listing without a bound ends exactly
if it does not reach every bound. -/
def withPageBound (agent : PolicyAgent σ) (bound : Nat) : PolicyAgent σ :=
  { agent with pageBound := fun _ => bound }

/-- The agent with the calls that it gets noted beside its state, other than checks. -/
def noting (agent : PolicyAgent σ) : PolicyAgent (σ × List AgentCall) where
  check request := (agent.check request).onPart Prod.fst fun after whole => (after, whole.2)
  write tuples :=
    (agent.write tuples).onPart Prod.fst fun after whole => (after, whole.2 ++ [.write tuples])
  delete tuples :=
    (agent.delete tuples).onPart Prod.fst fun after whole => (after, whole.2 ++ [.delete tuples])
  objects request token limit :=
    (agent.objects request token limit).onPart Prod.fst fun after whole =>
      (after, whole.2 ++ [.objects token limit])
  subjects request token limit :=
    (agent.subjects request token limit).onPart Prod.fst fun after whole =>
      (after, whole.2 ++ [.subjects token limit])
  pageBound whole := agent.pageBound whole.1

/-- Whether the pages of a listing depend on their tokens alone. -/
def Serves (agent : PolicyAgent σ) (direction : Direction) (request : PolicyRequest)
    (read : String → Except PolicyError TuplePage) : Prop :=
  ∀ token state,
    ((agent.page direction request token).perform state).1 = (read token).mapError .failure

/-- The calls that an action makes of an agent that notes them. -/
def callsMade {α : Type} (action : Action (σ × List AgentCall) PolicyError α) (state : σ) :
    List AgentCall :=
  (action.perform (state, [])).2.2

variable {agent : PolicyAgent σ} {direction : Direction} {request : PolicyRequest} {bound : Nat}

theorem perform_all_withPageBound {state : σ} :
    ((agent.withPageBound bound).all direction request).perform state =
      (drain (agent.page direction request) bound "").perform state := by
  cases direction <;> rfl

theorem perform_all_noting {whole : σ × List AgentCall} :
    ((agent.withPageBound bound).noting.all direction request).perform whole =
      (drain (agent.noting.page direction request) bound "").perform whole := by
  cases direction <;> rfl

theorem perform_page_noting {token : String} {state : σ} {calls : List AgentCall} :
    (agent.noting.page direction request token).perform (state, calls) =
      (((agent.page direction request token).perform state).1,
        ((agent.page direction request token).perform state).2,
        calls ++ [direction.call token]) := by
  cases direction <;> rfl

end PolicyAgent

/-! ### The course of a listing -/

/-- The course of a listing from a page token on: the tokens that it asks for, and its answer. -/
inductive Drained (read : String → Except PolicyError TuplePage) :
    String → List String → Except PolicyError (List RelationTuple) → Prop
  | fails {token : String} {cause : PolicyError} (failed : read token = .error cause) :
      Drained read token [token] (.error cause)
  | ends {token : String} {page : TuplePage} (answered : read token = .ok page)
      (ended : page.nextPageToken = "") : Drained read token [token] (.ok page.tuples)
  | stalls {token : String} {page : TuplePage} (answered : read token = .ok page)
      (more : page.nextPageToken ≠ "") (same : page.nextPageToken = token) :
      Drained read token [token] (.error (.paginationStalled token))
  | goesOn {token : String} {page : TuplePage} {asked : List String}
      {answer : Except PolicyError (List RelationTuple)} (answered : read token = .ok page)
      (more : page.nextPageToken ≠ "") (other : page.nextPageToken ≠ token)
      (later : Drained read page.nextPageToken asked answer) :
      Drained read token (token :: asked) (answer.map (page.tuples ++ ·))

/-- Whether a listing goes on from one page token to another. -/
def TokenStep (read : String → Except PolicyError TuplePage) (token next : String) : Prop :=
  ∃ page, read token = .ok page ∧ page.nextPageToken = next ∧ next ≠ "" ∧ next ≠ token

/-- Whether a listing from the first page comes to a token that leads back to itself over others. -/
def Circles (read : String → Except PolicyError TuplePage) : Prop :=
  ∃ token, ReflTransGen (TokenStep read) "" token ∧ TransGen (TokenStep read) token token

/-- The ends of a listing: its result, a failure of the backend, or a page that leads to itself. -/
inductive Ended (read : String → Except PolicyError TuplePage) {α : Type} :
    Except (Stop PolicyError) α → Prop
  | result (value : α) : Ended read (.ok value)
  | backend {token : String} {cause : PolicyError} (failed : read token = .error cause) :
      Ended read (.error (.failure cause))
  | stalled {token : String} {page : TuplePage} (answered : read token = .ok page)
      (same : page.nextPageToken = token) :
      Ended read (.error (.failure (.paginationStalled token)))

variable {read : String → Except PolicyError TuplePage} {token next : String}
  {asked : List String} {answer : Except PolicyError (List RelationTuple)} {tokens : Finset String}

theorem Ended.map {α β : Type} {view : α → β} {outcome : Except (Stop PolicyError) α}
    (ended : Ended read outcome) : Ended read (outcome.map view) := by
  cases ended with
  | result value => exact .result (view value)
  | backend failed => exact .backend failed
  | stalled answered same => exact .stalled answered same

namespace Drained

theorem ended (drained : Drained read token asked answer) :
    Ended read (answer.mapError Stop.failure) := by
  induction drained with
  | fails failed => exact .backend failed
  | ends => exact .result _
  | stalls answered _ same => exact .stalled answered same
  | @goesOn _ _ _ answer _ _ _ _ ih =>
    cases answer with
    | error cause => exact ih
    | ok tuples => exact .result _

/-- The tokens that a drain asks for are determined by the first one. -/
theorem asked_unique (drained : Drained read token asked answer) {asked' : List String}
    {answer' : Except PolicyError (List RelationTuple)}
    (drained' : Drained read token asked' answer') : asked' = asked := by
  induction drained generalizing asked' answer' with
  | fails failed => cases drained' <;> simp_all
  | ends answered ended => cases drained' <;> simp_all
  | stalls answered more same => cases drained' <;> simp_all
  | goesOn answered more other _ ih =>
    cases drained' with
    | fails failed => simp_all
    | ends answered' ended => simp_all
    | stalls answered' _ same => simp_all
    | goesOn answered' _ _ later' =>
      cases answered.symm.trans answered'
      rw [ih later']

theorem of_step (step : TokenStep read token next) (drained : Drained read token asked answer) :
    ∃ asked' answer', Drained read next asked' answer' ∧ asked = token :: asked' := by
  obtain ⟨page, answered, rfl, more, other⟩ := step
  cases drained with
  | fails failed => simp [answered] at failed
  | ends answered' ended =>
    cases answered.symm.trans answered'
    exact absurd ended more
  | stalls answered' _ same =>
    cases answered.symm.trans answered'
    exact absurd same other
  | goesOn answered' _ _ later =>
    cases answered.symm.trans answered'
    exact ⟨_, _, later, rfl⟩

theorem of_transGen (leads : TransGen (TokenStep read) token next)
    (drained : Drained read token asked answer) :
    ∃ asked' answer', Drained read next asked' answer' ∧ asked'.length < asked.length := by
  induction leads with
  | single step =>
    obtain ⟨asked', answer', later, rfl⟩ := drained.of_step step
    exact ⟨asked', answer', later, by simp⟩
  | tail _ step ih =>
    obtain ⟨asked', answer', later, shorter⟩ := ih
    obtain ⟨asked'', answer'', last, rfl⟩ := later.of_step step
    exact ⟨asked'', answer'', last, by rw [List.length_cons] at shorter; omega⟩

/-- No token of a drain that ends leads back to itself. -/
theorem not_transGen_self (drained : Drained read token asked answer) :
    ¬ TransGen (TokenStep read) token token := by
  intro leads
  -- A token that leads back to itself would have a course shorter than its own.
  obtain ⟨asked', answer', later, shorter⟩ := drained.of_transGen leads
  rw [drained.asked_unique later] at shorter
  exact Nat.lt_irrefl _ shorter

theorem not_circles (drained : Drained read "" asked answer) : ¬ Circles read := by
  rintro ⟨token, reached, circle⟩
  rcases reflTransGen_iff_eq_or_transGen.mp reached with rfl | leads
  · exact drained.not_transGen_self circle
  · obtain ⟨_, _, later, _⟩ := drained.of_transGen leads
    exact later.not_transGen_self circle

/-- A drain asks only for tokens that its first one leads to. -/
theorem reflTransGen_of_mem (drained : Drained read token asked answer) (mem : next ∈ asked) :
    ReflTransGen (TokenStep read) token next := by
  induction drained with
  | fails | ends | stalls =>
    rw [List.mem_singleton.mp mem]
  | goesOn answered more other _ ih =>
    rcases List.mem_cons.mp mem with rfl | mem
    · exact .refl
    · exact .head ⟨_, answered, rfl, more, other⟩ (ih mem)

/-- A listing that ends asks for no page twice. -/
theorem nodup (drained : Drained read token asked answer) : asked.Nodup := by
  induction drained with
  | fails | ends | stalls => exact List.nodup_singleton _
  | goesOn answered more other later ih =>
    refine List.nodup_cons.mpr ⟨fun mem => ?_, ih⟩
    exact (goesOn answered more other later).not_transGen_self
      (.head' ⟨_, answered, rfl, more, other⟩ (later.reflTransGen_of_mem mem))

theorem length_pos (drained : Drained read token asked answer) : 0 < asked.length := by
  cases drained <;> simp

/-- A drain over finitely many tokens ends within one more than their number. -/
theorem length_asked_le (drained : Drained read token asked answer)
    (finite : ∀ token page, read token = .ok page → page.nextPageToken ∈ tokens) :
    asked.length ≤ tokens.card + 1 := by
  have inside : asked.toFinset ⊆ insert token tokens := by
    intro other mem
    rcases reflTransGen_iff_eq_or_transGen.mp
      (drained.reflTransGen_of_mem (List.mem_toFinset.mp mem)) with rfl | leads
    · exact Finset.mem_insert_self _ _
    · obtain ⟨_, _, page, answered, rfl, _, _⟩ := TransGen.tail'_iff.mp leads
      exact Finset.mem_insert_of_mem (finite _ page answered)
  calc asked.length = asked.toFinset.card := (List.toFinset_card_of_nodup drained.nodup).symm
    _ ≤ (insert token tokens).card := Finset.card_le_card inside
    _ ≤ tokens.card + 1 := Finset.card_insert_le _ _

end Drained

/-- From a token whose drain never ends there is a step to another such token. -/
theorem exists_tokenStep (endless : ¬ ∃ asked answer, Drained read token asked answer) :
    ∃ next, TokenStep read token next ∧ ¬ ∃ asked answer, Drained read next asked answer := by
  rcases answered : read token with cause | page
  · exact absurd ⟨_, _, .fails answered⟩ endless
  by_cases ended : page.nextPageToken = ""
  · exact absurd ⟨_, _, .ends answered ended⟩ endless
  by_cases same : page.nextPageToken = token
  · exact absurd ⟨_, _, .stalls answered ended same⟩ endless
  refine ⟨page.nextPageToken, ⟨page, answered, rfl, ended, same⟩, ?_⟩
  rintro ⟨asked, answer, later⟩
  exact endless ⟨_, _, .goesOn answered ended same later⟩

/-- A drain that never ends goes through an endless sequence of tokens. -/
theorem exists_endless_steps (endless : ¬ ∃ asked answer, Drained read token asked answer) :
    ∃ later : Nat → String, later 0 = token ∧
      ∀ index, TokenStep read (later index) (later (index + 1)) := by
  let Endless := {token : String // ¬ ∃ asked answer, Drained read token asked answer}
  choose follow follows using fun token : Endless => exists_tokenStep token.2
  let later : Nat → Endless :=
    Nat.rec ⟨token, endless⟩ fun _ token => ⟨follow token, (follows token).2⟩
  exact ⟨fun index => (later index).1, rfl, fun index => (follows (later index)).1⟩

/-- Among finitely many tokens, a drain that never ends comes to one of them twice. -/
theorem circles_of_endless
    (finite : ∀ token page, read token = .ok page → page.nextPageToken ∈ tokens)
    (endless : ¬ ∃ asked answer, Drained read "" asked answer) : Circles read := by
  obtain ⟨later, start, steps⟩ := exists_endless_steps endless
  have occurs : ∀ index, later (index + 1) ∈ tokens := by
    intro index
    obtain ⟨page, answered, next, _, _⟩ := steps index
    exact next ▸ finite _ page answered
  -- Infinitely many steps among finitely many tokens come to one of them twice.
  obtain ⟨first, second, apart, same⟩ := Finite.exists_ne_map_eq_of_infinite
    fun index => (⟨later (index + 1), occurs index⟩ : tokens)
  wlog before : first < second generalizing first second
  · exact this second first apart.symm same.symm (by omega)
  have back : later (first + 1) = later (second + 1) := congrArg Subtype.val same
  refine ⟨later (first + 1), ?_, ?_⟩
  · have reached := reflTransGen_of_succ_of_le (TokenStep read on later)
      (fun index _ => steps index) (Nat.zero_le (first + 1))
    exact start ▸ reached.lift later fun _ _ => id
  · have leads := transGen_of_succ_of_lt (TokenStep read on later)
      (fun index _ => steps index) (Nat.succ_lt_succ before)
    have circle : TransGen (TokenStep read) (later (first + 1)) (later (second + 1)) :=
      leads.lift later fun _ _ => id
    exact back ▸ circle

/-! ### Complete listings of an agent -/

namespace PolicyAgent

variable {σ : Type} {agent : PolicyAgent σ} {direction : Direction} {request : PolicyRequest}
  {bound : Nat} {state : σ} {calls : List AgentCall}

/-- Noting the calls of a listing changes neither its answer nor the state that it leaves. -/
theorem perform_drain_noting (agent : PolicyAgent σ) (direction : Direction)
    (request : PolicyRequest) (bound : Nat) (token : String) (state : σ)
    (calls : List AgentCall) : ∃ more,
    (drain (agent.noting.page direction request) bound token).perform (state, calls) =
      (((drain (agent.page direction request) bound token).perform state).1,
        ((drain (agent.page direction request) bound token).perform state).2, calls ++ more) := by
  induction bound generalizing token state calls with
  | zero => exact ⟨[], by simp [drain]⟩
  | succ bound ih =>
    rw [perform_drain_succ, perform_drain_succ, perform_page_noting]
    rcases (agent.page direction request token).perform state with ⟨stop | page, middle⟩
    · exact ⟨_, rfl⟩
    rcases goesOn : nextToken token page.nextPageToken with cause | _ | next
    · exact ⟨_, by simp only [goesOn]; rfl⟩
    · exact ⟨_, by simp only [goesOn]; rfl⟩
    · obtain ⟨more, rest⟩ := ih next middle (calls ++ [direction.call token])
      exact ⟨direction.call token :: more, by simp [goesOn, rest]⟩

/-- Whether a listing from a page token on asks for certain tokens and ends in a certain way,
whatever the state it starts in. -/
def Follows (agent : PolicyAgent σ) (direction : Direction) (request : PolicyRequest) (bound : Nat)
    (token : String) (asked : List String)
    (outcome : Except (Stop PolicyError) (List RelationTuple)) : Prop :=
  ∀ state calls,
    ((drain (agent.noting.page direction request) bound token).perform (state, calls)).1 =
        outcome ∧
      ((drain (agent.noting.page direction request) bound token).perform (state, calls)).2.2 =
        calls ++ asked.map direction.call

theorem follows_zero (agent : PolicyAgent σ) (direction : Direction) (request : PolicyRequest)
    (token : String) : agent.Follows direction request 0 token [] (.error .unfinished) := by
  intro state calls
  simp [drain]

namespace Follows

variable {outcome : Except (Stop PolicyError) (List RelationTuple)}

/-- What a drain follows is the answer of the bounded listing. -/
theorem perform_all (follows : agent.Follows direction request bound "" asked outcome)
    (state : σ) :
    (((agent.withPageBound bound).all direction request).perform state).1 = outcome := by
  rcases perform_drain_noting agent direction request bound "" state [] with ⟨_, noted⟩
  rw [perform_all_withPageBound, ← (follows state []).1, noted]

/-- The calls of a bounded listing are those for the tokens that the drain follows. -/
theorem callsMade_all (follows : agent.Follows direction request bound "" asked outcome)
    (state : σ) :
    callsMade ((agent.withPageBound bound).noting.all direction request) state =
      asked.map direction.call := by
  rw [callsMade, perform_all_noting, (follows state []).2, List.nil_append]

end Follows

namespace Serves

variable {cause : PolicyError} {page : TuplePage}
  {outcome : Except (Stop PolicyError) (List RelationTuple)}

theorem follows_of_error (serves : agent.Serves direction request read)
    (failed : read token = .error cause) :
    agent.Follows direction request (bound + 1) token [token] (.error (.failure cause)) := by
  intro state calls
  simp [perform_drain_succ, perform_page_noting, serves token, failed]

/-- A page whose next token is the current one ends the drain with the stall that it reports. -/
theorem follows_of_stall (serves : agent.Serves direction request read)
    (answered : read token = .ok page)
    (stalls : nextToken token page.nextPageToken = .error cause) :
    agent.Follows direction request (bound + 1) token [token] (.error (.failure cause)) := by
  intro state calls
  simp [perform_drain_succ, perform_page_noting, serves token, answered, stalls]

theorem follows_of_last (serves : agent.Serves direction request read)
    (answered : read token = .ok page) (ends : nextToken token page.nextPageToken = .ok none) :
    agent.Follows direction request (bound + 1) token [token] (.ok page.tuples) := by
  intro state calls
  simp [perform_drain_succ, perform_page_noting, serves token, answered, ends]

/-- A page with a fresh token puts its tuples before what the drain follows from that token. -/
theorem follows_of_next (serves : agent.Serves direction request read)
    (answered : read token = .ok page)
    (goesOn : nextToken token page.nextPageToken = .ok (some next))
    (later : agent.Follows direction request bound next asked outcome) :
    agent.Follows direction request (bound + 1) token (token :: asked)
      (outcome.map (page.tuples ++ ·)) := by
  intro state calls
  rcases later ((agent.page direction request token).perform state).2
    (calls ++ [direction.call token]) with ⟨answer, made⟩
  simp [perform_drain_succ, perform_page_noting, serves token, answered, goesOn, answer, made]

/-- With pages enough, a listing follows its course. -/
theorem follows_of_drained (serves : agent.Serves direction request read)
    (drained : Drained read token asked answer) (enough : asked.length ≤ bound + 1) :
    agent.Follows direction request (bound + 1) token asked (answer.mapError .failure) := by
  induction drained generalizing bound with
  | fails failed => exact serves.follows_of_error failed
  | ends answered ended =>
    exact serves.follows_of_last answered (nextToken_eq_none_iff.mpr ended)
  | @stalls token page answered more same =>
    have stalled : nextToken token page.nextPageToken = .error (.paginationStalled token) := by
      simp [nextToken, same ▸ more, same]
    exact serves.follows_of_stall answered stalled
  | @goesOn token page asked answer answered more other later ih =>
    have left : 0 < bound :=
      Nat.lt_of_lt_of_le later.length_pos (Nat.le_of_succ_le_succ enough)
    obtain ⟨fewer, rfl⟩ := Nat.exists_eq_add_one.mpr left
    have goesOn := nextToken_eq_some_iff.mpr ⟨more, other, rfl⟩
    have follows := serves.follows_of_next answered goesOn (ih (Nat.le_of_succ_le_succ enough))
    rcases answer with cause | tuples <;> exact follows

/-- Without a course, a listing reaches every bound and asks for a page at every step. -/
theorem exists_follows_endless (serves : agent.Serves direction request read)
    (finite : ∀ token page, read token = .ok page → page.nextPageToken ∈ tokens)
    (occurs : token ∈ insert "" tokens)
    (endless : ¬ ∃ asked answer, Drained read token asked answer) (bound : Nat) :
    ∃ asked, agent.Follows direction request bound token asked (.error .unfinished) ∧
      asked.length = bound ∧ asked.toFinset ⊆ insert "" tokens := by
  induction bound generalizing token with
  | zero => exact ⟨[], follows_zero _ _ _ _, rfl, by simp⟩
  | succ bound ih =>
    obtain ⟨_, ⟨page, answered, rfl, more, other⟩, later⟩ := exists_tokenStep endless
    have goesOn := nextToken_eq_some_iff.mpr ⟨more, other, rfl⟩
    obtain ⟨asked, follows, length, inside⟩ :=
      ih (Finset.mem_insert_of_mem (finite _ page answered)) later
    refine ⟨token :: asked, serves.follows_of_next answered goesOn follows, by simp [length], ?_⟩
    rw [List.toFinset_cons]
    exact Finset.insert_subset occurs inside

end Serves

theorem perform_count_withPageBound :
    (((agent.withPageBound bound).count direction request).perform state).1 =
      (((agent.withPageBound bound).all direction request).perform state).1.map List.length := by
  rw [count_eq_length, perform_map]

/-- A count makes the very calls of the listing. -/
theorem callsMade_count (agent : PolicyAgent σ) (direction : Direction) (request : PolicyRequest) :
    callsMade (agent.noting.count direction request) state =
      callsMade (agent.noting.all direction request) state := by
  rw [count_eq_length, callsMade, perform_map, callsMade]

/-- With more pages than tokens, a listing that does not run in a circle ends, and asks for no page
twice. -/
theorem Serves.all_of_not_circles (serves : agent.Serves direction request read)
    (finite : ∀ token page, read token = .ok page → page.nextPageToken ∈ tokens)
    (straight : ¬ Circles read) (enough : tokens.card < bound) (state : σ) :
    Ended read (((agent.withPageBound bound).all direction request).perform state).1 ∧
      (callsMade ((agent.withPageBound bound).noting.all direction request) state).Nodup := by
  obtain ⟨asked, answer, drained⟩ : ∃ asked answer, Drained read "" asked answer := by
    by_contra endless
    exact straight (circles_of_endless finite endless)
  obtain ⟨bound, rfl⟩ := Nat.exists_eq_add_one.mpr (Nat.zero_lt_of_lt enough)
  have follows := serves.follows_of_drained drained
    (Nat.le_trans (drained.length_asked_le finite) enough)
  rw [follows.perform_all, follows.callsMade_all]
  exact ⟨drained.ended, drained.nodup.map Direction.call_injective⟩

/-- A listing that runs in a circle reaches every bound, and repeats itself after as many pages as
there are tokens. -/
theorem Serves.all_of_circles (serves : agent.Serves direction request read)
    (finite : ∀ token page, read token = .ok page → page.nextPageToken ∈ tokens)
    (circles : Circles read) (bound : Nat) (state : σ) :
    (((agent.withPageBound bound).all direction request).perform state).1 = .error .unfinished ∧
      (tokens.card + 1 < bound →
        ¬ (callsMade ((agent.withPageBound bound).noting.all direction request) state).Nodup) := by
  obtain ⟨asked, follows, length, inside⟩ := serves.exists_follows_endless finite
    (Finset.mem_insert_self _ _) (fun ⟨_, _, drained⟩ => drained.not_circles circles) bound
  rw [follows.perform_all, follows.callsMade_all]
  refine ⟨rfl, fun beyond distinct => ?_⟩
  have few : asked.length ≤ tokens.card + 1 :=
    calc asked.length = asked.toFinset.card :=
        (List.toFinset_card_of_nodup (List.Nodup.of_map _ distinct)).symm
      _ ≤ (insert "" tokens).card := Finset.card_le_card inside
      _ ≤ tokens.card + 1 := Finset.card_insert_le _ _
  omega

/-- Over pages that depend on their tokens alone, with finitely many tokens, the complete listings
and counts end exactly if no token leads back to itself over others. -/
theorem drains_end_unless_tokens_circle (agent : PolicyAgent σ) {direction : Direction}
    {request : PolicyRequest} {read : String → Except PolicyError TuplePage}
    {tokens : Finset String} (serves : agent.Serves direction request read)
    (finite : ∀ token page, read token = .ok page → page.nextPageToken ∈ tokens)
    (state : σ) (bound : Nat) :
    (¬ Circles read → tokens.card < bound →
        Ended read (((agent.withPageBound bound).all direction request).perform state).1 ∧
        Ended read (((agent.withPageBound bound).count direction request).perform state).1 ∧
        (callsMade ((agent.withPageBound bound).noting.all direction request) state).Nodup ∧
        (callsMade ((agent.withPageBound bound).noting.count direction request) state).Nodup) ∧
      (Circles read →
        (((agent.withPageBound bound).all direction request).perform state).1 =
          .error .unfinished ∧
        (((agent.withPageBound bound).count direction request).perform state).1 =
          .error .unfinished ∧
        (tokens.card + 1 < bound →
          ¬ (callsMade ((agent.withPageBound bound).noting.all direction request) state).Nodup ∧
          ¬ (callsMade ((agent.withPageBound bound).noting.count direction request)
            state).Nodup)) := by
  rw [perform_count_withPageBound, callsMade_count]
  constructor
  · intro straight enough
    obtain ⟨ended, distinct⟩ := serves.all_of_not_circles finite straight enough state
    exact ⟨ended, ended.map, distinct, distinct⟩
  · intro circles
    obtain ⟨unfinished, repeats⟩ := serves.all_of_circles finite circles bound state
    exact ⟨unfinished, by rw [unfinished]; rfl,
      fun beyond => ⟨repeats beyond, repeats beyond⟩⟩

/-- An agent that answers all listings from the same pages. -/
def ofPages (read : String → Except PolicyError TuplePage) : PolicyAgent Unit where
  check _ := Action.fail .unauthorized
  write _ := return ()
  delete _ := return ()
  objects _ token _ := Action.ofExcept (read token)
  subjects _ token _ := Action.ofExcept (read token)
  pageBound _ := 0

theorem serves_ofPages (read : String → Except PolicyError TuplePage) (direction : Direction)
    (request : PolicyRequest) : (ofPages read).Serves direction request read := by
  intro token state
  cases direction <;> simp [page, pageOf, ofPages]

/-- Two pages, of which the second is the last one. -/
def twoPages (token : String) : Except PolicyError TuplePage :=
  if token = "" then .ok { tuples := [], nextPageToken := "a" }
  else .ok { tuples := [], nextPageToken := "" }

/-- Two pages that end are drained in both directions, each token being asked for once. -/
theorem drains_end_twoPages :
    ¬ Circles twoPages ∧
      ∀ direction request,
        Ended twoPages ((((ofPages twoPages).withPageBound 3).all direction request).perform ()).1 ∧
        (callsMade (((ofPages twoPages).withPageBound 3).noting.all direction request)
          ()).Nodup := by
  have last : Drained twoPages "a" ["a"] (.ok []) :=
    .ends (show twoPages "a" = .ok { tuples := [], nextPageToken := "" } from rfl) rfl
  have drained : Drained twoPages "" ["", "a"] (.ok []) :=
    .goesOn (show twoPages "" = .ok { tuples := [], nextPageToken := "a" } from rfl) (by decide)
      (by decide) last
  have finite : ∀ token page, twoPages token = .ok page →
      page.nextPageToken ∈ ({"", "a"} : Finset String) := by
    intro token page answered
    unfold twoPages at answered
    split at answered <;> cases answered <;> decide
  refine ⟨drained.not_circles, fun direction request => ?_⟩
  obtain ⟨ended, _, distinct, _⟩ :=
    (drains_end_unless_tokens_circle (ofPages twoPages) (serves_ofPages twoPages direction request)
      finite () 3).1 drained.not_circles (by decide)
  exact ⟨ended, distinct⟩

/-- Pages that lead from the first token to a second one and back. -/
def circlingPages (token : String) : Except PolicyError TuplePage :=
  if token = "a" then .ok { tuples := [], nextPageToken := "b" }
  else .ok { tuples := [], nextPageToken := "a" }

/-- Over pages that lead to each other no listing ends, and the third page is asked for again. -/
theorem drains_never_end_circlingPages :
    (∀ token page, circlingPages token = .ok page → page.nextPageToken ∈ ["a", "b"]) ∧
      ∀ direction request,
        (ofPages circlingPages).Serves direction request circlingPages ∧
        (∀ bound,
          ((((ofPages circlingPages).withPageBound bound).all direction request).perform ()).1 =
            .error .unfinished ∧
          ((((ofPages circlingPages).withPageBound bound).count direction request).perform ()).1 =
            .error .unfinished) ∧
        callsMade (((ofPages circlingPages).withPageBound 4).noting.all direction request) () =
          ["", "a", "b", "a"].map direction.call := by
  have finite : ∀ token page, circlingPages token = .ok page →
      page.nextPageToken ∈ ({"a", "b"} : Finset String) := by
    intro token page answered
    unfold circlingPages at answered
    split at answered <;> cases answered <;> decide
  have first : TokenStep circlingPages "" "a" := ⟨_, rfl, rfl, by decide, by decide⟩
  have forth : TokenStep circlingPages "a" "b" := ⟨_, rfl, rfl, by decide, by decide⟩
  have back : TokenStep circlingPages "b" "a" := ⟨_, rfl, rfl, by decide, by decide⟩
  have circles : Circles circlingPages := ⟨"a", .single first, .head forth (.single back)⟩
  refine ⟨fun token page answered => by simpa using finite token page answered,
    fun direction request => ⟨serves_ofPages _ _ _, fun bound => ?_, ?_⟩⟩
  · obtain ⟨unfinished, _⟩ :=
      (serves_ofPages circlingPages direction request).all_of_circles finite circles bound ()
    exact ⟨unfinished, by rw [perform_count_withPageBound, unfinished]; rfl⟩
  · cases direction <;> rfl

end PolicyAgent

end RelationAuth.Policy
