import Mathlib.Data.List.Nodup

/-!
# Bounded depth-first search

A search from a node looks for a target.  It follows a bounded number of levels, and it enters each
node once, whichever way leads there first.  The two do not go together well: a node that is entered
at the last level is not followed further, and it is not entered again on a shorter way.  These nodes
form the boundary of the search.

The search finds a target exactly if a path leads to one without a boundary node between its ends,
and every boundary node is the end of a path of pairwise distinct nodes that uses up all levels.  So
the search is exact where no such path is longer than the levels allow.
-/

namespace RelationAuth.Search

variable {α : Type}

/-- A path along a relation, with the nodes after the first one and the last one. -/
inductive Path (step : α → α → Prop) : α → List α → α → Prop where
  /-- The path that stays where it starts. -/
  | stop (node : α) : Path step node [] node
  /-- A path with one more step in front. -/
  | follow {first second last : α} {rest : List α} (taken : step first second)
      (onward : Path step second rest last) : Path step first (second :: rest) last

namespace Path

variable {step : α → α → Prop} {first last : α} {rest : List α}

theorem last_mem (path : Path step first rest last) : last ∈ first :: rest := by
  induction path with
  | stop node => exact List.mem_singleton_self node
  | follow taken onward ih => exact List.mem_cons_of_mem _ ih

theorem extend (path : Path step first rest last) {node : α} (taken : step last node) :
    Path step first (rest ++ [node]) node := by
  induction path with
  | stop origin => exact follow taken (stop node)
  | follow before onward ih => exact follow before (ih taken)

theorem last_mem_rest (path : Path step first rest last) (moves : rest ≠ []) : last ∈ rest := by
  cases path with
  | stop node => exact absurd rfl moves
  | follow taken onward => exact onward.last_mem

/-- What holds of the first node of a path, and goes on along its steps from each node that may be
followed, holds of the last node. -/
theorem carry {kept followed : α → Prop}
    (goesOn : ∀ left right, kept left → followed left → step left right → kept right)
    (path : Path step first rest last) (start : kept first)
    (along : ∀ node ∈ (first :: rest).dropLast, followed node) : kept last := by
  induction path with
  | stop node => exact start
  | follow taken onward ih =>
    simp only [List.dropLast_cons_cons, List.forall_mem_cons] at along
    exact ih (goesOn _ _ start along.1 taken) along.2

theorem mono {other : α → α → Prop} (weaker : ∀ left right, step left right → other left right)
    (path : Path step first rest last) : Path other first rest last := by
  induction path with
  | stop node => exact stop node
  | follow taken onward ih => exact follow (weaker _ _ taken) ih

end Path

/-- Whether a node is among the successors of another. -/
abbrev Leads (next : α → List α) (left right : α) : Prop :=
  right ∈ next left

/-- What a search has met. -/
structure Trail (α : Type) where
  /-- The nodes entered. -/
  visited : List α
  /-- The nodes entered at the last level. -/
  boundary : List α

namespace Trail

/-- The trail of a search that has met nothing. -/
def start : Trail α :=
  { visited := [], boundary := [] }

/-- A trail with one more node, which may be entered at the last level. -/
def enter (trail : Trail α) (node : α) (atLast : Bool) : Trail α :=
  { visited := node :: trail.visited
    boundary := if atLast then node :: trail.boundary else trail.boundary }

end Trail

/-- Search from nodes in order, until one search finds a target. -/
def searchEach (visit : α → Trail α → Bool × Trail α) : List α → Trail α → Bool × Trail α
  | [], trail => (false, trail)
  | node :: rest, trail =>
    match visit node trail with
    | (true, after) => (true, after)
    | (false, after) => searchEach visit rest after

section

variable [DecidableEq α] (isTarget : α → Bool) (next : α → List α)

/-- Search from a node, within a number of levels and past the nodes already entered. -/
def search : Nat → α → Trail α → Bool × Trail α
  | 0, _, trail => (false, trail)
  | levels + 1, node, trail =>
    if node ∈ trail.visited then (false, trail)
    else if isTarget node then (true, trail.enter node (levels = 0))
    else searchEach (search levels) (next node) (trail.enter node (levels = 0))

end

/-- How a trail grows while the searches from some nodes go on: nothing is forgotten, and each new
boundary node is reached from one of the nodes by a path of distinct new nodes that uses up the
levels. -/
structure Extends (next : α → List α) (levels : Nat) (origins : List α) (before after : Trail α) :
    Prop where
  visited : ∀ node ∈ before.visited, node ∈ after.visited
  boundary : ∀ node ∈ before.boundary, node ∈ after.boundary
  newBoundary : ∀ node ∈ after.boundary, node ∈ before.boundary ∨
    ∃ origin ∈ origins, ∃ rest, Path (Leads next) origin rest node ∧
      rest.length + 1 = levels ∧ (origin :: rest).Nodup ∧
      ∀ passed ∈ origin :: rest, passed ∉ before.visited ∧ passed ∈ after.visited

namespace Extends

variable {next : α → List α} {levels : Nat} {origins : List α} {before middle after : Trail α}

theorem refl (trail : Trail α) : Extends next levels origins trail trail where
  visited _ seen := seen
  boundary _ met := met
  newBoundary _ met := Or.inl met

/-- The growth of a trail in two stages is one growth. -/
theorem trans (early : Extends next levels origins before middle)
    (late : Extends next levels origins middle after) :
    Extends next levels origins before after where
  visited node seen := late.visited node (early.visited node seen)
  boundary node met := late.boundary node (early.boundary node met)
  newBoundary node met := by
    rcases late.newBoundary node met with old | ⟨origin, mem, rest, path, length, nodup, new⟩
    · rcases early.newBoundary node old with older | ⟨origin, mem, rest, path, length, nodup, new⟩
      · exact Or.inl older
      · refine Or.inr ⟨origin, mem, rest, path, length, nodup, ?_⟩
        intro passed onPath
        exact ⟨(new passed onPath).1, late.visited passed (new passed onPath).2⟩
    · refine Or.inr ⟨origin, mem, rest, path, length, nodup, ?_⟩
      intro passed onPath
      exact ⟨fun seen => (new passed onPath).1 (early.visited passed seen), (new passed onPath).2⟩

theorem mono {others : List α} (among : ∀ origin ∈ origins, origin ∈ others)
    (growth : Extends next levels origins before after) :
    Extends next levels others before after where
  visited := growth.visited
  boundary := growth.boundary
  newBoundary node met := by
    rcases growth.newBoundary node met with old | ⟨origin, mem, others⟩
    · exact Or.inl old
    · exact Or.inr ⟨origin, among origin mem, others⟩

/-- A node that was entered before, and not at the last level, is never met at the last level. -/
theorem not_mem_boundary (growth : Extends next levels origins before after) {node : α}
    (seen : node ∈ before.visited) (inner : node ∉ before.boundary) : node ∉ after.boundary := by
  intro met
  rcases growth.newBoundary node met with old | ⟨origin, _, rest, path, _, _, new⟩
  · exact inner old
  · exact (new node path.last_mem).1 seen

end Extends

/-- Visiting nodes in turn extends a trail if visiting each of them does. -/
theorem searchEach_extends {next : α → List α} {levels : Nat}
    {visit : α → Trail α → Bool × Trail α}
    (each : ∀ node trail, Extends next levels [node] trail (visit node trail).2) (nodes : List α)
    (trail : Trail α) : Extends next levels nodes trail (searchEach visit nodes trail).2 := by
  induction nodes generalizing trail with
  | nil => exact Extends.refl trail
  | cons node rest ih =>
    have first : Extends next levels (node :: rest) trail (visit node trail).2 :=
      (each node trail).mono (by simp)
    rcases outcome : visit node trail with ⟨answer, after⟩
    rw [outcome] at first
    cases answer with
    | true => simpa [searchEach, outcome] using first
    | false =>
      have others : Extends next levels (node :: rest) after (searchEach visit rest after).2 :=
        (ih after).mono fun _ mem => List.mem_cons_of_mem _ mem
      simpa [searchEach, outcome] using first.trans others

variable {isTarget : α → Bool} {next : α → List α}

/-- The searches below a node extend the trail from before the node was entered. -/
theorem Extends.ofEntered {levels : Nat} {node : α} {trail after : Trail α}
    (fresh : node ∉ trail.visited)
    (growth : Extends next levels (next node) (trail.enter node (levels = 0)) after) :
    Extends next (levels + 1) [node] trail after where
  visited seen mem := growth.visited seen (List.mem_cons_of_mem _ mem)
  boundary met mem := by
    apply growth.boundary
    by_cases atLast : levels = 0 <;> simp [Trail.enter, atLast, mem]
  newBoundary met mem := by
    have entered : node ∈ after.visited := growth.visited node List.mem_cons_self
    rcases growth.newBoundary met mem with old | ⟨origin, below, rest, path, length, nodup, new⟩
    · by_cases atLast : levels = 0
      · rcases List.mem_cons.mp (by simpa [Trail.enter, atLast] using old) with rfl | older
        · exact Or.inr ⟨met, List.mem_singleton_self met, [], .stop met, by simp [atLast],
            by simp, by simpa using ⟨fresh, entered⟩⟩
        · exact Or.inl older
      · exact Or.inl (by simpa [Trail.enter, atLast] using old)
    · -- The path below the node becomes one from the node, which it does not meet again.
      have apart : ∀ passed ∈ origin :: rest, passed ≠ node ∧ passed ∉ trail.visited := by
        intro passed onPath
        simpa [Trail.enter] using (new passed onPath).1
      refine Or.inr ⟨node, List.mem_singleton_self node, origin :: rest, .follow below path,
        by simp [length], ?_, ?_⟩
      · exact List.nodup_cons.mpr ⟨fun onPath => (apart node onPath).1 rfl, nodup⟩
      · intro passed onPath
        rcases List.mem_cons.mp onPath with rfl | further
        · exact ⟨fresh, entered⟩
        · exact ⟨(apart passed further).2, (new passed further).2⟩

/-- A search extends its trail: nothing is forgotten, and what is new at the last level lies at the
end of a path of unseen nodes. -/
theorem search_extends [DecidableEq α] (levels : Nat) (node : α) (trail : Trail α) :
    Extends next levels [node] trail (search isTarget next levels node trail).2 := by
  induction levels generalizing node trail with
  | zero => exact Extends.refl trail
  | succ levels ih =>
    by_cases seen : node ∈ trail.visited
    · simpa [search, seen] using Extends.refl trail
    · by_cases target : isTarget node
      · simpa [search, seen, target] using Extends.ofEntered seen (Extends.refl _)
      · simpa [search, seen, target] using
          Extends.ofEntered seen (searchEach_extends ih (next node) _)

/-- What an unsuccessful search leaves behind: the nodes from which it started are entered, and no
new node is a target or, apart from the boundary, has a successor that is not entered. -/
structure Exhausts (isTarget : α → Bool) (next : α → List α) (levels : Nat) (origins : List α)
    (before after : Trail α) : Prop where
  entered : levels ≠ 0 → ∀ origin ∈ origins, origin ∈ after.visited
  settled : ∀ node ∈ after.visited, node ∈ before.visited ∨
    isTarget node = false ∧
      (node ∈ after.boundary ∨ ∀ successor ∈ next node, successor ∈ after.visited)

/-- What a failed search of one node exhausts stays exhausted while the others are visited. -/
theorem Exhausts.cons {levels : Nat} {node : α} {others : List α} {before middle after : Trail α}
    (early : Exhausts isTarget next levels [node] before middle)
    (late : Exhausts isTarget next levels others middle after)
    (growth : Extends next levels others middle after) :
    Exhausts isTarget next levels (node :: others) before after where
  entered positive origin mem := by
    rcases List.mem_cons.mp mem with rfl | other
    · exact growth.visited origin (early.entered positive origin (by simp))
    · exact late.entered positive origin other
  settled seen mem := by
    rcases late.settled seen mem with old | settled
    · rcases early.settled seen old with older | ⟨noTarget, settled⟩
      · exact Or.inl older
      · refine Or.inr ⟨noTarget, settled.imp (growth.boundary seen) ?_⟩
        intro closed successor follows
        exact growth.visited successor (closed successor follows)
    · exact Or.inr settled

/-- Visiting nodes in turn in vain exhausts them if a visit in vain exhausts each of them. -/
theorem searchEach_exhausts {levels : Nat} {visit : α → Trail α → Bool × Trail α}
    (grows : ∀ node trail, Extends next levels [node] trail (visit node trail).2)
    (each : ∀ node trail, (visit node trail).1 = false →
      Exhausts isTarget next levels [node] trail (visit node trail).2)
    (nodes : List α) (trail : Trail α) (failed : (searchEach visit nodes trail).1 = false) :
    Exhausts isTarget next levels nodes trail (searchEach visit nodes trail).2 := by
  induction nodes generalizing trail with
  | nil => exact ⟨by simp, fun node seen => Or.inl seen⟩
  | cons node rest ih =>
    have first := each node trail
    rcases outcome : visit node trail with ⟨answer, after⟩
    rw [outcome] at first
    cases answer with
    | true => simp [searchEach, outcome] at failed
    | false =>
      have failedLater : (searchEach visit rest after).1 = false := by
        simpa [searchEach, outcome] using failed
      simpa [searchEach, outcome] using
        (first rfl).cons (ih after failedLater) (searchEach_extends grows rest after)

/-- A search in vain exhausts its node: what it has entered is no target, and the successors are
entered too, but for those of nodes met at the last level. -/
theorem search_exhausts [DecidableEq α] (levels : Nat) (node : α) (trail : Trail α)
    (failed : (search isTarget next levels node trail).1 = false) :
    Exhausts isTarget next levels [node] trail (search isTarget next levels node trail).2 := by
  induction levels generalizing node trail with
  | zero => exact ⟨fun positive => absurd rfl positive, fun _ seen => Or.inl seen⟩
  | succ levels ih =>
    by_cases seen : node ∈ trail.visited
    · simp only [search, seen, if_true]
      exact ⟨fun _ origin mem => by simpa [List.mem_singleton.mp mem] using seen,
        fun _ old => Or.inl old⟩
    by_cases target : isTarget node
    · simp [search, seen, target] at failed
    · simp only [search, seen, target, if_false, Bool.false_eq_true] at failed ⊢
      have growth : Extends next levels (next node) (trail.enter node (levels = 0))
          (searchEach (search isTarget next levels) (next node) (trail.enter node (levels = 0))).2 :=
        searchEach_extends (search_extends levels) _ _
      have below := searchEach_exhausts (search_extends levels) ih _ _ failed
      have entered := growth.visited node List.mem_cons_self
      refine ⟨fun _ origin mem => by simpa [List.mem_singleton.mp mem] using entered, ?_⟩
      intro met mem
      rcases below.settled met mem with old | settled
      · rcases List.mem_cons.mp old with rfl | older
        · refine Or.inr ⟨by simpa using target, ?_⟩
          by_cases atLast : levels = 0
          · exact Or.inl (growth.boundary met (by simp [Trail.enter, atLast]))
          · exact Or.inr (below.entered atLast)
        · exact Or.inl older
      · exact Or.inr settled

/-- Where visiting nodes in turn succeeds, the visit of one of them does, from a trail that has
grown. -/
theorem searchEach_found {levels : Nat} {visit : α → Trail α → Bool × Trail α}
    (grows : ∀ node trail, Extends next levels [node] trail (visit node trail).2)
    {nodes : List α} {trail after : Trail α} (found : searchEach visit nodes trail = (true, after)) :
    ∃ node ∈ nodes, ∃ middle, Extends next levels nodes trail middle ∧
      visit node middle = (true, after) := by
  induction nodes generalizing trail with
  | nil => simp [searchEach] at found
  | cons node rest ih =>
    rcases outcome : visit node trail with ⟨answer, middle⟩
    cases answer with
    | true =>
      have same : middle = after := by simpa [searchEach, outcome] using found
      exact ⟨node, List.mem_cons_self, trail, Extends.refl trail, by rw [outcome, same]⟩
    | false =>
      have first : Extends next levels [node] trail middle := by
        simpa [outcome] using grows node trail
      have foundLater : searchEach visit rest middle = (true, after) := by
        simpa [searchEach, outcome] using found
      rcases ih foundLater with ⟨other, mem, later, growth, success⟩
      exact ⟨other, List.mem_cons_of_mem _ mem, later,
        (first.mono (by simp)).trans (growth.mono fun _ among => List.mem_cons_of_mem _ among),
        success⟩

/-- A successful search follows a path to a target.  The path is shorter than the number of levels,
and no boundary node lies before its end. -/
theorem search_found [DecidableEq α] {levels : Nat} {node : α} {trail after : Trail α}
    (entered : ∀ met ∈ trail.boundary, met ∈ trail.visited)
    (found : search isTarget next levels node trail = (true, after)) :
    ∃ rest last, Path (Leads next) node rest last ∧ isTarget last ∧
      rest.length < levels ∧ ∀ inner ∈ (node :: rest).dropLast, inner ∉ after.boundary := by
  induction levels generalizing node trail with
  | zero => simp [search] at found
  | succ levels ih =>
    by_cases seen : node ∈ trail.visited
    · simp [search, seen] at found
    by_cases target : isTarget node
    · exact ⟨[], node, .stop node, target, by simp, by simp⟩
    simp only [search, seen, target, if_false, Bool.false_eq_true] at found
    rcases searchEach_found (search_extends levels) found with
      ⟨origin, below, middle, growth, success⟩
    have more : levels ≠ 0 := by
      rintro rfl
      simp [search] at success
    have inner : node ∉ (trail.enter node (levels = 0)).boundary := by
      simpa [Trail.enter, more] using fun met => seen (entered node met)
    have enteredLater : ∀ met ∈ middle.boundary, met ∈ middle.visited := by
      intro met mem
      rcases growth.newBoundary met mem with old | ⟨_, _, _, path, _, _, new⟩
      · apply growth.visited
        simp only [Trail.enter, more, decide_false, Bool.false_eq_true, if_false] at old
        exact List.mem_cons_of_mem _ (entered met old)
      · exact (new met path.last_mem).2
    rcases ih enteredLater success with ⟨rest, last, path, isLast, short, avoids⟩
    refine ⟨origin :: rest, last, .follow below path, isLast, by simpa using short, ?_⟩
    intro passed onPath
    rcases List.mem_cons.mp (by simpa using onPath) with rfl | further
    · have later : Extends next levels [origin] middle
          (search isTarget next levels origin middle).2 := search_extends levels origin middle
      rw [success] at later
      exact later.not_mem_boundary (growth.visited _ List.mem_cons_self)
        (growth.not_mem_boundary List.mem_cons_self inner)
    · exact avoids passed further

/-! ### Searches that have met nothing before -/

section

variable [DecidableEq α] {levels : Nat} {first : α}

/-- A boundary node of a search is the end of a path of distinct nodes that uses up the levels, and
the search has entered all of them. -/
theorem path_to_boundary {node : α}
    (met : node ∈ (search isTarget next (levels + 1) first .start).2.boundary) :
    ∃ rest, Path (Leads next) first rest node ∧ rest.length = levels ∧
      (first :: rest).Nodup ∧
      ∀ passed ∈ first :: rest,
        passed ∈ (search isTarget next (levels + 1) first .start).2.visited := by
  have growth : Extends next (levels + 1) [first] .start
      (search isTarget next (levels + 1) first .start).2 := search_extends (levels + 1) first .start
  rcases growth.newBoundary node met with old | ⟨origin, mem, rest, path, length, nodup, new⟩
  · simp [Trail.start] at old
  · obtain rfl := List.mem_singleton.mp mem
    exact ⟨rest, path, by omega, nodup, fun passed onPath => (new passed onPath).2⟩

/-- The nodes that an unsuccessful search has entered, seen from one of them: it is no target, and
its successors are entered too unless it is a boundary node. -/
theorem settled_of_failed {node : α}
    (failed : (search isTarget next (levels + 1) first .start).1 = false)
    (seen : node ∈ (search isTarget next (levels + 1) first .start).2.visited) :
    isTarget node = false ∧
      (node ∈ (search isTarget next (levels + 1) first .start).2.boundary ∨
        ∀ successor ∈ next node,
          successor ∈ (search isTarget next (levels + 1) first .start).2.visited) := by
  rcases (search_exhausts (levels + 1) first .start failed).settled node seen with old | settled
  · simp [Trail.start] at old
  · exact settled

theorem first_entered_of_failed
    (failed : (search isTarget next (levels + 1) first .start).1 = false) :
    first ∈ (search isTarget next (levels + 1) first .start).2.visited :=
  (search_exhausts (levels + 1) first .start failed).entered (by simp) first (by simp)

/-- A target that a search finds lies at the end of a path within its levels. -/
theorem path_of_found (found : (search isTarget next (levels + 1) first .start).1 = true) :
    ∃ rest last, Path (Leads next) first rest last ∧ isTarget last ∧
      rest.length ≤ levels := by
  have nothingMet : ∀ met ∈ (.start : Trail α).boundary, met ∈ (.start : Trail α).visited := by
    simp [Trail.start]
  rcases search_found nothingMet (Prod.ext found rfl) with ⟨rest, last, path, target, short, _⟩
  exact ⟨rest, last, path, target, by omega⟩

/-- A search of two or more levels finds a target exactly if a path leads to one without a boundary
node between its ends. -/
theorem found_iff_path_off_boundary :
    (search isTarget next (levels + 2) first .start).1 = true ↔
      ∃ rest last, Path (Leads next) first rest last ∧ isTarget last ∧
        ∀ inner ∈ rest.dropLast,
          inner ∉ (search isTarget next (levels + 2) first .start).2.boundary := by
  constructor
  · intro found
    have nothingMet : ∀ met ∈ (.start : Trail α).boundary, met ∈ (.start : Trail α).visited := by
      simp [Trail.start]
    rcases search_found nothingMet (Prod.ext found rfl) with ⟨rest, last, path, target, _, avoids⟩
    refine ⟨rest, last, path, target, ?_⟩
    intro inner onPath
    apply avoids
    rcases rest with _ | ⟨second, onward⟩
    · simp at onPath
    · exact List.mem_cons_of_mem _ onPath
  · rintro ⟨rest, last, path, target, avoids⟩
    by_contra missed
    have failed := Bool.not_eq_true _ ▸ missed
    -- The path that uses up the levels is not empty, so it cannot come back to its first node.
    have firstInner : first ∉ (search isTarget next (levels + 2) first .start).2.boundary := by
      intro met
      rcases path_to_boundary met with ⟨onward, loop, length, nodup, _⟩
      have moves : onward ≠ [] := by
        rintro rfl
        simp at length
      exact (List.nodup_cons.mp nodup).1 (loop.last_mem_rest moves)
    have along : ∀ node ∈ (first :: rest).dropLast,
        node ∉ (search isTarget next (levels + 2) first .start).2.boundary := by
      intro node onPath
      rcases rest with _ | ⟨second, onward⟩
      · simp at onPath
      · rcases List.mem_cons.mp (by simpa using onPath) with rfl | further
        · exact firstInner
        · exact avoids node further
    have entered : last ∈ (search isTarget next (levels + 2) first .start).2.visited := by
      refine path.carry ?_ (first_entered_of_failed failed) along
      intro left right seen inner follows
      exact ((settled_of_failed failed seen).2.resolve_left inner) right follows
    simp [(settled_of_failed failed entered).1] at target

/-- Where no path of distinct nodes is longer than the levels allow, a search finds a target if any
path leads to one. -/
theorem found_of_shallow
    (shallow : ∀ rest last, Path (Leads next) first rest last →
      (first :: rest).Nodup → rest.length ≤ levels)
    {rest : List α} {last : α} (path : Path (Leads next) first rest last)
    (target : isTarget last) : (search isTarget next (levels + 1) first .start).1 = true := by
  by_contra missed
  have failed := Bool.not_eq_true _ ▸ missed
  have entered : last ∈ (search isTarget next (levels + 1) first .start).2.visited := by
    have along : ∀ node ∈ (first :: rest).dropLast, True := fun _ _ => trivial
    refine path.carry ?_ (first_entered_of_failed failed) along
    intro left right seen _ follows
    rcases (settled_of_failed failed seen).2 with met | closed
    · rcases path_to_boundary met with ⟨onward, used, length, nodup, visited⟩
      by_contra unseen
      have fresh : right ∉ first :: onward := fun onPath => unseen (visited right onPath)
      have longer := shallow _ _ (used.extend follows)
        (by simpa using List.Nodup.concat fresh nodup)
      rw [List.length_append, length, List.length_singleton] at longer
      omega
    · exact closed right follows
  simp [(settled_of_failed failed entered).1] at target

end

end RelationAuth.Search
