import RelationAuth.Action

/-!
# Laws of actions

What the combinators of actions answer in a state, and the state they leave.
-/

namespace RelationAuth

@[simp]
theorem mapError_ok {ε ε' α : Type} {view : ε → ε'} {value : α} :
    (Except.ok value).mapError view = .ok value :=
  rfl

@[simp]
theorem mapError_error {ε ε' α : Type} {view : ε → ε'} {cause : ε} :
    (Except.error cause : Except ε α).mapError view = .error (view cause) :=
  rfl

namespace Action

variable {σ τ ε ε' α β : Type} {state : σ}

@[simp]
theorem perform_pure {value : α} :
    (pure value : Action σ ε α).perform state = (.ok value, state) :=
  rfl

@[simp]
theorem perform_throw {stop : Stop ε} :
    (throw stop : Action σ ε α).perform state = (.error stop, state) :=
  rfl

@[simp]
theorem perform_fail {cause : ε} :
    (fail cause : Action σ ε α).perform state = (.error (.failure cause), state) :=
  rfl

@[simp]
theorem perform_get : (get : Action σ ε σ).perform state = (.ok state, state) :=
  rfl

@[simp]
theorem perform_set {other : σ} :
    (set other : Action σ ε PUnit).perform state = (.ok ⟨⟩, other) :=
  rfl

/-- An action after another begins in the state that this leaves, unless it stops. -/
theorem perform_bind {action : Action σ ε α} {next : α → Action σ ε β} :
    (action >>= next).perform state =
      match action.perform state with
      | (.ok value, after) => (next value).perform after
      | (.error stop, after) => (.error stop, after) := by
  change (ExceptT.bindCont next (action.perform state).1 : StateM σ (Except (Stop ε) β))
    (action.perform state).2 = _
  rcases action.perform state with ⟨stop | value, after⟩ <;> rfl

theorem perform_bind_ok {action : Action σ ε α} {next : α → Action σ ε β} {value : α} {after : σ}
    (outcome : action.perform state = (.ok value, after)) :
    (action >>= next).perform state = (next value).perform after := by
  rw [perform_bind, outcome]

/-- Nothing follows an action that stops. -/
theorem perform_bind_error {action : Action σ ε α} {next : α → Action σ ε β} {stop : Stop ε}
    {after : σ} (outcome : action.perform state = (.error stop, after)) :
    (action >>= next).perform state = (.error stop, after) := by
  rw [perform_bind, outcome]

theorem perform_map {action : Action σ ε α} {view : α → β} :
    (view <$> action).perform state =
      ((action.perform state).1.map view, (action.perform state).2) := by
  rw [map_eq_pure_bind, perform_bind]
  rcases action.perform state with ⟨stop | value, after⟩ <;> rfl

/-- An action whose answer is dropped leaves what it leaves with its answer. -/
theorem perform_unanswered {action : Action σ ε α} :
    ((do let _ ← action : Action σ ε Unit).perform state).2 = (action.perform state).2 := by
  rw [perform_bind]
  rcases action.perform state with ⟨stop | value, after⟩ <;> rfl

/-- An action after another answers a value exactly if both of them answer. -/
theorem perform_bind_eq_ok_iff {action : Action σ ε α} {next : α → Action σ ε β} {value : β}
    {after : σ} :
    (action >>= next).perform state = (.ok value, after) ↔
      ∃ first middle, action.perform state = (.ok first, middle) ∧
        (next first).perform middle = (.ok value, after) := by
  rw [perform_bind]
  rcases action.perform state with ⟨stop | first, middle⟩
  · simp
  · constructor
    · intro performed
      exact ⟨first, middle, rfl, performed⟩
    · rintro ⟨_, _, ⟨⟩, performed⟩
      exact performed

/-- An action after another keeps to a transitive relation of states that both of them keep to. -/
theorem perform_bind_keeps {R : σ → σ → Prop}
    (trans : ∀ {first second third}, R first second → R second third → R first third)
    {action : Action σ ε α} {next : α → Action σ ε β}
    (first : R state (action.perform state).2)
    (others : ∀ value after, action.perform state = (.ok value, after) →
      R after ((next value).perform after).2) :
    R state ((action >>= next).perform state).2 := by
  rw [perform_bind]
  rcases outcome : action.perform state with ⟨stop | value, after⟩ <;> rw [outcome] at first
  · exact first
  · exact trans first (others value after outcome)

/-- An action after another leaves a state alone that both of them leave alone. -/
theorem perform_bind_leaves {action : Action σ ε α} {next : α → Action σ ε β}
    (first : (action.perform state).2 = state)
    (others : ∀ value, ((next value).perform state).2 = state) :
    ((action >>= next).perform state).2 = state := by
  refine perform_bind_keeps (R := fun before after => after = before)
    (fun one two => two.trans one) first fun value after outcome => ?_
  rw [outcome] at first
  cases first
  exact others value

@[simp]
theorem perform_ofExcept {answer : Except ε α} :
    (ofExcept answer : Action σ ε α).perform state = (answer.mapError .failure, state) := by
  cases answer <;> rfl

@[simp]
theorem perform_query {read : σ → Except ε α} :
    (query read).perform state = ((read state).mapError .failure, state) := by
  simp [query, perform_bind]

theorem perform_change {step : σ → Except ε σ} :
    (change step).perform state =
      match step state with
      | .ok after => (.ok (), after)
      | .error cause => (.error (.failure cause), state) := by
  rcases outcome : step state with cause | after <;>
    simp [change, perform_bind, outcome]

@[simp]
theorem perform_mapFailure {view : ε → ε'} {action : Action σ ε α} :
    (action.mapFailure view).perform state =
      ((action.perform state).1.mapError (Stop.map view), (action.perform state).2) := by
  change (match action.perform state with
    | (Except.ok value, after) => (Except.ok value, after)
    | (Except.error stop, after) => (Except.error (stop.map view), after)) = _
  rcases action.perform state with ⟨stop | value, after⟩ <;> rfl

/-- Viewing the failures in another way changes neither when an action succeeds nor its value. -/
theorem perform_mapFailure_eq_ok_iff {view : ε → ε'} {action : Action σ ε α} {value : α}
    {after : σ} :
    (action.mapFailure view).perform state = (.ok value, after) ↔
      action.perform state = (.ok value, after) := by
  rw [perform_mapFailure]
  rcases action.perform state with ⟨stop | other, middle⟩ <;> simp

theorem perform_ofExcept_eq_ok_iff {answer : Except ε α} {value : α} {after : σ} :
    (ofExcept answer : Action σ ε α).perform state = (.ok value, after) ↔
      answer = .ok value ∧ after = state := by
  rw [perform_ofExcept]
  cases answer <;> simp [eq_comm]

theorem perform_attempt {action : Action σ ε α} :
    (attempt action : Action σ ε' (Except ε α)).perform state =
      match action.perform state with
      | (.ok value, after) => (.ok (.ok value), after)
      | (.error (.failure cause), after) => (.ok (.error cause), after)
      | (.error .aborted, after) => (.error .aborted, after)
      | (.error .unfinished, after) => (.error .unfinished, after) :=
  rfl

/-- An action on a part reads that part and puts what it leaves back into the whole. -/
@[simp]
theorem perform_onPart {part : τ → σ} {replace : σ → τ → τ} {action : Action σ ε α} {whole : τ} :
    (action.onPart part replace).perform whole =
      ((action.perform (part whole)).1, replace (action.perform (part whole)).2 whole) :=
  rfl

/-- Actions that each answer and leave the state alone answer side by side. -/
theorem perform_mapM_of_answers {step : α → Action σ ε β} {answer : α → β} {values : List α}
    (answers : ∀ value ∈ values, (step value).perform state = (.ok (answer value), state)) :
    (values.mapM step).perform state = (.ok (values.map answer), state) := by
  induction values with
  | nil => rfl
  | cons value rest ih =>
    rw [List.forall_mem_cons] at answers
    rw [List.mapM_cons, perform_bind_ok answers.1, perform_bind_ok (ih answers.2)]
    rfl

/-- Actions that each end and leave the state alone leave it alone one after another. -/
theorem perform_forM_of_leaves {step : α → Action σ ε PUnit} {values : List α}
    (leaves : ∀ value ∈ values, (step value).perform state = (.ok ⟨⟩, state)) :
    (values.forM step).perform state = (.ok ⟨⟩, state) := by
  induction values with
  | nil => rfl
  | cons value rest ih =>
    rw [List.forall_mem_cons] at leaves
    exact (perform_bind_ok leaves.1).trans (ih leaves.2)

/-- Values chosen by the answers beside them are those whose answers are chosen. -/
theorem map_fst_filter_zip_map {answer : α → β} {chosen : β → Bool} {values : List α} :
    ((values.zip (values.map answer)).filter fun pair => chosen pair.2).map Prod.fst =
      values.filter fun value => chosen (answer value) := by
  induction values with
  | nil => rfl
  | cons value rest ih =>
    simp only [List.map_cons, List.zip_cons_cons, List.filter_cons]
    split <;> simp [ih]

/-- An action is known by what it performs on every state. -/
theorem ext_perform {left right : Action σ ε α}
    (same : ∀ state, left.perform state = right.perform state) : left = right :=
  funext same

/-- An action that always gives the same answer and leaves the state alone may be left out. -/
theorem bind_of_answer {action : Action σ ε α} {value : α}
    (answers : ∀ state, action.perform state = (.ok value, state)) (next : α → Action σ ε β) :
    action >>= next = next value := by
  apply ext_perform
  intro state
  exact perform_bind_ok (answers state)

/-- Whether an action fails in every state and leaves it alone. -/
def Refuses (action : Action σ ε α) : Prop :=
  ∀ state, ∃ cause, action.perform state = (.error (.failure cause), state)

theorem refuses_fail {cause : ε} : (fail cause : Action σ ε α).Refuses :=
  fun _ => ⟨cause, rfl⟩

/-- What starts with a refusal is a refusal. -/
theorem Refuses.bind {action : Action σ ε α} (refuses : action.Refuses)
    {next : α → Action σ ε β} : (action >>= next).Refuses := by
  intro state
  rcases refuses state with ⟨cause, performed⟩
  exact ⟨cause, perform_bind_error performed⟩

theorem Refuses.of_answer {action : Action σ ε α} {value : α} {next : α → Action σ ε β}
    (answers : ∀ state, action.perform state = (.ok value, state))
    (refuses : (next value).Refuses) : (action >>= next).Refuses := by
  rw [bind_of_answer answers]
  exact refuses

/-- Whether an action ends with a value or a failure in every state. -/
def Returns (action : Action σ ε α) : Prop :=
  ∀ state, (∃ value, (action.perform state).1 = .ok value) ∨
    ∃ cause, (action.perform state).1 = .error (.failure cause)

theorem returns_pure {value : α} : (pure value : Action σ ε α).Returns :=
  fun _ => .inl ⟨value, rfl⟩

theorem Refuses.returns {action : Action σ ε α} (refuses : action.Refuses) : action.Returns := by
  intro state
  rcases refuses state with ⟨cause, performed⟩
  exact .inr ⟨cause, by rw [performed]⟩

theorem returns_ofExcept {answer : Except ε α} : (ofExcept answer : Action σ ε α).Returns := by
  rcases answer with cause | value
  · exact refuses_fail.returns
  · exact returns_pure

/-- A sequence returns if its first action does and each way on does. -/
theorem Returns.bind {action : Action σ ε α} {next : α → Action σ ε β} (returns : action.Returns)
    (goesOn : ∀ value, (next value).Returns) : (action >>= next).Returns := by
  intro state
  rcases performed : action.perform state with ⟨outcome, after⟩
  have answer := returns state
  rw [performed] at answer
  rcases answer with ⟨value, rfl⟩ | ⟨cause, rfl⟩
  · rw [perform_bind_ok performed]
    exact goesOn value after
  · exact .inr ⟨cause, by rw [perform_bind_error performed]⟩

theorem Returns.mapFailure {action : Action σ ε α} {view : ε → ε'} (returns : action.Returns) :
    (action.mapFailure view).Returns := by
  intro state
  rw [perform_mapFailure]
  rcases returns state with ⟨value, answer⟩ | ⟨cause, answer⟩
  · exact .inl ⟨value, by rw [answer, mapError_ok]⟩
  · exact .inr ⟨view cause, by rw [answer, mapError_error, Stop.map]⟩

theorem returns_change {step : σ → Except ε σ} : (change step).Returns := by
  intro state
  rw [perform_change]
  rcases step state with cause | after
  · exact .inr ⟨cause, rfl⟩
  · exact .inl ⟨(), rfl⟩

theorem Returns.onPart {part : τ → σ} {replace : σ → τ → τ} {action : Action σ ε α}
    (returns : action.Returns) : (action.onPart part replace).Returns :=
  fun whole => returns (part whole)

/-- Whether an action is aborted in every state. -/
def Aborts (action : Action σ ε α) : Prop :=
  ∀ state, (action.perform state).1 = .error .aborted

/-- An abort of the first action is the abort of the whole sequence. -/
theorem Aborts.bind {action : Action σ ε α} {next : α → Action σ ε β} (aborts : action.Aborts) :
    (action >>= next).Aborts := by
  intro state
  rcases performed : action.perform state with ⟨outcome, after⟩
  obtain rfl : outcome = .error .aborted := by rw [← aborts state, performed]
  rw [perform_bind_error performed]

/-! ### Actions on a part of a state -/

/-- Whether a part of a state can be read and replaced by itself. -/
structure IsPart (part : τ → σ) (replace : σ → τ → τ) : Prop where
  part_replace : ∀ state whole, part (replace state whole) = state
  replace_part : ∀ whole, replace (part whole) whole = whole
  replace_replace : ∀ later earlier whole,
    replace later (replace earlier whole) = replace later whole

variable {part : τ → σ} {replace : σ → τ → τ}

theorem onPart_pure (isPart : IsPart part replace) {value : α} :
    (pure value : Action σ ε α).onPart part replace = pure value := by
  apply ext_perform
  intro whole
  simp [isPart.replace_part]

theorem onPart_fail (isPart : IsPart part replace) {cause : ε} :
    (fail cause : Action σ ε α).onPart part replace = fail cause := by
  apply ext_perform
  intro whole
  simp [isPart.replace_part]

theorem onPart_throw (isPart : IsPart part replace) {stop : Stop ε} :
    (throw stop : Action σ ε α).onPart part replace = throw stop := by
  apply ext_perform
  intro whole
  simp [isPart.replace_part]

theorem onPart_ofExcept (isPart : IsPart part replace) {answer : Except ε α} :
    (ofExcept answer).onPart part replace = ofExcept answer := by
  cases answer with
  | ok value => exact onPart_pure isPart
  | error cause => exact onPart_fail isPart

/-- A sequence on a part is the sequence of its actions on that part. -/
theorem onPart_bind (isPart : IsPart part replace) {action : Action σ ε α}
    {next : α → Action σ ε β} :
    (action >>= next).onPart part replace =
      action.onPart part replace >>= fun value => (next value).onPart part replace := by
  apply ext_perform
  intro whole
  rw [perform_onPart, perform_bind, perform_bind, perform_onPart]
  rcases action.perform (part whole) with ⟨stop | value, after⟩
  · rfl
  · simp only [perform_onPart, isPart.part_replace, isPart.replace_replace]

theorem onPart_mapM (isPart : IsPart part replace) {step : α → Action σ ε β} {values : List α} :
    (values.mapM step).onPart part replace =
      values.mapM fun value => (step value).onPart part replace := by
  induction values with
  | nil => exact onPart_pure isPart
  | cons value rest ih =>
    simp only [List.mapM_cons, onPart_bind isPart, onPart_pure isPart, ih]

end Action

end RelationAuth
