import RelationAuth.Proofs.Encoding.FormUrl
import RelationAuth.Proofs.Policy.EngineListings

/-!
# The engine tuple of a request

A check goes to an engine as a query, a deletion as another query, a single write as an object and
every change among others as an item of a list.  Some of these are written from the request itself
and some from the tuple that it describes.  An engine reads the same tuple off all of them, and off
the texts in which they travel.
-/

namespace RelationAuth.Policy

open RelationAuth.Action

/-! ### Requests as they travel -/

/-- A request as an engine receives it, its query and its body read from their texts. -/
def EngineRequest.received? (sent : EngineRequest) : Option EngineRequest := do
  let query ← FormUrl.decode? sent.queryText
  match sent.body with
  | none => return { sent with query }
  | some body => return { sent with query, body := some (← Json.parse? body.render) }

/-- A request is received as it was sent if its body can be read back from its text. -/
theorem EngineRequest.received?_eq_some {sent : EngineRequest}
    (readBack : ∀ body ∈ sent.body, Json.parse? body.render = some body) :
    sent.received? = some sent := by
  rcases sent with ⟨side, method, url, query, _ | body⟩
  · simp [received?, queryText, FormUrl.decode?_encode]
  · simp [received?, queryText, FormUrl.decode?_encode, readBack body rfl]

theorem EngineRequest.received?_of_no_body {sent : EngineRequest} (empty : sent.body = none) :
    sent.received? = some sent := by
  apply received?_eq_some
  intro body mem
  rw [empty] at mem
  cases mem

theorem SubjectSet.limitDepth_toJson (holders : SubjectSet) (levels : Nat) :
    holders.toJson.limitDepth (levels + 1) = holders.toJson := by
  simp [toJson, Json.limitDepth, Json.limitMembers]

theorem EngineTuple.limitDepth_toJson (tuple : EngineTuple) (levels : Nat) :
    tuple.toJson.limitDepth (levels + 2) = tuple.toJson := by
  rcases tuple with ⟨namespaceName, object, relation, _ | id, _ | holders⟩ <;>
    simp [toJson, Json.limitDepth, Json.limitMembers, SubjectSet.limitDepth_toJson]

theorem EngineTuple.parse?_render_toJson (tuple : EngineTuple) :
    Json.parse? tuple.toJson.render = some tuple.toJson :=
  Json.parse?_render tuple.legible_toJson (tuple.limitDepth_toJson 125)

namespace EngineConfig

variable {config : EngineConfig} {request : PolicyRequest} {tuple : RelationTuple}
  {tuples : List RelationTuple} {kind : ChangeKind}

theorem legible_delta (kind : ChangeKind) (tuple : EngineTuple) : (delta kind tuple).Legible := by
  refine .object fun member mem => ?_
  simp only [List.mem_cons, List.not_mem_nil, or_false] at mem
  rcases mem with rfl | rfl
  · exact .string _
  · exact tuple.legible_toJson

theorem limitDepth_delta (kind : ChangeKind) (tuple : EngineTuple) (levels : Nat) :
    (delta kind tuple).limitDepth (levels + 3) = delta kind tuple := by
  simp [delta, Json.limitDepth, Json.limitMembers, EngineTuple.limitDepth_toJson]

theorem received?_patchRequest :
    (config.patchRequest kind tuples).received? = some (config.patchRequest kind tuples) := by
  apply EngineRequest.received?_eq_some
  rintro body ⟨⟩
  apply Json.parse?_render
  · refine .array fun item mem => ?_
    rcases List.mem_map.mp mem with ⟨tuple, -, rfl⟩
    exact legible_delta kind _
  · rw [Json.limitDepth, if_neg (by decide), Json.limitItems_eq_self]
    intro item mem
    rcases List.mem_map.mp mem with ⟨tuple, -, rfl⟩
    exact limitDepth_delta kind _ 123

theorem received?_singleRequest :
    (config.singleRequest kind tuple).received? = some (config.singleRequest kind tuple) := by
  cases kind with
  | insert =>
    apply EngineRequest.received?_eq_some
    rintro body ⟨⟩
    exact EngineTuple.parse?_render_toJson _
  | delete => exact EngineRequest.received?_of_no_body rfl

theorem received?_changeRequest? {sent : EngineRequest}
    (asked : config.changeRequest? kind tuples = some sent) : sent.received? = some sent := by
  rcases tuples with _ | ⟨tuple, _ | ⟨other, rest⟩⟩
  · cases asked
  · cases asked
    exact received?_singleRequest
  · cases asked
    exact received?_patchRequest

/-! ### What requests say -/

/-- The engine tuple that a request speaks of. -/
def named (config : EngineConfig) (request : PolicyRequest) : EngineTuple :=
  { namespaceName := config.namespaceOf request
    object := request.object
    relation := request.relation
    subjectId := EngineTuple.idPart? request.subjectRef
    subjectSet := EngineTuple.setPart? request.subjectRef }

/-- The tuple that a request describes is the one that it names to the engine. -/
theorem engineTuple_eq_named (config : EngineConfig)
    (described : RelationTuple.ofRequest request = .ok tuple) :
    config.engineTuple tuple = config.named request := by
  rw [RelationTuple.ofRequest_eq_ok_iff] at described
  rcases described with ⟨-, rfl⟩
  rfl

/-- A request that could be written is checked by the parameters by which it is deleted. -/
theorem query_checkRequest (related : request.relation ≠ "") :
    (config.checkRequest request).query = (config.named request).params := by
  have relation : request.relationOrPermission = request.relation := if_neg related
  rcases subject : request.subjectRef with name | holders <;>
    simp [checkRequest, named, EngineTuple.params, relation, subject, Subject.engineParams,
      EngineTuple.idPart?, EngineTuple.setPart?]

theorem changeRequest?_singleton (config : EngineConfig) (kind : ChangeKind)
    (tuple : RelationTuple) :
    config.changeRequest? kind [tuple] = some (config.singleRequest kind tuple) :=
  rfl

theorem changeRequest?_eq_patchRequest (many : 1 < tuples.length) :
    config.changeRequest? kind tuples = some (config.patchRequest kind tuples) := by
  rcases tuples with _ | ⟨tuple, _ | ⟨other, rest⟩⟩
  · cases many
  · exact absurd many (Nat.lt_irrefl 1)
  · rfl

end EngineConfig

/-! ### What an agent sends -/

namespace EngineAgent

variable {σ : Type} {config : EngineConfig} {network : Network σ} {request : PolicyRequest}
  {state : σ}

/-- A check sends one request, whatever is answered to it. -/
theorem requestsSent_check (valid : request.validateCheck = .ok ()) :
    requestsSent (check config network.noting request) state = [config.checkRequest request] := by
  have noted := requests_send_noting network (config.checkRequest request) (state, [])
  rw [requestsSent, check, valid, Action.ofExcept, pure_bind, perform_bind]
  rcases performed : (send network.noting (config.checkRequest request)).perform (state, []) with
    ⟨stop | response, after⟩
  · rw [performed] at noted
    exact noted
  · -- What the agent makes of the answer sends nothing.
    rw [performed, List.nil_append] at noted
    rcases read : response.body readAllowed? with cause | _ | _
    all_goals
      simp only [perform_bind, perform_ofExcept, read]
      exact noted

/-- Whether an action sends an engine one request, which the engine receives as it was sent. -/
def Sends {α : Type} (action : Action (σ × List EngineRequest) PolicyError α) (state : σ)
    (sent : EngineRequest) : Prop :=
  requestsSent action state = [sent] ∧ sent.received? = some sent

theorem sends_check (valid : request.validateCheck = .ok ()) :
    Sends ((agent config network.noting).check request) state (config.checkRequest request) :=
  ⟨requestsSent_check valid, EngineRequest.received?_of_no_body rfl⟩

/-- What is sent to change tuples is received as it was sent and names a change of each of them, in
their order. -/
theorem sends_change {kind : ChangeKind} {tuples : List RelationTuple} {sent : EngineRequest}
    (asked : config.changeRequest? kind tuples = some sent) :
    Sends (sendChange network.noting (config.changeRequest? kind tuples)) state sent ∧
      sent.changes? = some (tuples.map fun tuple => ⟨kind, config.engineTuple tuple⟩) := by
  rw [asked]
  exact ⟨⟨requestsSent_sendChange, EngineConfig.received?_changeRequest? asked⟩,
    EngineConfig.changes?_changeRequest? asked⟩

/-- A request speaks of one engine tuple, however it comes to the engine.  If it can be written,
then a check of it, its deletion, the writing of its tuple, and the writing and the deletion of its
tuple among others are one request each, which the engine receives as it was sent.  By the query of
the first two, by the body of the third and by the change in the place of the tuple among the
changes of the others it is the tuple with the namespace that the configuration gives to the
request, with its object, its relation and its subject. -/
theorem requests_name_one_engine_tuple (config : EngineConfig) (network : Network σ) (state : σ)
    {request : PolicyRequest} (valid : request.validateWrite = .ok ()) :
    ∃ tuple, RelationTuple.ofRequest request = .ok tuple ∧
      (∃ sent, Sends ((agent config network.noting).check request) state sent ∧
        sent.method = .get ∧ EngineTuple.ofParams? sent.query = some (config.named request)) ∧
      (∃ sent, Sends ((agent config network.noting).remove request) state sent ∧
        sent.method = .delete ∧ sent.changes? = some [.delete (config.named request)]) ∧
      (∃ sent, Sends ((agent config network.noting).write [tuple]) state sent ∧
        sent.method = .put ∧ sent.changes? = some [.insert (config.named request)]) ∧
      ∀ before later, before ++ later ≠ [] →
        (∃ sent, Sends ((agent config network.noting).write (before ++ tuple :: later)) state sent ∧
          sent.method = .patch ∧
          sent.changes? = some (before.map (.insert <| config.engineTuple ·) ++
            .insert (config.named request) :: later.map (.insert <| config.engineTuple ·))) ∧
        ∃ sent, Sends ((agent config network.noting).delete (before ++ tuple :: later)) state sent ∧
          sent.method = .patch ∧
          sent.changes? = some (before.map (.delete <| config.engineTuple ·) ++
            .delete (config.named request) :: later.map (.delete <| config.engineTuple ·)) := by
  have describable : ∃ tuple, RelationTuple.ofRequest request = .ok tuple :=
    ⟨_, RelationTuple.ofRequest_eq_ok_iff.mpr ⟨valid, rfl⟩⟩
  rcases describable with ⟨tuple, described⟩
  have named := EngineConfig.engineTuple_eq_named config described
  have related := (PolicyRequest.validateWrite_eq_ok_iff.mp valid).2
  refine ⟨tuple, described, ?_, ?_, ?_, ?_⟩
  · have checkable := PolicyRequest.validateCheck_of_validateWrite valid
    refine ⟨_, sends_check checkable, rfl, ?_⟩
    rw [EngineConfig.query_checkRequest related, EngineTuple.ofParams?_params]
  · have removes : (agent config network.noting).remove request =
        sendChange network.noting (config.deleteRequest? [tuple]) := by
      rw [PolicyAgent.remove, described]
      rfl
    rcases sends_change (config.changeRequest?_singleton .delete tuple) with ⟨sends, changes⟩
    rw [removes]
    exact ⟨_, sends, rfl, named ▸ changes⟩
  · rcases sends_change (config.changeRequest?_singleton .insert tuple) with ⟨sends, changes⟩
    exact ⟨_, sends, rfl, named ▸ changes⟩
  · intro before later others
    have many : 1 < (before ++ tuple :: later).length := by
      have some := List.length_pos_iff.mpr others
      simp only [List.length_append, List.length_cons] at some ⊢
      omega
    -- The change of the tuple stands among the others, of whatever kind they are.
    have among (kind : ChangeKind) :
        ∃ sent, Sends (sendChange network.noting
            (config.changeRequest? kind (before ++ tuple :: later))) state sent ∧
          sent.method = .patch ∧
          sent.changes? = some (before.map (⟨kind, config.engineTuple ·⟩) ++
            ⟨kind, config.named request⟩ :: later.map (⟨kind, config.engineTuple ·⟩)) := by
      rcases sends_change (EngineConfig.changeRequest?_eq_patchRequest many) with ⟨sends, changes⟩
      refine ⟨_, sends, rfl, ?_⟩
      rw [changes, List.map_append, List.map_cons, named]
    exact ⟨among .insert, among .delete⟩

/-- A request with the marks of a query in its texts.  It names its set by a relation of the
subject, and neither a namespace nor a type of its object. -/
def markedRequest : PolicyRequest :=
  { subjectType := groupType, subject := "R&D", subjectRelation := memberRelation,
    relation := viewerRelation, object := "a=\"b\" + 10%" }

/-- The tuple of the request with marks, as the engine at home keeps it. -/
def markedTuple : EngineTuple :=
  { namespaceName := "main", object := "a=\"b\" + 10%", relation := viewerRelation,
    subjectSet := some ⟨groupType, "R&D", memberRelation⟩ }

/-- A tuple that stands before the other in a deletion. -/
def bobViewsThing : RelationTuple :=
  { namespaceName := "", objectType := thingType, object := "t", relation := viewerRelation,
    subjectType := userType, subject := .id "bob" }

/-- A request with marks of queries and of strings in its texts reaches the engine unharmed. -/
theorem requests_name_one_engine_tuple_markedRequest :
    markedRequest.validateWrite = .ok () ∧
      ∃ tuple, RelationTuple.ofRequest markedRequest = .ok tuple ∧
        (∃ sent, Sends ((agent homeEngine grantingEngine.noting).check markedRequest) () sent ∧
          sent.method = .get ∧ EngineTuple.ofParams? sent.query = some markedTuple) ∧
        (∃ sent, Sends ((agent homeEngine grantingEngine.noting).remove markedRequest) () sent ∧
          sent.method = .delete ∧ sent.changes? = some [.delete markedTuple]) ∧
        ∃ sent, Sends ((agent homeEngine grantingEngine.noting).delete [bobViewsThing, tuple]) ()
            sent ∧
          sent.method = .patch ∧
          sent.changes? = some [.delete ⟨thingType, "t", viewerRelation, some "bob", none⟩,
            .delete markedTuple] := by
  have valid : markedRequest.validateWrite = .ok () := by decide
  have named : homeEngine.named markedRequest = markedTuple := by decide
  rcases requests_name_one_engine_tuple homeEngine grantingEngine () valid with
    ⟨tuple, described, checked, removed, -, among⟩
  have deleted := (among [bobViewsThing] [] nofun).2
  rw [named] at checked removed deleted
  exact ⟨valid, tuple, described, checked, removed, deleted⟩

end EngineAgent

end RelationAuth.Policy
