import RelationAuth.Policy.EngineAgent
import RelationAuth.Proofs.Policy.Lasting

/-!
# What one tuple is to each backend

The local agent and the agent of a remote engine do not agree on when two requests speak of the same
tuple.  To the local agent the namespace belongs to a tuple and the type of its object only describes
it; a remote engine files a tuple under the type of its object and looks at the namespace only where
there is no type.

Each notion is first read off the fields of the requests.  What an engine is asked for spells out the
whole of its tuple, so that the requests it gets tell its tuples apart.
-/

namespace RelationAuth.Policy

/-- Whether two requests speak of the same subject, relation and object, whatever their namespaces
and types are. -/
def PolicyRequest.Coincides (left right : PolicyRequest) : Prop :=
  left.object = right.object ∧ left.relation = right.relation ∧ left.subjectRef = right.subjectRef

theorem SubjectSet.read?_toJson (holders : SubjectSet) :
    SubjectSet.read? holders.toJson = some holders := by
  simp [SubjectSet.read?, SubjectSet.toJson, Source.record?, Source.table?, Source.recordOfTable?,
    Source.Record.required, Source.Record.slot, List.lookup_cons, Source.text?]

namespace EngineTuple

variable {defaultNamespace : String} {left right : RelationTuple}

theorem parts_eq_iff {left right : Subject} :
    idPart? left = idPart? right ∧ setPart? left = setPart? right ↔ left = right := by
  cases left <;> cases right <;> simp [idPart?, setPart?]

/-- The engine tells tuples apart by its own namespace, object, relation and subject. -/
theorem ofTuple_eq_iff :
    ofTuple defaultNamespace left = ofTuple defaultNamespace right ↔
      engineNamespace defaultNamespace left.namespaceName left.objectType =
          engineNamespace defaultNamespace right.namespaceName right.objectType ∧
        left.object = right.object ∧ left.relation = right.relation ∧
        left.subject = right.subject := by
  rw [ofTuple, ofTuple, mk.injEq, parts_eq_iff]

/-- The tuple that query parameters spell out. -/
def ofParams? (params : List (String × String)) : Option EngineTuple := do
  return {
    namespaceName := ← params.lookup "namespace"
    object := ← params.lookup "object"
    relation := ← params.lookup "relation"
    subjectId := params.lookup "subject_id"
    subjectSet := do
      return {
        namespaceName := ← params.lookup "subject_set.namespace"
        object := ← params.lookup "subject_set.object"
        relation := ← params.lookup "subject_set.relation" } }

theorem ofParams?_params (tuple : EngineTuple) : ofParams? tuple.params = some tuple := by
  rcases tuple with ⟨namespaceName, object, relation, _ | id, _ | holders⟩ <;>
    simp [ofParams?, params, idParams, setParams, List.lookup_cons]

theorem read?_toJson (tuple : EngineTuple) : read? tuple.toJson = some tuple := by
  have set : ∀ holders : SubjectSet,
      Source.optional? SubjectSet.read? holders.toJson = some (some holders) := by
    intro holders
    have given : Source.isNull holders.toJson = false := rfl
    simp [Source.optional?, given, SubjectSet.read?_toJson]
  have id : ∀ id : String, Source.optional? Source.text? (Json.string id) = some (some id) :=
    fun _ => rfl
  rcases tuple with ⟨namespaceName, object, relation, _ | name, _ | holders⟩ <;>
    simp [read?, toJson, Source.record?, Source.table?, Source.recordOfTable?,
      Source.Record.required, Source.Record.omissible, Source.Record.defaulted, Source.Record.slot,
      List.lookup_cons, id, set] <;> rfl

theorem params_injective : Function.Injective params := by
  intro left right same
  have spelled := ofParams?_params left
  rw [same, ofParams?_params] at spelled
  exact (Option.some.inj spelled).symm

theorem toJson_injective : Function.Injective toJson := by
  intro left right same
  have denoted := read?_toJson left
  rw [same, read?_toJson] at denoted
  exact (Option.some.inj denoted).symm

end EngineTuple

section Requests

variable {config : EngineConfig} {left right : PolicyRequest} {tuple other : RelationTuple}

/-- Here two requests mean one tuple if they coincide and have the same namespace. -/
theorem key_eq_iff_of_described (described : RelationTuple.ofRequest left = .ok tuple)
    (otherDescribed : RelationTuple.ofRequest right = .ok other) :
    tuple.key = other.key ↔
      left.Coincides right ∧ left.namespaceName = right.namespaceName := by
  rw [RelationTuple.ofRequest_eq_ok_iff] at described otherDescribed
  rcases described with ⟨_, rfl⟩
  rcases otherDescribed with ⟨_, rfl⟩
  simp only [RelationTuple.key, TupleKey.mk.injEq, PolicyRequest.Coincides]
  exact and_comm

/-- There two requests mean one tuple if they coincide and the engine files them in the same
namespace. -/
theorem engineTuple_eq_iff_of_described (described : RelationTuple.ofRequest left = .ok tuple)
    (otherDescribed : RelationTuple.ofRequest right = .ok other) :
    config.engineTuple tuple = config.engineTuple other ↔
      left.Coincides right ∧ config.namespaceOf left = config.namespaceOf right := by
  rw [RelationTuple.ofRequest_eq_ok_iff] at described otherDescribed
  rcases described with ⟨_, rfl⟩
  rcases otherDescribed with ⟨_, rfl⟩
  rw [EngineConfig.engineTuple, EngineConfig.engineTuple, EngineTuple.ofTuple_eq_iff]
  exact and_comm

/-- A request for a change of one tuple spells out the whole tuple. -/
theorem changeRequest?_eq_iff (kind : ChangeKind) :
    config.changeRequest? kind [tuple] = config.changeRequest? kind [other] ↔
      config.engineTuple tuple = config.engineTuple other := by
  cases kind with
  | insert =>
    simp [EngineConfig.changeRequest?, EngineConfig.singleRequest,
      EngineTuple.toJson_injective.eq_iff]
  | delete =>
    simp [EngineConfig.changeRequest?, EngineConfig.singleRequest,
      EngineTuple.params_injective.eq_iff]

theorem LocalAgent.perform_remove {schema : PermissionSchema} {store : TupleStore}
    (described : RelationTuple.ofRequest left = .ok tuple) :
    ((agent TupleRepository.inMemory schema).remove left).perform store =
      (.ok (), store.delete [tuple]) := by
  rw [PolicyAgent.remove, described]
  exact Action.perform_bind_ok Action.perform_pure

/-- When the backends agree on whether two requests speak of one tuple.  The local agent tells them
apart by their namespaces, an engine by the namespaces in which it files them, so they agree exactly
if the requests speak of different subjects, relations or objects or if the ones are equal exactly
when the others are.  Where they do not agree, what a request removes or writes for another one on
one backend it leaves alone on the other. -/
theorem backends_agree_iff (config : EngineConfig) (left right : PolicyRequest)
    (leftValid : left.validateWrite = .ok ()) (rightValid : right.validateWrite = .ok ()) :
    ∃ tuple other, RelationTuple.ofRequest left = .ok tuple ∧
      RelationTuple.ofRequest right = .ok other ∧
      (tuple.key = other.key ↔
        left.Coincides right ∧ left.namespaceName = right.namespaceName) ∧
      (config.engineTuple tuple = config.engineTuple other ↔
        left.Coincides right ∧ config.namespaceOf left = config.namespaceOf right) ∧
      ((tuple.key = other.key ↔ config.engineTuple tuple = config.engineTuple other) ↔
        (left.Coincides right →
          (left.namespaceName = right.namespaceName ↔
            config.namespaceOf left = config.namespaceOf right))) ∧
      (∀ (schema : PermissionSchema) (store : TupleStore), ∃ removed written,
        ((LocalAgent.agent TupleRepository.inMemory schema).remove left).perform store =
            (.ok (), removed) ∧
          (removed.Stores other.key ↔ store.Stores other.key ∧ tuple.key ≠ other.key) ∧
        ((LocalAgent.agent TupleRepository.inMemory schema).write [tuple]).perform store =
            (.ok (), written) ∧
          (written.Stores other.key ↔ store.Stores other.key ∨ tuple.key = other.key)) ∧
      (config.deleteRequest? [tuple] = config.deleteRequest? [other] ↔
        config.engineTuple tuple = config.engineTuple other) ∧
      (config.writeRequest? [tuple] = config.writeRequest? [other] ↔
        config.engineTuple tuple = config.engineTuple other) := by
  have described := RelationTuple.ofRequest_eq_ok_iff.mpr ⟨leftValid, rfl⟩
  have otherDescribed := RelationTuple.ofRequest_eq_ok_iff.mpr ⟨rightValid, rfl⟩
  have keys := key_eq_iff_of_described described otherDescribed
  have filed : config.engineTuple _ = config.engineTuple _ ↔ _ :=
    engineTuple_eq_iff_of_described described otherDescribed
  refine ⟨_, _, described, otherDescribed, keys, filed, ?_, ?_, changeRequest?_eq_iff .delete,
    changeRequest?_eq_iff .insert⟩
  · rw [keys, filed, and_congr_right_iff]
  · intro schema store
    refine ⟨_, _, LocalAgent.perform_remove described, ?_, LocalAgent.perform_write _, ?_⟩
    · simp [TupleStore.stores_delete, eq_comm]
    · simp [TupleStore.stores_write]

/-- A request that lets bob view an object. -/
def viewedByBob (namespaceName objectType object : String) : PolicyRequest :=
  { namespaceName, subjectType := userType, subject := "bob", relation := viewerRelation, objectType,
    object }

/-- An engine at home, with a default namespace. -/
def homeEngine : EngineConfig :=
  { readUrl := "http://engine:4466", writeUrl := "http://engine:4467", defaultNamespace := "main" }

/-- On either backend, bob's view of a thing is one tuple, as whatever bob is described. -/
theorem backends_agree_on_subject_types :
    (viewedByBob "" thingType "t").validateWrite = .ok () ∧
      { viewedByBob "" thingType "t" with subjectType := "" }.validateWrite = .ok () ∧
      ∃ tuple other, RelationTuple.ofRequest (viewedByBob "" thingType "t") = .ok tuple ∧
        RelationTuple.ofRequest { viewedByBob "" thingType "t" with subjectType := "" } = .ok other ∧
        tuple ≠ other ∧ tuple.key = other.key ∧
        homeEngine.engineTuple tuple = homeEngine.engineTuple other := by
  have valid : (viewedByBob "" thingType "t").validateWrite = .ok () := by decide
  have otherValid :
      { viewedByBob "" thingType "t" with subjectType := "" }.validateWrite = .ok () := by decide
  rcases backends_agree_iff homeEngine _ _ valid otherValid with
    ⟨tuple, other, described, otherDescribed, keys, filed, -⟩
  have coincide : (viewedByBob "" thingType "t").Coincides
      { viewedByBob "" thingType "t" with subjectType := "" } := ⟨rfl, rfl, rfl⟩
  refine ⟨valid, otherValid, tuple, other, described, otherDescribed, ?_,
    keys.mpr ⟨coincide, rfl⟩, filed.mpr ⟨coincide, rfl⟩⟩
  rintro rfl
  rw [RelationTuple.ofRequest_eq_ok_iff] at described otherDescribed
  have types := congrArg RelationTuple.subjectType (described.2.symm.trans otherDescribed.2)
  exact absurd types (by decide)

/-- A thing and a channel of one name are one object to the local agent and two to an engine; things
of one name in two namespaces are two to the local agent and one to an engine. -/
theorem backends_differ_on_types_and_namespaces :
    ((viewedByBob "" thingType "x").validateWrite = .ok () ∧
      (viewedByBob "" channelType "x").validateWrite = .ok () ∧
      ∃ tuple other, RelationTuple.ofRequest (viewedByBob "" thingType "x") = .ok tuple ∧
        RelationTuple.ofRequest (viewedByBob "" channelType "x") = .ok other ∧
        tuple.key = other.key ∧ homeEngine.engineTuple tuple ≠ homeEngine.engineTuple other) ∧
    (viewedByBob "west" thingType "x").validateWrite = .ok () ∧
      (viewedByBob "east" thingType "x").validateWrite = .ok () ∧
      ∃ tuple other, RelationTuple.ofRequest (viewedByBob "west" thingType "x") = .ok tuple ∧
        RelationTuple.ofRequest (viewedByBob "east" thingType "x") = .ok other ∧
        tuple.key ≠ other.key ∧ homeEngine.engineTuple tuple = homeEngine.engineTuple other := by
  refine ⟨⟨by decide, by decide, _, _, rfl, rfl, by decide, by decide⟩, by decide, by decide, _, _,
    rfl, rfl, by decide, by decide⟩

end Requests

end RelationAuth.Policy
