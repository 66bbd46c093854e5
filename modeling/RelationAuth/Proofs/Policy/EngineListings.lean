import RelationAuth.Proofs.Json.ReadBack
import RelationAuth.Proofs.Policy.Backends
import RelationAuth.Proofs.Policy.Draining

/-!
# Deleting what an engine lists

An agent takes the tuples that its engine answers over for the request that it was asked, and has
them deleted by what it makes of them.  On the way there and back a tuple keeps all it has, as long
as it has a namespace and one subject: then the namespace of the request and that of the
configuration have no say in it.  So a listing can be handed to a deletion as it is.
-/

namespace RelationAuth.Policy

open RelationAuth.Action

/-! ### Engine tuples written and read -/

theorem SubjectSet.legible_toJson (holders : SubjectSet) : holders.toJson.Legible := by
  refine .object fun member mem => ?_
  simp only [List.mem_cons, List.not_mem_nil, or_false] at mem
  rcases mem with rfl | rfl | rfl <;> exact .string _

namespace EngineTuple

variable {tuple : EngineTuple} {request : PolicyRequest}

/-- Whether a tuple has a namespace and one subject, as the tuples that an engine keeps do. -/
structure Proper (tuple : EngineTuple) : Prop where
  filed : tuple.namespaceName ≠ ""
  oneSubject : tuple.subjectId.isSome ≠ tuple.subjectSet.isSome

theorem legible_toJson (tuple : EngineTuple) : tuple.toJson.Legible := by
  refine .object fun member mem => ?_
  simp only [List.mem_append, List.mem_cons, List.not_mem_nil, or_false, Option.mem_toList,
    Option.map_eq_some_iff] at mem
  rcases mem with ((rfl | rfl | rfl) | ⟨id, -, rfl⟩) | ⟨holders, -, rfl⟩
  · exact .string _
  · exact .string _
  · exact .string _
  · exact .string _
  · exact holders.legible_toJson

theorem mapM_read?_toJson (tuples : List EngineTuple) :
    (tuples.map toJson).mapM read? = some tuples :=
  mapM_map_eq_some fun tuple _ => tuple.read?_toJson

/-- A proper tuple that is taken over for a request is the same tuple to the engine again: its
namespace is the type of its object now, which comes before what the request says. -/
theorem ofTuple_toTuple {defaultNamespace : String} (proper : tuple.Proper) :
    ofTuple defaultNamespace (tuple.toTuple request) = tuple := by
  rcases tuple with ⟨namespaceName, object, relation, subjectId, subjectSet⟩
  have filed : engineNamespace defaultNamespace request.namespaceName namespaceName =
      namespaceName := if_pos proper.filed
  rcases subjectId with _ | id <;> rcases subjectSet with _ | holders
  · exact absurd rfl proper.oneSubject
  · simp [ofTuple, toTuple, filed, idPart?, setPart?]
  · simp [ofTuple, toTuple, filed, idPart?, setPart?]
  · exact absurd rfl proper.oneSubject

end EngineTuple

/-! ### What a request for changes names -/

/-- A change of an engine tuple. -/
structure TupleChange where
  kind : ChangeKind
  tuple : EngineTuple
  deriving DecidableEq, Repr

namespace TupleChange

/-- The change that inserts an engine tuple. -/
abbrev insert (tuple : EngineTuple) : TupleChange :=
  ⟨.insert, tuple⟩

/-- The change that deletes an engine tuple. -/
abbrev delete (tuple : EngineTuple) : TupleChange :=
  ⟨.delete, tuple⟩

/-- A change as it stands among others. -/
def toJson (change : TupleChange) : Json :=
  EngineConfig.delta change.kind change.tuple

/-- One of many changes. -/
def read? (node : Json) : Option TupleChange := do
  let record ← Source.record? ["action", "relation_tuple"] node
  let action ← record.required "action" Source.text?
  let tuple ← record.required "relation_tuple" EngineTuple.read?
  match action with
  | "insert" => return insert tuple
  | "delete" => return delete tuple
  | _ => none

theorem read?_toJson (change : TupleChange) : read? change.toJson = some change := by
  rcases change with ⟨_ | _, tuple⟩ <;>
    simp [read?, toJson, EngineConfig.delta, ChangeKind.action, Source.record?, Source.table?,
      Source.recordOfTable?, Source.Record.required, Source.Record.slot, List.lookup_cons,
      Source.text?, EngineTuple.read?_toJson]

theorem mapM_read?_toJson (changes : List TupleChange) :
    (changes.map toJson).mapM read? = some changes :=
  mapM_map_eq_some fun change _ => change.read?_toJson

end TupleChange

/-- The changes that a request names, in order: the tuple of its query is deleted, the tuple that is
its body is inserted, and a list of changes is made one by one. -/
def EngineRequest.changes? (request : EngineRequest) : Option (List TupleChange) :=
  match request.method, request.body with
  | .delete, none => (EngineTuple.ofParams? request.query).map fun tuple => [.delete tuple]
  | .put, some body => (EngineTuple.read? body).map fun tuple => [.insert tuple]
  | .patch, some body => Source.list? TupleChange.read? body
  | _, _ => none

namespace EngineConfig

variable {config : EngineConfig} {request : PolicyRequest} {found : List EngineTuple}
  {kind : ChangeKind} {tuples : List RelationTuple}

/-- A request for one change denotes it, whether it carries the tuple as a body or as parameters. -/
theorem changes?_singleRequest (tuple : RelationTuple) :
    (config.singleRequest kind tuple).changes? = some [⟨kind, config.engineTuple tuple⟩] := by
  cases kind with
  | insert => simp [singleRequest, EngineRequest.changes?, EngineTuple.read?_toJson]
  | delete => simp [singleRequest, EngineRequest.changes?, EngineTuple.ofParams?_params]

/-- A request for many changes denotes them in order. -/
theorem changes?_patchRequest :
    (config.patchRequest kind tuples).changes? =
      some (tuples.map fun tuple => ⟨kind, config.engineTuple tuple⟩) := by
  have denoted := TupleChange.mapM_read?_toJson
    (tuples.map fun tuple => ⟨kind, config.engineTuple tuple⟩)
  rw [List.map_map] at denoted
  exact denoted

/-- What is sent to change tuples names a change of each of them, in their order. -/
theorem changes?_changeRequest? {sent : EngineRequest}
    (asked : config.changeRequest? kind tuples = some sent) :
    sent.changes? = some (tuples.map fun tuple => ⟨kind, config.engineTuple tuple⟩) := by
  rcases tuples with _ | ⟨tuple, _ | ⟨other, rest⟩⟩
  · cases asked
  · cases asked
    exact changes?_singleRequest tuple
  · cases asked
    exact changes?_patchRequest

/-- The request that deletes engine tuples: one of them parameter by parameter, and more of them
change by change. -/
def deletion? (config : EngineConfig) : List EngineTuple → Option EngineRequest
  | [] => none
  | [tuple] =>
    some { side := .write, method := .delete, url := config.changeUrl, query := tuple.params }
  | tuples =>
    some {
      side := .write
      method := .patch
      url := config.changeUrl
      body := some (.array (tuples.map (delta .delete))) }

theorem deleteRequest?_eq_deletion? (tuples : List RelationTuple) :
    config.deleteRequest? tuples = config.deletion? (tuples.map config.engineTuple) := by
  rcases tuples with _ | ⟨tuple, _ | ⟨other, rest⟩⟩
  · rfl
  · rfl
  · simp [deleteRequest?, changeRequest?, deletion?, patchRequest]

theorem map_engineTuple_map_toTuple (proper : ∀ tuple ∈ found, tuple.Proper) :
    (found.map (·.toTuple request)).map config.engineTuple = found := by
  rw [List.map_map]
  exact (List.map_congr_left fun tuple mem =>
    EngineTuple.ofTuple_toTuple (proper tuple mem)).trans (List.map_id _)

end EngineConfig

/-! ### Requests noted on their way -/

/-- The network with the requests that it is given noted beside its state. -/
def Network.noting {σ : Type} (network : Network σ) : Network (σ × List EngineRequest) :=
  fun sent =>
    (network sent).onPart Prod.fst fun after whole => (after, whole.2 ++ [sent])

namespace EngineAgent

variable {σ : Type} {network : Network σ} {state : σ}

/-- The requests that an action gives to a network that notes them. -/
def requestsSent {α : Type} (action : Action (σ × List EngineRequest) PolicyError α) (state : σ) :
    List EngineRequest :=
  (action.perform (state, [])).2.2

/-- The changes that the requests of an action name, in order. -/
def changesSent? {α : Type} (action : Action (σ × List EngineRequest) PolicyError α) (state : σ) :
    Option (List TupleChange) :=
  ((requestsSent action state).mapM EngineRequest.changes?).map List.flatten

theorem requests_send_noting (network : Network σ) (sent : EngineRequest)
    (whole : σ × List EngineRequest) :
    ((send network.noting sent).perform whole).2.2 = whole.2 ++ [sent] := by
  rw [send, perform_bind, Network.noting, perform_onPart]
  rcases (network sent).perform whole.1 with ⟨stop | response, after⟩
  · rfl
  · simp

/-- Sending a change notes its one request, and sending none notes nothing. -/
theorem requestsSent_sendChange {sent : Option EngineRequest} :
    requestsSent (sendChange network.noting sent) state = sent.toList := by
  rcases sent with _ | sent
  · rfl
  · exact (congrArg Prod.snd perform_unanswered).trans (requests_send_noting network sent _)

/-- Whatever the request for a change is answered, the changes have been named by then. -/
theorem changesSent?_sendChange (config : EngineConfig) (kind : ChangeKind)
    (tuples : List RelationTuple) :
    changesSent? (sendChange network.noting (config.changeRequest? kind tuples)) state =
      some (tuples.map fun tuple => ⟨kind, config.engineTuple tuple⟩) := by
  rw [changesSent?, requestsSent_sendChange]
  rcases asked : config.changeRequest? kind tuples with _ | sent
  · rcases tuples with _ | ⟨tuple, _ | ⟨other, rest⟩⟩
    · rfl
    · cases asked
    · cases asked
  · simp [EngineConfig.changes?_changeRequest? asked]

end EngineAgent

/-! ### What an engine lists -/

theorem EngineResponse.body_eq_ok {α : Type} {read : Json → Option α} {response : EngineResponse}
    {node : Json} {value : α} (parsed : Json.parse? response.text = some node)
    (denoted : read node = some value) : response.body read = .ok value := by
  rw [body, parsed, Option.bind_some, denoted]

namespace EngineAgent

variable {σ : Type} {config : EngineConfig} {network : Network σ} {request : PolicyRequest}
  {direction : Direction} {state after : σ} {token : String}

/-- Whether a request for a page, sent in a state, is answered by a page of engine tuples. -/
def Answers (network : Network σ) (sent : EngineRequest) (state : σ) (found : EnginePage)
    (after : σ) : Prop :=
  ∃ response, (network sent).perform state = (.ok response, after) ∧
    response.success = .ok response ∧ response.body EnginePage.read? = .ok found

theorem Answers.unique {sent : EngineRequest} {found found' : EnginePage} {after' : σ}
    (answered : Answers network sent state found after)
    (answeredToo : Answers network sent state found' after') : found = found' := by
  rcases answered with ⟨response, given, -, body⟩
  rcases answeredToo with ⟨response', given', -, body'⟩
  cases given.symm.trans given'
  exact Except.ok.inj (body.symm.trans body')

/-- The engine tuples of a complete listing: those of its pages in order, each page asked for with
the token of the one before, in the state which that one left. -/
inductive Lists (network : Network σ) (ask : String → EngineRequest) :
    σ → String → List EngineTuple → σ → Prop
  | last {state after : σ} {token : String} {page : EnginePage}
      (answered : Answers network (ask token) state page after)
      (ended : page.nextPageToken = "") : Lists network ask state token page.tuples after
  | next {state middle after : σ} {token : String} {page : EnginePage} {later : List EngineTuple}
      (answered : Answers network (ask token) state page middle)
      (more : page.nextPageToken ≠ "")
      (onward : Lists network ask middle page.nextPageToken later after) :
      Lists network ask state token (page.tuples ++ later) after

/-- The agent answers a page exactly if the engine's answer denotes one. -/
theorem perform_page_eq_ok_iff {sent : EngineRequest} {result : TuplePage} :
    (page network request sent).perform state = (.ok result, after) ↔
      ∃ found, Answers network sent state found after ∧ result = found.toPage request := by
  constructor
  · intro performed
    rcases perform_bind_eq_ok_iff.mp performed with ⟨response, middle, sending, reading⟩
    rcases perform_bind_eq_ok_iff.mp sending with ⟨answer, _, answered, successful⟩
    rcases perform_bind_eq_ok_iff.mp reading with ⟨found, _, read, taken⟩
    rcases perform_ofExcept_eq_ok_iff.mp successful with ⟨success, rfl⟩
    rcases perform_ofExcept_eq_ok_iff.mp read with ⟨body, rfl⟩
    obtain rfl : answer = response := by
      unfold EngineResponse.success at success
      split at success
      · exact Except.ok.inj success
      · cases success
    cases taken
    exact ⟨found, ⟨answer, answered, success, body⟩, rfl⟩
  · rintro ⟨found, ⟨response, answered, success, body⟩, rfl⟩
    have sending : (send network sent).perform state = (.ok response, after) := by
      rw [send, perform_bind_ok answered, success]
      rfl
    rw [page, perform_bind_ok sending, body]
    rfl

/-- A page of a listing is a page of engine tuples that are taken over for the request. -/
theorem answers_of_pageOf {limit : Nat} {result : TuplePage}
    (performed : ((agent config network).pageOf direction request token limit).perform state =
      (.ok result, after)) :
    ∃ found, Answers network (config.pageRequest direction request token limit) state found after ∧
      result = found.toPage request := by
  have listing : (agent config network).pageOf direction = list config network direction := by
    cases direction <;> rfl
  rw [listing, list] at performed
  split at performed
  · cases performed
  · exact perform_page_eq_ok_iff.mp performed

/-- A complete listing holds the engine tuples of all its pages, taken over for the request. -/
theorem lists_of_drain {allowance : Nat} {result : List RelationTuple}
    (performed : (drain ((agent config network).page direction request) allowance token).perform
      state = (.ok result, after)) :
    ∃ found, Lists network (config.pageRequest direction request · drainPageSize) state token found
        after ∧
      result = found.map (·.toTuple request) := by
  induction allowance generalizing state token result with
  | zero => cases performed
  | succ allowance ih =>
    rw [perform_drain_succ, PolicyAgent.page] at performed
    rcases asked : ((agent config network).pageOf direction request token drainPageSize).perform
      state with ⟨stop | page, middle⟩
    · simp [asked] at performed
    rcases answers_of_pageOf asked with ⟨found, answered, rfl⟩
    simp only [asked] at performed
    rcases goesOn : nextToken token (found.toPage request).nextPageToken with cause | _ | next
    · simp [goesOn] at performed
    · simp only [goesOn] at performed
      cases performed
      exact ⟨found.tuples, .last answered (nextToken_eq_none_iff.mp goesOn), rfl⟩
    · simp only [goesOn] at performed
      rcases nextToken_eq_some_iff.mp goesOn with ⟨more, -, rfl⟩
      rcases drained : (drain ((agent config network).page direction request) allowance
        (found.toPage request).nextPageToken).perform middle with ⟨stop | later, left⟩
      · simp [drained, Except.map] at performed
      simp only [drained] at performed
      cases performed
      rcases ih drained with ⟨rest, onward, rfl⟩
      exact ⟨found.tuples ++ rest, .next answered more onward, by simp [EnginePage.toPage]⟩

/-- A deletion gives the network the one request that deletes the engine tuples, if there are
any. -/
theorem requestsSent_delete (tuples : List RelationTuple) :
    requestsSent ((agent config network.noting).delete tuples) state =
      (config.deletion? (tuples.map config.engineTuple)).toList := by
  rw [← EngineConfig.deleteRequest?_eq_deletion?]
  exact requestsSent_sendChange

/-- A deletion names the engine's own tuples to the network, each as a deletion and in order. -/
theorem changesSent?_delete (tuples : List RelationTuple) :
    changesSent? ((agent config network.noting).delete tuples) state =
      some ((tuples.map config.engineTuple).map .delete) := by
  rw [List.map_map]
  exact changesSent?_sendChange config .delete tuples

/-- Whether deleting tuples has an engine delete just some engine tuples.  The network is given the
request for their deletion and no other, or none if there are no tuples, and what it is given names
each of them once and in order. -/
structure DeletesExactly (config : EngineConfig) (network : Network σ)
    (tuples : List RelationTuple) (found : List EngineTuple) : Prop where
  sent : ∀ state, requestsSent ((agent config network.noting).delete tuples) state =
    (config.deletion? found).toList
  named : ∀ state, changesSent? ((agent config network.noting).delete tuples) state =
    some (found.map .delete)

/-- What is deleted as it was listed is named to the engine as the engine listed it. -/
theorem deletesExactly_map_toTuple {found : List EngineTuple}
    (proper : ∀ tuple ∈ found, tuple.Proper) :
    DeletesExactly config network (found.map (·.toTuple request)) found := by
  have back : (found.map (·.toTuple request)).map config.engineTuple = found :=
    EngineConfig.map_engineTuple_map_toTuple proper
  constructor
  · intro state
    rw [requestsSent_delete, back]
  · intro state
    rw [changesSent?_delete, back]

/-- What an engine lists is what is deleted.  A proper engine tuple that is taken over for a request
is sent as itself again, whatever the request and the configuration say.  So a page of a listing,
and a complete listing as well, however many pages it may have, consists of tuples that the engine
answered, and if those are proper, then deleting the result names just them in their order: none,
one by its query parameters, or more of them by a change each. -/
theorem deletes_what_it_lists (config : EngineConfig) (network : Network σ)
    (request : PolicyRequest) (direction : Direction) :
    (∀ tuple : EngineTuple, tuple.Proper → config.engineTuple (tuple.toTuple request) = tuple) ∧
      (∀ token limit state page after,
        ((agent config network).pageOf direction request token limit).perform state =
            (.ok page, after) →
          ∃ found, Answers network (config.pageRequest direction request token limit) state found
              after ∧
            ((∀ tuple ∈ found.tuples, tuple.Proper) →
              DeletesExactly config network page.tuples found.tuples)) ∧
      ∀ bound state tuples after,
        (((agent config network).withPageBound bound).all direction request).perform state =
            (.ok tuples, after) →
          ∃ found, Lists network (config.pageRequest direction request · drainPageSize) state ""
              found after ∧
            ((∀ tuple ∈ found, tuple.Proper) → DeletesExactly config network tuples found) := by
  refine ⟨fun tuple proper => EngineTuple.ofTuple_toTuple proper, ?_, ?_⟩
  · intro token limit state page after performed
    rcases answers_of_pageOf performed with ⟨found, answered, rfl⟩
    exact ⟨found, answered, deletesExactly_map_toTuple⟩
  · intro bound state tuples after performed
    rw [PolicyAgent.perform_all_withPageBound] at performed
    rcases lists_of_drain performed with ⟨found, lists, rfl⟩
    exact ⟨found, lists, deletesExactly_map_toTuple⟩

/-- A grant to bob and a grant to a team, as an engine keeps them. -/
def twoGrants : List EngineTuple :=
  [⟨thingType, "t", viewerRelation, some "bob", none⟩,
    ⟨thingType, "t", viewerRelation, none, some ⟨groupType, "team", memberRelation⟩⟩]

/-- The page of the two grants, as an engine writes it. -/
def twoGrantsPage : Json :=
  .object [("relation_tuples", .array (twoGrants.map EngineTuple.toJson))]

/-- An engine that answers every request with the two grants. -/
def grantingEngine : Network Unit :=
  fun _ => return { status := 200, text := twoGrantsPage.render }

theorem answers_grantingEngine (sent : EngineRequest) :
    Answers grantingEngine sent () { tuples := twoGrants, nextPageToken := "" } () := by
  have legible : twoGrantsPage.Legible := by
    refine .object fun member mem => ?_
    obtain rfl := List.mem_singleton.mp mem
    refine .array fun item among => ?_
    rcases List.mem_map.mp among with ⟨tuple, -, rfl⟩
    exact tuple.legible_toJson
  have shallow : twoGrantsPage.limitDepth Json.maxDepth = twoGrantsPage := by
    simp [twoGrantsPage, twoGrants, EngineTuple.toJson, SubjectSet.toJson, Json.limitDepth,
      Json.limitMembers, Json.limitItems, Json.maxDepth]
  have read : EnginePage.read? twoGrantsPage =
      some { tuples := twoGrants, nextPageToken := "" } := by
    simp [EnginePage.read?, twoGrantsPage, Source.record?, Source.table?, Source.recordOfTable?,
      Source.Record.defaulted, Source.Record.slot, List.lookup_cons, Source.list?, Source.row?,
      EngineTuple.mapM_read?_toJson, -List.mapM_map]
  refine ⟨{ status := 200, text := twoGrantsPage.render }, rfl, if_pos (by decide), ?_⟩
  exact EngineResponse.body_eq_ok (Json.parse?_render legible shallow) read

/-- A request for the subjects of a thing which names another namespace than its engine does. -/
def foreignRequest : PolicyRequest :=
  { namespaceName := "acme", subjectType := userType, object := "t" }

/-- The request that deletes the two grants. -/
def twoDeletions : EngineRequest :=
  { side := .write
    method := .patch
    url := "http://engine:4467/admin/relation-tuples"
    body := some (.array [
      .object [("action", .string "delete"),
        ("relation_tuple", .object [("namespace", .string thingType), ("object", .string "t"),
          ("relation", .string viewerRelation), ("subject_id", .string "bob")])],
      .object [("action", .string "delete"),
        ("relation_tuple", .object [("namespace", .string thingType), ("object", .string "t"),
          ("relation", .string viewerRelation),
          ("subject_set", .object [("namespace", .string groupType), ("object", .string "team"),
            ("relation", .string memberRelation)])])]]) }

theorem deletion?_twoGrants : homeEngine.deletion? twoGrants = some twoDeletions := by
  rfl

/-- The two grants are listed for a request of another namespace, and deleting what is listed sends
their engine one request, which names both. -/
theorem deletes_what_it_lists_twoGrants :
    (∀ tuple ∈ twoGrants, tuple.Proper) ∧
      ∃ page, ((agent homeEngine grantingEngine).pageOf .subjects foreignRequest "" 0).perform () =
          (.ok page, ()) ∧
        page.tuples = twoGrants.map (·.toTuple foreignRequest) ∧
        requestsSent ((agent homeEngine grantingEngine.noting).delete page.tuples) () =
          [twoDeletions] ∧
        changesSent? ((agent homeEngine grantingEngine.noting).delete page.tuples) () =
          some [.delete ⟨thingType, "t", viewerRelation, some "bob", none⟩,
            .delete ⟨thingType, "t", viewerRelation, none,
              some ⟨groupType, "team", memberRelation⟩⟩] := by
  have proper : ∀ tuple ∈ twoGrants, tuple.Proper := by
    intro tuple mem
    simp only [twoGrants, List.mem_cons, List.not_mem_nil, or_false] at mem
    rcases mem with rfl | rfl <;> exact ⟨by decide, by decide⟩
  have performed : ((agent homeEngine grantingEngine).pageOf .subjects foreignRequest "" 0).perform
      () = (.ok (EnginePage.toPage foreignRequest { tuples := twoGrants, nextPageToken := "" }),
        ()) :=
    perform_page_eq_ok_iff.mpr ⟨_, answers_grantingEngine _, rfl⟩
  rcases (deletes_what_it_lists homeEngine grantingEngine foreignRequest .subjects).2.1 _ _ _ _ _
    performed with ⟨found, answered, deletes⟩
  obtain rfl := answered.unique (answers_grantingEngine _)
  have exactly := deletes proper
  refine ⟨proper, _, performed, rfl, ?_, exactly.named ()⟩
  rw [exactly.sent, deletion?_twoGrants]
  rfl

end EngineAgent

end RelationAuth.Policy
