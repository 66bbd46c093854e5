import RelationAuth.Encoding.FormUrl
import RelationAuth.Json.Reader
import RelationAuth.Policy.Agent
import RelationAuth.Policy.EngineTuple

/-!
# The agent of a remote engine

A remote engine answers checks and listings at one address and makes changes at another.  The agent
puts each operation into one request and reads the answer; how requests travel is left to a network.
-/

namespace RelationAuth.Policy

/-- The two interfaces of an engine. -/
inductive EngineSide where
  | read
  | write
  deriving DecidableEq, Repr, Inhabited

/-- What a request to an engine does. -/
inductive EngineMethod where
  | get
  | put
  | patch
  | delete
  deriving DecidableEq, Repr, Inhabited

/-- A request to an engine. -/
structure EngineRequest where
  side : EngineSide
  method : EngineMethod
  /-- The address without the query. -/
  url : String
  query : List (String × String) := []
  body : Option Json := none
  deriving Repr, Inhabited

/-- The query of a request as it stands in its address. -/
def EngineRequest.queryText (request : EngineRequest) : String :=
  FormUrl.encode request.query

/-- The answer of an engine. -/
structure EngineResponse where
  status : Nat
  text : String
  deriving DecidableEq, Repr, Inhabited

/-- A way for requests to travel; a request that gets no answer fails. -/
abbrev Network (σ : Type) := EngineRequest → Action σ PolicyError EngineResponse

/-- The network on which no engine is reached. -/
def Network.unreachable {σ : Type} : Network σ :=
  fun _ => Action.fail .transport

namespace EngineResponse

/-- An answer with a status of success.  Any other answer is the failure that the engine reports. -/
def success (response : EngineResponse) : Except PolicyError EngineResponse :=
  if 200 ≤ response.status ∧ response.status < 300 then .ok response
  else .error (.remote response.status response.text)

/-- What the body of an answer denotes.  An answer that cannot be read is a failure of transport. -/
def body {α : Type} (read : Json → Option α) (response : EngineResponse) :
    Except PolicyError α :=
  match (Json.parse? response.text).bind read with
  | some value => .ok value
  | none => .error .transport

end EngineResponse

/-- The body of the answer to a check. -/
def readAllowed? (node : Json) : Option Bool := do
  let record ← Source.record? ["allowed"] node
  record.required "allowed" Source.flag?

/-- One page of tuples of an engine. -/
structure EnginePage where
  tuples : List EngineTuple
  nextPageToken : String
  deriving DecidableEq, Repr, Inhabited

/-- The body of the answer to a listing. -/
def EnginePage.read? (node : Json) : Option EnginePage := do
  let record ← Source.record? ["relation_tuples", "next_page_token"] node
  return {
    tuples := ← record.defaulted "relation_tuples" [] (Source.list? EngineTuple.read?)
    nextPageToken := ← record.defaulted "next_page_token" "" Source.text? }

/-- A page of an engine, taken over for the request that asked for it. -/
def EnginePage.toPage (request : PolicyRequest) (page : EnginePage) : TuplePage :=
  { tuples := page.tuples.map (·.toTuple request), nextPageToken := page.nextPageToken }

/-- An address as it may stand before a path. -/
def withoutTrailingSlashes (url : String) : String :=
  String.ofList (url.toList.reverse.dropWhile (· = '/')).reverse

/-- What a change does to a tuple. -/
inductive ChangeKind where
  | insert
  | delete
  deriving DecidableEq, Repr, Inhabited

/-- The name of a kind of change in a list of changes. -/
def ChangeKind.action : ChangeKind → String
  | insert => "insert"
  | delete => "delete"

namespace EngineConfig

/-- The namespace in which an engine looks for the object of a request. -/
def namespaceOf (config : EngineConfig) (request : PolicyRequest) : String :=
  engineNamespace config.defaultNamespace request.namespaceName request.objectType

/-- The address of a path below a base address. -/
def address (base path : String) : String :=
  withoutTrailingSlashes base ++ path

/-- The request that asks an engine whether it grants the relation or permission of a request. -/
def checkRequest (config : EngineConfig) (request : PolicyRequest) : EngineRequest :=
  { side := .read
    method := .get
    url := address config.readUrl "/relation-tuples/check/openapi"
    query :=
      [("namespace", config.namespaceOf request), ("object", request.object),
        ("relation", request.relationOrPermission)] ++ request.subjectRef.engineParams }

/-- A query parameter that is left out where it is empty. -/
def optionalParam (name value : String) : List (String × String) :=
  if value = "" then [] else [(name, value)]

/-- The query parameters of a page.  The first page is asked for without a token. -/
def pageParams (pageToken : String) (limit : Nat) : List (String × String) :=
  optionalParam "page_token" pageToken ++
    [("page_size", String.ofList (Nat.toDigits 10 (effectiveLimit limit)))]

/-- The request that asks an engine for tuples. -/
def listRequest (config : EngineConfig) (query : List (String × String)) : EngineRequest :=
  { side := .read
    method := .get
    url := address config.readUrl "/relation-tuples"
    query }

/-- The request that asks an engine for the tuples with the subject of a request. -/
def objectsRequest (config : EngineConfig) (request : PolicyRequest) (pageToken : String)
    (limit : Nat) : EngineRequest :=
  config.listRequest <|
    optionalParam "namespace" (config.namespaceOf request) ++
      optionalParam "relation" request.relationOrPermission ++
      request.subjectRef.engineParams ++ pageParams pageToken limit

/-- The request that asks an engine for the tuples with the object of a request. -/
def subjectsRequest (config : EngineConfig) (request : PolicyRequest) (pageToken : String)
    (limit : Nat) : EngineRequest :=
  config.listRequest <|
    optionalParam "namespace" (config.namespaceOf request) ++ [("object", request.object)] ++
      optionalParam "relation" request.relationOrPermission ++ pageParams pageToken limit

/-- The request with which an engine is asked for a page of a listing. -/
def pageRequest (config : EngineConfig) :
    Direction → PolicyRequest → String → Nat → EngineRequest
  | .objects => config.objectsRequest
  | .subjects => config.subjectsRequest

/-- A tuple as the engine of a configuration keeps it. -/
def engineTuple (config : EngineConfig) (tuple : RelationTuple) : EngineTuple :=
  EngineTuple.ofTuple config.defaultNamespace tuple

/-- The address at which an engine takes changes. -/
def changeUrl (config : EngineConfig) : String :=
  address config.writeUrl "/admin/relation-tuples"

/-- A change of one tuple among many. -/
def delta (kind : ChangeKind) (tuple : EngineTuple) : Json :=
  .object [("action", .string kind.action), ("relation_tuple", tuple.toJson)]

/-- The request that makes the same change to many tuples. -/
def patchRequest (config : EngineConfig) (kind : ChangeKind) (tuples : List RelationTuple) :
    EngineRequest :=
  { side := .write
    method := .patch
    url := config.changeUrl
    body := some (.array (tuples.map fun tuple => delta kind (config.engineTuple tuple))) }

/-- The request that changes one tuple: it is the body of what inserts it and the query of what
deletes it. -/
def singleRequest (config : EngineConfig) (kind : ChangeKind) (tuple : RelationTuple) :
    EngineRequest :=
  match kind with
  | .insert =>
    { side := .write
      method := .put
      url := config.changeUrl
      body := some (config.engineTuple tuple).toJson }
  | .delete =>
    { side := .write
      method := .delete
      url := config.changeUrl
      query := (config.engineTuple tuple).params }

/-- The request that makes the same change to tuples.  Nothing is to be asked where there are
none. -/
def changeRequest? (config : EngineConfig) (kind : ChangeKind) :
    List RelationTuple → Option EngineRequest
  | [] => none
  | [tuple] => some (config.singleRequest kind tuple)
  | tuples => some (config.patchRequest kind tuples)

/-- The request that writes tuples. -/
def writeRequest? (config : EngineConfig) (tuples : List RelationTuple) : Option EngineRequest :=
  config.changeRequest? .insert tuples

/-- The request that deletes tuples. -/
def deleteRequest? (config : EngineConfig) (tuples : List RelationTuple) : Option EngineRequest :=
  config.changeRequest? .delete tuples

end EngineConfig

namespace EngineAgent

variable {σ : Type} (config : EngineConfig) (network : Network σ)

/-- Send a request and take its answer, if it is one of success. -/
def send (request : EngineRequest) : Action σ PolicyError EngineResponse := do
  Action.ofExcept (← network request).success

/-- Send a request, if there is one, and disregard the body of the answer. -/
def sendChange (request : Option EngineRequest) : Action σ PolicyError Unit := do
  match request with
  | none => return ()
  | some request =>
    let _ ← send network request
    return ()

/-- Ask the engine whether a request is granted; one that lacks a part is not sent. -/
def check (request : PolicyRequest) : Action σ PolicyError Unit := do
  Action.ofExcept request.validateCheck
  let response ← send network (config.checkRequest request)
  if ← Action.ofExcept (response.body readAllowed?) then return ()
  Action.fail .unauthorized

/-- Ask for a page of a listing. -/
def page (request : PolicyRequest) (query : EngineRequest) : Action σ PolicyError TuplePage := do
  let response ← send network query
  let page ← Action.ofExcept (response.body EnginePage.read?)
  return page.toPage request

/-- Ask for a page of a listing in a direction, if the request names what it is about. -/
def list (direction : Direction) (request : PolicyRequest) (pageToken : String) (limit : Nat) :
    Action σ PolicyError TuplePage := do
  if request.anchor direction = "" then Action.fail (.malformed direction.missingAnchor)
  page network request (config.pageRequest direction request pageToken limit)

/-- The number of pages after which a complete listing of an engine is given up.  Nothing bounds
the pages that an engine has. -/
def maxPages : Nat := 1000000

/-- The agent of the engine of a configuration. -/
def agent : PolicyAgent σ where
  check request := check config network request
  write tuples := sendChange network (config.writeRequest? tuples)
  delete tuples := sendChange network (config.deleteRequest? tuples)
  objects := list config network .objects
  subjects := list config network .subjects
  pageBound _ := maxPages

end EngineAgent

end RelationAuth.Policy
