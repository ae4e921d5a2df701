/-
  Route assembly: one route for every source and sink that name the same route.

  1. `Terminal.ofEndpoints` reads what each endpoint's network socket says about its route.
  2. `checkTerminals` refuses two sources of one name, a source without a sink and a sink without
     a source, in this order.
  3. `pairs` lists the matching pairs, source by source in document order.
  4. `assign` gives every pair its id: the one its sink declares, else the one its source
     declares, else the next automatic id.  Automatic ids count up from 0x8000 and skip every id
     that the network socket of some endpoint declares.  Each id is checked against those given
     before.
  5. `checkCount` makes sure at the end that no pair was left out.
-/
import MediaNetwork.Configuration

namespace MediaNetwork

/-- What an endpoint brings to its routes. -/
structure Terminal where
  endpoint : EndpointId
  /-- The address of the node. -/
  node : UInt16
  decl : RouteDecl
  deriving DecidableEq, Repr

namespace Terminal

/-- What the network socket with this handle says about its route. -/
def routeDecl (arena : Arena) (id : ResourceId) : Except CompileError RouteDecl := do
  match ← arena.get id with
  | .socket ⟨_, _, _, .network _ decl⟩ => return decl
  | _ => .error (.internal (.endpointSocket id.index))

/-- The terminals of endpoints numbered from `first` on, each with its endpoint's kind. -/
def ofEndpoints (arena : Arena) (endpoints : List Endpoint) :
    Except CompileError (List (EndpointKind × Terminal)) :=
  endpoints.zipIdx.mapM fun (e, i) => do
    let decl ← routeDecl arena e.networkSocket
    return (e.kind, ⟨⟨i⟩, e.node, decl⟩)

/-- The terminals of one kind. -/
def ofKind (kind : EndpointKind) (terminals : List (EndpointKind × Terminal)) : List Terminal :=
  (terminals.filter fun t => t.1 == kind).map Prod.snd

/-- Whether two terminals name the same route. -/
def sameRoute (a b : Terminal) : Bool := a.decl.name == b.decl.name

end Terminal

namespace Route

/-- The first source of a route that another source had before, together with that other. -/
def repeatedSource? (before : List Terminal) : List Terminal → Option (Terminal × Terminal)
  | [] => none
  | s :: rest =>
    match before.find? s.sameRoute with
    | some earlier => some (earlier, s)
    | none => repeatedSource? (before ++ [s]) rest

/-- Checks that sources and sinks fit together. -/
def checkTerminals (sources sinks : List Terminal) : Except CompileError Unit :=
  match repeatedSource? [] sources with
  | some (earlier, s) =>
    .error (.reference (.manySources s.decl.name earlier.node s.node))
  | none =>
    match sources.find? fun s => !sinks.any s.sameRoute with
    | some s => .error (.reference (.noSink s.decl.name s.node))
    | none =>
      match sinks.find? fun s => !sources.any s.sameRoute with
      | some s => .error (.reference (.noSource s.decl.name s.node))
      | none => .ok ()

/-- The pairs of a source and a sink that name the same route. -/
def pairs (sources sinks : List Terminal) : List (Terminal × Terminal) :=
  sources.flatMap fun source => (sinks.filter source.sameRoute).map fun sink => (source, sink)

/-- The id a pair of terminals asks for. -/
def declaredId (source sink : Terminal) : Option UInt16 :=
  sink.decl.routeId <|> source.decl.routeId

/-- The route of a pair of terminals. -/
def ofPair (source sink : Terminal) (id : UInt16) : Route :=
  ⟨source.decl.name, source.endpoint, sink.endpoint, id, source.decl.active && sink.decl.active⟩

/-- How many automatic ids there are: 0x8000 up to 0xFFFF. -/
def automaticIds : Nat := 0x8000

/-- The first automatic id that is not reserved, when only the last `left` have not been passed;
    and how many lie behind it. -/
def drawId (reserved : List UInt16) : Nat → Option (UInt16 × Nat)
  | 0 => none
  | left + 1 =>
    let id := UInt16.ofNat (0xFFFF - left)
    if reserved.contains id then drawId reserved left else some (id, left)

/-- The id of a pair: the one it asks for, else the next automatic one.  With it comes how many
    automatic ids have not been passed then. -/
def pickId (reserved : List UInt16) (left : Nat) (source sink : Terminal) :
    Except CompileError (UInt16 × Nat) :=
  match declaredId source sink with
  | some id => .ok (id, left)
  | none =>
    match drawId reserved left with
    | some drawn => .ok drawn
    | none => .error (.reference .routeIdsExhausted)

/-- Gives ids to pairs.  `left` automatic ids have not been passed, `used` are the ids of the
    routes before, and `done` these routes, backwards. -/
def assign (reserved : List UInt16) (left : Nat) (used : List UInt16) (done : List Route) :
    List (Terminal × Terminal) → Except CompileError (List Route)
  | [] => .ok done.reverse
  | (source, sink) :: rest => do
    let (id, left) ← pickId reserved left source sink
    if used.contains id then .error (.reference (.repeatedRouteId id))
    else assign reserved left (id :: used) (ofPair source sink id :: done) rest

/-- How many routes there are to be: for every source, the sinks that name its route. -/
def expectedCount (sources sinks : List Terminal) : Nat :=
  sources.foldr (fun source count => sinks.countP source.sameRoute + count) 0

/-- Checks that there are as many routes as there are to be. -/
def checkCount (expected : Nat) (routes : List Route) : Except CompileError Unit :=
  if routes.length = expected then .ok ()
  else .error (.internal (.routeCount routes.length expected))

/-- The routes between endpoints. -/
def assemble (arena : Arena) (endpoints : List Endpoint) : Except CompileError (List Route) := do
  let terminals ← Terminal.ofEndpoints arena endpoints
  let sources := Terminal.ofKind .source terminals
  let sinks := Terminal.ofKind .sink terminals
  checkTerminals sources sinks
  let reserved := (sources ++ sinks).filterMap fun t => t.decl.routeId
  let routes ← assign reserved automaticIds [] [] (pairs sources sinks)
  checkCount (expectedCount sources sinks) routes
  return routes

end Route

example : Route.drawId [0x8000] Route.automaticIds = some (0x8001, 0x7FFE) := by decide

end MediaNetwork
