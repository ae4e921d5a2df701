/-
  What an arena holds of a connection element.

  `Arena.Lays a first d es` says that the arena holds all that the declaration `d` asks for, at
  places from `first` on, and that `es` are its endpoints, with every field of every endpoint:

  1. a plain connection has one endpoint, whose job list leads through the input socket and the
     output socket to the connection;
  2. a fan has one endpoint for each branch, and all of them share the fan and the socket it wraps;
     behind a splitter the shared resources come first on every job list, before a combiner the
     combiner stands between the branch's port and its socket.

  `Arena.LaysAll` says it of the connections of a node, in their order.  Everything that is said
  about endpoints (job lists, types, printing) is read off these two.
-/
import Mathlib.Data.List.Forall2
import MediaNetwork.Proofs.Graph.Sockets

namespace MediaNetwork

/-- What holds of every wiring that was read at a site with this stream port: stream sockets stand
    on that port, and a plain connection touches the network. -/
def Wiring.Fits (declared : Option (ResourceId × ResourceId)) : Wiring → Prop
  | plain input output =>
    input.Fits declared ∧ output.Fits declared ∧
      (output.isNetwork = true ∨ input.isNetwork = true)
  | fanOut input _ branches => input.Fits declared ∧ branches ≠ []
  | fanIn _ branches output => output.Fits declared ∧ branches ≠ []

/-! ## Layouts -/

namespace Arena

/-- The branch of a splitter: its socket, its connection and its endpoint.  `shared` leads to the
    splitter. -/
def LaysOutput (a : Arena) (first : Nat) (d : ConnectionDecl) (splitter : ResourceId)
    (shared : List ResourceId) (branch : NetworkDecl) (e : Endpoint) : Prop :=
  ∃ port socket id, a.Holds d .output (.network branch) port socket ∧
    a.get? id = some (.connection ⟨splitter, socket, d.style.kind branch.offset⟩) ∧
    first ≤ socket.index ∧ first ≤ id.index ∧
    e = ⟨.source, d.node, JobList.empty.pushAll (shared ++ [port, socket, id]), id, socket, d.link⟩

/-- The branch of a combiner: its socket, its connection and its endpoint.  `shared` leads to the
    output socket. -/
def LaysInput (a : Arena) (first : Nat) (d : ConnectionDecl) (combiner : ResourceId)
    (shared : List ResourceId) (branch : NetworkDecl) (e : Endpoint) : Prop :=
  ∃ port socket id, a.Holds d .input (.network branch) port socket ∧
    a.get? id = some (.connection ⟨socket, combiner, d.style.kind branch.offset⟩) ∧
    first ≤ socket.index ∧ first ≤ id.index ∧
    e = ⟨.sink, d.node, JobList.empty.pushAll (shared ++ [port, combiner, socket, id]), id, socket,
      d.link⟩

/-- The only endpoint of a plain connection; the output faces the network if it is a network
    socket, else the input does. -/
def LaysPlain (a : Arena) (first : Nat) (d : ConnectionDecl) (input output : SocketDecl)
    (e : Endpoint) : Prop :=
  ∃ portIn socketIn portOut socketOut id,
    a.Holds d .input input portIn socketIn ∧ a.Holds d .output output portOut socketOut ∧
    a.get? id = some (.connection ⟨socketIn, socketOut,
      d.style.kind (if output.isNetwork then output.offset? else input.offset?)⟩) ∧
    first ≤ socketIn.index ∧ first ≤ socketOut.index ∧ first ≤ id.index ∧
    e = ⟨if output.isNetwork then .source else .sink, d.node,
      JobList.empty.pushAll
        (input.lead portIn none ++ socketIn :: (output.lead portOut none ++ [socketOut, id])),
      id, if output.isNetwork then socketOut else socketIn, d.link⟩

/-- The arena holds what `d` declares, at places from `first` on, and `es` are its endpoints. -/
def Lays (a : Arena) (first : Nat) (d : ConnectionDecl) (es : List Endpoint) : Prop :=
  match d.wiring with
  | .plain input output => ∃ e, a.LaysPlain first d input output e ∧ es = [e]
  | .fanOut input bytesPerFrame branches =>
    ∃ port socket splitter, a.Holds d .input input port socket ∧
      a.get? splitter = some (.splitter ⟨socket, bytesPerFrame⟩) ∧
      first ≤ socket.index ∧ first ≤ splitter.index ∧
      List.Forall₂
        (a.LaysOutput first d splitter (input.lead port none ++ [socket, splitter])) branches es
  | .fanIn bytesPerFrame branches output =>
    ∃ port socket combiner, a.Holds d .output output port socket ∧
      a.get? combiner = some (.combiner ⟨socket, bytesPerFrame⟩) ∧
      first ≤ socket.index ∧ first ≤ combiner.index ∧
      List.Forall₂ (a.LaysInput first d combiner (output.lead port none ++ [socket])) branches es

section Extension

variable {a b : Arena} (h : a.ExtendsTo b) {first start : Nat} (hf : start ≤ first)
  {d : ConnectionDecl} {shared : List ResourceId}

include h hf

/-- A branch of a splitter stays where it was laid when the arena grows. -/
theorem LaysOutput.extend {splitter : ResourceId} {branch : NetworkDecl} {e : Endpoint}
    (he : a.LaysOutput first d splitter shared branch e) :
    b.LaysOutput start d splitter shared branch e := by
  obtain ⟨port, socket, id, hsocket, hid, hs, hi, he⟩ := he
  exact ⟨port, socket, id, hsocket.extend h, h.get? hid, Nat.le_trans hf hs, Nat.le_trans hf hi, he⟩

/-- Likewise a branch of a combiner. -/
theorem LaysInput.extend {combiner : ResourceId} {branch : NetworkDecl} {e : Endpoint}
    (he : a.LaysInput first d combiner shared branch e) :
    b.LaysInput start d combiner shared branch e := by
  obtain ⟨port, socket, id, hsocket, hid, hs, hi, he⟩ := he
  exact ⟨port, socket, id, hsocket.extend h, h.get? hid, Nat.le_trans hf hs, Nat.le_trans hf hi, he⟩

/-- **Growth**: what a declaration laid stays there when the arena grows. -/
theorem Lays.extend {es : List Endpoint} (hl : a.Lays first d es) : b.Lays start d es := by
  unfold Lays at hl ⊢
  split at hl
  · obtain ⟨e, ⟨pi, i, po, o, id, hi, ho, hid, h1, h2, h3, he⟩, hes⟩ := hl
    exact ⟨e, ⟨pi, i, po, o, id, hi.extend h, ho.extend h, h.get? hid, Nat.le_trans hf h1,
      Nat.le_trans hf h2, Nat.le_trans hf h3, he⟩, hes⟩
  · obtain ⟨port, socket, splitter, hs, hfan, h1, h2, hes⟩ := hl
    exact ⟨port, socket, splitter, hs.extend h, h.get? hfan, Nat.le_trans hf h1, Nat.le_trans hf h2,
      hes.imp fun _ _ he => he.extend h hf⟩
  · obtain ⟨port, socket, combiner, hs, hfan, h1, h2, hes⟩ := hl
    exact ⟨port, socket, combiner, hs.extend h, h.get? hfan, Nat.le_trans hf h1, Nat.le_trans hf h2,
      hes.imp fun _ _ he => he.extend h hf⟩

end Extension

/-- The arena holds what the declarations ask for, each behind all that those before it asked for;
    `ess` are the endpoints of each. -/
inductive LaysAll (a : Arena) : Nat → List ConnectionDecl → List (List Endpoint) → Prop
  | nil (first : Nat) : LaysAll a first [] []
  | cons {first : Nat} {here : Arena} {d : ConnectionDecl} {es : List Endpoint}
      {ds : List ConnectionDecl} {ess : List (List Endpoint)} (lays : here.Lays first d es)
      (grown : here.ExtendsTo a) (rest : LaysAll a here.size ds ess) :
      LaysAll a first (d :: ds) (es :: ess)

theorem LaysAll.extend {a b : Arena} (h : a.ExtendsTo b) {first : Nat} {ds : List ConnectionDecl}
    {ess : List (List Endpoint)} (hl : a.LaysAll first ds ess) : b.LaysAll first ds ess := by
  induction hl with
  | nil first => exact LaysAll.nil first
  | cons lays grown _ ih => exact LaysAll.cons lays (grown.trans h) ih

/-- Each of the declarations is laid out. -/
theorem LaysAll.exists_lays {a : Arena} {first : Nat} {ds : List ConnectionDecl}
    {ess : List (List Endpoint)} (hl : a.LaysAll first ds ess) {es : List Endpoint}
    (hes : es ∈ ess) : ∃ d ∈ ds, ∃ start, a.Lays start d es := by
  induction hl with
  | nil first => nomatch hes
  | cons lays grown _ ih =>
    rcases List.mem_cons.mp hes with rfl | hes
    · exact ⟨_, List.mem_cons_self, _, lays.extend grown (Nat.le_refl _)⟩
    · obtain ⟨d, hd, hlays⟩ := ih hes
      exact ⟨d, List.mem_cons_of_mem _ hd, hlays⟩

/-! ## Sides of a connection -/

namespace Holds

variable {a : Arena} {d : ConnectionDecl} {direction : Direction} {socket : SocketDecl}
  {port id : ResourceId}

theorem isSocket (h : a.Holds d direction socket port id) : a.IsSocket direction id :=
  ⟨_, h.read, rfl⟩

/-- A network socket is held as one. -/
theorem isNetwork (h : a.Holds d direction socket port id) (hn : socket.isNetwork = true) :
    a.IsNetwork id := by
  cases socket with
  | network decl => exact ⟨_, h.read, rfl⟩
  | _ => nomatch hn

theorem not_isSplitter (h : a.Holds d direction socket port id) : ¬ a.IsSplitter id := by
  rintro ⟨f, hf⟩
  rw [h.read] at hf
  nomatch hf

theorem not_isCombiner (h : a.Holds d direction socket port id) : ¬ a.IsCombiner id := by
  rintro ⟨f, hf⟩
  rw [h.read] at hf
  nomatch hf

/-- The port of a socket that is held is one of the declaration's node. -/
theorem portNode? (h : a.Holds d direction socket port id) : a.portNode? port = some d.node := by
  obtain ⟨origin, kind, -, hport⟩ := h.stands
  simp [Arena.portNode?, hport, Resource.port?]

/-- A side that is the socket itself leads to it. -/
theorem leadsTo (h : a.Holds d direction socket port id) :
    a.LeadsTo id d.style.dataType d.node :=
  ⟨_, by rw [sideSocket?, h.read], rfl, h.portNode?⟩

/-- A splitter that wraps the socket leads to it. -/
theorem leadsTo_splitter (h : a.Holds d direction socket port id) {splitter : ResourceId}
    {bytesPerFrame : UInt16} (hf : a.get? splitter = some (.splitter ⟨id, bytesPerFrame⟩)) :
    a.LeadsTo splitter d.style.dataType d.node :=
  ⟨⟨port, direction, d.style.dataType, socket.kind⟩, by simp [sideSocket?, socket?, hf, h.read,
    Resource.socket?], rfl, h.portNode?⟩

/-- A combiner that wraps the socket leads to it. -/
theorem leadsTo_combiner (h : a.Holds d direction socket port id) {combiner : ResourceId}
    {bytesPerFrame : UInt16} (hf : a.get? combiner = some (.combiner ⟨id, bytesPerFrame⟩)) :
    a.LeadsTo combiner d.style.dataType d.node :=
  ⟨⟨port, direction, d.style.dataType, socket.kind⟩, by simp [sideSocket?, socket?, hf, h.read,
    Resource.socket?], rfl, h.portNode?⟩

end Holds

/-- A connection whose sides are there is typed at the next place. -/
theorem typedAt_connection {a : Arena} {c : Connection} (hc : c.TypedAt a) :
    (Resource.connection c).TypedAt a a.size := by
  have hlt : ∀ id dataType node, a.LeadsTo id dataType node → id.index < a.size := by
    intro id dataType node hleads
    obtain ⟨r, hr⟩ := hleads.exists_get?
    exact lt_size_of_get? hr
  obtain ⟨node, hin, hout⟩ := hc.sides
  refine ⟨fun id hid => ?_, hc⟩
  rcases List.mem_pair.mp hid with rfl | rfl
  · exact hlt _ _ _ hin
  · exact hlt _ _ _ hout

end Arena

end MediaNetwork
