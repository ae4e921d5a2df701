/-
  The ports a node element asks for.

  A port that an element declares is read from it; one that it does not declare is created by
  default, if a socket needs it.

  1. `DeclaredBy` — there is no child with the name, or one that could be read.  It is what reading
     the declared ports of a node amounts to (`declaredBy_readMediaLb` and the two behind it).
  2. `ConnectionDecl.ReadAt.sockets` — the sockets a connection declares are those of its element's
     children, by induction over the children.  So what it needs can be told from their names
     (`exists_mem_needs_iff`), and it always needs the network (`network_mem_needs`).
  3. `PortForm` — what the MediaLB and the USB port have in common, and `PortForm.Asked`, the port
     an element asks for.
-/
import MediaNetwork.Proofs.Connection.Reading
import MediaNetwork.Proofs.Port.Slots

namespace MediaNetwork

open MediaNetwork.Markup MediaNetwork.Outcome

/-! ## Declared ports -/

/-- What the only child of this name declares, if there is one. -/
inductive DeclaredBy {α : Type} (e : Element) (name : String)
    (read : Element → Except CompileError α) : Option α → Prop
  | absent (missing : e.childrenNamed name = []) : DeclaredBy e name read none
  | present {port : Element} {value : α} (only : e.childrenNamed name = [port])
      (reads : read port = .ok value) : DeclaredBy e name read (some value)

theorem onlyChild_eq_ok {node : UInt16} {e : Element} {name : String} {child? : Option Element}
    (h : onlyChild node e name = .ok child?) : e.childrenNamed name = child?.toList := by
  unfold onlyChild at h
  split at h
  · rename_i hnone
    cases h
    exact hnone
  · rename_i child honly
    cases h
    exact honly
  · nomatch h

theorem declaredBy_of_onlyChild {α : Type} {node : UInt16} {e : Element} {name : String}
    {read : Element → Except CompileError α} {value? : Option α}
    (h : (do
      match ← onlyChild node e name with
      | none => return none
      | some port =>
        let value ← read port
        return some value) = .ok value?) : DeclaredBy e name read value? := by
  obtain ⟨child?, hchild, h⟩ := bind_eq_ok.mp h
  cases child? with
  | none =>
    cases h
    exact .absent (onlyChild_eq_ok hchild)
  | some port =>
    obtain ⟨value, hvalue, h⟩ := bind_eq_ok.mp h
    cases h
    exact .present (onlyChild_eq_ok hchild) hvalue

namespace Builder

variable {node : UInt16} {e : Element}

theorem declaredBy_readMediaLb {clock? : Option MlbClock} (h : readMediaLb node e = .ok clock?) :
    DeclaredBy e Schema.mediaLbPort (fun port => port.keyword Schema.clockConfig MlbClock.keywords)
      clock? :=
  declaredBy_of_onlyChild h

theorem declaredBy_readUsb {settings? : Option UsbSettings}
    (h : readUsb node e = .ok settings?) :
    DeclaredBy e Schema.usbPort readUsbSettings settings? :=
  declaredBy_of_onlyChild h

theorem declaredBy_readStream {settings? : Option StreamSettings}
    (h : readStream node e = .ok settings?) :
    DeclaredBy e Schema.streamPort readStreamSettings settings? :=
  declaredBy_of_onlyChild h

end Builder

/-! ## Sockets of a connection -/

/-- Whether an element is a splitter or a combiner. -/
def isFan (e : Element) : Bool := e.name == Schema.splitter || e.name == Schema.combiner

/-- The elements a child of a connection stands for: those in it if it is a fan, else itself. -/
def branchElements (e : Element) : List Element := if isFan e then e.children else [e]

/-- A socket stands for itself. -/
theorem branchElements_of_socket {e : Element} (h : e.name ∈ Schema.socketNames) :
    branchElements e = [e] := by
  have hfan : isFan e = false := by
    unfold isFan
    rw [Bool.or_eq_false_iff, beq_eq_false_iff_ne, beq_eq_false_iff_ne]
    constructor
    · intro hname
      rw [hname] at h
      exact absurd h (by decide)
    · intro hname
      rw [hname] at h
      exact absurd h (by decide)
  rw [branchElements, hfan, if_neg Bool.false_ne_true]

/-- The elements of a connection that declare its sockets. -/
def socketElements (e : Element) : List Element := e.children.flatMap branchElements

/-- The branches of a fan are network sockets. -/
theorem Site.names_readBranches {site : Site} {fan : Element} {branches : List NetworkDecl}
    (h : site.readBranches fan = .ok branches) :
    (branches.map SocketDecl.network).map SocketDecl.element = fan.children.map Element.name := by
  rw [List.map_map, map_eq_map_iff_forall₂]
  exact (readBranches_eq_ok.mp h).flip.imp fun _ _ hbranch => hbranch.1.symm

/-- A splitter stands for its branches. -/
theorem Site.names_readFanOut {site : Site} {input : SocketDecl} {e : Element} {wiring : Wiring}
    (h : site.readFanOut input e = .ok wiring) :
    wiring.sockets.map SocketDecl.element = input.element :: e.children.map Element.name := by
  obtain ⟨bytesPerFrame, branches, -, -, hbranches, rfl⟩ := readFanOut_eq_ok.mp h
  rw [Wiring.sockets, List.map_cons, names_readBranches hbranches]

/-- A combiner stands for its branches, which come before the output socket. -/
theorem Site.names_readFanIn {site : Site} {combiner e : Element} {wiring : Wiring}
    (h : site.readFanIn combiner e = .ok wiring) :
    wiring.sockets.map SocketDecl.element = combiner.children.map Element.name ++ [e.name] := by
  obtain ⟨output, bytesPerFrame, branches, ho, -, hbranches, rfl⟩ := readFanIn_eq_ok.mp h
  rw [Wiring.sockets, List.map_append, names_readBranches hbranches, List.map_singleton,
    element_readSocket ho]

namespace Progress

/-- The names of the sockets read so far.  A combiner is read together with the socket behind it, so
    its branches count before they are read. -/
def names : Progress → List String
  | empty => []
  | input i => [i.element]
  | both i o => [i.element, o.element]
  | combining combiner => combiner.children.map Element.name
  | fanned wiring => wiring.sockets.map SocketDecl.element

/-- The next child adds the sockets it stands for. -/
theorem names_add {site : Site} {p p' : Progress} {e : Element} (h : p.add site e = .ok p') :
    p'.names = p.names ++ (branchElements e).map Element.name := by
  cases add_eq_ok.mp h with
  | input read =>
    rw [branchElements_of_socket (Site.name_of_readSocket read)]
    exact congrArg List.singleton (Site.element_readSocket read)
  | output read =>
    rw [branchElements_of_socket (Site.name_of_readSocket read)]
    simp [names, Site.element_readSocket read]
  | splitter name read =>
    rw [branchElements, if_pos (by simp [isFan, name])]
    exact Site.names_readFanOut read
  | combiner name counted =>
    rw [branchElements, if_pos (by simp [isFan, name])]
    rfl
  | combined read =>
    obtain ⟨output, -, -, houtput, -⟩ := Site.readFanIn_eq_ok.mp read
    rw [branchElements_of_socket (Site.name_of_readSocket houtput)]
    exact Site.names_readFanIn read

/-- All children, one after the other. -/
theorem names_foldlM {site : Site} {es : List Element} {p p' : Progress}
    (h : es.foldlM (add site) p = .ok p') :
    p'.names = p.names ++ (es.flatMap branchElements).map Element.name := by
  induction es generalizing p with
  | nil =>
    cases h
    exact (List.append_nil _).symm
  | cons e es ih =>
    rw [List.foldlM_cons] at h
    obtain ⟨next, hnext, h⟩ := bind_eq_ok.mp h
    rw [ih h, names_add hnext, List.append_assoc, ← List.map_append, List.flatMap_cons]

end Progress

/-- **Sockets**: a connection declares the sockets of its element, in their order. -/
theorem ConnectionDecl.ReadAt.sockets {e : Element} {d : ConnectionDecl} (h : d.ReadAt e) :
    d.wiring.sockets.map SocketDecl.element = (socketElements e).map Element.name := by
  obtain ⟨site, rfl, h⟩ := h
  obtain ⟨progress, hp, h⟩ := bind_eq_ok.mp h
  obtain ⟨wiring, hw, h⟩ := bind_eq_ok.mp h
  cases h
  have hnames : wiring.sockets.map SocketDecl.element = progress.names := by
    cases progress with
    | fanned w =>
      cases hw
      rfl
    | both i o =>
      cases hw
      rfl
    | _ => nomatch hw
  rw [hnames]
  exact Progress.names_foldlM hp

/-! ## What the connections of a node need -/

/-- A connection of the node has a socket with this name, in a fan or not. -/
def HasSocket (e : Element) (name : String) : Prop :=
  ∃ connection ∈ e.children.filter Builder.isConnection,
    ∃ socket ∈ socketElements connection, socket.name = name

/-- A connection that touches the network needs the network port. -/
theorem network_mem_needs {w : Wiring} {declared : Option (ResourceId × ResourceId)}
    (h : w.Fits declared) : .network ∈ w.needs := by
  have hsocket : ∀ s ∈ w.sockets, s.isNetwork = true → .network ∈ w.needs := by
    intro s hs hnetwork
    cases s with
    | network decl => exact List.mem_flatMap.mpr ⟨_, hs, List.mem_singleton_self _⟩
    | _ => nomatch hnetwork
  cases w with
  | plain input output =>
    rcases h.2.2 with ho | hi
    · exact hsocket output (by simp [Wiring.sockets]) ho
    · exact hsocket input (by simp [Wiring.sockets]) hi
  | fanOut input bytesPerFrame branches =>
    obtain ⟨branch, hbranch⟩ := List.exists_mem_of_ne_nil _ h.2
    exact hsocket (.network branch) (by simp [Wiring.sockets, hbranch]) rfl
  | fanIn bytesPerFrame branches output =>
    obtain ⟨branch, hbranch⟩ := List.exists_mem_of_ne_nil _ h.2
    exact hsocket (.network branch) (by simp [Wiring.sockets, hbranch]) rfl

/-- **Needs**: the slot of sockets with a certain name is needed if there is such a socket. -/
theorem exists_mem_needs_iff {e : Element} {ds : List ConnectionDecl} {slot : PortSlot}
    {name : String}
    (h : List.Forall₂ ConnectionDecl.ReadAt (e.children.filter Builder.isConnection) ds)
    (hslot : ∀ s : SocketDecl, slot ∈ s.needs ↔ s.element = name) :
    (∃ d ∈ ds, slot ∈ d.wiring.needs) ↔ HasSocket e name := by
  have hread : ∀ (c : Element) (d : ConnectionDecl), d.ReadAt c →
      (slot ∈ d.wiring.needs ↔ ∃ socket ∈ socketElements c, socket.name = name) := by
    intro c d hd
    rw [Wiring.needs, List.mem_flatMap]
    simp only [hslot]
    rw [← List.mem_map, ← List.mem_map, hd.sockets]
  constructor
  · rintro ⟨d, hd, hneeds⟩
    obtain ⟨c, hc, hcd⟩ := exists_of_forall₂ h hd
    exact ⟨c, hc, (hread c d hcd).mp hneeds⟩
  · rintro ⟨c, hc, hsocket⟩
    obtain ⟨d, hd, hcd⟩ := exists_of_forall₂ h.flip hc
    exact ⟨d, hd, (hread c d hcd).mpr hsocket⟩

/-! ## Ports that are declared or created by default -/

/-- A kind of port with settings: the elements that declare such a port and those whose sockets
    need one, how its settings are read, and what they are by default. -/
structure PortForm (α : Type) where
  element : String
  socket : String
  read : Element → Except CompileError α
  kind : α → PortKind
  byDefault : α

namespace PortForm

/-- MediaLB ports. -/
def mediaLb : PortForm MlbClock :=
  ⟨Schema.mediaLbPort, Schema.mediaLbSocket,
    fun port => port.keyword Schema.clockConfig MlbClock.keywords, .mediaLb, .fs256⟩

/-- USB ports. -/
def usb : PortForm UsbSettings :=
  ⟨Schema.usbPort, Schema.usbSocket, Builder.readUsbSettings, .usb, UsbSettings.default⟩

variable {α : Type} (f : PortForm α)

/-- The port of a node whose element declares these settings, or none. -/
def port (node : UInt16) : Option α → Port
  | some value => ⟨node, .declared, f.kind value⟩
  | none => ⟨node, .default, f.kind f.byDefault⟩

/-- The port the element of a node asks for: the declared one; else one by default, if there is a
    socket for it; else none. -/
inductive Asked (e : Element) (node : UInt16) : Option Port → Prop
  | declared {value : α} (declares : DeclaredBy e f.element f.read (some value)) :
      Asked e node (some ⟨node, .declared, f.kind value⟩)
  | byDefault (undeclared : DeclaredBy e f.element f.read none) (socket : HasSocket e f.socket) :
      Asked e node (some ⟨node, .default, f.kind f.byDefault⟩)
  | absent (undeclared : DeclaredBy e f.element f.read none)
      (noSocket : ¬ HasSocket e f.socket) : Asked e node none

/-- A slot that is filled if the port is declared or a socket needs it holds the port that is asked
    for. -/
theorem asked_of_filled {e : Element} {node : UInt16} {value? : Option α} {filled : Bool}
    (hd : DeclaredBy e f.element f.read value?)
    (hfilled : filled = true ↔ value?.isSome = true ∨ HasSocket e f.socket) :
    f.Asked e node (if filled then some (f.port node value?) else none) := by
  cases value? with
  | some value =>
    rw [if_pos (hfilled.mpr (Or.inl rfl))]
    exact .declared hd
  | none =>
    by_cases hsocket : HasSocket e f.socket
    · rw [if_pos (hfilled.mpr (Or.inr hsocket))]
      exact .byDefault hd hsocket
    · have hempty : ¬ filled = true := fun h => (hfilled.mp h).elim nofun hsocket
      rw [if_neg hempty]
      exact .absent hd hsocket

end PortForm

end MediaNetwork
