/-
  What a connection element declares, exactly.

  The reader takes in the children of a connection one by one.  What it still accepts depends on
  what the children before amount to: nothing behind a fan or two sockets, one output socket behind
  a combiner, an output socket or a splitter behind an input socket.  No state is reached twice, so
  each of them has its own lemma (`run_fanned` to `run_empty`), which uses those of the states
  behind it.  What one child makes of a state is said once (`Progress.Takes`), for these lemmas and
  for whatever else is kept from child to child.

  Read from the beginning, they are the three ways to wire a connection (`Site.Wires`), and an
  element is read exactly if its children are wired in one of them (`atSite_eq_ok`).
-/
import MediaNetwork.Connection.Declaration
import MediaNetwork.Proofs.Outcome

namespace MediaNetwork

open MediaNetwork.Markup MediaNetwork.Outcome

/-- The names of the elements that declare sockets. -/
def Schema.socketNames : List String := [networkSocket, usbSocket, mediaLbSocket, streamSocket]

/-! ## Attributes -/

/-- The element of a network socket asks for this socket, its offset aside. -/
structure NetworkDecl.AskedBy (d : NetworkDecl) (e : Element) : Prop where
  bandwidth : e.word Schema.bandwidth = .ok d.bandwidth
  route : e.text Schema.route = .ok d.route.name
  active : ∃ active?, e.flag? Schema.isActive = .ok active? ∧ d.route.active = active?.getD true
  routeId : e.word? Schema.routeId = .ok d.route.routeId

/-- The attributes of a network socket are valid.  Only synchronous data has an offset, and in a fan
    it must be there. -/
structure NetworkValid (style : ConnectionStyle) (inFan : Bool) (e : Element) : Prop where
  bandwidth : Succeeds (e.word Schema.bandwidth)
  route : Succeeds (e.text Schema.route)
  isActive : Succeeds (e.flag? Schema.isActive)
  routeId : Succeeds (e.word? Schema.routeId)
  offset : ∀ muteMode, style = .sync muteMode →
    if inFan then Succeeds (e.word Schema.offset) else Succeeds (e.word? Schema.offset)

/-- The attributes of a socket that stands directly in its connection are valid.  A stream socket
    needs the stream port of its node. -/
inductive SocketValid (style : ConnectionStyle) (streamPort : Prop) (e : Element) : Prop
  | network (name : e.name = Schema.networkSocket) (valid : NetworkValid style false e)
  | usb (name : e.name = Schema.usbSocket)
      (endpointAddress : Succeeds (e.byte Schema.endpointAddress))
      (framesPerTransaction : Succeeds (e.word Schema.framesPerTransaction))
  | mediaLb (name : e.name = Schema.mediaLbSocket)
      (channelAddress : Succeeds (e.word Schema.channelAddress))
      (bandwidth : Succeeds (e.word Schema.bandwidth))
  | stream (name : e.name = Schema.streamSocket)
      (pin : Succeeds (e.keyword Schema.streamPinId StreamPin.keywords))
      (bandwidth : Succeeds (e.word Schema.bandwidth)) (port : streamPort)

/-- Whatever is valid as a socket has the name of a socket. -/
theorem SocketValid.name_mem {style : ConnectionStyle} {streamPort : Prop} {e : Element}
    (h : SocketValid style streamPort e) : e.name ∈ Schema.socketNames := by
  unfold Schema.socketNames
  cases h with
  | network name => simp [name]
  | usb name => simp [name]
  | mediaLb name => simp [name]
  | stream name => simp [name]

/-- The attributes of a fan and of its branches are valid. -/
structure FanValid (style : ConnectionStyle) (e : Element) : Prop where
  bytesPerFrame : Succeeds (e.word Schema.bytesPerFrame)
  branches : ∀ branch ∈ e.children, NetworkValid style true branch

/-! ## Sockets and branches -/

/-- The name of the elements that declare sockets of this kind. -/
def SocketDecl.element : SocketDecl → String
  | network _ => Schema.networkSocket
  | usb .. => Schema.usbSocket
  | mediaLb .. => Schema.mediaLbSocket
  | stream .. => Schema.streamSocket

namespace Site

variable {site : Site} {e : Element}

/-- The link passes exactly if no earlier connection has it. -/
theorem checkLink_eq_ok {u : Unit} : site.checkLink = .ok u ↔ site.linkTaken = false := by
  unfold checkLink
  cases site.linkTaken <;> simp

/-- A network socket is read as what its element asks for. -/
theorem readNetwork_eq_ok {inFan : Bool} {d : NetworkDecl} :
    site.readNetwork inFan e = .ok d ↔ d.AskedBy e ∧ site.readOffset inFan e = .ok d.offset := by
  unfold readNetwork
  constructor
  · intro h
    obtain ⟨bandwidth, hbandwidth, h⟩ := bind_eq_ok.mp h
    obtain ⟨name, hname, h⟩ := bind_eq_ok.mp h
    obtain ⟨active, hactive, h⟩ := bind_eq_ok.mp h
    obtain ⟨routeId, hrouteId, h⟩ := bind_eq_ok.mp h
    obtain ⟨offset, hoffset, h⟩ := bind_eq_ok.mp h
    cases h
    exact ⟨⟨hbandwidth, hname, ⟨active, hactive, rfl⟩, hrouteId⟩, hoffset⟩
  · rintro ⟨⟨hbandwidth, hname, ⟨active, hactive, hflag⟩, hrouteId⟩, hoffset⟩
    obtain ⟨bandwidth, ⟨name, flag, routeId⟩, offset⟩ := d
    obtain rfl : flag = active.getD true := hflag
    rw [hbandwidth, ok_bind, hname, ok_bind, hactive, ok_bind, hrouteId, ok_bind, hoffset,
      ok_bind]
    rfl

/-- An offset is read exactly if the style of the connection has none or a valid one is there. -/
theorem succeeds_readOffset {inFan : Bool} : Succeeds (site.readOffset inFan e) ↔
    ∀ muteMode, site.style = .sync muteMode →
      if inFan then Succeeds (e.word Schema.offset) else Succeeds (e.word? Schema.offset) := by
  unfold readOffset
  cases site.style with
  | avPacketized packetSize => simp [succeeds_ok]
  | sync muteMode => cases inFan <;> simp [succeeds_map]

/-- A synchronous socket has the offset its element asks for, in a fan and elsewhere. -/
theorem word?_of_readOffset {inFan : Bool} {offset : Option UInt16}
    (h : site.readOffset inFan e = .ok offset) {muteMode : MuteMode}
    (hstyle : site.style = .sync muteMode) : e.word? Schema.offset = .ok offset := by
  unfold readOffset at h
  rw [hstyle] at h
  cases inFan with
  | false => exact h
  | true =>
    obtain ⟨n, hn, rfl⟩ := map_eq_ok.mp h
    exact Element.demand_eq_ok.mp hn

/-- **Network sockets** are read exactly if their attributes are valid. -/
theorem succeeds_readNetwork {inFan : Bool} :
    Succeeds (site.readNetwork inFan e) ↔ NetworkValid site.style inFan e := by
  constructor
  · rintro ⟨d, h⟩
    obtain ⟨hasked, hoffset⟩ := readNetwork_eq_ok.mp h
    obtain ⟨active, hactive, -⟩ := hasked.active
    exact ⟨⟨_, hasked.bandwidth⟩, ⟨_, hasked.route⟩, ⟨active, hactive⟩, ⟨_, hasked.routeId⟩,
      succeeds_readOffset.mp ⟨_, hoffset⟩⟩
  · rintro ⟨⟨bandwidth, hbandwidth⟩, ⟨name, hname⟩, ⟨active, hactive⟩, ⟨routeId, hrouteId⟩, hvalid⟩
    obtain ⟨offset, hoffset⟩ := succeeds_readOffset.mpr hvalid
    refine ⟨⟨bandwidth, ⟨name, active.getD true, routeId⟩, offset⟩, ?_⟩
    exact readNetwork_eq_ok.mpr ⟨⟨hbandwidth, hname, ⟨active, hactive, rfl⟩, hrouteId⟩, hoffset⟩

/-- A socket is read exactly if its attributes are valid. -/
theorem succeeds_readSocket :
    Succeeds (site.readSocket e) ↔ SocketValid site.style (site.stream ≠ none) e := by
  constructor
  · -- the name decides which attributes were read
    rintro ⟨socket, h⟩
    unfold readSocket at h
    split at h
    · rename_i hname
      obtain ⟨decl, hdecl, -⟩ := bind_eq_ok.mp h
      exact .network hname (succeeds_readNetwork.mp ⟨decl, hdecl⟩)
    split at h
    · rename_i hname
      obtain ⟨endpointAddress, hendpointAddress, h⟩ := bind_eq_ok.mp h
      obtain ⟨framesPerTransaction, hframes, -⟩ := bind_eq_ok.mp h
      exact .usb hname ⟨_, hendpointAddress⟩ ⟨_, hframes⟩
    split at h
    · rename_i hname
      obtain ⟨channelAddress, hchannelAddress, h⟩ := bind_eq_ok.mp h
      obtain ⟨bandwidth, hbandwidth, -⟩ := bind_eq_ok.mp h
      exact .mediaLb hname ⟨_, hchannelAddress⟩ ⟨_, hbandwidth⟩
    split at h
    · rename_i hname
      obtain ⟨pin, hpin, h⟩ := bind_eq_ok.mp h
      obtain ⟨bandwidth, hbandwidth, h⟩ := bind_eq_ok.mp h
      split at h
      · rename_i ports hports
        refine .stream hname ⟨_, hpin⟩ ⟨_, hbandwidth⟩ ?_
        rw [hports]
        exact Option.some_ne_none ports
      · nomatch h
    · nomatch h
  · -- and the other way round, what is valid under a name is what is read there
    intro h
    unfold readSocket
    cases h with
    | network name valid =>
      obtain ⟨decl, hdecl⟩ := succeeds_readNetwork.mpr valid
      rw [if_pos name, hdecl]
      exact succeeds_ok _
    | usb name endpointAddress framesPerTransaction =>
      obtain ⟨a, ha⟩ := endpointAddress
      obtain ⟨n, hn⟩ := framesPerTransaction
      rw [name, if_neg (by decide), if_pos rfl, ha, ok_bind, hn]
      exact succeeds_ok _
    | mediaLb name channelAddress bandwidth =>
      obtain ⟨a, ha⟩ := channelAddress
      obtain ⟨n, hn⟩ := bandwidth
      rw [name, if_neg (by decide), if_neg (by decide), if_pos rfl, ha, ok_bind, hn]
      exact succeeds_ok _
    | stream name pin bandwidth port =>
      obtain ⟨q, hq⟩ := pin
      obtain ⟨n, hn⟩ := bandwidth
      obtain ⟨ports, hports⟩ := Option.ne_none_iff_exists'.mp port
      rw [name, if_neg (by decide), if_neg (by decide), if_neg (by decide), if_pos rfl, hq, ok_bind,
        hn, ok_bind, hports]
      exact succeeds_ok _

/-- What is declared is what the name of the element says. -/
theorem element_readSocket {socket : SocketDecl}
    (h : site.readSocket e = .ok socket) : socket.element = e.name := by
  unfold readSocket at h
  split at h
  · rename_i hname
    obtain ⟨decl, -, h⟩ := bind_eq_ok.mp h
    cases h
    exact hname.symm
  split at h
  · rename_i hname
    obtain ⟨endpointAddress, -, h⟩ := bind_eq_ok.mp h
    obtain ⟨framesPerTransaction, -, h⟩ := bind_eq_ok.mp h
    cases h
    exact hname.symm
  split at h
  · rename_i hname
    obtain ⟨channelAddress, -, h⟩ := bind_eq_ok.mp h
    obtain ⟨bandwidth, -, h⟩ := bind_eq_ok.mp h
    cases h
    exact hname.symm
  split at h
  · rename_i hname
    obtain ⟨pin, -, h⟩ := bind_eq_ok.mp h
    obtain ⟨bandwidth, -, h⟩ := bind_eq_ok.mp h
    split at h
    · cases h
      exact hname.symm
    · nomatch h
  · nomatch h

/-- A socket is on the network if its element is named so. -/
theorem isNetwork_readSocket {socket : SocketDecl} (h : site.readSocket e = .ok socket) :
    socket.isNetwork = true ↔ e.name = Schema.networkSocket := by
  rw [← element_readSocket h]
  cases socket <;> simp [SocketDecl.isNetwork, SocketDecl.element] <;> decide

/-- An element with this name is read as a network socket that is in no fan. -/
theorem readSocket_network (name : e.name = Schema.networkSocket) {socket : SocketDecl} :
    site.readSocket e = .ok socket ↔
      ∃ d, site.readNetwork false e = .ok d ∧ socket = .network d := by
  unfold readSocket
  rw [if_pos name, bind_eq_ok]
  simp only [pure_eq_ok, Except.ok.injEq, eq_comm]

/-- Only elements that declare sockets are read as sockets. -/
theorem name_of_readSocket {socket : SocketDecl} (h : site.readSocket e = .ok socket) :
    e.name ∈ Schema.socketNames := (succeeds_readSocket.mp ⟨socket, h⟩).name_mem

/-- A branch is a network socket, and the link of its connection is free. -/
theorem readBranch_eq_ok {fan : Element} {branch : NetworkDecl} :
    site.readBranch fan e = .ok branch ↔ e.name = Schema.networkSocket ∧
      site.readNetwork true e = .ok branch ∧ site.linkTaken = false := by
  unfold readBranch
  by_cases hname : e.name = Schema.networkSocket
  · rw [if_neg (not_not.mpr hname), bind_eq_ok]
    simp only [bind_eq_ok, checkLink_eq_ok, hname, true_and]
    constructor
    · rintro ⟨decl, hread, u, hfree, h⟩
      cases h
      exact ⟨hread, hfree⟩
    · rintro ⟨hread, hfree⟩
      exact ⟨branch, hread, (), hfree, rfl⟩
  · rw [if_pos hname]
    simp [hname]

/-- **Branches**: the children of a fan are read one by one, each a network socket. -/
theorem readBranches_eq_ok {fan : Element} {branches : List NetworkDecl} :
    site.readBranches fan = .ok branches ↔ List.Forall₂ (fun e branch =>
      e.name = Schema.networkSocket ∧ site.readNetwork true e = .ok branch ∧
        site.linkTaken = false) fan.children branches := by
  unfold readBranches
  simp only [mapM_eq_ok, readBranch_eq_ok]

/-- Among network sockets there is one if there is anything. -/
theorem succeeds_countChildren {fan : Element} {branches : List NetworkDecl}
    (h : site.readBranches fan = .ok branches) :
    Succeeds (fan.countChildren Schema.networkSocket true) ↔ fan.children ≠ [] := by
  have hall : fan.childrenNamed Schema.networkSocket = fan.children := by
    unfold Element.childrenNamed
    rw [List.filter_eq_self]
    intro e he
    obtain ⟨branch, -, hname, -⟩ := exists_of_forall₂ (readBranches_eq_ok.mp h).flip he
    simp [hname]
  unfold Element.countChildren
  rw [hall]
  cases fan.children with
  | nil => simp [not_succeeds_error]
  | cons c cs => simp [succeeds_ok]

/-- A splitter is read from its own attribute and its branches, of which there is one at least. -/
theorem readFanOut_eq_ok {input : SocketDecl} {wiring : Wiring} :
    site.readFanOut input e = .ok wiring ↔ ∃ bytesPerFrame branches,
      e.word Schema.bytesPerFrame = .ok bytesPerFrame ∧ e.children ≠ [] ∧
        site.readBranches e = .ok branches ∧ wiring = .fanOut input bytesPerFrame branches := by
  unfold readFanOut
  constructor
  · intro h
    obtain ⟨bytesPerFrame, hbytes, h⟩ := bind_eq_ok.mp h
    obtain ⟨n, hn, h⟩ := bind_eq_ok.mp h
    obtain ⟨branches, hbranches, h⟩ := bind_eq_ok.mp h
    cases h
    exact ⟨bytesPerFrame, branches, hbytes, (succeeds_countChildren hbranches).mp ⟨n, hn⟩,
      hbranches, rfl⟩
  · rintro ⟨bytesPerFrame, branches, hbytes, hne, hbranches, rfl⟩
    obtain ⟨n, hn⟩ := (succeeds_countChildren hbranches).mpr hne
    rw [hbytes, ok_bind, hn, ok_bind, hbranches]
    rfl

/-- A combiner is read when its output is, from what the combiner itself holds. -/
theorem readFanIn_eq_ok {combiner : Element} {wiring : Wiring} :
    site.readFanIn combiner e = .ok wiring ↔ ∃ output bytesPerFrame branches,
      site.readSocket e = .ok output ∧ combiner.word Schema.bytesPerFrame = .ok bytesPerFrame ∧
        site.readBranches combiner = .ok branches ∧
        wiring = .fanIn bytesPerFrame branches output := by
  unfold readFanIn
  constructor
  · intro h
    obtain ⟨output, houtput, h⟩ := bind_eq_ok.mp h
    obtain ⟨bytesPerFrame, hbytes, h⟩ := bind_eq_ok.mp h
    obtain ⟨branches, hbranches, h⟩ := bind_eq_ok.mp h
    cases h
    exact ⟨output, bytesPerFrame, branches, houtput, hbytes, hbranches, rfl⟩
  · rintro ⟨output, bytesPerFrame, branches, houtput, hbytes, hbranches, rfl⟩
    rw [houtput, ok_bind, hbytes, ok_bind, hbranches]
    rfl

end Site

/-! ## Children, one by one -/

namespace Progress

variable {site : Site} {p p' : Progress} {e : Element} {es : List Element} {wiring : Wiring}

/-- What a child makes of what was read before it. -/
inductive Takes (site : Site) (e : Element) : Progress → Progress → Prop
  /-- The first socket is the input. -/
  | input {i : SocketDecl} (read : site.readSocket e = .ok i) : Takes site e empty (input i)
  /-- The second socket is the output. -/
  | output {i o : SocketDecl} (read : site.readSocket e = .ok o) :
      Takes site e (input i) (both i o)
  /-- A splitter stands in the place of the output. -/
  | splitter {i : SocketDecl} {w : Wiring} (name : e.name = Schema.splitter)
      (read : site.readFanOut i e = .ok w) : Takes site e (input i) (fanned w)
  /-- A combiner stands in the place of the input; its output is still to come. -/
  | combiner (name : e.name = Schema.combiner)
      (counted : Succeeds (e.countChildren Schema.networkSocket true)) :
      Takes site e empty (combining e)
  /-- The output of a combiner. -/
  | combined {c : Element} {w : Wiring} (read : site.readFanIn c e = .ok w) :
      Takes site e (combining c) (fanned w)

/-- What declares a socket is taken in as a socket. -/
theorem add_socket (h : e.name ∈ Schema.socketNames) : p.add site e = p.addSocket site e := by
  have hne : ∀ name : String, name ∉ Schema.socketNames → e.name ≠ name := by
    rintro name hname rfl
    exact hname h
  unfold add
  rw [if_neg (hne _ (by decide)), if_neg (hne _ (by decide))]

/-- What is accepted is taken in. -/
theorem takes_of_add (h : p.add site e = .ok p') : p.Takes site e p' := by
  unfold add at h
  split at h
  · rename_i name
    cases p with
    | input i =>
      obtain ⟨w, hread, h⟩ := bind_eq_ok.mp h
      cases h
      exact .splitter name hread
    | _ => nomatch h
  split at h
  · rename_i name
    cases p with
    | empty =>
      obtain ⟨n, hn, h⟩ := bind_eq_ok.mp h
      cases h
      exact .combiner name ⟨n, hn⟩
    | _ => nomatch h
  · cases p with
    | empty =>
      obtain ⟨i, hread, h⟩ := bind_eq_ok.mp h
      cases h
      exact .input hread
    | input i =>
      obtain ⟨o, hread, h⟩ := bind_eq_ok.mp h
      cases h
      exact .output hread
    | combining c =>
      obtain ⟨w, hread, h⟩ := bind_eq_ok.mp h
      cases h
      exact .combined hread
    | _ => nomatch h

/-- **The next child** is accepted exactly if it can be taken in. -/
theorem add_eq_ok : p.add site e = .ok p' ↔ p.Takes site e p' := by
  refine ⟨takes_of_add, fun h => ?_⟩
  cases h with
  | input read =>
    rw [add_socket (Site.name_of_readSocket read), addSocket, read]
    rfl
  | output read =>
    rw [add_socket (Site.name_of_readSocket read), addSocket, read]
    rfl
  | splitter name read =>
    rw [add, if_pos name, addSplitter, read]
    rfl
  | combiner name counted =>
    obtain ⟨n, hn⟩ := counted
    rw [add, if_neg (by rw [name]; decide), if_pos name, addCombiner, hn]
    rfl
  | combined read =>
    obtain ⟨output, -, -, houtput, -⟩ := Site.readFanIn_eq_ok.mp read
    rw [add_socket (Site.name_of_readSocket houtput), addSocket, read]
    rfl

/-- Takes in the children that are left, and ends. -/
def run (site : Site) (p : Progress) (es : List Element) : Except CompileError Wiring :=
  es.foldlM (add site) p >>= finish site

theorem run_nil : p.run site [] = p.finish site := rfl

/-- The children are read one after the other. -/
theorem run_cons : p.run site (e :: es) = p.add site e >>= fun p => p.run site es := by
  unfold run
  rw [List.foldlM_cons]
  cases p.add site e <;> rfl

/-- The run goes on from what its first child makes. -/
theorem run_cons_eq_ok : p.run site (e :: es) = .ok wiring ↔
    ∃ p', p.Takes site e p' ∧ p'.run site es = .ok wiring := by
  rw [run_cons, bind_eq_ok]
  simp only [add_eq_ok]

/-- Nothing comes behind a fan. -/
theorem run_fanned {w : Wiring} : (fanned w).run site es = .ok wiring ↔ es = [] ∧ wiring = w := by
  cases es with
  | nil => simp [run_nil, finish, eq_comm]
  | cons e es =>
    rw [run_cons_eq_ok]
    constructor
    · rintro ⟨p, htakes, -⟩
      cases htakes
    · rintro ⟨hes, -⟩
      nomatch hes

/-- Nothing comes behind two sockets. -/
theorem run_both {i o : SocketDecl} :
    (both i o).run site es = .ok wiring ↔ es = [] ∧ wiring = .plain i o := by
  cases es with
  | nil => simp [run_nil, finish, eq_comm]
  | cons e es =>
    rw [run_cons_eq_ok]
    constructor
    · rintro ⟨p, htakes, -⟩
      cases htakes
    · rintro ⟨hes, -⟩
      nomatch hes

/-- Behind a combiner comes one socket. -/
theorem run_combining {combiner : Element} : (combining combiner).run site es = .ok wiring ↔
    ∃ e, es = [e] ∧ site.readFanIn combiner e = .ok wiring := by
  cases es with
  | nil => simp [run_nil, finish]
  | cons e es =>
    rw [run_cons_eq_ok]
    constructor
    · rintro ⟨p, htakes, hrun⟩
      cases htakes with
      | combined read =>
        obtain ⟨rfl, rfl⟩ := run_fanned.mp hrun
        exact ⟨e, rfl, read⟩
    · rintro ⟨e', hes, hread⟩
      cases hes
      exact ⟨fanned wiring, .combined hread, run_fanned.mpr ⟨rfl, rfl⟩⟩

/-- Behind an input socket comes an output socket or a splitter. -/
theorem run_input {i : SocketDecl} : (input i).run site es = .ok wiring ↔
    ∃ e, es = [e] ∧ ((∃ o, site.readSocket e = .ok o ∧ wiring = .plain i o) ∨
      (e.name = Schema.splitter ∧ site.readFanOut i e = .ok wiring)) := by
  cases es with
  | nil => simp [run_nil, finish]
  | cons e es =>
    rw [run_cons_eq_ok]
    constructor
    · rintro ⟨p, htakes, hrun⟩
      cases htakes with
      | output read =>
        obtain ⟨rfl, rfl⟩ := run_both.mp hrun
        exact ⟨e, rfl, .inl ⟨_, read, rfl⟩⟩
      | splitter name read =>
        obtain ⟨rfl, rfl⟩ := run_fanned.mp hrun
        exact ⟨e, rfl, .inr ⟨name, read⟩⟩
    · rintro ⟨e', hes, ⟨o, hread, rfl⟩ | ⟨hname, hread⟩⟩
      · cases hes
        exact ⟨both i o, .output hread, run_both.mpr ⟨rfl, rfl⟩⟩
      · cases hes
        exact ⟨fanned wiring, .splitter hname hread, run_fanned.mpr ⟨rfl, rfl⟩⟩

/-- First comes an input socket or a combiner. -/
theorem run_empty : empty.run site es = .ok wiring ↔ ∃ e rest, es = e :: rest ∧
    ((∃ i, site.readSocket e = .ok i ∧ (input i).run site rest = .ok wiring) ∨
      (e.name = Schema.combiner ∧ Succeeds (e.countChildren Schema.networkSocket true) ∧
        (combining e).run site rest = .ok wiring)) := by
  cases es with
  | nil => simp [run_nil, finish]
  | cons e es =>
    rw [run_cons_eq_ok]
    constructor
    · rintro ⟨p, htakes, hrun⟩
      refine ⟨e, es, rfl, ?_⟩
      cases htakes with
      | input read => exact .inl ⟨_, read, hrun⟩
      | combiner name counted => exact .inr ⟨name, counted, hrun⟩
    · rintro ⟨e', rest, hes, ⟨i, hread, hrun⟩ | ⟨hname, hcounted, hrun⟩⟩
      · cases hes
        exact ⟨input i, .input hread, hrun⟩
      · cases hes
        exact ⟨combining e, .combiner hname hcounted, hrun⟩

end Progress

/-! ## Whole elements -/

/-- How the children of a connection element are wired. -/
inductive Site.Wires (site : Site) : Wiring → Prop
  /-- Two sockets. -/
  | plain {i o : Element} {input output : SocketDecl} (children : site.element.children = [i, o])
      (readsInput : site.readSocket i = .ok input) (readsOutput : site.readSocket o = .ok output) :
      Wires site (.plain input output)
  /-- A socket and a splitter. -/
  | fanOut {i splitter : Element} {input : SocketDecl} {bytesPerFrame : UInt16}
      {branches : List NetworkDecl} (children : site.element.children = [i, splitter])
      (readsInput : site.readSocket i = .ok input) (name : splitter.name = Schema.splitter)
      (bytes : splitter.word Schema.bytesPerFrame = .ok bytesPerFrame)
      (holds : splitter.children ≠ []) (readsBranches : site.readBranches splitter = .ok branches) :
      Wires site (.fanOut input bytesPerFrame branches)
  /-- A combiner and a socket. -/
  | fanIn {combiner o : Element} {output : SocketDecl} {bytesPerFrame : UInt16}
      {branches : List NetworkDecl} (children : site.element.children = [combiner, o])
      (name : combiner.name = Schema.combiner) (holds : combiner.children ≠ [])
      (readsOutput : site.readSocket o = .ok output)
      (bytes : combiner.word Schema.bytesPerFrame = .ok bytesPerFrame)
      (readsBranches : site.readBranches combiner = .ok branches) :
      Wires site (.fanIn bytesPerFrame branches output)

/-- **The children** of a connection element are read exactly as they are wired. -/
theorem Progress.run_eq_ok {site : Site} {wiring : Wiring} :
    empty.run site site.element.children = .ok wiring ↔ site.Wires wiring := by
  rw [run_empty]
  constructor
  · -- the first child is a socket, before a socket or a splitter, or it is a combiner before a
    -- socket
    rintro ⟨first, rest, hchildren, ⟨i, hi, hrun⟩ | ⟨hcombiner, hcount, hrun⟩⟩
    · obtain ⟨second, rfl, ⟨o, ho, rfl⟩ | ⟨hsplitter, hread⟩⟩ := run_input.mp hrun
      · exact .plain hchildren hi ho
      · obtain ⟨bytesPerFrame, branches, hbytes, hne, hbranches, rfl⟩ :=
          Site.readFanOut_eq_ok.mp hread
        exact .fanOut hchildren hi hsplitter hbytes hne hbranches
    · obtain ⟨second, rfl, hread⟩ := run_combining.mp hrun
      obtain ⟨output, bytesPerFrame, branches, ho, hbytes, hbranches, rfl⟩ :=
        Site.readFanIn_eq_ok.mp hread
      exact .fanIn hchildren hcombiner ((Site.succeeds_countChildren hbranches).mp hcount) ho hbytes
        hbranches
  · intro h
    cases h with
    | @plain i o input output children readsInput readsOutput =>
      refine ⟨i, [o], children, .inl ⟨input, readsInput, ?_⟩⟩
      exact run_input.mpr ⟨o, rfl, .inl ⟨output, readsOutput, rfl⟩⟩
    | @fanOut i splitter input bytesPerFrame branches children readsInput name bytes holds
        readsBranches =>
      refine ⟨i, [splitter], children, .inl ⟨input, readsInput, ?_⟩⟩
      refine run_input.mpr ⟨splitter, rfl, .inr ⟨name, ?_⟩⟩
      exact Site.readFanOut_eq_ok.mpr ⟨bytesPerFrame, branches, bytes, holds, readsBranches, rfl⟩
    | @fanIn combiner o output bytesPerFrame branches children name holds readsOutput bytes
        readsBranches =>
      refine ⟨combiner, [o], children,
        .inr ⟨name, (Site.succeeds_countChildren readsBranches).mpr holds, ?_⟩⟩
      refine run_combining.mpr ⟨o, rfl, ?_⟩
      exact Site.readFanIn_eq_ok.mpr
        ⟨output, bytesPerFrame, branches, readsOutput, bytes, readsBranches, rfl⟩

/-- **Connection elements** are read exactly if their children are wired. -/
theorem ConnectionDecl.atSite_eq_ok {site : Site} {d : ConnectionDecl} :
    ConnectionDecl.atSite site = .ok d ↔ ∃ wiring, site.Wires wiring ∧
      d = ⟨site.node, site.style, site.link, site.element.line, wiring⟩ := by
  have hrun : ConnectionDecl.atSite site = (Progress.empty.run site site.element.children).map
      fun wiring => ⟨site.node, site.style, site.link, site.element.line, wiring⟩ := by
    unfold ConnectionDecl.atSite Progress.run
    cases site.element.children.foldlM (Progress.add site) .empty with
    | error fault => rfl
    | ok progress =>
      simp only [ok_bind]
      cases progress.finish site <;> rfl
  rw [hrun, map_eq_ok]
  exact exists_congr fun wiring => and_congr Progress.run_eq_ok eq_comm

end MediaNetwork
