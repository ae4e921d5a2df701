/-
  Printed connections read back.

  An element that a printed connection shows is read as the declaration `reprinted`
  (`atSite_printed`), and its name and its own attribute as the style of the connection
  (`ofElement?_printed`).  The lemmas follow the readers: a network socket, a socket, a branch of
  a fan, the children of a connection.

  `Site.Carries` is all a site must provide: the node and the style of the declaration, a free
  link, and a stream port for its stream sockets.
-/
import MediaNetwork.Proofs.Markup.Documents
import MediaNetwork.Proofs.Print.Attributes
import MediaNetwork.Proofs.Print.Declarations

namespace MediaNetwork

open MediaNetwork.Markup MediaNetwork.Markup.Element MediaNetwork.Outcome

/-! ## Sockets -/

/-- The attributes of a printed network socket. -/
theorem attributes_network {bandwidth : UInt16} {route : RouteDecl} {offset : Option UInt16}
    {e : Element} (h : (Configuration.printSocketKind offset (.network bandwidth route)).Shows e) :
    e.attribute? Schema.bandwidth = some (decimalWord bandwidth) ∧
      e.attribute? Schema.route = some route.name ∧
      e.attribute? Schema.isActive = (if route.active then none else some "false") ∧
      e.attribute? Schema.routeId = route.routeId.map hexWord ∧
      e.attribute? Schema.offset = offset.map decimalWord := by
  obtain ⟨-, hattributes, -⟩ := h
  unfold Element.attribute?
  rw [hattributes]
  cases route.active <;>
    simp [List.lookup_append, lookup_optional, List.lookup_cons, Schema.bandwidth, Schema.route,
      Schema.isActive, Schema.routeId, Schema.offset]

/-- A printed network socket is read with its offset, if the site reads the offset. -/
theorem readNetwork_printed {site : Site} {inFan : Bool} {bandwidth : UInt16} {route : RouteDecl}
    {offset : Option UInt16} {e : Element}
    (h : (Configuration.printSocketKind offset (.network bandwidth route)).Shows e)
    (hoffset : site.readOffset inFan e = .ok offset) :
    site.readNetwork inFan e = .ok ⟨bandwidth, route, offset⟩ := by
  obtain ⟨hbandwidth, hroute, hactive, hrouteId, -⟩ := attributes_network h
  obtain ⟨active, hflag, hget⟩ := flag?_written hactive
  simp only [Site.readNetwork, word_decimal hbandwidth, text_eq_ok.mpr hroute, hflag,
    word?_hex_map hrouteId, hoffset, ok_bind, pure_eq_ok, hget]

/-- Outside a fan every offset is read that the style has. -/
theorem readOffset_plain {site : Site} {offset : Option UInt16} {e : Element}
    (h : e.attribute? Schema.offset = offset.map decimalWord)
    (hstyle : ∀ packetSize, site.style = .avPacketized packetSize → offset = none) :
    site.readOffset false e = .ok offset := by
  unfold Site.readOffset
  cases hs : site.style with
  | avPacketized packetSize => rw [hstyle packetSize hs]
  | sync muteMode => exact word?_decimal_map h

/-- In a fan the offset is read that is printed for a branch. -/
theorem readOffset_branch {site : Site} {branch : NetworkDecl} {e : Element}
    (h : e.attribute? Schema.offset = (site.style.branchOffset branch).map decimalWord) :
    site.readOffset true e = .ok (site.style.branchOffset branch) := by
  unfold Site.readOffset
  cases hs : site.style with
  | avPacketized packetSize => rfl
  | sync muteMode =>
    rw [hs] at h
    rw [if_pos rfl, word_decimal h]
    rfl

/-- A printed socket is neither a splitter nor a combiner. -/
theorem name_printed {offset : Option UInt16} {s : SocketDecl} {e : Element}
    (h : (s.printed offset).Shows e) : e.name ≠ Schema.splitter ∧ e.name ≠ Schema.combiner := by
  cases s <;> rw [h.1] <;> decide

/-- A printed socket is read with the offset it was printed with. -/
theorem readSocket_printed {site : Site} {offset : Option UInt16} {s : SocketDecl} {e : Element}
    (h : (s.printed offset).Shows e) (hf : s.Fits site.stream)
    (hstyle : ∀ packetSize, site.style = .avPacketized packetSize → offset = none) :
    site.readSocket e = .ok (s.withOffset offset) := by
  unfold Site.readSocket
  cases s with
  | network decl =>
    obtain ⟨-, -, -, -, hoffset⟩ := attributes_network h
    rw [if_pos h.1, readNetwork_printed h (readOffset_plain hoffset hstyle)]
    rfl
  | usb endpointAddress framesPerTransaction =>
    obtain ⟨hname, hattributes, -⟩ := h
    rw [hname, if_neg (by decide), if_pos rfl, byte_hex (attribute?_of hattributes rfl),
      word_decimal (attribute?_of hattributes rfl)]
    rfl
  | mediaLb channelAddress bandwidth =>
    obtain ⟨hname, hattributes, -⟩ := h
    rw [hname, if_neg (by decide), if_neg (by decide), if_pos rfl,
      word_hex (attribute?_of hattributes rfl), word_decimal (attribute?_of hattributes rfl)]
    rfl
  | stream ports pin bandwidth =>
    obtain ⟨hname, hattributes, -⟩ := h
    have hstream : site.stream = some ports := hf
    rw [hname, if_neg (by decide), if_neg (by decide), if_neg (by decide), if_pos rfl,
      keyword_name readsBack_streamPin (attribute?_of hattributes rfl),
      word_decimal (attribute?_of hattributes rfl), hstream]
    rfl

/-! ## Branches -/

/-- The printed branches of a fan are read as branches, each with the offset of its kind. -/
theorem readBranches_printed {site : Site} {fan : Element} {branches : List NetworkDecl}
    (h : List.Forall₂ Printed.Shows
      (branches.map fun b => (SocketDecl.network b).printed (site.style.branchOffset b))
      fan.children) (hfree : site.linkTaken = false) :
    site.readBranches fan = .ok (branches.map site.style.reprinted) := by
  have hcheck : site.checkLink = .ok () := by
    rw [Site.checkLink, hfree]
    rfl
  rw [Site.readBranches, mapM_eq_ok, List.forall₂_map_right_iff]
  rw [List.forall₂_map_left_iff] at h
  refine h.flip.imp fun e branch hshows => ?_
  obtain ⟨-, -, -, -, hoffset⟩ := attributes_network hshows
  have hname : ¬ (e.name ≠ Schema.networkSocket) := not_not_intro hshows.1
  rw [Site.readBranch, if_neg hname, readNetwork_printed hshows (readOffset_branch hoffset),
    ok_bind, hcheck]
  rfl

/-- A fan with branches has network sockets. -/
theorem countChildren_printed {fan : Element} {branches : List NetworkDecl}
    {offset : NetworkDecl → Option UInt16}
    (h : List.Forall₂ Printed.Shows
      (branches.map fun b => (SocketDecl.network b).printed (offset b)) fan.children)
    (hne : branches ≠ []) :
    ∃ n, fan.countChildren Schema.networkSocket true = .ok n := by
  obtain ⟨branch, rest, rfl⟩ := List.exists_cons_of_ne_nil hne
  obtain ⟨e, es, hshows, -, hchildren⟩ := List.forall₂_cons_left_iff.mp h
  have hname : e.name = Schema.networkSocket := hshows.1
  unfold Element.countChildren Element.childrenNamed
  rw [hchildren]
  simp [hname]

/-! ## Connections -/

/-- What a site must provide for a declaration to be read at it. -/
structure Site.Carries (site : Site) (d : ConnectionDecl) : Prop where
  node : site.node = d.node
  style : site.style = d.style
  fits : d.wiring.Fits site.stream
  free : site.linkTaken = false

/-- An offset is only printed for synchronous data. -/
theorem plainOffset_eq_none {style : ConnectionStyle} {packetSize : IsocPacketSize}
    (h : style = .avPacketized packetSize) (input output : SocketDecl) :
    style.plainOffset input output = none := by
  rw [h]
  rfl

/-- The children of a site are read as a wiring. -/
def Site.ReadsAs (site : Site) (wiring : Wiring) : Prop :=
  ∃ progress, site.element.children.foldlM (Progress.add site) .empty = .ok progress ∧
    progress.finish site = .ok wiring

/-- Two sockets are read one after the other, and the offset stands on one of them. -/
theorem readsAs_plain {site : Site} {input output : SocketDecl}
    (hfits : (Wiring.plain input output).Fits site.stream)
    (h : List.Forall₂ Printed.Shows ((Wiring.plain input output).printed site.style)
      site.element.children) :
    site.ReadsAs ((Wiring.plain input output).reprinted site.style) := by
  obtain ⟨hin, hout, -⟩ := hfits
  obtain ⟨e₁, es, hshows₁, hrest, hchildren⟩ := List.forall₂_cons_left_iff.mp h
  obtain ⟨e₂, es', hshows₂, hnil, rfl⟩ := List.forall₂_cons_left_iff.mp hrest
  obtain rfl := List.forall₂_nil_left_iff.mp hnil
  have hread₁ := readSocket_printed hshows₁ hin fun packetSize hs => by
    rw [plainOffset_eq_none hs, ite_self]
  have hread₂ := readSocket_printed hshows₂ hout fun packetSize hs => by
    rw [plainOffset_eq_none hs, ite_self]
  obtain ⟨hsplitter₁, hcombiner₁⟩ := name_printed hshows₁
  obtain ⟨hsplitter₂, hcombiner₂⟩ := name_printed hshows₂
  refine ⟨.both
    (input.withOffset (if output.isNetwork then none else site.style.plainOffset input output))
    (output.withOffset (if output.isNetwork then site.style.plainOffset input output else none)),
    ?_, rfl⟩
  rw [hchildren]
  simp only [List.foldlM_cons, List.foldlM_nil, Progress.add, if_neg hsplitter₁,
    if_neg hcombiner₁, if_neg hsplitter₂, if_neg hcombiner₂, Progress.addSocket, hread₁, hread₂,
    ok_bind, pure_eq_ok]

section Wirings

variable {site : Site} (hfree : site.linkTaken = false)

include hfree

/-- An input is read, and then the splitter with its branches. -/
theorem readsAs_fanOut {input : SocketDecl} {bytesPerFrame : UInt16} {branches : List NetworkDecl}
    (hfits : (Wiring.fanOut input bytesPerFrame branches).Fits site.stream)
    (h : List.Forall₂ Printed.Shows
      ((Wiring.fanOut input bytesPerFrame branches).printed site.style) site.element.children) :
    site.ReadsAs ((Wiring.fanOut input bytesPerFrame branches).reprinted site.style) := by
  obtain ⟨hin, hne⟩ := hfits
  obtain ⟨e₁, es, hshows₁, hrest, hchildren⟩ := List.forall₂_cons_left_iff.mp h
  obtain ⟨e₂, es', hshows₂, hnil, rfl⟩ := List.forall₂_cons_left_iff.mp hrest
  obtain rfl := List.forall₂_nil_left_iff.mp hnil
  have hread₁ := readSocket_printed hshows₁ hin fun _ _ => rfl
  obtain ⟨hsplitter₁, hcombiner₁⟩ := name_printed hshows₁
  obtain ⟨hname, hattributes, hbranches⟩ := hshows₂
  rw [Printed.allShow_iff] at hbranches
  have hbytes : e₂.word Schema.bytesPerFrame = .ok bytesPerFrame :=
    word_decimal (attribute?_of hattributes rfl)
  obtain ⟨n, hcount⟩ := countChildren_printed hbranches hne
  refine ⟨.fanned ((Wiring.fanOut input bytesPerFrame branches).reprinted site.style), ?_, rfl⟩
  rw [hchildren]
  simp only [List.foldlM_cons, List.foldlM_nil, Progress.add, if_neg hsplitter₁,
    if_neg hcombiner₁, Progress.addSocket, hread₁, hname, if_true, Progress.addSplitter,
    Site.readFanOut, hbytes, hcount, readBranches_printed hbranches hfree, ok_bind, pure_eq_ok]
  rfl

/-- The combiner with its branches is read, and then the output. -/
theorem readsAs_fanIn {bytesPerFrame : UInt16} {branches : List NetworkDecl} {output : SocketDecl}
    (hfits : (Wiring.fanIn bytesPerFrame branches output).Fits site.stream)
    (h : List.Forall₂ Printed.Shows
      ((Wiring.fanIn bytesPerFrame branches output).printed site.style) site.element.children) :
    site.ReadsAs ((Wiring.fanIn bytesPerFrame branches output).reprinted site.style) := by
  obtain ⟨hout, hne⟩ := hfits
  obtain ⟨e₁, es, hshows₁, hrest, hchildren⟩ := List.forall₂_cons_left_iff.mp h
  obtain ⟨e₂, es', hshows₂, hnil, rfl⟩ := List.forall₂_cons_left_iff.mp hrest
  obtain rfl := List.forall₂_nil_left_iff.mp hnil
  obtain ⟨hname, hattributes, hbranches⟩ := hshows₁
  rw [Printed.allShow_iff] at hbranches
  have hbytes : e₁.word Schema.bytesPerFrame = .ok bytesPerFrame :=
    word_decimal (attribute?_of hattributes rfl)
  obtain ⟨n, hcount⟩ := countChildren_printed hbranches hne
  have hread₂ := readSocket_printed hshows₂ hout fun _ _ => rfl
  obtain ⟨hsplitter₂, hcombiner₂⟩ := name_printed hshows₂
  have hnot : ¬ (Schema.combiner = Schema.splitter) := by decide
  refine ⟨.fanned ((Wiring.fanIn bytesPerFrame branches output).reprinted site.style), ?_, rfl⟩
  rw [hchildren]
  simp only [List.foldlM_cons, List.foldlM_nil, Progress.add, hname, if_neg hnot, if_true,
    Progress.addCombiner, hcount, if_neg hsplitter₂, if_neg hcombiner₂, Progress.addSocket,
    Site.readFanIn, hread₂, hbytes, readBranches_printed hbranches hfree, ok_bind, pure_eq_ok]
  rfl

end Wirings

/-- The children of a printed connection are read as its wiring. -/
theorem readWiring_printed {site : Site} {d : ConnectionDecl} (hsite : site.Carries d)
    (h : List.Forall₂ Printed.Shows (d.wiring.printed d.style) site.element.children) :
    site.ReadsAs (d.wiring.reprinted d.style) := by
  have hfits := hsite.fits
  rw [← hsite.style] at h ⊢
  cases hw : d.wiring with
  | plain input output =>
    rw [hw] at h hfits
    exact readsAs_plain hfits h
  | fanOut input bytesPerFrame branches =>
    rw [hw] at h hfits
    exact readsAs_fanOut hsite.free hfits h
  | fanIn bytesPerFrame branches output =>
    rw [hw] at h hfits
    exact readsAs_fanIn hsite.free hfits h

/-- **Connections**: the element a printed connection shows declares the connection again. -/
theorem atSite_printed {site : Site} {d : ConnectionDecl} (hsite : site.Carries d)
    (h : d.printed.Shows site.element) :
    ConnectionDecl.atSite site = .ok (d.reprinted site.element.line) := by
  obtain ⟨-, hattributes, hchildren⟩ := h
  rw [Printed.allShow_iff] at hchildren
  obtain ⟨progress, hprogress, hfinish⟩ := readWiring_printed hsite hchildren
  have hlink : site.link = d.link := by
    rw [Site.link, attribute?_of hattributes rfl]
    cases d.style <;>
      simp [Configuration.connectionHead, ConnectionStyle.kind, List.lookup_cons, lookup_optional,
        Schema.muteMode, Schema.isocPacketSize, Schema.link]
  unfold ConnectionDecl.atSite
  rw [hprogress, ok_bind, hfinish, ok_bind, hlink, hsite.node, hsite.style]
  rfl

/-- The style of a printed connection. -/
theorem ofElement?_printed {d : ConnectionDecl} {e : Element} (h : d.printed.Shows e) :
    ConnectionStyle.ofElement? e = some (.ok d.style) := by
  obtain ⟨hname, hattributes, -⟩ := h
  unfold ConnectionStyle.ofElement?
  cases hs : d.style with
  | sync muteMode =>
    rw [hs] at hname hattributes
    have hmode : e.attribute? Schema.muteMode = some (MuteMode.keywords.name muteMode) :=
      attribute?_of hattributes rfl
    rw [hname]
    simp only [Configuration.connectionHead, ConnectionStyle.kind, if_true,
      keyword?_name readsBack_muteMode hmode, map_ok, Option.getD_some]
  | avPacketized packetSize =>
    rw [hs] at hname hattributes
    have hsize : e.attribute? Schema.isocPacketSize =
        some (IsocPacketSize.keywords.name packetSize) := attribute?_of hattributes rfl
    have hnot : ¬ (Schema.avpConnection = Schema.syncConnection) := by decide
    rw [hname]
    simp only [Configuration.connectionHead, ConnectionStyle.kind, if_neg hnot, if_true,
      keyword?_name readsBack_packetSize hsize, map_ok, Option.getD_some]

end MediaNetwork
