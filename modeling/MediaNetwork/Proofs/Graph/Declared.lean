/-
  What a connection element that was read is known to declare.

  The reader goes over the children of a connection and keeps a `Progress`.  `Progress.Sane` is
  what every step of it keeps (`sane_add`); at the end it says that the stream sockets belong to
  the stream port of the site, that a fan has a branch, and that no earlier connection has the link
  of a fan (`atSite_spec`).
-/
import MediaNetwork.Proofs.Connection.Reading
import MediaNetwork.Proofs.Graph.Layout

namespace MediaNetwork

open MediaNetwork.Markup MediaNetwork.Outcome

/-! ## Sockets -/

theorem fits_readSocket {site : Site} {e : Element} {socket : SocketDecl}
    (h : site.readSocket e = .ok socket) : socket.Fits site.stream := by
  unfold Site.readSocket at h
  split at h
  · obtain ⟨decl, -, h⟩ := bind_eq_ok.mp h
    cases h
    trivial
  split at h
  · obtain ⟨endpointAddress, -, h⟩ := bind_eq_ok.mp h
    obtain ⟨framesPerTransaction, -, h⟩ := bind_eq_ok.mp h
    cases h
    trivial
  split at h
  · obtain ⟨channelAddress, -, h⟩ := bind_eq_ok.mp h
    obtain ⟨bandwidth, -, h⟩ := bind_eq_ok.mp h
    cases h
    trivial
  split at h
  · obtain ⟨pin, -, h⟩ := bind_eq_ok.mp h
    obtain ⟨bandwidth, -, h⟩ := bind_eq_ok.mp h
    split at h
    · rename_i ports hports
      cases h
      exact hports
    · nomatch h
  · nomatch h

/-! ## Branches -/

/-- A fan that holds anything has a branch, and its link is free. -/
theorem readBranches_spec {site : Site} {fan : Element} {branches : List NetworkDecl}
    (h : site.readBranches fan = .ok branches) (hfan : fan.children ≠ []) :
    branches ≠ [] ∧ site.linkTaken = false := by
  obtain ⟨e, es, hes⟩ := List.exists_cons_of_ne_nil hfan
  have hall := Site.readBranches_eq_ok.mp h
  rw [hes] at hall
  cases hall with
  | cons hbranch => exact ⟨List.cons_ne_nil _ _, hbranch.2.2⟩

theorem children_ne_nil_of_countChildren {e : Element} {name : String} {n : Nat}
    (h : e.countChildren name true = .ok n) : e.children ≠ [] := by
  intro hnil
  simp [Element.countChildren, Element.childrenNamed, hnil] at h

theorem readFanOut_spec {site : Site} {input : SocketDecl} {e : Element} {wiring : Wiring}
    (hi : input.Fits site.stream) (h : site.readFanOut input e = .ok wiring) :
    wiring.Fits site.stream ∧ site.linkTaken = false := by
  obtain ⟨bytesPerFrame, branches, -, hfan, hbranches, rfl⟩ := Site.readFanOut_eq_ok.mp h
  obtain ⟨hne, hfree⟩ := readBranches_spec hbranches hfan
  exact ⟨⟨hi, hne⟩, hfree⟩

theorem readFanIn_spec {site : Site} {combiner e : Element} {wiring : Wiring}
    (hc : combiner.children ≠ []) (h : site.readFanIn combiner e = .ok wiring) :
    wiring.Fits site.stream ∧ site.linkTaken = false := by
  obtain ⟨output, bytesPerFrame, branches, ho, -, hbranches, rfl⟩ := Site.readFanIn_eq_ok.mp h
  obtain ⟨hne, hfree⟩ := readBranches_spec hbranches hc
  exact ⟨⟨fits_readSocket ho, hne⟩, hfree⟩

/-! ## The children of a connection -/

/-- What is known of a connection whose children were read so far. -/
def Progress.Sane (site : Site) : Progress → Prop
  | empty => True
  | input i => i.Fits site.stream
  | both i o => i.Fits site.stream ∧ o.Fits site.stream
  | combining combiner => combiner.children ≠ []
  | fanned wiring => wiring.Fits site.stream ∧ site.linkTaken = false

/-- The next child keeps it. -/
theorem Progress.sane_add {site : Site} {p p' : Progress} {e : Element} (hp : p.Sane site)
    (h : p.add site e = .ok p') : p'.Sane site := by
  cases add_eq_ok.mp h with
  | input read => exact fits_readSocket read
  | output read => exact ⟨hp, fits_readSocket read⟩
  | splitter name read => exact readFanOut_spec hp read
  | combiner name counted =>
    obtain ⟨n, hn⟩ := counted
    exact children_ne_nil_of_countChildren hn
  | combined read => exact readFanIn_spec hp read

/-- What is known of a wiring that was read: its stream sockets stand on the stream port, a fan has
    branches, and the link of a fan is free. -/
def Wiring.Sane (site : Site) : Wiring → Prop
  | plain input output => input.Fits site.stream ∧ output.Fits site.stream
  | wiring => wiring.Fits site.stream ∧ site.linkTaken = false

theorem Progress.finish_spec {site : Site} {p : Progress} {wiring : Wiring} (hp : p.Sane site)
    (h : p.finish site = .ok wiring) : wiring.Sane site := by
  cases p with
  | fanned w =>
    cases h
    cases wiring with
    | plain input output => exact ⟨hp.1.1, hp.1.2.1⟩
    | fanOut input bytesPerFrame branches => exact hp
    | fanIn bytesPerFrame branches output => exact hp
  | both i o =>
    cases h
    exact hp
  | _ => nomatch h

/-- **What a connection that was read declares.** -/
theorem ConnectionDecl.atSite_spec {site : Site} {d : ConnectionDecl}
    (h : ConnectionDecl.atSite site = .ok d) :
    d.node = site.node ∧ d.link = site.link ∧ d.wiring.Sane site := by
  obtain ⟨progress, hp, h⟩ := bind_eq_ok.mp h
  obtain ⟨wiring, hw, h⟩ := bind_eq_ok.mp h
  cases h
  have hstart : Progress.empty.Sane site := trivial
  have hsane := foldlM_keeps (Progress.Sane site) (fun _ _ _ _ => Progress.sane_add) hstart hp
  exact ⟨rfl, rfl, Progress.finish_spec hsane hw⟩

end MediaNetwork
