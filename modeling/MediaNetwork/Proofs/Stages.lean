/-
  The stages of a compilation that succeeded.

  A document compiles exactly if its text is one element and every stage succeeds, and then each
  part of the configuration is the result of one stage (`compileElement_eq_ok`).  Linking scripts
  changes nothing of a node but its script (`linkScripts_keeps`), so what is known of the nodes of
  a graph is known of the nodes of the configuration.

  `sampleDocument` is a small document with something of everything: a stream port, a splitter and
  a combiner, a link with its driver, a script with a pause.  It shows that what is said about
  documents that compile is said about something.  The document is read by `cbv`, which goes by the
  equations that the library has for whatever the reader calls.
-/
import Mathlib
import MediaNetwork.Proofs.Linking

namespace MediaNetwork

open MediaNetwork.Markup MediaNetwork.Outcome

/-- A text compiles if it is one element and the element compiles. -/
theorem compile_eq_ok {text : String} {c : Configuration} :
    compile text = .ok c ↔
      ∃ root, Element.ofText text = .ok root ∧ compileElement root = .ok c := by
  unfold compile readTree
  cases Element.ofText text with
  | error fault => simp
  | ok root => simp

/-- An element compiles if every stage succeeds. -/
theorem compileElement_eq_ok {root : Element} {c : Configuration} :
    compileElement root = .ok c ↔
      ∃ b scripts, readHeader root = .ok c.packetBandwidth ∧ buildNodes root = .ok b ∧
        Script.ofElements (root.childrenNamed Schema.script) = .ok scripts ∧
        linkScripts scripts b.nodes.toList = .ok c.nodes ∧
        Route.assemble b.arena b.endpoints.toList = .ok c.routes ∧
        DriverRecord.derive b.arena b.links.toList (root.childrenNamed Schema.driver) =
          .ok c.drivers ∧
        c.endpoints = b.endpoints.toList ∧ c.arena = b.arena := by
  unfold compileElement assemble
  constructor
  · intro h
    obtain ⟨bandwidth, hheader, h⟩ := bind_eq_ok.mp h
    obtain ⟨b, hb, h⟩ := bind_eq_ok.mp h
    obtain ⟨scripts, hscripts, h⟩ := bind_eq_ok.mp h
    obtain ⟨nodes, hnodes, h⟩ := bind_eq_ok.mp h
    obtain ⟨routes, hroutes, h⟩ := bind_eq_ok.mp h
    obtain ⟨drivers, hdrivers, h⟩ := bind_eq_ok.mp h
    cases h
    exact ⟨b, scripts, hheader, hb, hscripts, hnodes, hroutes, hdrivers, rfl, rfl⟩
  · -- the other way round the stages are run again, each with the result it is known to have
    rintro ⟨b, scripts, hheader, hb, hscripts, hnodes, hroutes, hdrivers, hends, harena⟩
    obtain ⟨bandwidth, nodes, endpoints, routes, drivers, arena⟩ := c
    cases hends
    cases harena
    simp only [hheader, hb, hscripts, hnodes, hroutes, hdrivers, ok_bind, pure_eq_ok]

/-! ## Scripts -/

/-- The node is the same but for its script. -/
def Node.Relinked (n m : Node) : Prop :=
  m.address = n.address ∧ m.scriptName = n.scriptName ∧ m.ports = n.ports

theorem linkScripts_eq_ok {scripts : List Script} {nodes linked : List Node}
    (h : linkScripts scripts nodes = .ok linked) :
    List.Forall₂ (fun n m => linkScript scripts n = .ok m) nodes linked := by
  rw [linkScripts_eq] at h
  obtain ⟨result, hresult, h⟩ := bind_eq_ok.mp h
  split at h
  · nomatch h
  · cases h
    exact mapM_eq_ok.mp hresult

/-- Linking gives a node its script and changes nothing else of it. -/
theorem linkScripts_keeps {scripts : List Script} {nodes linked : List Node}
    (h : linkScripts scripts nodes = .ok linked) : List.Forall₂ Node.Relinked nodes linked := by
  refine (linkScripts_eq_ok h).imp fun n m hm => ?_
  unfold linkScript at hm
  split at hm
  · cases hm
    exact ⟨rfl, rfl, rfl⟩
  · split at hm
    · cases hm
      exact ⟨rfl, rfl, rfl⟩
    · nomatch hm

/-! ## A document -/

/-- A document with something of everything, in short pieces. -/
def sampleDocument : String :=
  String.ofList (["<Unicens AsyncBandwidth='5'>", "<Node Address='512' Script='s'>",
    "<StreamPort ClockConfig='64Fs' ", "DataAlignment='Seq'/>", "<SyncConnection>",
    "<StreamSocket StreamPinID='SRXA0' ", "Bandwidth='4'/>", "<Splitter BytesPerFrame='4'>",
    "<NetworkSocket Bandwidth='4' ", "Route='a' Offset='0'/>", "<NetworkSocket Bandwidth='4' ",
    "Route='b' Offset='9'/>", "</Splitter></SyncConnection>", "<AVPConnection Link='l'>",
    "<NetworkSocket Bandwidth='4' Route='a'/>", "<USBSocket EndpointAddress='0x81' ",
    "FramesPerTransaction='2'/>", "</AVPConnection>", "<SyncConnection>",
    "<Combiner BytesPerFrame='4'>", "<NetworkSocket Bandwidth='4' ",
    "Route='b' Offset='9'/></Combiner>", "<MediaLBSocket ChannelAddress='10' ",
    "Bandwidth='4'/>", "</SyncConnection></Node>", "<Script Name='s'><Pause WaitTime='7'/>",
    "<GPIOPortCreate DebounceTime='0'/>", "</Script><Driver Link='l'>",
    "<Cdev BufferCount='1' BufferSize='2'/>", "</Driver></Unicens>"].flatMap String.toList)

/-- The tree of the document. -/
def sampleRoot : Element :=
  ⟨"Unicens", [("AsyncBandwidth", "5")], [
    ⟨"Node", [("Address", "512"), ("Script", "s")], [
      ⟨"StreamPort", [("ClockConfig", "64Fs"), ("DataAlignment", "Seq")], [], 1⟩,
      ⟨"SyncConnection", [], [
        ⟨"StreamSocket", [("StreamPinID", "SRXA0"), ("Bandwidth", "4")], [], 1⟩,
        ⟨"Splitter", [("BytesPerFrame", "4")], [
          ⟨"NetworkSocket", [("Bandwidth", "4"), ("Route", "a"), ("Offset", "0")], [], 1⟩,
          ⟨"NetworkSocket", [("Bandwidth", "4"), ("Route", "b"), ("Offset", "9")], [], 1⟩], 1⟩],
        1⟩,
      ⟨"AVPConnection", [("Link", "l")], [
        ⟨"NetworkSocket", [("Bandwidth", "4"), ("Route", "a")], [], 1⟩,
        ⟨"USBSocket", [("EndpointAddress", "0x81"), ("FramesPerTransaction", "2")], [], 1⟩], 1⟩,
      ⟨"SyncConnection", [], [
        ⟨"Combiner", [("BytesPerFrame", "4")], [
          ⟨"NetworkSocket", [("Bandwidth", "4"), ("Route", "b"), ("Offset", "9")], [], 1⟩], 1⟩,
        ⟨"MediaLBSocket", [("ChannelAddress", "10"), ("Bandwidth", "4")], [], 1⟩], 1⟩], 1⟩,
    ⟨"Script", [("Name", "s")], [
      ⟨"Pause", [("WaitTime", "7")], [], 1⟩,
      ⟨"GPIOPortCreate", [("DebounceTime", "0")], [], 1⟩], 1⟩,
    ⟨"Driver", [("Link", "l")], [
      ⟨"Cdev", [("BufferCount", "1"), ("BufferSize", "2")], [], 1⟩], 1⟩], 1⟩

theorem ofText_sampleDocument : Element.ofText sampleDocument = .ok sampleRoot := by
  unfold Element.ofText sampleDocument
  simp only [String.toList_ofList]
  cbv

/-- The document compiles, to four endpoints, two routes and one driver record. -/
theorem compile_sampleDocument : ∃ c, compile sampleDocument = .ok c ∧
    (c.endpoints.length, c.routes.length, c.drivers.length) = (4, 2, 1) := by
  have h : (compileElement sampleRoot).map (fun c =>
      (c.endpoints.length, c.routes.length, c.drivers.length)) = .ok (4, 2, 1) := by
    decide +kernel
  obtain ⟨c, hc, hcounts⟩ := map_eq_ok.mp h
  exact ⟨c, compile_eq_ok.mpr ⟨sampleRoot, ofText_sampleDocument, hc⟩, hcounts⟩

end MediaNetwork
