/-
  Elements written out and read back.

  An element can be laid out in several ways: with children it is a block, without it is a block or
  a leaf, and `Printed.Shows` says which prints are layouts of it.  Whatever the values of its
  attributes hold, each of its layouts is read back as this element but for its lines, if its names
  are those of the schema and no element has a key twice (`read_document`).

  The names of the schema are words (`isWord_of_mem_names`), so a layout of such an element is well
  named (`wellNamed_of_shows`) and is read as an element that it shows; and two elements that one
  layout shows are the same but for their lines (`sameButLines_of_shows`).  All three are inductions
  over the print together with the list of its children.
-/
import MediaNetwork.Proofs.Markup.Documents
import MediaNetwork.Schema

namespace MediaNetwork

open MediaNetwork.Markup MediaNetwork.Markup.Printed

/-! ## Names -/

namespace Schema

/-- The names of elements. -/
def elementNames : List String :=
  [unicens, node, script, driver, mediaLbPort, usbPort, streamPort, syncConnection, avpConnection,
    networkSocket, usbSocket, mediaLbSocket, streamSocket, splitter, combiner, pause, msgSend,
    gpioPortCreate, gpioPortPinMode, gpioPinState, i2cPortCreate, i2cPortWrite, i2cPortRead, cdev,
    v4l2, alsa]

/-- The names of attributes. -/
def attributeNames : List String :=
  [asyncBandwidth, address, script, clockConfig, physicalLayer, deviceInterfaces, streamingOutCount,
    streamingInCount, dataAlignment, muteMode, isocPacketSize, link, bandwidth, route, isActive,
    routeId, offset, endpointAddress, framesPerTransaction, channelAddress, streamPinId,
    bytesPerFrame, name, waitTime, fblockId, instanceId, functionId, opTypeRequest, opTypeResponse,
    payloadHex, debounceTime, pinConfiguration, mask, data, speed, mode, blockCount, timeout,
    length, bufferCount, bufferSize, channelCount, resolution]

/-- The names of the schema. -/
def names : List String := elementNames ++ attributeNames

theorem isWord_of_mem_names {name : String} (h : name ∈ names) : isWord name = true := by
  have hall : names.all isWord = true := by decide
  exact List.all_eq_true.mp hall name h

end Schema

namespace Markup

mutual

/-- The names of an element and of everything below it are of the schema, and no key is there
    twice. -/
def Element.OfSchema : Element → Prop
  | ⟨name, attributes, children, _⟩ =>
    (name ∈ Schema.names ∧ (∀ a ∈ attributes, a.1 ∈ Schema.names) ∧
      (attributes.map Prod.fst).Nodup) ∧ Element.AllOfSchema children

/-- The names of several elements are of the schema, and no key is there twice. -/
def Element.AllOfSchema : List Element → Prop
  | [] => True
  | e :: es => e.OfSchema ∧ Element.AllOfSchema es

end

/-! ## Layouts -/

namespace Printed

mutual

/-- Every element has a layout. -/
theorem exists_shows : (e : Element) → ∃ p : Printed, p.Shows e
  | ⟨name, attributes, children, line⟩ => by
    obtain ⟨ps, hps⟩ := exists_allShow children
    exact ⟨block name attributes ps, rfl, rfl, hps⟩

theorem exists_allShow : (es : List Element) → ∃ ps : List Printed, AllShow ps es
  | [] => ⟨[], rfl⟩
  | e :: es => by
    obtain ⟨p, hp⟩ := exists_shows e
    obtain ⟨ps, hps⟩ := exists_allShow es
    exact ⟨p :: ps, e, es, rfl, hp, hps⟩

end

theorem headOk_of_schema {name : String} {attributes : List (String × String)}
    (h : name ∈ Schema.names ∧ (∀ a ∈ attributes, a.1 ∈ Schema.names) ∧
      (attributes.map Prod.fst).Nodup) : HeadOk name attributes := by
  obtain ⟨hname, hkeys, hnodup⟩ := h
  exact ⟨Schema.isWord_of_mem_names hname,
    fun a ha => Schema.isWord_of_mem_names (hkeys a ha), hnodup⟩

mutual

/-- A layout of an element with names of the schema is well named. -/
theorem wellNamed_of_shows : (p : Printed) → {e : Element} → p.Shows e → e.OfSchema → p.WellNamed
  | leaf _ _, ⟨_, _, _, _⟩, ⟨hname, hattributes, _⟩, ⟨hhead, _⟩ => by
    cases hname
    cases hattributes
    exact headOk_of_schema hhead
  | block _ _ children, ⟨_, _, _, _⟩, ⟨hname, hattributes, hchildren⟩, ⟨hhead, hall⟩ => by
    cases hname
    cases hattributes
    exact ⟨headOk_of_schema hhead, allWellNamed_of_allShow children hchildren hall⟩

theorem allWellNamed_of_allShow : (ps : List Printed) → {es : List Element} → AllShow ps es →
    Element.AllOfSchema es → AllWellNamed ps
  | [], _, _, _ => trivial
  | p :: ps, _, ⟨e, es, rfl, he, hes⟩, ⟨hp, hps⟩ =>
    ⟨wellNamed_of_shows p he hp, allWellNamed_of_allShow ps hes hps⟩

end

mutual

/-- What one print shows is the same but for lines. -/
theorem sameButLines_of_shows : (p : Printed) → {e e' : Element} → p.Shows e → p.Shows e' →
    e.SameButLines e'
  | leaf name attributes, e, e', ⟨hname, hattributes, hchildren⟩,
      ⟨hname', hattributes', hchildren'⟩ => by
    refine Element.sameButLines_of (hname'.trans hname.symm)
      (hattributes'.trans hattributes.symm) ?_
    rw [hchildren, hchildren']
    exact .nil
  | block name attributes children, e, e', ⟨hname, hattributes, hchildren⟩,
      ⟨hname', hattributes', hchildren'⟩ =>
    Element.sameButLines_of (hname'.trans hname.symm) (hattributes'.trans hattributes.symm)
      (sameButLines_of_allShow children hchildren hchildren')

theorem sameButLines_of_allShow : (ps : List Printed) → {es es' : List Element} → AllShow ps es →
    AllShow ps es' → List.Forall₂ Element.SameButLines es es'
  | [], _, _, rfl, rfl => .nil
  | p :: ps, _, _, ⟨e, es, rfl, he, hes⟩, ⟨e', es', rfl, he', hes'⟩ =>
    .cons (sameButLines_of_shows p he he') (sameButLines_of_allShow ps hes hes')

end

end Printed

end Markup

/-- **Written and read**: an element with names of the schema can be laid out, and however it is
    laid out, the document is read back as the element but for its lines. -/
theorem read_document {e : Element} (he : e.OfSchema) :
    (∃ p : Printed, p.Shows e) ∧
    ∀ p : Printed, p.Shows e → ∃ e', readTree p.document = .ok e' ∧ e.SameButLines e' := by
  refine ⟨Printed.exists_shows e, fun p hp => ?_⟩
  obtain ⟨e', hread, hp'⟩ := Printed.ofText_document (Printed.wellNamed_of_shows p hp he)
  exact ⟨e', readTree_eq_ok.mpr hread, Printed.sameButLines_of_shows p hp hp'⟩

/-- An element whose values look like markup, one of its children without children of its own. -/
def awkwardElement : Element :=
  ⟨"Unicens", [("AsyncBandwidth", String.ofList "\"/><!-- '&lt;&amp' -->\n".toList)],
    [⟨"Node", [("Address", String.ofList "]]>&#0;<?é?>".toList), ("Script", "")],
      [⟨"Script", [], [], 3⟩], 2⟩, ⟨"Script", [("Name", String.ofList "\t&".toList)], [], 4⟩], 1⟩

/-- Its layout with one childless element as a block and one as a leaf. -/
def awkwardPrint : Printed :=
  .block "Unicens" [("AsyncBandwidth", String.ofList "\"/><!-- '&lt;&amp' -->\n".toList)]
    [.block "Node" [("Address", String.ofList "]]>&#0;<?é?>".toList), ("Script", "")]
      [.block "Script" [] []], .leaf "Script" [("Name", String.ofList "\t&".toList)]]

/-- It is read back from it. -/
theorem read_awkwardPrint : awkwardElement.OfSchema ∧ awkwardPrint.Shows awkwardElement ∧
    ∃ e, readTree awkwardPrint.document = .ok e ∧ awkwardElement.SameButLines e := by
  have hschema : awkwardElement.OfSchema := by
    refine ⟨⟨by decide, by decide, by decide⟩, ⟨⟨by decide, by decide, by decide⟩,
      ⟨⟨by decide, by decide, by decide⟩, trivial⟩, trivial⟩,
      ⟨⟨by decide, by decide, by decide⟩, trivial⟩, trivial⟩
  have hshows : awkwardPrint.Shows awkwardElement :=
    ⟨rfl, rfl, _, _, rfl, ⟨rfl, rfl, _, _, rfl, ⟨rfl, rfl, rfl⟩, rfl⟩,
      _, _, rfl, ⟨rfl, rfl, rfl⟩, rfl⟩
  exact ⟨hschema, hshows, (read_document hschema).2 awkwardPrint hshows⟩

end MediaNetwork
