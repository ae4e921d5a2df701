/-
  The names that are printed.

  Every element that is printed has a name and keys of the schema, which are words, and no key
  twice.  Some attributes may be left out, so the keys of an element are a part of all the keys it
  could have (`headOk_of_keys`); the lemmas go through the kinds of elements once.
-/
import MediaNetwork.Proofs.Markup.Documents
import MediaNetwork.Proofs.Print.Drivers
import MediaNetwork.Proofs.Print.Scripts

namespace MediaNetwork

open MediaNetwork.Markup MediaNetwork.Markup.Printed MediaNetwork.Configuration

/-! ## Keys -/

/-- An element has a good head if its keys are some of these, in this order. -/
theorem headOk_of_keys {name : String} {attributes : List (String × String)} (keys : List String)
    (hkeys : isWord name = true ∧ (∀ key ∈ keys, isWord key = true) ∧ keys.Nodup)
    (h : (attributes.map Prod.fst).Sublist keys) : HeadOk name attributes := by
  obtain ⟨hname, hwords, hnodup⟩ := hkeys
  refine ⟨hname, fun a ha => ?_, hnodup.sublist h⟩
  exact hwords a.1 (h.subset (List.mem_map_of_mem ha))

/-- An attribute that may be left out adds its key or none. -/
theorem keys_optional (key : String) (value : Option String) :
    ((optional key value).map Prod.fst).Sublist [key] := by
  cases value with
  | none => exact List.nil_sublist _
  | some v => exact List.Sublist.refl _

/-! ## Ports -/

/-- The names and keys of a printed port are in order; so are those of the elements below. -/
theorem wellNamed_printPort (port : Port) : ∀ p ∈ printPort port, p.WellNamed := by
  obtain ⟨node, origin, kind⟩ := port
  intro p hp
  cases origin with
  | default => cases kind <;> nomatch hp
  | declared =>
    cases kind with
    | network => nomatch hp
    | mediaLb clock =>
      rw [List.mem_singleton.mp hp]
      exact headOk_of_keys [Schema.clockConfig] (by decide) (List.Sublist.refl _)
    | usb settings =>
      rw [List.mem_singleton.mp hp]
      exact headOk_of_keys [Schema.physicalLayer, Schema.deviceInterfaces,
        Schema.streamingOutCount, Schema.streamingInCount] (by decide) (List.Sublist.refl _)
    | stream half settings =>
      rw [List.mem_singleton.mp hp]
      exact headOk_of_keys [Schema.clockConfig, Schema.dataAlignment] (by decide)
        (List.Sublist.refl _)

/-! ## Connections -/

theorem wellNamed_printSocketKind (offset : Option UInt16) (kind : SocketKind) :
    (printSocketKind offset kind).WellNamed := by
  cases kind with
  | network bandwidth route =>
    refine headOk_of_keys ([Schema.bandwidth, Schema.route] ++ [Schema.isActive] ++
      [Schema.routeId] ++ [Schema.offset]) (by decide) ?_
    simp only [List.map_append]
    refine (((List.Sublist.refl _).append ?_).append (keys_optional _ _)).append
      (keys_optional _ _)
    split
    · exact List.nil_sublist _
    · exact List.Sublist.refl _
  | usb endpointAddress framesPerTransaction =>
    exact headOk_of_keys [Schema.endpointAddress, Schema.framesPerTransaction] (by decide)
      (List.Sublist.refl _)
  | mediaLb channelAddress bandwidth =>
    exact headOk_of_keys [Schema.channelAddress, Schema.bandwidth] (by decide)
      (List.Sublist.refl _)
  | stream pin bandwidth =>
    exact headOk_of_keys [Schema.streamPinId, Schema.bandwidth] (by decide) (List.Sublist.refl _)

/-- The branches of a fan are printed as network sockets. -/
theorem wellNamed_branches (style : ConnectionStyle) (branches : List NetworkDecl) :
    AllWellNamed (branches.map fun b =>
      (SocketDecl.network b).printed (style.branchOffset b)) := by
  rw [allWellNamed_iff]
  intro p hp
  obtain ⟨b, -, rfl⟩ := List.mem_map.mp hp
  exact wellNamed_printSocketKind _ _

theorem wellNamed_wiring (style : ConnectionStyle) (wiring : Wiring) :
    AllWellNamed (wiring.printed style) := by
  cases wiring with
  | plain input output =>
    exact ⟨wellNamed_printSocketKind _ _, wellNamed_printSocketKind _ _, trivial⟩
  | fanOut input bytesPerFrame branches =>
    refine ⟨wellNamed_printSocketKind _ _, ⟨?_, wellNamed_branches style branches⟩, trivial⟩
    exact headOk_of_keys [Schema.bytesPerFrame] (by decide) (List.Sublist.refl _)
  | fanIn bytesPerFrame branches output =>
    refine ⟨⟨?_, wellNamed_branches style branches⟩, wellNamed_printSocketKind _ _, trivial⟩
    exact headOk_of_keys [Schema.bytesPerFrame] (by decide) (List.Sublist.refl _)

/-- **Connections**: whatever is declared, the printed element is in order. -/
theorem wellNamed_connection (d : ConnectionDecl) : d.printed.WellNamed := by
  refine ⟨?_, wellNamed_wiring d.style d.wiring⟩
  cases d.style with
  | sync muteMode =>
    show HeadOk Schema.syncConnection _
    exact headOk_of_keys ([Schema.muteMode] ++ [Schema.link]) (by decide)
      ((List.Sublist.refl [Schema.muteMode]).append (keys_optional Schema.link d.link))
  | avPacketized packetSize =>
    show HeadOk Schema.avpConnection _
    exact headOk_of_keys ([Schema.isocPacketSize] ++ [Schema.link]) (by decide)
      ((List.Sublist.refl [Schema.isocPacketSize]).append (keys_optional Schema.link d.link))

/-! ## Nodes, scripts and drivers -/

/-- **Nodes** are in order, since their ports and connections are. -/
theorem wellNamed_node (plan : NodePlan) : plan.printed.WellNamed := by
  refine ⟨?_, allWellNamed_iff.mpr fun p hp => ?_⟩
  · exact headOk_of_keys ([Schema.address] ++ [Schema.script]) (by decide)
      ((List.Sublist.refl [Schema.address]).append (keys_optional Schema.script plan.script))
  rcases List.mem_append.mp hp with hp | hp
  · rcases List.mem_append.mp hp with hp | hp
    · rcases List.mem_append.mp hp with hp | hp
      · exact wellNamed_printPort _ p hp
      · exact wellNamed_printPort _ p hp
    · unfold PortPlan.streamPrinted at hp
      split at hp
      · exact wellNamed_printPort _ p hp
      · nomatch hp
  · obtain ⟨d, -, rfl⟩ := List.mem_map.mp hp
    exact wellNamed_connection d

/-- **Scripts** are in order, pauses included. -/
theorem wellNamed_script (s : Script) : (printScript s).WellNamed := by
  refine ⟨?_, allWellNamed_iff.mpr fun p hp => ?_⟩
  · exact headOk_of_keys [Schema.name] (by decide) (List.Sublist.refl _)
  obtain ⟨step, -, hp⟩ := List.mem_flatMap.mp hp
  rw [Script.printStep_eq] at hp
  rcases List.mem_append.mp hp with hp | hp
  · unfold Script.printedPause at hp
    split at hp
    · nomatch hp
    · rw [List.mem_singleton.mp hp]
      exact headOk_of_keys [Schema.waitTime] (by decide) (List.Sublist.refl _)
  · rw [List.mem_singleton.mp hp]
    refine headOk_of_keys ([Schema.fblockId, Schema.instanceId, Schema.functionId,
      Schema.opTypeRequest, Schema.opTypeResponse] ++ [Schema.payloadHex]) (by decide) ?_
    rw [List.map_append]
    refine (List.Sublist.refl _).append ?_
    split
    · exact List.nil_sublist _
    · exact List.Sublist.refl _

theorem wellNamed_binding (b : DriverBinding) : (printBinding b).WellNamed := by
  obtain ⟨kind, name, buffers⟩ := b
  have hcommon : ((optional Schema.name name ++
      [(Schema.bufferCount, decimalWord buffers.count),
        (Schema.bufferSize, decimalWord buffers.size)]).map Prod.fst).Sublist
      [Schema.name, Schema.bufferCount, Schema.bufferSize] := by
    rw [List.map_append]
    exact (keys_optional Schema.name name).append (List.Sublist.refl _)
  cases kind with
  | cdev =>
    show HeadOk Schema.cdev _
    refine headOk_of_keys ([Schema.name, Schema.bufferCount, Schema.bufferSize] ++ [])
      (by decide) ?_
    rw [List.map_append]
    exact hcommon.append (List.Sublist.refl _)
  | v4l2 =>
    show HeadOk Schema.v4l2 _
    refine headOk_of_keys ([Schema.name, Schema.bufferCount, Schema.bufferSize] ++ [])
      (by decide) ?_
    rw [List.map_append]
    exact hcommon.append (List.Sublist.refl _)
  | alsa channels resolution =>
    show HeadOk Schema.alsa _
    refine headOk_of_keys ([Schema.name, Schema.bufferCount, Schema.bufferSize] ++
      [Schema.channelCount, Schema.resolution]) (by decide) ?_
    rw [List.map_append]
    exact hcommon.append (List.Sublist.refl _)

/-- **Drivers** are in order, whatever the records of the link. -/
theorem wellNamed_driver (records : List DriverRecord) (link : String) :
    (printDriver records link).WellNamed := by
  refine ⟨?_, allWellNamed_iff.mpr fun p hp => ?_⟩
  · exact headOk_of_keys [Schema.link] (by decide) (List.Sublist.refl _)
  obtain ⟨b, -, rfl⟩ := List.mem_map.mp hp
  exact wellNamed_binding b

end MediaNetwork
