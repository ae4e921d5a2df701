/-
  What an error says of a place.

  An error that names a line blames an element of the document.  `CompileError.Describes` says when
  what it says of that element is true: the attribute or child it misses is not there, the value it
  quotes is written there and is none the attribute may have.  Two errors quote a value that no
  attribute has: pauses that add up to more than a word holds (`OverlongPause`), and a write of more
  bytes than a transfer takes (`OverlongWrite`).

  1. `Schema.valueRules` lists which values an attribute may have that is neither a number nor free
     text.  It is what invalid values are measured by, whoever reads them.
  2. `CompileError.FaultOf root` — the error is a fault of the document, and if it names a line it
     describes an element there.  `Blames root` says so of every error of a computation.
  3. Reading an attribute or asking for a child of an element of the document blames the document
     (`blames_integer?`, `blames_keyword?`, `blames_require`).
-/
import Mathlib.Algebra.Ring.Nat
import MediaNetwork.Compile
import MediaNetwork.Proofs.Outcome

namespace MediaNetwork

open MediaNetwork.Markup MediaNetwork.Outcome

/-! ## The elements of a document -/

namespace Markup.Element

/-- The element and all its descendants. -/
def members (root : Element) : List Element := root :: root.descendants

theorem mem_members_self (root : Element) : root ∈ root.members := List.mem_cons_self

/-- What is listed is among what is listed with its descendants. -/
theorem mem_listDescendants_of_mem {es : List Element} {e : Element} (h : e ∈ es) :
    e ∈ listDescendants es := by
  induction es with
  | nil => nomatch h
  | cons first es ih =>
    unfold listDescendants
    rcases List.mem_cons.mp h with rfl | h
    · exact List.mem_cons_self
    · exact List.mem_cons_of_mem _ (List.mem_append_right _ (ih h))

/-- A child is a descendant. -/
theorem mem_descendants_of_mem_children {e c : Element} (h : c ∈ e.children) :
    c ∈ e.descendants := by
  obtain ⟨name, attributes, children, line⟩ := e
  exact mem_listDescendants_of_mem h

mutual

/-- A child of a descendant is a descendant. -/
theorem child_mem_descendants (root : Element) {e c : Element} (he : e ∈ root.descendants)
    (hc : c ∈ e.children) : c ∈ root.descendants := by
  match root, he with
  | ⟨_, _, children, _⟩, he => exact child_mem_listDescendants children he hc

/-- A child of a descendant is a descendant, by induction over the list and the elements in it. -/
theorem child_mem_listDescendants (es : List Element) {e c : Element} (he : e ∈ listDescendants es)
    (hc : c ∈ e.children) : c ∈ listDescendants es := by
  match es, he with
  | first :: es, he =>
    unfold listDescendants at he ⊢
    rcases List.mem_cons.mp he with rfl | he
    · exact List.mem_cons_of_mem _ (List.mem_append_left _ (mem_descendants_of_mem_children hc))
    refine List.mem_cons_of_mem _ (List.mem_append.mpr ?_)
    rcases List.mem_append.mp he with he | he
    · exact Or.inl (child_mem_descendants first he hc)
    · exact Or.inr (child_mem_listDescendants es he hc)

end

/-- A child of an element of the document is one as well. -/
theorem child_mem_members {root e c : Element} (he : e ∈ root.members) (hc : c ∈ e.children) :
    c ∈ root.members := by
  rcases List.mem_cons.mp he with rfl | he
  · exact List.mem_cons_of_mem _ (mem_descendants_of_mem_children hc)
  · exact List.mem_cons_of_mem _ (child_mem_descendants root he hc)

/-- The children of a name are children, and have it. -/
theorem mem_childrenNamed {e c : Element} {name : String} :
    c ∈ e.childrenNamed name ↔ c ∈ e.children ∧ c.name = name := by
  unfold childrenNamed
  rw [List.mem_filter, beq_iff_eq]

end Markup.Element

/-! ## Values an attribute may have -/

/-- Whether a name is in the table. -/
def Keywords.admits {α : Type} (table : Keywords α) (value : String) : Bool :=
  (table.value? value).isSome

/-- Which values an attribute of an element may have, where it has to be neither a number nor free
    text. -/
def Schema.valueRules : List ((String × String) × (String → Bool)) :=
  [((mediaLbPort, clockConfig), MlbClock.keywords.admits),
    ((usbPort, physicalLayer), UsbPhysicalLayer.keywords.admits),
    ((streamPort, clockConfig), StreamClock.keywords.admits),
    ((streamPort, dataAlignment), DataAlignment.keywords.admits),
    ((syncConnection, muteMode), MuteMode.keywords.admits),
    ((avpConnection, isocPacketSize), IsocPacketSize.keywords.admits),
    ((networkSocket, isActive), Element.flagNames.admits),
    ((streamSocket, streamPinId), StreamPin.keywords.admits),
    ((msgSend, payloadHex), fun value => (readPayload value).isSome),
    ((gpioPortPinMode, pinConfiguration), fun value =>
      (readPayload value).any fun bytes => bytes.length % 2 == 0),
    ((i2cPortCreate, speed), I2cSpeed.keywords.admits),
    ((i2cPortWrite, mode), I2cMode.keywords.admits),
    ((i2cPortWrite, payloadHex), fun value => (readPayload value).isSome),
    ((alsa, resolution), AlsaResolution.keywords.admits)]

/-- Which values the attribute `key` of elements with this name may have. -/
def Schema.valueRule? (element key : String) : Option (String → Bool) :=
  valueRules.lookup (element, key)

example : (Schema.valueRules.map Prod.fst).Nodup := by decide

/-! ## What is said of an element -/

/-- The names of elements that a message lists, with bars between them. -/
def listedNames (text : String) : List String := (text.toList.splitOn '|').map String.ofList

/-- Consecutive pauses that take this long in all. -/
def Script.PauseFor (es : List Element) (total : Nat) : Prop :=
  (∀ e ∈ es, isPause e = true) ∧ ∃ waits, List.Forall₂ (fun e wait =>
    e.word Schema.waitTime = .ok wait) es waits ∧ (waits.map UInt16.toNat).sum = total

/-- `value` is how long the pauses of a script take up to `e`, the first one with which they take
    longer than a word holds. -/
def Script.OverlongPause (root e : Element) (value : String) : Prop :=
  ∃ script ∈ root.members, ∃ before run after earlier total,
    script.children = before ++ (run ++ [e]) ++ after ∧
      (∀ p, before.getLast? = some p → isPause p = false) ∧ PauseFor run earlier ∧
      earlier ≤ 65535 ∧ PauseFor (run ++ [e]) total ∧ 65535 < total ∧ value = Text.decimal total

/-- `value` is how many bytes a write has, which are more than 255. -/
def Action.OverlongWrite (e : Element) (value : String) : Prop :=
  e.name = Schema.i2cPortWrite ∧ ∃ text bytes, e.attribute? Schema.payloadHex = some text ∧
    readPayload text = some bytes ∧ 255 < bytes.length ∧
      value = s!"{Text.decimal bytes.length} bytes"

/-- The name of the element a fault of shape blames, if its message has it. -/
def ShapeFault.blamed? : ShapeFault → Option String
  | wrongRoot found | strayInRoot found | unknownConnection found _ | afterFan found
  | manySockets found | notNetworkSocket _ found | unknownSocket found _ | unknownAction found
  | unknownInterface found => some found
  | fewSockets connection | noNetworkSocket connection _ => some connection
  | splitterAsInput => some Schema.splitter
  | combinerAsOutput => some Schema.combiner
  | noStreamPort _ => some Schema.streamSocket
  | unknownLink _ | repeatedDriver _ => some Schema.driver
  | _ => none

namespace CompileError

/-- What an error says of the element `e` of the document is true. -/
def Describes (root e : Element) : CompileError → Prop
  | missingElement element child _ =>
    e.name = element ∧ ∀ c ∈ e.children, c.name ∉ listedNames child
  | missingAttribute element key _ => e.name = element ∧ e.attribute? key = none
  | invalidLiteral element key value _ =>
    e.name = element ∧ e.attribute? key = some value ∧
      ∀ max, readInteger value max = .error .malformed
  | outOfRange element key value max _ =>
    e.name = element ∧
      ((e.attribute? key = some value ∧ readInteger value max = .error .outOfRange) ∨
        (key = Schema.waitTime ∧ max = 65535 ∧ Script.OverlongPause root e value) ∨
        (key = Schema.payloadHex ∧ max = 255 ∧ Action.OverlongWrite e value))
  | invalidValue element key value _ =>
    e.name = element ∧ e.attribute? key = some value ∧
      ∃ rule, Schema.valueRule? element key = some rule ∧ rule value = false
  | shape fault _ => ∀ name, fault.blamed? = some name → e.name = name
  | _ => True

/-- The error is a fault of the document, and what it says of a place in it is true. -/
structure FaultOf (root : Element) (fault : CompileError) : Prop where
  document : fault.kind = .document
  described : ∀ line, fault.line? = some line →
    ∃ e ∈ root.members, e.line = line ∧ fault.Describes root e

/-- What is said of the line of an element is true of the element. -/
theorem FaultOf.at {root e : Element} (he : e ∈ root.members) {fault : CompileError}
    (hkind : fault.kind = .document) (hline : fault.line? = some e.line)
    (h : fault.Describes root e) : fault.FaultOf root := by
  refine ⟨hkind, fun line hline' => ⟨e, he, ?_, h⟩⟩
  exact Option.some.inj (hline.symm.trans hline')

/-- A fault without a line says nothing of a place. -/
theorem FaultOf.reference (root : Element) (fault : ReferenceFault) :
    (reference fault).FaultOf root := ⟨rfl, fun _ h => (nomatch h)⟩

end CompileError

/-- Whatever stops the computation is a fault of the document. -/
abbrev Blames (root : Element) {α : Type} (x : Except CompileError α) : Prop :=
  FailsWith (CompileError.FaultOf root) x

/-! ## Attributes and children -/

namespace Markup.Element

variable (e : Element) {root : Element} (he : e ∈ root.members)

include he

/-- A fault of shape may name its element, and then it names this one. -/
theorem blames_shape {fault : ShapeFault} {α : Type}
    (h : ∀ name, fault.blamed? = some name → e.name = name) :
    Blames root (.error (.shape fault e.line) : Except CompileError α) :=
  .error (.at he rfl rfl h)

/-- An attribute that is said to be missing is not there. -/
theorem blames_missing {key : String} (h : e.attribute? key = none) {α : Type} :
    Blames root (.error (e.missing key) : Except CompileError α) :=
  .error (.at he rfl rfl ⟨rfl, h⟩)

/-- A value that is said to be invalid is there, and its rule rejects it. -/
theorem blames_invalid {key value : String} {rule : String → Bool} {α : Type}
    (hvalue : e.attribute? key = some value) (hrule : Schema.valueRule? e.name key = some rule)
    (h : rule value = false) : Blames root (.error (e.invalid key value) : Except CompileError α) :=
  .error (.at he rfl rfl ⟨rfl, hvalue, rule, hrule, h⟩)

/-- An attribute is missed only if it is not there. -/
theorem blames_demand {key : String} {α : Type} {x : Except CompileError (Option α)}
    (hx : Blames root x) (habsent : x = .ok none → e.attribute? key = none) :
    Blames root (e.demand key x) := by
  match x, hx, habsent with
  | .error fault, hx, _ => exact .error (hx fault rfl)
  | .ok none, _, habsent => exact e.blames_missing he (habsent rfl)
  | .ok (some value), _, _ => exact .ok value

theorem blames_text (key : String) : Blames root (e.text key) :=
  e.blames_demand he (.ok _) fun h => Except.ok.inj h

/-- **Numbers** are refused if they are none, or if they are too large; both can be seen from the
    attribute. -/
theorem blames_integer? (key : String) (max : Nat) : Blames root (e.integer? key max) := by
  unfold integer?
  split
  · exact .ok _
  rename_i raw hraw
  split
  · exact .ok _
  · rename_i hmalformed
    refine .error (.at he rfl rfl ⟨rfl, hraw, fun max' => ?_⟩)
    -- whether a literal is malformed does not depend on its largest value
    unfold readInteger at hmalformed ⊢
    split at hmalformed
    · rfl
    · split at hmalformed <;> nomatch hmalformed
  · rename_i hlarge
    exact .error (.at he rfl rfl ⟨rfl, Or.inl ⟨hraw, hlarge⟩⟩)

omit he in
/-- A number that is not there is not written there. -/
theorem integer?_eq_none {key : String} {max : Nat} (h : e.integer? key max = .ok none) :
    e.attribute? key = none := by
  unfold integer? at h
  split at h
  · assumption
  · split at h <;> nomatch h

theorem blames_byte? (key : String) : Blames root (e.byte? key) :=
  (e.blames_integer? he key 255).map _

/-- A byte that must be there is refused if it is missing, too. -/
theorem blames_byte (key : String) : Blames root (e.byte key) := by
  refine e.blames_demand he (e.blames_byte? he key) fun h => ?_
  obtain ⟨n?, hn, hnone⟩ := map_eq_ok.mp h
  rw [Option.map_eq_none_iff.mp hnone] at hn
  exact e.integer?_eq_none hn

theorem blames_word? (key : String) : Blames root (e.word? key) :=
  (e.blames_integer? he key 65535).map _

theorem blames_word (key : String) : Blames root (e.word key) := by
  refine e.blames_demand he (e.blames_word? he key) fun h => ?_
  obtain ⟨n?, hn, hnone⟩ := map_eq_ok.mp h
  rw [Option.map_eq_none_iff.mp hnone] at hn
  exact e.integer?_eq_none hn

section Rules

variable {key : String} {rule : String → Bool} (hrule : Schema.valueRule? e.name key = some rule)

include hrule

/-- **Keywords** are refused if they are not in the table, and the table is the rule. -/
theorem blames_keyword? {α : Type} {table : Keywords α} (htable : rule = table.admits) :
    Blames root (e.keyword? key table) := by
  unfold keyword?
  split
  · exact .ok _
  rename_i raw hraw
  split
  · exact .ok _
  · rename_i hnone
    refine e.blames_invalid he hraw hrule ?_
    rw [htable, Keywords.admits, hnone]
    rfl

/-- A keyword that must be there is refused if it is missing, too. -/
theorem blames_keyword {α : Type} {table : Keywords α} (htable : rule = table.admits) :
    Blames root (e.keyword key table) := by
  refine e.blames_demand he (e.blames_keyword? he hrule htable) fun h => ?_
  unfold keyword? at h
  split at h
  · assumption
  · split at h <;> nomatch h

/-- **Payloads** are refused if they cannot be read; then the rule rejects them, which may reject
    more. -/
theorem blames_payload? (hpayload : ∀ value, readPayload value = none → rule value = false) :
    Blames root (e.payload? key) := by
  unfold payload?
  split
  · exact .ok _
  rename_i raw hraw
  split
  · exact .ok _
  · rename_i hnone
    exact e.blames_invalid he hraw hrule (hpayload raw hnone)

theorem blames_payload (hpayload : ∀ value, readPayload value = none → rule value = false) :
    Blames root (e.payload key) := by
  refine e.blames_demand he (e.blames_payload? he hrule hpayload) fun h => ?_
  unfold payload? at h
  split at h
  · assumption
  · split at h <;> nomatch h

end Rules

/-- A child is missed only if no child has one of the names. -/
theorem blames_require {names : List String}
    (hnames : listedNames ("|".intercalate names) = names) :
    Blames root (e.require names .siblings) := by
  unfold require
  split
  · exact .ok _
  · rename_i hnone
    refine .error (.at he rfl rfl ⟨rfl, fun c hc => ?_⟩)
    have hno := List.find?_eq_none.mp hnone c hc
    rw [hnames]
    simpa using hno

/-- A child that must be there is missed by its name. -/
theorem blames_countChildren {name : String} (hname : listedNames name = [name])
    (mandatory : Bool) : Blames root (e.countChildren name mandatory) := by
  unfold countChildren
  simp only
  split
  · rename_i hnone
    refine .error (.at he rfl rfl ⟨rfl, fun c hc hin => ?_⟩)
    rw [hname, List.mem_singleton] at hin
    have hmem : c ∈ e.childrenNamed name := mem_childrenNamed.mpr ⟨hc, hin⟩
    rw [List.length_eq_zero_iff.mp hnone.1] at hmem
    nomatch hmem
  · exact .ok _

end Markup.Element

end MediaNetwork
