/-
  Compilation: from a document to its configuration.

  The stages, in order: the nodes with their connections, the scripts and their links to nodes,
  the routes between endpoints, the driver records.  Each stage is a function of its own, so that
  what one of them promises can be said without the others; the first fault ends it all.

  A script document is compiled by itself: it holds one script, which needs no node.
-/
import MediaNetwork.Connection.Node
import MediaNetwork.Driver.Derivation
import MediaNetwork.Markup.Document
import MediaNetwork.Route.Assembly

namespace MediaNetwork

open MediaNetwork.Markup

/-! ## Stages -/

/-- Checks the name of the root element. -/
def checkRoot (root : Element) : Except CompileError Unit :=
  if root.name = Schema.unicens then .ok ()
  else .error (.shape (.wrongRoot root.name) root.line)

/-- Reads what the root element itself says: the bandwidth kept for packets. -/
def readHeader (root : Element) : Except CompileError UInt16 := do
  checkRoot root
  let bandwidth ← root.word Schema.asyncBandwidth
  let _ ← root.countChildren Schema.node true
  return bandwidth

/-- Builds every node of the root element. -/
def buildNodes (root : Element) : Except CompileError Builder :=
  root.children.foldlM Builder.addRootChild Builder.empty

/-- A node that asks for a script. -/
structure ScriptReference where
  /-- The place of the node among the nodes. -/
  place : Nat
  /-- The address of the node. -/
  address : UInt16
  name : String
  deriving DecidableEq, Repr

namespace ScriptReference

/-- The references of nodes, the first of which is at `place`. -/
def ofNodes (place : Nat) : List Node → List ScriptReference
  | [] => []
  | node :: nodes =>
    match node.scriptName with
    | none => ofNodes (place + 1) nodes
    | some name => ⟨place, node.address, name⟩ :: ofNodes (place + 1) nodes

/-- The script that is asked for, with the place of the node. -/
def resolve (scripts : List Script) (r : ScriptReference) : Except CompileError (Nat × Script) :=
  match Script.named? scripts r.name with
  | some script => .ok (r.place, script)
  | none => .error (.reference (.scriptNotFound r.name r.address))

end ScriptReference

/-- Gives a script to the node at its place. -/
def attachScript (nodes : List Node) (found : Nat × Script) : Except CompileError (List Node) :=
  match nodes[found.1]? with
  | some node => .ok (nodes.set found.1 { node with script := some found.2 })
  | none => .error (.internal (.scriptNode found.1))

/-- The nodes with their scripts; no script may be left over. -/
def linkScripts (scripts : List Script) (nodes : List Node) : Except CompileError (List Node) := do
  let references := ScriptReference.ofNodes 0 nodes
  let found ← references.mapM (ScriptReference.resolve scripts)
  match scripts.find? fun s => !references.any fun r => r.name == s.name with
  | some unused => .error (.reference (.scriptUnused unused.name))
  | none => found.foldlM attachScript nodes

/-- The configuration of a graph whose scripts are compiled. -/
def assemble (packetBandwidth : UInt16) (root : Element) (b : Builder) (scripts : List Script) :
    Except CompileError Configuration := do
  let nodes ← linkScripts scripts b.nodes.toList
  let endpoints := b.endpoints.toList
  let routes ← Route.assemble b.arena endpoints
  let drivers ← DriverRecord.derive b.arena b.links.toList (root.childrenNamed Schema.driver)
  return ⟨packetBandwidth, nodes, endpoints, routes, drivers, b.arena⟩

/-! ## Documents -/

/-- The configuration of a document that is already a tree. -/
def compileElement (root : Element) : Except CompileError Configuration := do
  let packetBandwidth ← readHeader root
  let b ← buildNodes root
  let scripts ← Script.ofElements (root.childrenNamed Schema.script)
  assemble packetBandwidth root b scripts

/-- The script for whoever takes any. -/
def anyScript : List Script → Except CompileError (Option Script)
  | script :: _ => .ok (some script)
  | [] => .error (.reference .noScript)

/-- The only script of a document that is already a tree. -/
def compileScriptElement (root : Element) : Except CompileError Script := do
  checkRoot root
  let count ← root.countChildren Schema.script true
  if 1 < count then .error (.shape .manyScripts root.line)
  else
    let scripts ← Script.ofElements (root.childrenNamed Schema.script)
    match ← anyScript scripts with
    | some script => return script
    | none => .error (.internal .scriptLost)

/-- The tree of a text. -/
def readTree (text : String) : Except CompileError Element :=
  match Element.ofText text with
  | .ok root => .ok root
  | .error fault => .error (.markup fault)

/-- Compiles a configuration document. -/
def compile (text : String) : Except CompileError Configuration := do
  let root ← readTree text
  compileElement root

/-- Compiles a script document. -/
def compileScript (text : String) : Except CompileError Script := do
  let root ← readTree text
  compileScriptElement root

/-! ## Reporting -/

/-- Hands an error to a reporter, whose state is `state`, before passing it on. -/
def reporting {α σ : Type} (report : σ → CompileError → σ) (state : σ)
    (result : Except CompileError α) : σ × Except CompileError α :=
  match result with
  | .ok value => (state, .ok value)
  | .error fault => (report state fault, .error fault)

/-- Compiles a configuration document; a reporter hears of the failure. -/
def compileWith {σ : Type} (report : σ → CompileError → σ) (state : σ) (text : String) :
    σ × Except CompileError Configuration :=
  reporting report state (compile text)

/-- Compiles a script document; a reporter hears of the failure. -/
def compileScriptWith {σ : Type} (report : σ → CompileError → σ) (state : σ) (text : String) :
    σ × Except CompileError Script :=
  reporting report state (compileScript text)

end MediaNetwork
