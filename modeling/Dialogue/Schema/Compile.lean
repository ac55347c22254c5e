import Dialogue.Schema.Reference
import Dialogue.Schema.Naming
import Dialogue.Journal.Note

/-!
# Dialogue.Schema.Compile — from a schema document to constraints

A document is compiled in three steps, none of which looks ahead to the next:

* `Draft.ofJson` reads each definition and the document itself as drafts;
* `Shape.resolve` turns references into names, and fails at the first that points nowhere;
* `name` gives the parts their names.

A definition is compiled once and referred to by name from everywhere else, so recursive definitions
stay finite. A document that is no object and a bad reference are the only failures.
-/

namespace Dialogue.Schema

/-! ## Drafts -/

/-- The draft of a document fragment. -/
def Draft.ofJson (fragment : Json) : Draft :=
  match _eq : Fragment.ofJson fragment with
  | .loose _ => .anyString
  | .reference target => .reference target
  | .sole branch => Draft.ofJson branch
  | .union title branches =>
    .union title (branches.attach.map fun ⟨branch, _mem⟩ =>
      match branch with
      | .single value => .literal value
      | .unread child => Draft.ofJson child)
  | .enumeration title values => .enumeration title values
  | .scalar kind => .scalar kind
  | .array none least most => .array .anyString least most
  | .array (some items) least most => .array (Draft.ofJson items) least most
  | .object title properties =>
    .object title (properties.attach.map fun ⟨p, _mem⟩ =>
      ⟨p.name, Draft.ofJson p.shape, p.description, p.optional⟩)
  | .unknown _ => .anyString
  | .free => .anyString
termination_by sizeOf fragment
decreasing_by
  · exact Fragment.sizeOf_child (by simp [_eq, Fragment.children])
  · refine Fragment.sizeOf_child ?_
    rw [_eq]
    exact List.mem_filterMap.2 ⟨.unread child, _mem, rfl⟩
  · exact Fragment.sizeOf_child (by simp [_eq, Fragment.children])
  · exact Fragment.sizeOf_child (by rw [_eq]; exact List.mem_map.2 ⟨p, _mem, rfl⟩)

/-! ## Compiled schemas -/

/-- The root of a schema and the named nodes that it refers to. -/
structure Compiled where
  root : Node
  dependencies : List (String × Node)
deriving Repr

namespace Compiled

/-- The name of the root, or a stand-in for a root without one. -/
def name (c : Compiled) : String :=
  match c.root.name? with
  | some name => if name = "" then "response" else name
  | none => "response"

/-- The node of a dependency. -/
def resolve (c : Compiled) (name : String) : Except Failure Node :=
  match c.dependencies.lookup name with
  | some node => .ok node
  | none => .error (.invalidSchema s!"unresolved reference: {name}")

/-- The dependencies as a block of definitions, if there are any. -/
def renderDefinitions (dependencies : List (String × Node)) : Json.Members :=
  if dependencies.isEmpty then []
  else [("$defs", .obj (dependencies.map fun (name, node) => (name, render node)))]

/-- The schema as a document. -/
def toJson (c : Compiled) : Json :=
  match render c.root with
  | .obj members => .obj (members ++ renderDefinitions c.dependencies)
  | j => j

end Compiled

/-! ## Compiling -/

/-- Why a document cannot be compiled. -/
inductive Defect where
  | notObject (kind : String)
  | badReference (cause : BadReference)
deriving Repr

/-- The failure that a defect causes. -/
def Defect.failure : Defect → Failure
  | .notObject kind =>
    .invalidSchema "schema document must be a JSON object" [("type", .str kind)]
  | .badReference cause => cause.failure

/-- The entries of one block of definitions. -/
def block (key : String) (document : Json.Members) : Json.Members :=
  match document.lookup key with
  | some (.obj entries) => entries
  | _ => []

/-- The definitions of a document: those under `definitions`, then those under `$defs` whose names
are new. -/
def definitions (document : Json.Members) : Json.Members :=
  let first := block "definitions" document
  first ++ (block "$defs" document).filter fun (name, _) => (first.lookup name).isNone

/-- The definitions with their references resolved. -/
def resolveDefinitions (defined : List String) :
    Json.Members → Except BadReference (List (String × Shape String (Option String)))
  | [] => .ok []
  | (name, fragment) :: rest => do
    let shape ← (Draft.ofJson fragment).resolve defined
    return (name, shape) :: (← resolveDefinitions defined rest)

/-- The definitions with all their parts named. A definition without a name is named like any other
part. -/
def nameDefinitions (names : Names) :
    List (String × Shape String (Option String)) → List (String × Node) × Names
  | [] => ([], names)
  | (key, shape) :: rest =>
    let given := if key = "" then none else some key
    let (node, names) := name given none names shape
    let (rest, names) := nameDefinitions names rest
    ((key, node) :: rest, names)

/-- The schema that the members of a document describe. -/
def compileMembers (document : Json.Members) : Except BadReference Compiled := do
  let defined := (definitions document).map (·.1)
  let shapes ← resolveDefinitions defined (definitions document)
  let root ← (Draft.ofJson (.obj document)).resolve defined
  let (dependencies, names) := nameDefinitions ⟨defined, 0⟩ shapes
  let (root, _) := name none (some "Root") names root
  return ⟨root, dependencies⟩

/-- The schema that a document describes. -/
def compile : Json → Except Defect Compiled
  | .obj document => (compileMembers document).mapError .badReference
  | j => .error (.notObject j.kindName)

/-! ## What a compilation has to tell -/

/-- What reading a document meets, in order. -/
inductive Remark where
  | loose (value : Json)
  | unknown (type : Json)
  | reference (target : Json)
deriving Repr

/-- What reading a fragment meets. -/
def remarks (fragment : Json) : List Remark :=
  let own := match Fragment.ofJson fragment with
    | .loose value => [.loose value]
    | .unknown type => [.unknown type]
    | .reference target => [.reference target]
    | _ => []
  own ++ (Fragment.ofJson fragment).children.attach.flatMap fun ⟨child, _below⟩ => remarks child
termination_by sizeOf fragment
decreasing_by exact Fragment.sizeOf_child _below

/-- What compiling a document meets: its definitions come first. -/
def documentRemarks (document : Json.Members) : List Remark :=
  (definitions document).flatMap (fun (_, fragment) => remarks fragment) ++
    remarks (.obj document)

/-- Whether a remark is a reference that points nowhere. -/
def Remark.isBad (defined : List String) : Remark → Bool
  | .reference target => (referenceName defined target).toBool == false
  | _ => false

def source : String := "localfm.native.schema"

def note (level : Journal.Level) (message : String) : Journal.Note :=
  ⟨level, source, message, .caller []⟩

/-- The note that a remark gives rise to. -/
def Remark.note? : Remark → Option Journal.Note
  | .loose value =>
    some (note .debug s!"non-object schema fragment degraded to string: {value.quoted}")
  | .unknown type =>
    some (note .warning s!"unsupported schema type {type.quoted}, falling back to string")
  | .reference _ => none

/-- The notes of a compilation: those up to the first bad reference, and a summary when there is
none. -/
def compileNotes : Json → List Journal.Note
  | .obj document =>
    let defined := (definitions document).map (·.1)
    let met := (documentRemarks document).takeWhile (!·.isBad defined)
    let summary : List Journal.Note :=
      match compileMembers document with
      | .ok c =>
        let names := Display.texts (c.dependencies.map (·.1))
        [note .debug s!"compiled schema root={c.root.kindName} dependencies={names}"]
      | .error _ => []
    met.filterMap Remark.note? ++ summary
  | _ => []

end Dialogue.Schema
