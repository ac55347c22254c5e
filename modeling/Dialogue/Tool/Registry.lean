import Dialogue.Tool.Spec

/-!
# Dialogue.Tool.Registry — tools by name

A registry keeps its tools in the order in which they were registered. A name is registered once.
-/

namespace Dialogue

/-- Tools with distinct names, oldest first. -/
structure ToolRegistry where
  tools : List ToolSpec := []
  names_nodup : (tools.map (·.name)).Nodup := by simp

namespace ToolRegistry

def names (r : ToolRegistry) : List String := r.tools.map (·.name)

def size (r : ToolRegistry) : Nat := r.tools.length

def contains (r : ToolRegistry) (name : String) : Bool := r.names.contains name

def get? (r : ToolRegistry) (name : String) : Option ToolSpec :=
  r.tools.find? (·.name == name)

/-- The name of a tool that cannot be registered because its name is taken. -/
structure Taken where
  name : String
deriving DecidableEq, Repr

def Taken.message (t : Taken) : String := s!"tool already registered: {t.name}"

/-- The registry with one more tool, unless its name is taken. -/
def register (r : ToolRegistry) (tool : ToolSpec) : Except Taken ToolRegistry :=
  if h : tool.name ∈ r.names then .error ⟨tool.name⟩
  else
    .ok {
      tools := r.tools ++ [tool]
      names_nodup := by
        rw [List.map_append, List.nodup_append]
        refine ⟨r.names_nodup, by simp, ?_⟩
        intro a ha b hb hab
        simp at hb
        subst hab hb
        exact h ha }

/-- The registry of the given tools. -/
def ofList (tools : List ToolSpec) : Except Taken ToolRegistry :=
  tools.foldlM register {}

end ToolRegistry

end Dialogue
