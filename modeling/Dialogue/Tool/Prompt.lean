import Dialogue.Tool.Spec

/-!
# Dialogue.Tool.Prompt — teaching a model to call tools

A model without tool calling of its own is told in a system prompt which tools there are and how to
call them: a line `TOOL_CALL: name` and a line `ARGUMENTS: {…}`.
-/

namespace Dialogue

/-- What the caller asks about the use of tools. -/
inductive ToolChoice where
  /-- The model may decide. -/
  | free
  | required
  | none
  /-- Only the named tool may be used. -/
  | only (name : String)
deriving DecidableEq, Repr

namespace ToolChoice

/-- The text of a member, if it is given. -/
def givenText? (key : String) (members : Json.Members) : Option String :=
  ((members.lookup key).bind Json.given?).map Json.shown

/-- The tool that an object forces: under `tool_name` or `toolName` for the type `tool`, under
`function` for the type `function`. -/
def forced? (members : Json.Members) : Option String :=
  match members.lookup "type", members.lookup "function" with
  | some (.str "tool"), _ => givenText? "tool_name" members <|> givenText? "toolName" members
  | some (.str "function"), some (.obj function) => givenText? "name" function
  | _, _ => Option.none

/-- The choice that a value expresses; what is not understood leaves the model free. -/
def ofJson : Json → ToolChoice
  | .str "required" => .required
  | .str "none" => .none
  | .obj members =>
    match forced? members with
    | some name => .only name
    | Option.none => .free
  | _ => .free

/-- What the prompt says about the choice. -/
def sentence : ToolChoice → String
  | .free => ""
  | .required =>
    "\n\nA tool call is required to answer this request. Do not attempt to answer " ++
      "the request without calling a tool."
  | .none => "\n\nDo NOT call any tools. Provide a direct answer."
  | .only name =>
    s!"\n\nYou must use only the \"{name}\" tool. Do not use any other tools."

end ToolChoice

/-- The instructions that follow the list of tools. -/
def toolInstructions : String :=
  "INSTRUCTIONS FOR CALLING TOOLS:\n" ++
  "1. If a tool is needed, respond using the format:\n" ++
  "   TOOL_CALL: <tool_name>\n" ++
  "   ARGUMENTS: <json_parameters>\n" ++
  "2. You can list multiple tool calls one after another.\n" ++
  "3. If tool results are already provided in the conversation, you MUST use them " ++
  "to craft a final answer.\n" ++
  "4. After you have the information you need, answer the user DIRECTLY and DO NOT " ++
  "make any more tool calls."

/-- The system prompt that offers the tools; without tools there is nothing to say. -/
def toolPrompt (tools : List ToolSpec) (choice : ToolChoice) : String :=
  if tools.isEmpty then ""
  else
    let descriptions := "\n\n".intercalate (tools.map ToolSpec.describe)
    "You are an AI assistant that can call external tools to solve the user's request.\n\n" ++
      s!"Available tools:\n\n{descriptions}\n\n" ++ toolInstructions ++ choice.sentence

end Dialogue
