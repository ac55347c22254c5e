import Dialogue.Proofs.Tool.OlderForm
import Dialogue.Tool.Prompt

/-!
# Dialogue.Proofs.Tool.Prompt — the prompt that offers tools calls none

The prompt shows the model how a call is written. A model that repeats the prompt calls nothing by
it, unless the marker of a call is in what the prompt says about a tool.

* `prefix_of_apart` — a marker does not run across a place where two texts meet at a character that
  is not in it; from it, `unmarked_append` for markers and `blockless_append` for blocks;
* `unmarked_describe`, `unmarked_descriptions`, `unmarked_sentence` — the parts of the prompt that
  are made from the texts of others;
* `blockless_sample` — the call that the instructions show, with a name in angle brackets;
* `extract_toolPrompt` — the whole prompt.
-/

namespace Dialogue.Tool

open Dialogue.Text (isBlank isWord)

/-! ## Where texts meet -/

/-- The marker of a call does not stand in a text. -/
abbrev Unmarked (cs : List Char) : Prop := ¬ callMarker <:+: cs

/-- The marker has an underscore in it. -/
theorem unmarked_of_plain {cs : List Char} (h : '_' ∉ cs) : Unmarked cs := by
  intro hmarker
  exact h (hmarker.subset (by decide))

/-- A text does not begin with a character of the marker. -/
abbrev BeginsApart (cs : List Char) : Prop := cs.head?.all (· ∉ callMarker)

/-- A text does not end with a character of the marker. -/
abbrev EndsApart (cs : List Char) : Prop := cs.getLast?.all (· ∉ callMarker)

/-- A text without underscores that ends apart from the marker: any text can follow it. -/
abbrev PlainLine (cs : List Char) : Prop := EndsApart cs ∧ '_' ∉ cs

section

variable {first second : List Char}

theorem EndsApart.last (h : EndsApart first) {c : Char} (hc : first.getLast? = some c) :
    c ∉ callMarker := by
  simpa [EndsApart, hc] using h

theorem BeginsApart.head (h : BeginsApart first) {c : Char} (hc : first.head? = some c) :
    c ∉ callMarker := by
  simpa [BeginsApart, hc] using h

theorem BeginsApart.append (h : BeginsApart first) (hne : first ≠ []) :
    BeginsApart (first ++ second) := by
  rw [BeginsApart, List.head?_append_of_ne_nil _ hne]
  exact h

/-- A marker that starts in one text ends in it, when the next one meets it at a character that is
not in the marker. -/
theorem prefix_of_apart (hne : first ≠ []) (hapart : EndsApart first ∨ BeginsApart second)
    (h : callMarker <+: first ++ second) : callMarker <+: first := by
  rcases List.prefix_or_prefix_of_prefix h (List.prefix_append first second) with
    hin | ⟨tail, htail⟩
  · exact hin
  · cases tail with
    | nil =>
      have heq : first = callMarker := by rw [← htail, List.append_nil]
      exact heq ▸ List.prefix_rfl
    | cons d tail =>
      -- the marker would have the characters on both sides in it
      exfalso
      rcases hapart with hends | hbegins
      · refine EndsApart.last hends (List.getLast?_eq_getLast_of_ne_nil hne) ?_
        rw [← htail]
        exact List.mem_append_left _ (List.getLast_mem hne)
      · rw [← htail, List.prefix_append_right_inj] at h
        rcases h with ⟨more, rfl⟩
        refine BeginsApart.head hbegins rfl ?_
        rw [← htail]
        exact List.mem_append_right _ List.mem_cons_self

/-- Where two texts meet in this way, the markers are those of the first and those of the second. -/
theorem marker_of_apart (hapart : EndsApart first ∨ BeginsApart second) {after : List Char}
    (hafter : after <:+ first ++ second) (h : callMarker <+: after) :
    after <:+ second ∨ callMarker <:+: first := by
  rcases hafter with ⟨before, heq⟩
  rcases List.append_eq_append_iff.1 heq with ⟨between, hfirst, rfl⟩ | ⟨between, -, rfl⟩
  · by_cases hne : between = []
    · subst hne
      exact Or.inl List.suffix_rfl
    · right
      subst hfirst
      have hbetween : EndsApart between ∨ BeginsApart second := by
        rcases hapart with hends | hbegins
        · rw [EndsApart, List.getLast?_append_of_ne_nil _ hne] at hends
          exact Or.inl hends
        · exact Or.inr hbegins
      exact marked_of_start (prefix_of_apart hne hbetween h)
  · exact Or.inl (List.suffix_append between after)

theorem unmarked_append (hapart : EndsApart first ∨ BeginsApart second) (hfirst : Unmarked first)
    (hsecond : Unmarked second) : Unmarked (first ++ second) := by
  intro h
  rcases List.infix_iff_prefix_suffix.1 h with ⟨after, hmarker, hafter⟩
  rcases marker_of_apart hapart hafter hmarker with hin | hin
  · exact hsecond (hmarker.isInfix.trans hin.isInfix)
  · exact hfirst hin

theorem blockless_append (hapart : EndsApart first ∨ BeginsApart second) (hfirst : Unmarked first)
    (hsecond : Blockless second) : Blockless (first ++ second) := by
  intro after hafter hstart
  rcases marker_of_apart hapart hafter (callMarker_prefix_of_startsBlock hstart) with hin | hin
  · exact hsecond after hin hstart
  · exact hfirst hin

theorem unmarked_line (hline : PlainLine first) (h : Unmarked second) :
    Unmarked (first ++ second) :=
  unmarked_append (Or.inl hline.1) (unmarked_of_plain hline.2) h

theorem blockless_line (hline : PlainLine first) (h : Blockless second) :
    Blockless (first ++ second) :=
  blockless_append (Or.inl hline.1) (unmarked_of_plain hline.2) h

end

/-- A line that can stand between any two texts. -/
structure Divider (cs : List Char) : Prop where
  ne_nil : cs ≠ []
  begins : BeginsApart cs
  line : PlainLine cs

/-- Texts without the marker have none when a divider stands between them. -/
theorem Divider.unmarked_between {cs first second : List Char} (h : Divider cs)
    (hfirst : Unmarked first) (hsecond : Unmarked second) : Unmarked (first ++ (cs ++ second)) := by
  have hbegins : BeginsApart (cs ++ second) := BeginsApart.append h.begins h.ne_nil
  exact unmarked_append (Or.inr hbegins) hfirst (unmarked_line h.line hsecond)

/-! ## What the prompt says about tools -/

/-- Nothing that the prompt shows of a tool has the marker of a call in it. -/
structure UnmarkedTool (t : ToolSpec) : Prop where
  name : Unmarked t.name.toList
  description : Unmarked t.description.toList
  parameters : Unmarked (Json.obj t.parameters).indented.toList

theorem unmarked_describe {t : ToolSpec} (h : UnmarkedTool t) : Unmarked t.describe.toList := by
  have hbefore : Divider "\nDescription: ".toList := by constructor <;> decide +kernel
  have hbehind : Divider "\nParameters: ".toList := by constructor <;> decide +kernel
  have hdescription :
      Unmarked (if t.description = "" then "No description provided" else t.description).toList := by
    split
    · decide +kernel
    · exact h.description
  have htext : t.describe = "Tool: " ++ (t.name ++ ("\nDescription: " ++
      ((if t.description = "" then "No description provided" else t.description) ++
        ("\nParameters: " ++ (Json.obj t.parameters).indented)))) := by
    simp only [← String.append_assoc]
    rfl
  simp only [htext, String.toList_append]
  refine unmarked_line (by decide +kernel) ?_
  exact hbefore.unmarked_between h.name (hbehind.unmarked_between hdescription h.parameters)

theorem unmarked_descriptions {tools : List ToolSpec} (h : ∀ t ∈ tools, UnmarkedTool t) :
    Unmarked ("\n\n".intercalate (tools.map ToolSpec.describe)).toList := by
  have hdivider : Divider "\n\n".toList := by constructor <;> decide +kernel
  induction tools with
  | nil => decide +kernel
  | cons t rest ih =>
    have ht := unmarked_describe (h t List.mem_cons_self)
    have hrest := ih fun t' ht' => h t' (List.mem_cons_of_mem t ht')
    cases rest with
    | nil => simpa using ht
    | cons t' rest =>
      -- the divider stands before the other descriptions, which are joined already
      have hjoined : ("\n\n".intercalate ((t :: t' :: rest).map ToolSpec.describe)).toList =
          t.describe.toList ++ ("\n\n".toList ++
            ("\n\n".intercalate ((t' :: rest).map ToolSpec.describe)).toList) := by
        simp
      rw [hjoined]
      exact hdivider.unmarked_between ht hrest

/-- What the prompt says about the choice has no marker in it, unless the forced tool's name has. -/
theorem unmarked_sentence {choice : ToolChoice}
    (h : ∀ name, choice = .only name → Unmarked name.toList) :
    Unmarked choice.sentence.toList := by
  cases choice with
  | free =>
    have htext : ToolChoice.free.sentence = "" := rfl
    rw [htext]
    decide +kernel
  | required =>
    have htext : ToolChoice.required.sentence =
        "\n\nA tool call is required to answer this request. Do not attempt to answer " ++
          "the request without calling a tool." := rfl
    rw [htext, String.toList_append]
    exact unmarked_line (by decide +kernel) (unmarked_of_plain (by decide +kernel))
  | none =>
    have htext : ToolChoice.none.sentence =
        "\n\nDo NOT call any tools. Provide a direct answer." := rfl
    rw [htext]
    exact unmarked_of_plain (by decide +kernel)
  | only name =>
    have hbehind : '_' ∉ "\" tool. Do not use any other tools.".toList := by decide +kernel
    have htext : (ToolChoice.only name).sentence =
        "\n\nYou must use only the \"" ++ name ++ "\" tool. Do not use any other tools." := rfl
    rw [htext, String.toList_append, String.toList_append, List.append_assoc]
    refine unmarked_line (by decide +kernel) ?_
    exact unmarked_append (Or.inr (by decide +kernel)) (h name rfl) (unmarked_of_plain hbehind)

/-! ## The call that is shown -/

theorem blockless_cons {c : Char} {cs : List Char} :
    Blockless (c :: cs) ↔ ¬ StartsBlock (c :: cs) ∧ Blockless cs := by
  unfold Blockless
  constructor
  · intro h
    exact ⟨h _ List.suffix_rfl, fun after hafter => h after (hafter.trans (List.suffix_cons c cs))⟩
  · rintro ⟨hstart, hrest⟩ after hafter
    rcases List.suffix_cons_iff.1 hafter with rfl | hafter
    · exact hstart
    · exact hrest after hafter

/-- No name can be read from an angle bracket. -/
theorem name?_bracket (rest : List Char) : name? (' ' :: '<' :: rest) = none := by
  have hblank : isBlank ' ' = true ∧ isBlank '<' = false := by decide +kernel
  have hword : isWord '<' = false := by decide +kernel
  simp [name?, hblank, hword]

/-- A marker before a name in angle brackets starts no block, nor does anything behind it. -/
theorem blockless_sample {rest : List Char} (h : Unmarked rest) :
    Blockless (callMarker ++ ' ' :: '<' :: rest) := by
  have hstart : ¬ StartsBlock (callMarker ++ ' ' :: '<' :: rest) := by
    rw [← block?_eq_none_iff, block?, afterWord?_eq_some_iff.2 rfl]
    simp only [Option.bind_eq_bind, Option.bind_some, name?_bracket, Option.bind_none]
  have hrest : Unmarked ([' ', '<'] ++ rest) :=
    unmarked_append (Or.inl (by decide +kernel)) (by decide +kernel) h
  have htail : Unmarked (callMarker.tail ++ ' ' :: '<' :: rest) := by
    have hblank : BeginsApart [' ', '<'] := by decide +kernel
    exact unmarked_append (Or.inr (BeginsApart.append hblank (by simp))) (by decide +kernel) hrest
  -- past its first character, what is left of the marker is none
  have hsplit : callMarker = 'T' :: callMarker.tail := by decide +kernel
  rw [hsplit] at hstart ⊢
  exact blockless_cons.2 ⟨hstart, blockless_of_unmarked htail⟩

/-- The instructions show one call, which is no block. -/
theorem blockless_instructions {rest : List Char} (h : Unmarked rest) :
    Blockless (toolInstructions.toList ++ rest) := by
  -- the line with the marker is cut where the marker starts
  have hsample : "   TOOL_CALL: <tool_name>\n".toList =
      "   ".toList ++ (callMarker ++ ' ' :: '<' :: "tool_name>\n".toList) := by decide +kernel
  unfold toolInstructions
  simp only [String.toList_append, List.append_assoc, hsample, List.cons_append]
  refine blockless_line (by decide +kernel) ?_
  refine blockless_line (by decide +kernel) ?_
  refine blockless_line (by decide +kernel) (blockless_sample ?_)
  -- behind the call that is shown no marker is left; the next two lines have underscores
  refine unmarked_append (Or.inl (by decide +kernel)) (by decide +kernel) ?_
  refine unmarked_append (Or.inl (by decide +kernel)) (by decide +kernel) ?_
  refine unmarked_line (by decide +kernel) ?_
  refine unmarked_line (by decide +kernel) ?_
  refine unmarked_line (by decide +kernel) ?_
  refine unmarked_line (by decide +kernel) ?_
  exact unmarked_line (by decide +kernel) h

/-! ## The whole prompt -/

theorem toList_toolPrompt {tools : List ToolSpec} (htools : tools ≠ []) (choice : ToolChoice) :
    (toolPrompt tools choice).toList =
      "You are an AI assistant that can call external tools to solve the user's request.\n\n".toList ++
        ("Available tools:\n\n".toList ++
          (("\n\n".intercalate (tools.map ToolSpec.describe)).toList ++ ("\n\n".toList ++
            (toolInstructions.toList ++ choice.sentence.toList)))) := by
  have hsome : tools.isEmpty = false := by simpa using htools
  have htext : toolPrompt tools choice =
      "You are an AI assistant that can call external tools to solve the user's request.\n\n" ++
        ("Available tools:\n\n" ++ "\n\n".intercalate (tools.map ToolSpec.describe) ++ "\n\n") ++
          toolInstructions ++ choice.sentence := by
    unfold toolPrompt
    rw [hsome]
    rfl
  rw [htext]
  simp only [String.toList_append, List.append_assoc]

theorem blockless_toolPrompt {tools : List ToolSpec} {choice : ToolChoice} (htools : tools ≠ [])
    (hunmarked : ∀ t ∈ tools, UnmarkedTool t)
    (hchoice : ∀ name, choice = .only name → Unmarked name.toList) :
    Blockless (toolPrompt tools choice).toList := by
  have hinstructions := blockless_instructions (unmarked_sentence hchoice)
  have hdescriptions := unmarked_descriptions hunmarked
  rw [toList_toolPrompt htools]
  refine blockless_line (by decide +kernel) ?_
  refine blockless_line (by decide +kernel) ?_
  have hgap : BeginsApart "\n\n".toList := by decide +kernel
  refine blockless_append (Or.inr (BeginsApart.append hgap (by decide +kernel))) hdescriptions ?_
  exact blockless_line (by decide +kernel) hinstructions

/-- The prompt for some tools is read as an answer, unchanged and without calls, when the marker of a
call stands in no name, description or printed parameters of a tool and not in the name of the forced
one. The marker does stand in the prompt, whose instructions show a call. -/
theorem extract_toolPrompt (ids : IdSource) (next : Nat) {tools : List ToolSpec}
    {choice : ToolChoice} (htools : tools ≠ []) (hunmarked : ∀ t ∈ tools, UnmarkedTool t)
    (hchoice : ∀ name, choice = .only name → Unmarked name.toList) :
    extract ids next (toolPrompt tools choice) tools =
      (⟨some (toolPrompt tools choice), []⟩, next) := by
  have hsome : tools.isEmpty = false := by simpa using htools
  have hblocks : blocks (toolPrompt tools choice).toList = [] :=
    blocks_of_blockless (blockless_toolPrompt htools hunmarked hchoice)
  have hold : oldCalls ids next (toolPrompt tools choice) = ([], next) :=
    oldCalls_of_start ids next (toList_toolPrompt htools choice) (by decide) (by decide) (by decide)
  unfold extract
  rw [hsome, hblocks, hold]
  rfl

/-- Tools whose texts are parts of a marker, which would join where the prompt sets them side by
side. -/
def partTools : List ToolSpec :=
  [{ name := "TOOL", description := "_CALL: find\n   ARGUMENTS: \x7b\x7d" },
    { name := "TOOL_CALL", description := ": find\nARGUMENTS: \x7b\x7d\nTOOL_CALL" }]

theorem extract_toolPrompt_partTools :
    partTools ≠ [] ∧ (∀ t ∈ partTools, UnmarkedTool t) ∧ Unmarked "_CALL:".toList ∧
      extract (.numbered "call") 0 (toolPrompt partTools (.only "_CALL:")) partTools =
        (⟨some (toolPrompt partTools (.only "_CALL:")), []⟩, 0) := by
  have htools : partTools ≠ [] := by simp [partTools]
  have hunmarked : ∀ t ∈ partTools, UnmarkedTool t := by
    intro t ht
    rcases List.mem_pair.1 ht with rfl | rfl <;> constructor <;> decide +kernel
  have hname : Unmarked "_CALL:".toList := by decide +kernel
  refine ⟨htools, hunmarked, hname, ?_⟩
  apply extract_toolPrompt (.numbered "call") 0 htools hunmarked
  intro name hchoice
  obtain rfl := ToolChoice.only.inj hchoice
  exact hname

end Dialogue.Tool
