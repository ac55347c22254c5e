import Dialogue.Transcript

/-!
# Dialogue.Proofs.Transcript.Flattened — a flattened conversation keeps its turns apart

A history and a prompt are flattened into lines, one for each turn, and the prompt is a turn like
those before it. When no text has a line break in it, the breaks between the lines are the only
ones, so the text falls into the same lines again. Each line begins with one of three roles, none of
which is the beginning of another one's line, so it tells the kind of its turn, and its text. What a
text looks like does not matter: it may begin with a role, or be the mark at the end.

* `Entry.line_injective` — one line;
* `splitOn_lines` — the lines of a text;
* `render_inj_iff` — whole conversations.
-/

namespace Dialogue.Transcript

/-- The line of a turn. -/
def Entry.line (e : Entry) : String := Transcript.line e.role e.text

/-- A history and the prompt behind it as turns. -/
def turns (entries : List Entry) (current : String) : List Entry :=
  entries ++ [⟨.prompt, current⟩]

/-- No text of a conversation has a line break in it. -/
structure OneLine (entries : List Entry) (current : String) : Prop where
  history : ∀ e ∈ entries, '\n' ∉ e.text.toList
  prompt : '\n' ∉ current.toList

/-! ## One line -/

/-- A line tells the kind and the text of its turn. -/
theorem Entry.line_injective : Function.Injective Entry.line := by
  rintro ⟨kind, text⟩ ⟨kind', text'⟩ same
  have chars : ((kind.role ++ ": ") ++ text).toList = ((kind'.role ++ ": ") ++ text').toList :=
    congrArg String.toList same
  rw [String.toList_append, String.toList_append] at chars
  cases kind <;> cases kind'
  -- lines of one kind begin alike, lines of two kinds with different letters
  all_goals simp_all [Kind.role, String.toList_inj]

theorem Entry.newline_not_mem_line {e : Entry} (h : '\n' ∉ e.text.toList) :
    '\n' ∉ e.line.toList := by
  cases hkind : e.kind <;> simp [Entry.line, Transcript.line, Entry.role, hkind, Kind.role, h]

/-! ## Lines between breaks -/

theorem OneLine.turns {entries : List Entry} {current : String} (h : OneLine entries current) :
    ∀ e ∈ turns entries current, '\n' ∉ e.text.toList := by
  intro e he
  rcases List.mem_append.1 he with inHistory | last
  · exact h.history e inHistory
  · obtain rfl := List.mem_singleton.1 last
    exact h.prompt

/-- The lines of a conversation, with breaks between them. -/
def joined (entries : List Entry) (current : String) : List Char :=
  ['\n'].intercalate ((turns entries current).map fun e => e.line.toList)

theorem toList_render (entries : List Entry) (current : String) :
    (render entries current).toList = joined entries current ++ "\nassistant:".toList := by
  have lines : entries.map (fun e => Transcript.line e.role e.text) ++
      [Transcript.line "user" current] = (turns entries current).map Entry.line := by
    simp [turns, Entry.line, Entry.role, Kind.role]
  simp only [render, lines, String.toList_append, String.toList_intercalate, List.map_map]
  rfl

/-- The breaks of a conversation without others are those between its lines. -/
theorem splitOn_joined {entries : List Entry} {current : String} (h : OneLine entries current) :
    (joined entries current).splitOn '\n' =
      (turns entries current).map fun e => e.line.toList := by
  refine List.splitOn_intercalate '\n' ?_ (by simp [turns])
  intro chars hchars
  obtain ⟨e, he, rfl⟩ := List.mem_map.1 hchars
  exact Entry.newline_not_mem_line (h.turns e he)

/-! ## Conversations -/

theorem turns_inj_iff {entries entries' : List Entry} {current current' : String} :
    turns entries current = turns entries' current' ↔ entries = entries' ∧ current = current' := by
  rw [turns, turns, List.append_singleton_inj]
  simp

/-- Two conversations without line breaks in their texts are flattened to the same text only if they
are the same: as many turns, of the same kinds and with the same texts, and the same prompt. -/
theorem render_inj_iff {entries entries' : List Entry} {current current' : String}
    (h : OneLine entries current) (h' : OneLine entries' current') :
    render entries current = render entries' current' ↔
      entries = entries' ∧ current = current' := by
  refine ⟨fun same => ?_, fun same => same.1 ▸ same.2 ▸ rfl⟩
  have chars : joined entries current ++ "\nassistant:".toList =
      joined entries' current' ++ "\nassistant:".toList := by
    rw [← toList_render, ← toList_render, same]
  have lines : (turns entries current).map (fun e => e.line.toList) =
      (turns entries' current').map fun e => e.line.toList := by
    rw [← splitOn_joined h, ← splitOn_joined h', List.append_cancel_right chars]
  have injective (e e' : Entry) (same : e.line.toList = e'.line.toList) : e = e' :=
    Entry.line_injective (String.toList_inj.1 same)
  exact turns_inj_iff.1 ((List.map_inj_right injective).1 lines)

/-- A user who says what a model is shown: lines of a conversation, and the mark at its end. -/
def quotedTurns : List Entry :=
  [⟨.prompt, "user: hi"⟩, ⟨.response, "assistant:"⟩, ⟨.prompt, ""⟩]

/-- The same text after other turns is another conversation. -/
theorem render_inj_iff_quotedTurns :
    OneLine quotedTurns "assistant:" ∧ OneLine quotedTurns.dropLast "user: assistant:" ∧
      render quotedTurns "assistant:" ≠ render quotedTurns.dropLast "user: assistant:" := by
  have h : OneLine quotedTurns "assistant:" := ⟨by decide, by decide⟩
  have h' : OneLine quotedTurns.dropLast "user: assistant:" := ⟨by decide, by decide⟩
  refine ⟨h, h', fun same => ?_⟩
  have sameTurns := ((render_inj_iff h h').1 same).1
  exact absurd sameTurns (by decide)

-- a prompt with a line break can pass for a turn before it
example : render [⟨.prompt, "hi"⟩] "bye" = render [] "hi\nuser: bye" := by decide

end Dialogue.Transcript
