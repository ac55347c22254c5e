import Dialogue.Proofs.Text.CharClass
import Dialogue.Tool.Block

/-!
# Dialogue.Proofs.Tool.Grammar — reading a block is matching its grammar

`Written b written rest` is the grammar of blocks: `written` is the written form of `b`, and what
follows it is `rest`. What follows matters, because an argument text ends only before a line break or
at the end of the text.

* `ShortestArguments` — an argument text is the shortest that is closed;
* `block?_eq_some_iff` — `block?` finds a block just where the grammar has one.
-/

namespace Dialogue.Tool

open Dialogue.Text (Stops isBlank isWord span_eq_iff stops_cons)

/-! ## The grammar -/

/-- A text is closed before what follows it: it ends with a closing brace, and a line break or the
end follows. -/
def Closed (body after : List Char) : Prop :=
  body.getLast? = some '}' ∧ (after = [] ∨ after.head? = some '\n')

/-- A text is closed, and nothing shorter at its start is. -/
def ShortestClosed (body after : List Char) : Prop :=
  Closed body after ∧
    ∀ first second, body = first ++ second → Closed first (second ++ after) → second = []

/-- A text that starts with a brace is the shortest argument text before what follows it. -/
def ShortestArguments (arguments after : List Char) : Prop :=
  ∃ body, arguments = '{' :: body ∧ ShortestClosed body after

/-- What may stand in a block beside its name and its arguments. -/
structure Layout where
  /-- Between the marker of a call and the name. -/
  blanks : List Char
  /-- Between the name and the end of its line. -/
  spaces : List Char
  /-- Before the marker of the arguments. -/
  indent : List Char
  /-- Between the marker of the arguments and the arguments. -/
  gap : List Char
  /-- After the arguments. -/
  ending : List Char

/-- A block written in a layout. -/
def Layout.write (l : Layout) (b : Block) : List Char :=
  callMarker ++ l.blanks ++ b.name ++ l.spaces ++ '\n' :: l.indent ++ argumentsMarker ++ l.gap ++
    b.arguments ++ l.ending

/-- A layout is one that a block may have before what follows it. -/
structure Layout.Fits (l : Layout) (b : Block) (rest : List Char) : Prop where
  blanks : ∀ c ∈ l.blanks, isBlank c = true
  name_ne : b.name ≠ []
  name : ∀ c ∈ b.name, isWord c = true
  /-- The name is all of the run of word characters. -/
  maximal : Stops isWord (l.spaces ++ ['\n'])
  spaces : ∀ c ∈ l.spaces, isSpace c = true
  indent : ∀ c ∈ l.indent, isSpace c = true
  gap : ∀ c ∈ l.gap, isBlank c = true
  arguments : ShortestArguments b.arguments (l.ending ++ rest)
  /-- A line break belongs to the block; without one, the text ends. -/
  ending : l.ending = ['\n'] ∨ l.ending = [] ∧ rest = []

/-- A text is the written form of a block before what follows it. -/
def Written (b : Block) (written rest : List Char) : Prop :=
  ∃ l : Layout, written = l.write b ∧ l.Fits b rest

/-- A block starts at the start of the characters. -/
def StartsBlock (cs : List Char) : Prop :=
  ∃ b written rest, cs = written ++ rest ∧ Written b written rest

/-! ## Argument texts -/

theorem not_closed_nil (after : List Char) : ¬ Closed [] after := by
  simp [Closed]

theorem closed_cons {c : Char} {body after : List Char} (hne : body ≠ []) :
    Closed (c :: body) after ↔ Closed body after := by
  unfold Closed
  rw [List.getLast?_cons_of_ne_nil hne]

/-- Where a single character is closed, nothing longer is the shortest. -/
theorem shortestClosed_cons_of_closed {c : Char} {body after : List Char}
    (h : Closed [c] (body ++ after)) : ShortestClosed (c :: body) after ↔ body = [] := by
  constructor
  · rintro ⟨-, hshortest⟩
    exact hshortest [c] body rfl h
  · rintro rfl
    refine ⟨h, ?_⟩
    intro first second heq hclosed
    cases first with
    | nil => exact absurd hclosed (not_closed_nil _)
    | cons d first =>
      have happend : first ++ second = [] := (List.cons.inj heq).2.symm
      exact (List.append_eq_nil_iff.1 happend).2

/-- Where a single character is not closed, it is left to the text after it. -/
theorem shortestClosed_cons_of_not_closed {c : Char} {body after : List Char}
    (h : ¬ Closed [c] (body ++ after)) :
    ShortestClosed (c :: body) after ↔ ShortestClosed body after := by
  by_cases hne : body = []
  · -- neither side has a closed text
    subst hne
    constructor
    · intro hshortest
      exact absurd hshortest.1 h
    · intro hshortest
      exact absurd hshortest.1 (not_closed_nil _)
  · unfold ShortestClosed
    rw [closed_cons hne]
    refine and_congr_right fun _ => ?_
    constructor
    · -- a shorter closed text after the character would be one with the character
      intro hshortest first second heq hclosed
      have hfirst : first ≠ [] := by
        rintro rfl
        exact not_closed_nil _ hclosed
      exact hshortest (c :: first) second (by rw [heq]; rfl) ((closed_cons hfirst).2 hclosed)
    · intro hshortest first second heq hclosed
      cases first with
      | nil => exact absurd hclosed (not_closed_nil _)
      | cons d first =>
        obtain ⟨rfl, hbody⟩ := List.cons.inj heq
        by_cases hfirst : first = []
        · subst hfirst
          obtain rfl : body = second := hbody
          exact absurd hclosed h
        · exact hshortest first second hbody ((closed_cons hfirst).1 hclosed)

/-- What follows a block that is followed by a line break, which belongs to it, or ends the text. -/
def Ends (after rest : List Char) : Prop := after = '\n' :: rest ∨ after = [] ∧ rest = []

theorem closed_singleton {c : Char} {after : List Char} :
    Closed [c] after ↔ c = '}' ∧ ∃ rest, Ends after rest := by
  unfold Closed Ends
  cases after with
  | nil => simp
  | cons d rest =>
    simp only [List.getLast?_singleton, Option.some.injEq, List.head?_cons, reduceCtorEq, false_or,
      List.cons.injEq, false_and, or_false]
    refine and_congr_right fun _ => ?_
    constructor
    · rintro rfl
      exact ⟨rest, rfl, rfl⟩
    · rintro ⟨_, hd, -⟩
      exact hd

theorem closing?_of_ends {after rest : List Char} (h : Ends after rest) :
    closing? ('}' :: after) = some (['}'], rest) := by
  rcases h with rfl | ⟨rfl, rfl⟩
  · rw [closing?]
  · rw [closing?]

theorem closing?_of_not_closed {c : Char} {cs : List Char} (h : ¬ Closed [c] cs) :
    closing? (c :: cs) = (closing? cs).map fun p => (c :: p.1, p.2) := by
  rw [closing?]
  · intro hc hcs
    exact h (closed_singleton.2 ⟨hc, [], Or.inr ⟨hcs, rfl⟩⟩)
  · intro rest hc hcs
    exact h (closed_singleton.2 ⟨hc, rest, Or.inl hcs⟩)

theorem ends_unique {after rest other : List Char} (h : Ends after rest) (h' : Ends after other) :
    rest = other := by
  rcases h with rfl | ⟨rfl, rfl⟩
  · rcases h' with h' | ⟨h', -⟩
    · exact (List.cons.inj h').2
    · contradiction
  · rcases h' with h' | ⟨-, rfl⟩
    · contradiction
    · rfl

/-- The reader stops at the shortest closed text. -/
theorem closing?_eq_some_iff {cs body rest : List Char} :
    closing? cs = some (body, rest) ↔
      ∃ after, cs = body ++ after ∧ ShortestClosed body after ∧ Ends after rest := by
  induction cs generalizing body with
  | nil =>
    constructor
    · intro h
      contradiction
    · rintro ⟨after, heq, ⟨hclosed, -⟩, -⟩
      obtain ⟨rfl, -⟩ := List.append_eq_nil_iff.1 heq.symm
      exact absurd hclosed (not_closed_nil _)
  | cons c cs ih =>
    by_cases hc : Closed [c] cs
    · -- the first character is closed by itself
      obtain ⟨rfl, left, hleft⟩ := closed_singleton.1 hc
      rw [closing?_of_ends hleft]
      constructor
      · intro h
        obtain ⟨rfl, rfl⟩ := Prod.mk.inj (Option.some.inj h)
        exact ⟨cs, rfl, (shortestClosed_cons_of_closed hc).2 rfl, hleft⟩
      · rintro ⟨after, heq, hshortest, hends⟩
        cases body with
        | nil => exact absurd hshortest.1 (not_closed_nil _)
        | cons d body =>
          obtain ⟨rfl, hcs⟩ := List.cons.inj heq
          obtain rfl : cs = body ++ after := hcs
          obtain rfl : body = [] := (shortestClosed_cons_of_closed hc).1 hshortest
          rw [ends_unique hleft hends]
    · -- the first character belongs to the text, which goes on
      rw [closing?_of_not_closed hc]
      constructor
      · intro h
        obtain ⟨⟨found, left⟩, hfound, heq⟩ := Option.map_eq_some_iff.1 h
        obtain ⟨rfl, rfl⟩ := Prod.mk.inj heq
        obtain ⟨after, rfl, hshortest, hends⟩ := ih.1 hfound
        exact ⟨after, rfl, (shortestClosed_cons_of_not_closed hc).2 hshortest, hends⟩
      · rintro ⟨after, heq, hshortest, hends⟩
        cases body with
        | nil => exact absurd hshortest.1 (not_closed_nil _)
        | cons d body =>
          obtain ⟨rfl, rfl⟩ := List.cons.inj heq
          have hbody := (shortestClosed_cons_of_not_closed hc).1 hshortest
          rw [ih.2 ⟨after, rfl, hbody, hends⟩]
          rfl

/-! ## The parts of a block -/

theorem afterWord?_eq_some_iff {word cs rest : List Char} :
    Json.afterWord? word cs = some rest ↔ cs = word ++ rest := by
  unfold Json.afterWord?
  constructor
  · intro h
    split at h
    · rename_i hprefix
      obtain ⟨tail, rfl⟩ := List.isPrefixOf_iff_prefix.1 hprefix
      simpa using h
    · contradiction
  · rintro rfl
    simp

/-- The reader of names takes the whole run of word characters after the blanks. -/
theorem name?_eq_some_iff {cs name rest : List Char} :
    name? cs = some (name, rest) ↔
      ∃ blanks, cs = blanks ++ (name ++ rest) ∧ (∀ c ∈ blanks, isBlank c = true) ∧
        name ≠ [] ∧ (∀ c ∈ name, isWord c = true) ∧ Stops isWord rest := by
  unfold name?
  simp only
  constructor
  · intro h
    split at h
    · contradiction
    · rename_i hne
      obtain ⟨hname, hrest⟩ := Prod.mk.inj (Option.some.inj h)
      obtain ⟨hspan, hword, hstops⟩ := span_eq_iff.1 ⟨hname, hrest⟩
      obtain ⟨hcs, hblank, -⟩ := span_eq_iff.1 ⟨rfl, hspan⟩
      refine ⟨cs.takeWhile isBlank, hcs, hblank, ?_, hword, hstops⟩
      rw [← hname]
      simpa using hne
  · rintro ⟨blanks, rfl, hblank, hne, hword, hstops⟩
    -- the blanks end where the name begins, so they do not eat into it
    have hstart : Stops isBlank (name ++ rest) := by
      cases name with
      | nil => contradiction
      | cons c name => exact stops_cons.2 (Text.isBlank_of_isWord (hword c List.mem_cons_self))
    have htaken : (name ++ rest).takeWhile isWord = name := Text.takeWhile_append hword hstops
    have hdropped : (name ++ rest).dropWhile isWord = rest := Text.dropWhile_append hword hstops
    rw [Text.dropWhile_append hblank hstart, htaken, hdropped]
    simpa using hne

/-- The reader of line ends passes spaces, one line break and spaces. -/
theorem nextLine?_eq_some_iff {cs rest : List Char} :
    nextLine? cs = some rest ↔
      ∃ spaces indent, cs = spaces ++ '\n' :: (indent ++ rest) ∧ (∀ c ∈ spaces, isSpace c = true) ∧
        (∀ c ∈ indent, isSpace c = true) ∧ Stops isSpace rest := by
  have hbreak : isSpace '\n' = false := by decide
  unfold nextLine?
  constructor
  · intro h
    split at h
    · rename_i left hleft
      obtain ⟨hcs, hspaces, -⟩ := span_eq_iff.1 ⟨rfl, hleft⟩
      obtain ⟨hindented, hindent, hstops⟩ := span_eq_iff.1 ⟨rfl, Option.some.inj h⟩
      refine ⟨_, _, ?_, hspaces, hindent, hstops⟩
      rw [← hindented]
      exact hcs
    · contradiction
  · rintro ⟨spaces, indent, rfl, hspaces, hindent, hstops⟩
    have hline : Stops isSpace ('\n' :: (indent ++ rest)) := stops_cons.2 hbreak
    rw [Text.dropWhile_append hspaces hline]
    simp only
    rw [Text.dropWhile_append hindent hstops]

/-- The reader of arguments passes blanks and takes the shortest argument text. -/
theorem argumentText?_eq_some_iff {cs arguments rest : List Char} :
    argumentText? cs = some (arguments, rest) ↔
      ∃ gap after, cs = gap ++ (arguments ++ after) ∧ (∀ c ∈ gap, isBlank c = true) ∧
        ShortestArguments arguments after ∧ Ends after rest := by
  have hbrace : isBlank '{' = false := by decide
  unfold argumentText?
  constructor
  · intro h
    split at h
    · rename_i left hleft
      obtain ⟨⟨body, found⟩, hbody, heq⟩ := Option.map_eq_some_iff.1 h
      obtain ⟨rfl, rfl⟩ := Prod.mk.inj heq
      obtain ⟨after, rfl, hshortest, hends⟩ := closing?_eq_some_iff.1 hbody
      obtain ⟨hcs, hgap, -⟩ := span_eq_iff.1 ⟨rfl, hleft⟩
      exact ⟨_, after, hcs, hgap, ⟨body, rfl, hshortest⟩, hends⟩
    · contradiction
  · rintro ⟨gap, after, rfl, hgap, ⟨body, rfl, hshortest⟩, hends⟩
    have hstart : Stops isBlank ('{' :: body ++ after) := stops_cons.2 hbrace
    rw [Text.dropWhile_append hgap hstart]
    have hbody := closing?_eq_some_iff.2 ⟨after, rfl, hshortest, hends⟩
    simp only [List.cons_append, hbody]
    rfl

/-! ## Blocks -/

theorem ends_iff {after rest : List Char} :
    Ends after rest ↔
      ∃ ending, after = ending ++ rest ∧ (ending = ['\n'] ∨ ending = [] ∧ rest = []) := by
  constructor
  · rintro (rfl | ⟨rfl, rfl⟩)
    · exact ⟨['\n'], rfl, Or.inl rfl⟩
    · exact ⟨[], rfl, Or.inr ⟨rfl, rfl⟩⟩
  · rintro ⟨ending, rfl, rfl | ⟨rfl, rfl⟩⟩
    · exact Or.inl rfl
    · exact Or.inr ⟨rfl, rfl⟩

theorem stops_append_cons {p : Char → Bool} {run : List Char} {c : Char} {rest : List Char} :
    Stops p (run ++ c :: rest) ↔ Stops p (run ++ [c]) := by
  cases run with
  | nil => exact stops_cons.trans stops_cons.symm
  | cons d run => exact stops_cons.trans stops_cons.symm

/-- What is read one part after the other is the written form of the whole. -/
theorem block?_eq_some_iff_parts {cs rest : List Char} {b : Block} :
    block? cs = some (b, rest) ↔
      ∃ afterMarker afterName line afterArgumentsMarker,
        Json.afterWord? callMarker cs = some afterMarker ∧
        name? afterMarker = some (b.name, afterName) ∧
        nextLine? afterName = some line ∧
        Json.afterWord? argumentsMarker line = some afterArgumentsMarker ∧
        argumentText? afterArgumentsMarker = some (b.arguments, rest) := by
  unfold block?
  simp only [Option.bind_eq_bind, Option.bind_eq_some_iff, Option.pure_def, Option.some.injEq,
    Prod.exists, Prod.mk.injEq]
  constructor
  · rintro ⟨r1, h1, name, r2, h2, r3, h3, r4, h4, arguments, r5, h5, rfl, rfl⟩
    exact ⟨r1, r2, r3, r4, h1, h2, h3, h4, h5⟩
  · rintro ⟨r1, r2, r3, r4, h1, h2, h3, h4, h5⟩
    exact ⟨r1, h1, b.name, r2, h2, r3, h3, r4, h4, b.arguments, rest, h5, rfl, rfl⟩

/-- A block is found where the grammar has one, and just that block. -/
theorem block?_eq_some_iff {cs rest : List Char} {b : Block} :
    block? cs = some (b, rest) ↔ ∃ written, cs = written ++ rest ∧ Written b written rest := by
  rw [block?_eq_some_iff_parts]
  constructor
  · -- from the last part back to the marker, each text is put together from what was read
    rintro ⟨r1, r2, r3, r4, h1, h2, h3, h4, h5⟩
    obtain ⟨gap, after, rfl, hgap, harguments, hends⟩ := argumentText?_eq_some_iff.1 h5
    obtain ⟨ending, rfl, hending⟩ := ends_iff.1 hends
    obtain rfl := afterWord?_eq_some_iff.1 h4
    obtain ⟨spaces, indent, rfl, hspaces, hindent, -⟩ := nextLine?_eq_some_iff.1 h3
    obtain ⟨blanks, rfl, hblanks, hne, hname, hstops⟩ := name?_eq_some_iff.1 h2
    obtain rfl := afterWord?_eq_some_iff.1 h1
    let l : Layout := ⟨blanks, spaces, indent, gap, ending⟩
    refine ⟨l.write b, ?_, l, rfl, ?_⟩
    · simp [l, Layout.write]
    · exact ⟨hblanks, hne, hname, stops_append_cons.1 hstops, hspaces, hindent, hgap, harguments,
        hending⟩
  · -- each reader stops where the layout says, because the next part cannot go on with its class
    rintro ⟨written, rfl, l, rfl, hfits⟩
    have hstops : Stops isSpace (argumentsMarker ++
        (l.gap ++ (b.arguments ++ (l.ending ++ rest)))) := stops_cons.2 (by decide)
    have hmarker : Json.afterWord? callMarker (l.write b ++ rest) =
        some (l.blanks ++ (b.name ++ (l.spaces ++ '\n' :: (l.indent ++ (argumentsMarker ++
          (l.gap ++ (b.arguments ++ (l.ending ++ rest)))))))) :=
      afterWord?_eq_some_iff.2 (by simp [Layout.write])
    have hline := nextLine?_eq_some_iff.2 ⟨l.spaces, l.indent, rfl, hfits.spaces, hfits.indent,
      hstops⟩
    have harguments := argumentText?_eq_some_iff.2 ⟨l.gap, l.ending ++ rest, rfl, hfits.gap,
      hfits.arguments, ends_iff.2 ⟨l.ending, rfl, hfits.ending⟩⟩
    refine ⟨_, _, _, _, hmarker, ?_, hline, afterWord?_eq_some_iff.2 rfl, harguments⟩
    exact name?_eq_some_iff.2 ⟨l.blanks, rfl, hfits.blanks, hfits.name_ne, hfits.name,
      stops_append_cons.2 hfits.maximal⟩

theorem block?_eq_none_iff {cs : List Char} : block? cs = none ↔ ¬ StartsBlock cs := by
  constructor
  · rintro hnone ⟨b, written, rest, hcs, hwritten⟩
    rw [block?_eq_some_iff.2 ⟨written, hcs, hwritten⟩] at hnone
    contradiction
  · intro hnot
    cases hblock : block? cs with
    | none => rfl
    | some found =>
      obtain ⟨written, hcs, hwritten⟩ := block?_eq_some_iff.1 hblock
      exact absurd ⟨found.1, written, found.2, hcs, hwritten⟩ hnot

end Dialogue.Tool
