import Dialogue.Proofs.Json.Printer
import Dialogue.Proofs.Json.RoundTrip
import Mathlib.Data.List.Basic

/-!
# Dialogue.Proofs.Json.Indented — where a brace ends a line of indented text

In indented text a closing brace stands at the end of a line, other than the last, in one case only:
it closes an object that is the last element or the last value of its container
(`braceEndsLine_write`). After every other object stands a comma, and the line breaks inside strings
are escaped.

* `BraceEndsLine` — a text has a line, other than the last, that ends with a closing brace;
* `stacked` — the items of a container, whether elements or members, each on a line of its own.
-/

namespace Dialogue.Json

/-! ## Braces at the ends of lines -/

/-- A closing brace stands before a line break. -/
def BraceEndsLine (cs : List Char) : Prop := ['}', '\n'] <:+: cs

theorem not_braceEndsLine_nil : ¬ BraceEndsLine [] := by
  simp [BraceEndsLine]

theorem braceEndsLine_cons {c : Char} {cs : List Char} :
    BraceEndsLine (c :: cs) ↔ (c = '}' ∧ cs.head? = some '\n') ∨ BraceEndsLine cs := by
  unfold BraceEndsLine
  rw [List.infix_cons_iff, List.cons_prefix_cons, eq_comm]
  cases cs with
  | nil => simp
  | cons d cs => simp [eq_comm]

theorem braceEndsLine_append {cs ds : List Char} :
    BraceEndsLine (cs ++ ds) ↔
      BraceEndsLine cs ∨ BraceEndsLine ds ∨ cs.getLast? = some '}' ∧ ds.head? = some '\n' := by
  induction cs with
  | nil => simp [not_braceEndsLine_nil]
  | cons c cs ih =>
    rw [List.cons_append, braceEndsLine_cons, braceEndsLine_cons, ih]
    cases cs with
    | nil => simp [BraceEndsLine, or_comm]
    | cons d cs =>
      rw [List.getLast?_cons_cons, List.cons_append, List.head?_cons, List.head?_cons, or_assoc]

/-- No brace ends a line of a text that stands on one line. -/
theorem not_braceEndsLine_of_line {cs : List Char} (h : '\n' ∉ cs) : ¬ BraceEndsLine cs := by
  intro hbrace
  exact h (hbrace.subset (by simp))

/-- A line break brings no brace. -/
theorem braceEndsLine_lineBreak_append {depth : Nat} {cs : List Char} :
    BraceEndsLine (Style.indented.lineBreak depth ++ cs) ↔ BraceEndsLine cs := by
  have hmem : '}' ∉ Style.indented.lineBreak depth := by simp [Style.lineBreak]
  have hnone : ¬ BraceEndsLine (Style.indented.lineBreak depth) :=
    fun hbrace => hmem (hbrace.subset (by simp))
  have hlast : (Style.indented.lineBreak depth).getLast? ≠ some '}' :=
    fun hlast => hmem (List.mem_of_getLast? hlast)
  simp [braceEndsLine_append, hnone, hlast]

/-! ## Items on lines of their own -/

/-- The items of a container, separated. -/
def stacked (depth : Nat) (item : List Char) (items : List (List Char)) : List Char :=
  item ++ items.flatMap (Style.indented.separator depth ++ ·)

theorem stacked_cons (depth : Nat) (item next : List Char) (items : List (List Char)) :
    stacked depth item (next :: items) =
      item ++ ',' :: (Style.indented.lineBreak depth ++ stacked depth next items) := by
  simp [stacked, Style.separator]

/-- Between items stands a comma, so a brace ends a line only inside an item. -/
theorem braceEndsLine_stacked {depth : Nat} {item : List Char} {items : List (List Char)} :
    BraceEndsLine (stacked depth item items) ↔ ∃ i ∈ item :: items, BraceEndsLine i := by
  induction items generalizing item with
  | nil => simp [stacked]
  | cons next items ih =>
    rw [stacked_cons, braceEndsLine_append, braceEndsLine_cons, braceEndsLine_lineBreak_append, ih]
    simp

/-- Items end with the last one. -/
theorem getLast?_stacked (depth : Nat) {item last : List Char} {items : List (List Char)}
    (hlast : (item :: items).getLast? = some last) (hne : last ≠ []) :
    (stacked depth item items).getLast? = last.getLast? := by
  induction items generalizing item with
  | nil =>
    obtain rfl : item = last := by simpa using hlast
    simp [stacked]
  | cons next items ih =>
    rw [List.getLast?_cons_cons] at hlast
    have hrest : stacked depth next items ≠ [] := by
      intro hnil
      have hempty := ih hlast
      rw [hnil] at hempty
      exact hne (List.getLast?_eq_none_iff.1 hempty.symm)
    rw [stacked_cons, ← List.cons_append, ← List.append_assoc, List.getLast?_append_of_ne_nil _ hrest,
      ih hlast]

/-- A brace ends a line of a container inside it, or after its last item. -/
theorem braceEndsLine_wrapped {opening closing : Char} (hopening : opening ≠ '}') {depth : Nat}
    {body : List Char} :
    BraceEndsLine (opening :: (Style.indented.lineBreak (depth + 1) ++
        (body ++ (Style.indented.lineBreak depth ++ [closing])))) ↔
      BraceEndsLine body ∨ body.getLast? = some '}' := by
  have hclosing : ¬ BraceEndsLine [closing] := by simp [braceEndsLine_cons, not_braceEndsLine_nil]
  rw [braceEndsLine_cons, braceEndsLine_lineBreak_append, braceEndsLine_append,
    braceEndsLine_lineBreak_append]
  simp [hopening, hclosing, Style.lineBreak]

/-! ## The text of a value -/

theorem write_arr_eq (depth : Nat) (x : Json) (xs : List Json) :
    write .indented depth (.arr (x :: xs)) =
      '[' :: (Style.indented.lineBreak (depth + 1) ++
        (stacked (depth + 1) (write .indented (depth + 1) x) (xs.map (write .indented (depth + 1))) ++
          (Style.indented.lineBreak depth ++ [']']))) := by
  simp [write, stacked, writeElements_eq]

theorem write_obj_eq (depth : Nat) (m : String × Json) (ms : Members) :
    write .indented depth (.obj (m :: ms)) =
      '{' :: (Style.indented.lineBreak (depth + 1) ++
        (stacked (depth + 1) (memberText .indented (depth + 1) m)
            (ms.map (memberText .indented (depth + 1))) ++
          (Style.indented.lineBreak depth ++ ['}']))) := by
  obtain ⟨k, v⟩ := m
  simp [write, stacked, writeMembers_eq, memberText]

/-- Whether a value is an object. -/
def isObject : Json → Bool
  | .obj _ => true
  | _ => false

/-- Whether the last element or the last value of a container is an object. -/
def endsWithObject : Json → Bool
  | .arr xs => xs.getLast?.any isObject
  | .obj ms => ms.getLast?.any (·.2.isObject)
  | _ => false

theorem brace_not_mem_decimalChars (i : Int) : '}' ∉ decimalChars i := by
  have hdigits : ∀ n, '}' ∉ Nat.toDigits 10 n := by
    intro n h
    have hdigit := isDigit_of_mem_toDigits h
    contradiction
  cases i with
  | ofNat n => exact hdigits n
  | negSucc n => simp [decimalChars, hdigits]

/-- The text of an object ends with a brace, and no other text does. -/
theorem getLast?_write (depth : Nat) {j : Json} (hj : j.Rereadable) :
    (write .indented depth j).getLast? = some '}' ↔ j.isObject = true := by
  cases j with
  | null => exact iff_of_false (by simp [write]) (by simp [isObject])
  | bool b =>
    cases b with
    | true => exact iff_of_false (by simp [write]) (by simp [isObject])
    | false => exact iff_of_false (by simp [write]) (by simp [isObject])
  | int i =>
    refine iff_of_false ?_ (by simp [isObject])
    intro hlast
    rw [write] at hlast
    exact brace_not_mem_decimalChars i (List.mem_of_getLast? hlast)
  | float x => exact absurd hj id
  | str s =>
    refine iff_of_false ?_ (by simp [isObject])
    rw [write, quote, List.getLast?_concat]
    decide
  | arr xs =>
    refine iff_of_false ?_ (by simp [isObject])
    cases xs with
    | nil => simp [write]
    | cons x xs =>
      rw [write, List.getLast?_concat]
      decide
  | obj ms =>
    refine iff_of_true ?_ rfl
    cases ms with
    | nil => simp [write]
    | cons m ms => rw [write, List.getLast?_concat]

/-- A brace ends a line of a member inside its value only. -/
theorem braceEndsLine_memberText {depth : Nat} {m : String × Json} :
    BraceEndsLine (memberText .indented depth m) ↔ BraceEndsLine (write .indented depth m.2) := by
  have hkey : ¬ BraceEndsLine (quote m.1) := not_braceEndsLine_of_line (newline_not_mem_quote m.1)
  simp [memberText, braceEndsLine_append, braceEndsLine_cons, hkey]

theorem write_ne_nil (style : Style) (depth : Nat) {j : Json} (hj : j.Rereadable) :
    write style depth j ≠ [] := by
  obtain ⟨_, _, hcons, _⟩ := write_eq_cons style depth hj
  simp [hcons]

theorem getLast?_memberText (depth : Nat) {m : String × Json} (hm : m.2.Rereadable) :
    (memberText .indented depth m).getLast? = some '}' ↔ m.2.isObject = true := by
  have hne := write_ne_nil .indented depth hm
  rw [memberText, List.getLast?_append_of_ne_nil _ (by simp), List.getLast?_cons_of_ne_nil (by simp),
    List.getLast?_cons_of_ne_nil hne, getLast?_write depth hm]

section

variable {α : Type} {item : α → List Char} {value : α → Json} {depth : Nat} {x : α} {xs : List α}

/-- A brace ends a line of a container's items inside a value, or after them if the last value is an
object. -/
theorem braceEndsLine_items
    (hinside : ∀ y ∈ x :: xs, BraceEndsLine (item y) ↔
      ∃ part, Occurs part (value y) ∧ part.endsWithObject = true)
    (hlast : ∀ y ∈ x :: xs, (item y).getLast? = some '}' ↔ (value y).isObject = true)
    (hne : ∀ y ∈ x :: xs, item y ≠ []) :
    BraceEndsLine (stacked depth (item x) (xs.map item)) ∨
        (stacked depth (item x) (xs.map item)).getLast? = some '}' ↔
      (x :: xs).getLast?.any (fun y => (value y).isObject) = true ∨
        ∃ y ∈ x :: xs, ∃ part, Occurs part (value y) ∧ part.endsWithObject = true := by
  have hsome : (x :: xs).getLast? = some ((x :: xs).getLast (by simp)) :=
    List.getLast?_eq_some_getLast _
  have hmem := List.getLast_mem (List.cons_ne_nil x xs)
  have hend : (item x :: xs.map item).getLast? = some (item ((x :: xs).getLast (by simp))) := by
    rw [← List.map_cons, List.getLast?_map, hsome]
    rfl
  rw [getLast?_stacked depth hend (hne _ hmem), hlast _ hmem, hsome, Option.any_some, or_comm,
    braceEndsLine_stacked, ← List.map_cons]
  refine or_congr_right ?_
  constructor
  · rintro ⟨i, hi, hbrace⟩
    obtain ⟨y, hy, rfl⟩ := List.mem_map.1 hi
    exact ⟨y, hy, (hinside y hy).1 hbrace⟩
  · rintro ⟨y, hy, hpart⟩
    exact ⟨item y, List.mem_map_of_mem hy, (hinside y hy).2 hpart⟩

end

/-- A brace ends a line of indented text, other than the last, just when an object is the last
element or the last value of a container. -/
theorem braceEndsLine_write (depth : Nat) {j : Json} (hj : Faithful j) :
    BraceEndsLine (write .indented depth j) ↔ ∃ part, Occurs part j ∧ part.endsWithObject = true := by
  induction j using induction_on_parts generalizing depth with
  | null => exact iff_of_false (not_braceEndsLine_of_line (by simp [write])) (by rintro ⟨_, ⟨⟩, ⟨⟩⟩)
  | bool b =>
    refine iff_of_false (not_braceEndsLine_of_line ?_) (by rintro ⟨_, ⟨⟩, ⟨⟩⟩)
    cases b with
    | true => simp [write]
    | false => simp [write]
  | int i =>
    refine iff_of_false (not_braceEndsLine_of_line ?_) (by rintro ⟨_, ⟨⟩, ⟨⟩⟩)
    simpa [write] using not_mem_decimalChars (by decide) i
  | float x => exact absurd hj.rereadable id
  | str s =>
    refine iff_of_false (not_braceEndsLine_of_line ?_) (by rintro ⟨_, ⟨⟩, ⟨⟩⟩)
    simpa [write] using newline_not_mem_quote s
  | arr xs ih =>
    rw [exists_occurs_arr]
    have hxs := hj.element
    cases xs with
    | nil => simp [write, braceEndsLine_cons, not_braceEndsLine_nil, endsWithObject]
    | cons x xs =>
      rw [write_arr_eq, braceEndsLine_wrapped (by decide)]
      exact braceEndsLine_items (fun y hy => ih y hy (depth + 1) (hxs y hy))
        (fun y hy => getLast?_write (depth + 1) (hxs y hy).rereadable)
        (fun y hy => write_ne_nil .indented (depth + 1) (hxs y hy).rereadable)
  | obj ms ih =>
    rw [exists_occurs_obj]
    have hms := hj.member
    cases ms with
    | nil => simp [write, braceEndsLine_cons, not_braceEndsLine_nil, endsWithObject]
    | cons m ms =>
      rw [write_obj_eq, braceEndsLine_wrapped (by decide)]
      refine braceEndsLine_items (fun m hm => ?_)
        (fun m hm => getLast?_memberText (depth + 1) (hms m hm).rereadable)
        (fun m hm => by simp [memberText])
      rw [braceEndsLine_memberText]
      exact ih m hm (depth + 1) (hms m hm)

end Dialogue.Json
