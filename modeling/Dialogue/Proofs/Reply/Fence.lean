import Dialogue.Reply
import Dialogue.Proofs.Json.RoundTrip
import Dialogue.Proofs.Text.Trimming

/-!
# Dialogue.Proofs.Reply.Fence — a value is read through the fence around it

A model that is asked for a value may put blanks around its text, and a fence around it with a tag
in any letter case. Whatever the wrapping, the text inside is found again, because it neither starts
with a backquote or the first letter of the tag nor starts or ends with a blank. The fences inside
the strings of the value do not matter: the closing fence is the one that ends the reply.

* `Wrapped` — the ways to write a text into a reply;
* `trimmed_write` — how the text of a value starts and ends;
* `unfence?_fenced`, `payload_of_wrapped` — what is left of a reply without its wrapping;
* `decode_wrapped` — the statement for every value and every wrapping.
-/

namespace Dialogue

/-! ## How the text of a value starts and ends -/

namespace Json

/-- The characters with which the text of a value may start or end. -/
def boundsValue (c : Char) : Bool :=
  isDigit c || ['-', '"', '[', ']', '{', '}', 'n', 't', 'f', 'l', 'e'].contains c

/-- A number starts and ends with a digit, a sign before it apart. -/
theorem boundsValue_decimalChars (i : Int) :
    (∀ c ∈ (decimalChars i).head?, boundsValue c = true) ∧
      ∀ c ∈ (decimalChars i).getLast?, boundsValue c = true := by
  have hdigit : ∀ n, ∀ c ∈ Nat.toDigits 10 n, boundsValue c = true := by
    intro n c hc
    simp [boundsValue, isDigit_of_mem_toDigits hc]
  cases i with
  | ofNat n =>
    constructor
    · intro c hc
      exact hdigit n c (List.mem_of_head? hc)
    · intro c hc
      exact hdigit n c (List.mem_of_getLast? hc)
  | negSucc n =>
    constructor
    · intro c hc
      obtain rfl : '-' = c := by simpa [decimalChars] using hc
      decide
    · intro c hc
      -- the digits of a number are never missing
      have hne : Nat.toDigits 10 (n + 1) ≠ [] := Nat.toDigits_ne_nil
      rw [decimalChars, List.getLast?_cons_of_ne_nil hne] at hc
      exact hdigit (n + 1) c (List.mem_of_getLast? hc)

theorem boundsValue_write (style : Style) (depth : Nat) {j : Json} (hj : j.Rereadable) :
    (∀ c ∈ (write style depth j).head?, boundsValue c = true) ∧
      ∀ c ∈ (write style depth j).getLast?, boundsValue c = true := by
  cases j with
  | null => simp [write, boundsValue]
  | bool b => cases b <;> simp [write, boundsValue]
  | int i =>
    rw [write]
    exact boundsValue_decimalChars i
  | float x => exact absurd hj id
  | str s =>
    rw [write, quote, List.getLast?_concat]
    simp [boundsValue]
  | arr xs =>
    cases xs with
    | nil => simp [write, boundsValue]
    | cons x xs =>
      rw [write, List.getLast?_concat]
      simp [boundsValue]
  | obj ms =>
    cases ms with
    | nil => simp [write, boundsValue]
    | cons m ms =>
      rw [write, List.getLast?_concat]
      simp [boundsValue]

/-- No text of a value starts or ends with a blank. -/
theorem isBlank_of_boundsValue {c : Char} (h : boundsValue c = true) : Text.isBlank c = false := by
  have hdigits : ∀ n ∈ List.range' 48 10, Text.togglesAt Text.blankBounds n = false := by decide
  rw [boundsValue, Bool.or_eq_true] at h
  rcases h with hdigit | hmark
  · have hrange : '0' ≤ c ∧ c ≤ '9' := by simpa [isDigit] using hdigit
    have hlow : 48 ≤ c.toNat := hrange.1
    have hhigh : c.toNat ≤ 57 := hrange.2
    apply hdigits
    rw [List.mem_range'_1]
    omega
  · have hmarks : ['-', '"', '[', ']', '{', '}', 'n', 't', 'f', 'l', 'e'].all
        (fun d => !Text.isBlank d) = true := by decide
    simpa using List.all_eq_true.1 hmarks c (List.contains_iff_mem.1 hmark)

theorem trimmed_write (style : Style) (depth : Nat) {j : Json} (hj : j.Rereadable) :
    Text.Trimmed (write style depth j) := by
  obtain ⟨hfirst, hlast⟩ := boundsValue_write style depth hj
  constructor
  · intro c hc
    exact isBlank_of_boundsValue (hfirst c hc)
  · intro c hc
    rw [List.head?_reverse] at hc
    exact isBlank_of_boundsValue (hlast c hc)

end Json

namespace Reply

open Dialogue.Text (isBlank stripChars Stops Trimmed stops_cons)

/-! ## Wrappings -/

/-- A tag of a fence: `json` in any letter case, or nothing. -/
def IsTag (tag : List Char) : Prop := tag = [] ∨ tag.map Char.toLower = ['j', 's', 'o', 'n']

/-- A text is written as it is, or between fences. The opening fence may have a tag, and blanks may
stand between the fences and the text: spaces and tabs after the tag, line breaks next to the
fences. -/
inductive Wrapped (text : List Char) : List Char → Prop where
  | bare : Wrapped text text
  | fenced {tag before after : List Char} (htag : IsTag tag)
      (hbefore : ∀ c ∈ before, isBlank c = true) (hafter : ∀ c ∈ after, isBlank c = true) :
      Wrapped text (fence ++ tag ++ before ++ text ++ after ++ fence)

/-- What a text must be so that its wrapping can be told from it: it is trimmed, and starts with
neither a backquote nor the first letter of a tag. -/
structure Fenceable (text : List Char) : Prop where
  trimmed : Trimmed text
  given : text ≠ []
  first : ∀ c ∈ text.head?, c ≠ '\x60' ∧ c ≠ 'j' ∧ c ≠ 'J'

/-! ## Unwrapping -/

/-- A letter and its capital are the characters with one small form. -/
theorem eq_or_eq_of_toLower {c small capital : Char} (h : c.toLower = small)
    (hcapital : capital.val + 32 = small.val) : c = small ∨ c = capital := by
  unfold Char.toLower at h
  split at h
  · right
    have hval : c.val + 32 = small.val := congrArg Char.val h
    rw [← hcapital] at hval
    exact Char.ext (by simpa using hval)
  · exact Or.inl h

/-- A tag is skipped. -/
theorem skipTag_tag {tag : List Char} (h : tag.map Char.toLower = ['j', 's', 'o', 'n'])
    (rest : List Char) : skipTag (tag ++ rest) = rest := by
  simp only [List.map_eq_cons_iff, List.map_eq_nil_iff] at h
  obtain ⟨j, _, rfl, hj, s, _, rfl, hs, o, _, rfl, ho, n, _, rfl, hn, rfl⟩ := h
  have hfirst : j = 'j' ∨ j = 'J' := eq_or_eq_of_toLower hj rfl
  have hsecond : s = 's' ∨ s = 'S' ∨ s = 'ſ' := by
    have hcases : s = 's' ∨ s = 'S' := eq_or_eq_of_toLower hs rfl
    exact hcases.imp_right Or.inl
  have hthird : o = 'o' ∨ o = 'O' := eq_or_eq_of_toLower ho rfl
  have hlast : n = 'n' ∨ n = 'N' := eq_or_eq_of_toLower hn rfl
  simp [skipTag, tagLetters, hfirst, hsecond, hthird, hlast]

/-- What does not start with the first letter of a tag is not skipped. -/
theorem skipTag_eq_self {cs : List Char} (h : ∀ c ∈ cs.head?, c ≠ 'j' ∧ c ≠ 'J') :
    skipTag cs = cs := by
  unfold skipTag
  apply if_neg
  rintro ⟨hlength, hfits⟩
  cases cs with
  | nil => simp [tagLetters] at hlength
  | cons c rest =>
    obtain ⟨hsmall, hcapital⟩ := h c rfl
    simp [tagLetters, hsmall, hcapital] at hfits

theorem skipTag_append {tag rest : List Char} (htag : IsTag tag)
    (hrest : ∀ c ∈ rest.head?, c ≠ 'j' ∧ c ≠ 'J') : skipTag (tag ++ rest) = rest := by
  rcases htag with rfl | htag
  · exact skipTag_eq_self hrest
  · exact skipTag_tag htag rest

/-- At most a line break is skipped of the blanks in front of a text. -/
theorem skipLineBreak_append {blanks rest : List Char} (hrest : Stops isBlank rest) :
    ∃ kept, kept <:+ blanks ∧ skipLineBreak (blanks ++ rest) = kept ++ rest := by
  cases blanks with
  | nil =>
    refine ⟨[], List.suffix_rfl, ?_⟩
    unfold skipLineBreak
    split
    · rename_i more heq
      rw [List.nil_append] at heq
      rw [heq, stops_cons] at hrest
      contradiction
    · rfl
  | cons b blanks =>
    by_cases hb : b = '\n'
    · exact ⟨blanks, List.suffix_cons b blanks, by rw [hb]; rfl⟩
    · refine ⟨b :: blanks, List.suffix_rfl, ?_⟩
      unfold skipLineBreak
      split
      · rename_i more heq
        exact absurd (List.cons.inj heq).1 hb
      · rfl

/-- The line break after a tag is skipped with the spaces and tabs before it; of the blanks in front
of a text no others are. -/
theorem skipLineBreak_dropWhile {blanks rest : List Char} (hrest : Stops isBlank rest) :
    ∃ kept, kept <:+ blanks ∧
      skipLineBreak ((blanks ++ rest).dropWhile fun c => c == ' ' || c == '\t') = kept ++ rest := by
  have hstops : Stops (fun c => c == ' ' || c == '\t') rest := by
    intro c hc
    have hblank : isBlank c = false := hrest c hc
    rw [Bool.or_eq_false_iff, beq_eq_false_iff_ne, beq_eq_false_iff_ne]
    constructor
    · rintro rfl
      contradiction
    · rintro rfl
      contradiction
  have hdrop : (blanks ++ rest).dropWhile (fun c => c == ' ' || c == '\t') =
      blanks.dropWhile (fun c => c == ' ' || c == '\t') ++ rest := by
    rw [List.dropWhile_append]
    split
    · rename_i hnone
      rw [List.isEmpty_iff] at hnone
      rw [Text.dropWhile_eq_self hstops, hnone, List.nil_append]
    · rfl
  obtain ⟨kept, hkept, hskip⟩ :=
    @skipLineBreak_append (blanks.dropWhile fun c => c == ' ' || c == '\t') rest hrest
  exact ⟨kept, hkept.trans (List.dropWhile_suffix _), by rw [hdrop, hskip]⟩

theorem beforeFence?_append (body : List Char) : beforeFence? (body ++ fence) = some body := by
  have hends : fence.isSuffixOf (body ++ fence) = true := by
    rw [List.isSuffixOf_iff_suffix]
    exact List.suffix_append body fence
  simp [beforeFence?, hends]

/-- At most a line break is dropped of the blanks behind a text. -/
theorem dropLineBreak_append {text blanks : List Char} (htext : Stops isBlank text.reverse) :
    ∃ kept, kept <+: blanks ∧ dropLineBreak (text ++ blanks) = text ++ kept := by
  obtain ⟨kept, hkept, hskip⟩ := @skipLineBreak_append blanks.reverse text.reverse htext
  refine ⟨kept.reverse, ?_, ?_⟩
  · rw [← List.reverse_suffix, List.reverse_reverse]
    exact hkept
  · rw [dropLineBreak, List.reverse_append, hskip, List.reverse_append, List.reverse_reverse]

/-- A fenced text is found again once blanks are removed. -/
theorem unfence?_fenced {tag before text after : List Char} (htag : IsTag tag)
    (hbefore : ∀ c ∈ before, isBlank c = true) (hafter : ∀ c ∈ after, isBlank c = true)
    (htext : Fenceable text) :
    ∃ body, unfence? (fence ++ tag ++ before ++ text ++ after ++ fence) = some body ∧
      stripChars body = text := by
  have hstops : Stops isBlank (text ++ (after ++ fence)) :=
    (Text.stops_append_iff htext.given _).2 htext.trimmed.first
  -- the tag ends where the blanks or the text begin
  have hstart : ∀ c ∈ (before ++ (text ++ (after ++ fence))).head?, c ≠ 'j' ∧ c ≠ 'J' := by
    cases before with
    | nil =>
      intro c hc
      have hgiven : text.head?.isSome = true := List.isSome_head?.2 htext.given
      rw [List.nil_append, List.head?_append, Option.or_of_isSome hgiven] at hc
      exact (htext.first c hc).2
    | cons b before =>
      intro c hc
      obtain rfl : b = c := by simpa using hc
      have hblank : isBlank b = true := hbefore b List.mem_cons_self
      constructor
      · rintro rfl
        contradiction
      · rintro rfl
        contradiction
  obtain ⟨first, hfirst, hskip⟩ := @skipLineBreak_dropWhile before _ hstops
  have hlast : Stops isBlank (first ++ text).reverse := by
    rw [List.reverse_append]
    exact (Text.stops_append_iff (by simpa using htext.given) _).2 htext.trimmed.last
  obtain ⟨last, hlast, hdrop⟩ := @dropLineBreak_append _ after hlast
  refine ⟨first ++ text ++ last, ?_, ?_⟩
  · have hopen : Json.afterWord? fence (fence ++ (tag ++ (before ++ (text ++ (after ++ fence))))) =
        some (tag ++ (before ++ (text ++ (after ++ fence)))) := by simp [Json.afterWord?]
    have hbody : first ++ (text ++ (after ++ fence)) = first ++ text ++ after ++ fence := by simp
    simp only [List.append_assoc] at hdrop ⊢
    rw [unfence?, hopen]
    simp only [Option.bind_eq_bind, Option.bind_some, skipTag_append htag hstart, hskip]
    rw [hbody, beforeFence?_append]
    simp only [Option.bind_some, List.append_assoc, hdrop]
    rfl
  · refine Text.stripChars_between ?_ ?_ htext.trimmed htext.given
    · intro c hc
      exact hbefore c (hfirst.subset hc)
    · intro c hc
      exact hafter c (hlast.subset hc)

/-! ## Every wrapping -/

/-- A wrapping starts and ends with the text or with fences. -/
theorem Wrapped.trimmed {text wrapped : List Char} (h : Wrapped text wrapped)
    (htext : Fenceable text) : Trimmed wrapped ∧ wrapped ≠ [] := by
  cases h with
  | bare => exact ⟨htext.trimmed, htext.given⟩
  | fenced htag hbefore hafter =>
    have hfence : isBlank '\x60' = false := by decide
    refine ⟨⟨?_, ?_⟩, ?_⟩
    · simp [fence, Stops, hfence]
    · simp [fence, Stops, hfence]
    · simp [fence]

/-- What is left of a reply without its wrapping, and without the blanks around it, is the text. -/
theorem payload_of_wrapped {text wrapped left right : List Char} (h : Wrapped text wrapped)
    (hleft : ∀ c ∈ left, isBlank c = true) (hright : ∀ c ∈ right, isBlank c = true)
    (htext : Fenceable text) :
    payload (String.ofList (left ++ wrapped ++ right)) = String.ofList text := by
  obtain ⟨htrimmed, hgiven⟩ := h.trimmed htext
  have hstrip : stripChars (left ++ wrapped ++ right) = wrapped :=
    Text.stripChars_between hleft hright htrimmed hgiven
  rw [payload, String.toList_ofList, hstrip]
  cases h with
  | bare =>
    obtain ⟨c, rest, rfl⟩ := List.exists_cons_of_ne_nil htext.given
    have hne : '\x60' ≠ c := Ne.symm (htext.first c rfl).1
    have hnone : unfence? (c :: rest) = none := by
      rw [unfence?, fence, Json.afterWord?_none hne]
      rfl
    simp only [hnone]
  | fenced htag hbefore hafter =>
    obtain ⟨body, hbody, hinner⟩ := unfence?_fenced htag hbefore hafter htext
    simp only [hbody, hinner]

/-- The text of a value can be fenced. -/
theorem fenceable_write (style : Json.Style) (depth : Nat) {j : Json} (hj : j.Rereadable) :
    Fenceable (Json.write style depth j) where
  trimmed := Json.trimmed_write style depth hj
  given := by
    have hlength := Json.one_le_length_write style depth hj
    exact List.ne_nil_of_length_pos hlength
  first := by
    intro c hc
    have hbounds : Json.boundsValue c = true := (Json.boundsValue_write style depth hj).1 c hc
    refine ⟨?_, ?_, ?_⟩
    all_goals
      rintro rfl
      contradiction

/-- A value without doubles, without the same key twice in an object and without numbers longer than
are read is read back from a reply, whether it is written on one line or on many, whether the text
is bare or fenced, and whatever blanks stand around it. -/
theorem decode_wrapped {v : Json} (hv : Json.Faithful v) (style : Json.Style)
    {wrapped left right : List Char} (hwrapped : Wrapped (Json.write style 0 v) wrapped)
    (hleft : ∀ c ∈ left, isBlank c = true) (hright : ∀ c ∈ right, isBlank c = true) :
    decode (some (String.ofList (left ++ wrapped ++ right))) = .ok v := by
  have hpayload : payload (String.ofList (left ++ wrapped ++ right)) =
      String.ofList (Json.write style 0 v) :=
    payload_of_wrapped hwrapped hleft hright (fenceable_write style 0 hv.rereadable)
  have hread : Json.read (String.ofList (Json.write style 0 v)) = .ok v := by
    cases style with
    | compact => exact Json.read_compact hv
    | indented => exact Json.read_indented hv
  rw [decode, readJson, Option.getD_some, hpayload, hread]
  rfl

/-- A value with a fence of its own in a text. -/
def fencedCode : Json := .obj [("code", .str "```json\n[]\n```"), ("lines", .arr [.int 3, .null])]

/-- The value on many lines, in a fence with a tag and blanks on all sides. -/
def fencedReply : String :=
  "\n ```JSon \t\n\x7b\n  \"code\": \"```json\\n[]\\n```\",\n" ++
    "  \"lines\": [\n    3,\n    null\n  ]\n\x7d\n\n``` "

theorem faithful_fencedCode : Json.Faithful fencedCode := by
  have hnull : Json.Faithful .null := by
    rintro _ ⟨⟩
    trivial
  have hnumber : Json.Faithful (.int 3) := Json.faithful_int (by decide)
  have hlist : Json.Faithful (.arr [.int 3, .null]) := Json.faithful_arr (by simp [hnumber, hnull])
  exact Json.faithful_obj (by decide) (by simp [hlist, Json.faithful_str])

theorem decode_wrapped_fencedCode :
    Json.Faithful fencedCode ∧ decode (some fencedReply) = .ok fencedCode := by
  refine ⟨faithful_fencedCode, ?_⟩
  have hwrapped : Wrapped (Json.write .indented 0 fencedCode)
      (fence ++ ['J', 'S', 'o', 'n'] ++ [' ', '\t', '\n'] ++ Json.write .indented 0 fencedCode ++
        ['\n', '\n'] ++ fence) :=
    .fenced (Or.inr (by decide)) (List.all_eq_true.1 (by decide)) (List.all_eq_true.1 (by decide))
  have hreply : fencedReply = String.ofList (['\n', ' '] ++ (fence ++ ['J', 'S', 'o', 'n'] ++
      [' ', '\t', '\n'] ++ Json.write .indented 0 fencedCode ++ ['\n', '\n'] ++ fence) ++
        [' ']) := by
    decide +kernel
  rw [hreply]
  exact decode_wrapped faithful_fencedCode .indented hwrapped (List.all_eq_true.1 (by decide))
    (List.all_eq_true.1 (by decide))

end Reply

end Dialogue
