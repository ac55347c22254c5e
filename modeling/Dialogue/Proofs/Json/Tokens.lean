import Dialogue.Json.Printer
import Dialogue.Json.Reader
import Dialogue.Proofs.Text.CharClass

/-!
# Dialogue.Proofs.Json.Tokens — strings and whole numbers are read as they were printed

A printed token is read back before any text that cannot be taken for more of it: whatever follows the
closing quote of a string, and for a number whatever does not go on with a digit, a point or an
exponent (`inNumber`).

* `stringChars_quote` — a quoted text is read back to its last character;
* `number_decimalChars` — a whole number is read back when it has no more digits than are read;
* `value_quote`, `value_decimalChars` — both as values.
-/

namespace Dialogue.Json

open Dialogue.Text (Stops stops_cons)

/-! ## Strings -/

theorem hexValue?_hexDigit : ∀ n < 16, hexValue? (hexDigit n) = some n := by
  decide

/-- The four digits of a control character give its code point. -/
theorem hexUnit?_control {n : Nat} (h : n < 0x20) :
    hexUnit? '0' '0' (hexDigit (n / 16)) (hexDigit (n % 16)) = some n := by
  have hzero : hexValue? '0' = some 0 := by decide
  have hhigh := hexValue?_hexDigit (n / 16) (by omega)
  have hlow := hexValue?_hexDigit (n % 16) (by omega)
  simp [hexUnit?, hzero, hhigh, hlow, Nat.div_add_mod']

/-- A character that is neither a quote nor a backslash stands for itself. -/
theorem stringChars_plain {c : Char} (hquote : c ≠ '"') (hslash : c ≠ '\\') (hprint : 0x20 ≤ c.toNat)
    (opened : Nat) (rest : List Char) :
    stringChars opened none (c :: rest) = before [c] (stringChars opened none rest) := by
  rw [stringChars]
  · rw [if_neg (by omega)]
    rfl
  · intro h _
    exact hslash h
  · exact hquote
  · intro _ _ _ _ _ _ h _
    exact hslash h
  · intro _ h _
    exact hslash h
  · intro _ _ h _
    exact hslash h

/-- A letter after a backslash stands for its character. -/
theorem stringChars_escape {e c : Char} (hletter : e ≠ 'u') (h : unescape? e = some c) (opened : Nat)
    (rest : List Char) :
    stringChars opened none ('\\' :: e :: rest) = before [c] (stringChars opened none rest) := by
  rw [stringChars]
  · rw [h]
    rfl
  · intro _ _ _ _ _ _ he _
    exact hletter he
  · exact hletter

/-- Four digits of a control character stand for it, as long as something follows. -/
theorem stringChars_control {c : Char} (h : c.toNat < 0x20) (opened : Nat) {rest : List Char}
    (hrest : rest ≠ []) :
    stringChars opened none
        ('\\' :: 'u' :: '0' :: '0' :: hexDigit (c.toNat / 16) :: hexDigit (c.toNat % 16) :: rest) =
      before [c] (stringChars opened none rest) := by
  cases rest with
  | nil => contradiction
  | cons d rest =>
    have hunit : takeUnit none c.toNat = ([c], none) := by
      have hlow : ¬ (0xDC00 ≤ c.toNat ∧ c.toNat < 0xE000) := by omega
      have hhigh : ¬ (0xD800 ≤ c.toNat ∧ c.toNat < 0xDC00) := by omega
      rw [takeUnit, if_neg hlow, if_neg hhigh, Char.ofNat_toNat]
      rfl
    rw [stringChars, hexUnit?_control h]
    simp only [hunit]

/-- A printed character is read back, as long as something follows. -/
theorem stringChars_escapeChar (opened : Nat) (c : Char) {rest : List Char} (hrest : rest ≠ []) :
    stringChars opened none (escapeChar c ++ rest) = before [c] (stringChars opened none rest) := by
  unfold escapeChar
  split
  · exact stringChars_escape (by decide) rfl opened rest
  · exact stringChars_escape (by decide) rfl opened rest
  · exact stringChars_escape (by decide) rfl opened rest
  · exact stringChars_escape (by decide) rfl opened rest
  · exact stringChars_escape (by decide) rfl opened rest
  · exact stringChars_escape (by decide) rfl opened rest
  · exact stringChars_escape (by decide) rfl opened rest
  · rename_i hquote hslash _ _ _ _ _
    split
    · rename_i hcontrol
      exact stringChars_control hcontrol opened hrest
    · rename_i hprint
      exact stringChars_plain hquote hslash (by omega) opened rest

/-- A quoted text is read back to its last character. -/
theorem stringChars_quote (opened : Nat) (cs rest : List Char) :
    stringChars opened none (cs.flatMap escapeChar ++ '"' :: rest) = .ok (cs, rest) := by
  induction cs with
  | nil =>
    have hend : stringChars opened none ('"' :: rest) = .ok ([], rest) := by
      rw [stringChars]
      rfl
    exact hend
  | cons c cs ih =>
    have hmore : cs.flatMap escapeChar ++ '"' :: rest ≠ [] := by simp
    rw [List.flatMap_cons, List.append_assoc, stringChars_escapeChar opened c hmore, ih]
    rfl

/-! ## Whole numbers -/

/-- A character with which a number may go on. -/
def inNumber (c : Char) : Bool := isDigit c || c == '.' || c == 'e' || c == 'E'

theorem isDigit_eq (c : Char) : isDigit c = c.isDigit := by
  simp [isDigit, Char.isDigit, Char.le_def, Bool.decide_and]

theorem isDigit_of_mem_toDigits {c : Char} {n : Nat} (h : c ∈ Nat.toDigits 10 n) :
    isDigit c = true := by
  rw [isDigit_eq]
  exact Nat.isDigit_of_mem_toDigits (by omega) (by omega) h

theorem digitsValue_toDigits (n : Nat) : digitsValue (Nat.toDigits 10 n) = n :=
  Nat.ofDigitChars_toDigits (by omega) (by omega)

/-- The digits of a number other than zero do not start with a zero. -/
theorem head?_toDigits {n : Nat} (h : n ≠ 0) : (Nat.toDigits 10 n).head? ≠ some '0' := by
  induction n using Nat.strongRecOn with
  | ind n ih =>
    by_cases hsmall : n < 10
    · rw [Nat.toDigits_of_lt_base hsmall]
      simpa using h
    · have hhead : (Nat.toDigits 10 (n / 10)).head?.isSome := by simp
      rw [Nat.toDigits_of_base_le (by omega) (by omega), List.head?_append,
        Option.or_of_isSome hhead]
      exact ih (n / 10) (by omega) (by omega)

theorem stops_isDigit {rest : List Char} (h : Stops inNumber rest) : Stops isDigit rest := by
  intro c hc
  have hnot := h c hc
  simp only [inNumber, Bool.or_eq_false_iff] at hnot
  exact hnot.1.1.1

/-- Printed digits are read back whole. -/
theorem wholeDigits?_toDigits (n : Nat) {rest : List Char} (hrest : Stops isDigit rest) :
    wholeDigits? (Nat.toDigits 10 n ++ rest) = some (Nat.toDigits 10 n, rest) := by
  by_cases hzero : n = 0
  · subst hzero
    rfl
  · have hhead := head?_toDigits hzero
    have hdigits : ∀ c ∈ Nat.toDigits 10 n, isDigit c = true := fun c => isDigit_of_mem_toDigits
    cases hn : Nat.toDigits 10 n with
    | nil => simp at hn
    | cons d digits =>
      rw [hn] at hhead hdigits
      have hd : isDigit d = true := hdigits d List.mem_cons_self
      have htail : ∀ c ∈ digits, isDigit c = true := fun c hc => hdigits c (List.mem_cons_of_mem d hc)
      have hne : d ≠ '0' := by simpa using hhead
      rw [List.cons_append, wholeDigits?]
      · rw [if_pos hd, Text.takeWhile_append htail hrest, Text.dropWhile_append htail hrest]
      · exact hne

theorem fractionDigits?_none {rest : List Char} (h : Stops inNumber rest) :
    fractionDigits? rest = none := by
  unfold fractionDigits?
  split
  · rename_i tail
    have hpoint := stops_cons.1 h
    contradiction
  · rfl

theorem exponent?_none {rest : List Char} (h : Stops inNumber rest) : exponent? rest = none := by
  cases rest with
  | nil => rfl
  | cons c tail =>
    have hc := stops_cons.1 h
    have hne : ¬ (c = 'e' ∨ c = 'E') := by
      rintro (rfl | rfl)
      · contradiction
      · contradiction
    simp [exponent?, hne]

/-- A whole number is read back when it has no more digits than are read. -/
theorem number_decimalChars {i : Int} (hdigits : (Nat.toDigits 10 i.natAbs).length ≤ maxDigits)
    {rest : List Char} (hrest : Stops inNumber rest) :
    number (decimalChars i ++ rest) = .ok (.int i, rest) := by
  have hfraction := fractionDigits?_none hrest
  have hexponent := exponent?_none hrest
  have hwhole : ∀ n, wholeDigits? (Nat.toDigits 10 n ++ rest) = some (Nat.toDigits 10 n, rest) :=
    fun n => wholeDigits?_toDigits n (stops_isDigit hrest)
  cases i with
  | ofNat n =>
    have hshort : ¬ maxDigits < (Nat.toDigits 10 n).length := by simpa using hdigits
    -- the digits do not start with a sign
    have hsign : ∀ tail, Nat.toDigits 10 n ++ rest ≠ '-' :: tail := by
      intro tail heq
      have hhead : (Nat.toDigits 10 n).head? = some '-' := by
        have hsome : (Nat.toDigits 10 n).head?.isSome := by simp
        rw [← Option.or_of_isSome hsome, ← List.head?_append, heq]
        rfl
      have hdigit := isDigit_of_mem_toDigits (List.mem_of_head? hhead)
      contradiction
    rw [decimalChars, number]
    · simp only [hwhole, hfraction, Option.elim_none, hexponent, if_neg hshort,
        digitsValue_toDigits]
      rfl
    · exact hsign
  | negSucc n =>
    have hshort : ¬ maxDigits < (Nat.toDigits 10 (n + 1)).length := by simpa using hdigits
    rw [decimalChars, List.cons_append, number]
    simp only [hwhole, hfraction, Option.elim_none, hexponent, if_neg hshort, digitsValue_toDigits]
    rfl

/-! ## Tokens as values -/

theorem quote_append (s : String) (rest : List Char) :
    quote s ++ rest = '"' :: (s.toList.flatMap escapeChar ++ '"' :: rest) := by
  simp [quote]

theorem value_quote (fuel : Nat) (s : String) (rest : List Char) :
    value (fuel + 1) (quote s ++ rest) = .ok (.str s, rest) := by
  rw [quote_append, value]
  rw [stringChars_quote]
  show Except.ok (Json.str (String.ofList s.toList), rest) = _
  rw [String.ofList_toList]

/-- A word that starts with another character does not stand at the start. -/
theorem afterWord?_none {w c : Char} (hne : w ≠ c) (word rest : List Char) :
    afterWord? (w :: word) (c :: rest) = none := by
  have hnot : (w == c) = false := by simpa using hne
  simp [afterWord?, List.isPrefixOf, hnot]

/-- The first characters of the literals. -/
def literalHeads : List Char := ['n', 't', 'f', 'N', 'I', '-']

theorem literal?_none {c : Char} (h : c ∉ literalHeads) (rest : List Char) :
    literal? (c :: rest) = none := by
  have hword : ∀ w word, w ∈ literalHeads → afterWord? (w :: word) (c :: rest) = none := by
    intro w word hw
    refine afterWord?_none ?_ word rest
    rintro rfl
    exact h hw
  have hnull := hword 'n' "ull".toList (by decide)
  have htrue := hword 't' "rue".toList (by decide)
  have hfalse := hword 'f' "alse".toList (by decide)
  have hnan := hword 'N' "aN".toList (by decide)
  have hinfinity := hword 'I' "nfinity".toList (by decide)
  have hnegative := hword '-' "Infinity".toList (by decide)
  simp_all [literal?]

theorem isDigit_literalHeads : ∀ c ∈ literalHeads, isDigit c = false := by
  simp [literalHeads, isDigit]

/-- No literal starts with a digit, and the one that starts with a sign goes on with a letter. -/
theorem literal?_number {d : Char} (hd : isDigit d = true) (rest : List Char) :
    literal? (d :: rest) = none ∧ literal? ('-' :: d :: rest) = none := by
  have hhead : d ∉ literalHeads := by
    intro hmem
    rw [isDigit_literalHeads d hmem] at hd
    contradiction
  have hword : ∀ w word, w ≠ '-' → afterWord? (w :: word) ('-' :: d :: rest) = none :=
    fun w word hw => afterWord?_none hw word (d :: rest)
  have hnull := hword 'n' "ull".toList (by decide)
  have htrue := hword 't' "rue".toList (by decide)
  have hfalse := hword 'f' "alse".toList (by decide)
  have hnan := hword 'N' "aN".toList (by decide)
  have hinfinity := hword 'I' "nfinity".toList (by decide)
  have hnegative : afterWord? "-Infinity".toList ('-' :: d :: rest) = none := by
    have hletter : 'I' ≠ d := by
      rintro rfl
      contradiction
    simp [afterWord?, List.isPrefixOf, hletter]
  refine ⟨literal?_none hhead rest, ?_⟩
  simp_all [literal?]

/-- What starts like a number is read as one. -/
theorem value_number (fuel : Nat) {d : Char} (hd : isDigit d = true) (rest : List Char) :
    value (fuel + 1) (d :: rest) = number (d :: rest) ∧
      value (fuel + 1) ('-' :: d :: rest) = number ('-' :: d :: rest) := by
  obtain ⟨hplain, hsign⟩ := literal?_number hd rest
  have hne : ∀ w, isDigit w = false → d ≠ w := by
    intro w hw heq
    rw [← heq, hd] at hw
    contradiction
  constructor
  · rw [value]
    · rw [hplain]
    · intro tail heq
      exact hne '"' (by decide) (List.cons.inj heq).1
    · intro tail heq
      exact hne '[' (by decide) (List.cons.inj heq).1
    · intro tail heq
      exact hne '{' (by decide) (List.cons.inj heq).1
  · rw [value]
    · rw [hsign]
    · simp
    · simp
    · simp

theorem value_decimalChars (fuel : Nat) {i : Int}
    (hdigits : (Nat.toDigits 10 i.natAbs).length ≤ maxDigits) {rest : List Char}
    (hrest : Stops inNumber rest) :
    value (fuel + 1) (decimalChars i ++ rest) = .ok (.int i, rest) := by
  rw [← number_decimalChars hdigits hrest]
  have hdigit : ∀ n, ∃ d digits, Nat.toDigits 10 n = d :: digits ∧ isDigit d = true := by
    intro n
    obtain ⟨d, digits, hcons⟩ := List.exists_cons_of_ne_nil (Nat.toDigits_ne_nil (n := n) (b := 10))
    refine ⟨d, digits, hcons, isDigit_of_mem_toDigits (n := n) ?_⟩
    rw [hcons]
    exact List.mem_cons_self
  cases i with
  | ofNat n =>
    obtain ⟨d, digits, hcons, hd⟩ := hdigit n
    rw [decimalChars, hcons]
    exact (value_number fuel hd (digits ++ rest)).1
  | negSucc n =>
    obtain ⟨d, digits, hcons, hd⟩ := hdigit (n + 1)
    rw [decimalChars, hcons]
    exact (value_number fuel hd (digits ++ rest)).2

/-! ## Texts that are no values -/

/-- A character with which a value may start, blanks before it and a byte order mark apart. -/
def startsValue (c : Char) : Bool :=
  isDigit c || c == '"' || c == '[' || c == '{' || literalHeads.contains c

theorem value_error {c : Char} (h : startsValue c = false) (fuel : Nat) (rest : List Char) :
    value (fuel + 1) (c :: rest) = .error (.misread .expectingValue (rest.length + 1)) := by
  simp only [startsValue, Bool.or_eq_false_iff, beq_eq_false_iff_ne] at h
  obtain ⟨⟨⟨⟨hdigit, hquote⟩, hbracket⟩, hbrace⟩, hliteral⟩ := h
  have hhead : c ∉ literalHeads := by simpa using hliteral
  have hsign : c ≠ '-' := by
    rintro rfl
    exact hhead (by decide)
  have hwhole : wholeDigits? (c :: rest) = none := by
    rw [wholeDigits?]
    · simp [hdigit]
    · rintro rfl
      contradiction
  rw [value]
  · rw [literal?_none hhead]
    simp only
    rw [number]
    · simp [hwhole]
    · simpa using hsign
  · simpa using hquote
  · simpa using hbracket
  · simpa using hbrace

/-- A text that starts with no blank, no byte order mark and no character of a value is not JSON. -/
theorem read_error {text : String} {c : Char} {rest : List Char} (htext : text.toList = c :: rest)
    (hmark : c ≠ '\uFEFF') (hblank : isJsonBlank c = false) (hvalue : startsValue c = false) :
    read text = .error (.misread .expectingValue (rest.length + 1)) := by
  have hhead : (c :: rest).head? ≠ some '\uFEFF' := by simpa using hmark
  have hskip : skipBlanks (c :: rest) = c :: rest :=
    List.dropWhile_cons_of_neg (by simp [hblank])
  rw [read, readChars, htext, if_neg hhead, hskip, value_error hvalue]
  rfl

end Dialogue.Json
