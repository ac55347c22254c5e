import Dialogue.Proofs.Json.Regular
import Mathlib.Data.List.Infix

/-!
# Dialogue.Proofs.Json.Limit — where the limit on digits is met

A whole number with more digits than `maxDigits` is the one flaw that has nothing to do with the
grammar. Whenever the reader reports it, that many digits stand in a row in the text.

* `Confined` — a reader keeps to the characters that it was given: it leaves an end of them, and a
  number that is too long stands among them;
* `Confined.bind` — readers in a row keep to the characters of the first;
* `confined_reader` — values, elements and members, with any fuel;
* `digits_of_digitLimit` — the statement for a whole text;
* `number_tooLong`, `read_tooLong` — texts on which the limit is met first.
-/

namespace Dialogue.Json

open Dialogue.Text (Stops stops_cons takeWhile_append dropWhile_append)

/-- So many digits stand in a row among the characters. -/
def HasDigits (n : Nat) (cs : List Char) : Prop :=
  ∃ run, run <:+: cs ∧ run.length = n ∧ ∀ c ∈ run, isDigit c = true

/-- What a reader of these characters gives: it leaves an end of them, and if it reports a number
with too many digits, those stand in a row among them. -/
def Confined {α : Type} (cs : List Char) : Except Flaw (α × List Char) → Prop
  | .ok (_, rest) => rest <:+ cs
  | .error flaw => ∀ n, flaw = .digitLimit n → maxDigits < n ∧ HasDigits n cs

section

variable {α β : Type} {cs inner : List Char}

theorem confined_misread (problem : Problem) (remaining : Nat) :
    Confined cs (.error (.misread problem remaining) : Except Flaw (α × List Char)) := by
  intro n h
  contradiction

/-- What keeps to an end of the characters keeps to the characters. -/
theorem Confined.mono {r : Except Flaw (α × List Char)} (h : Confined inner r)
    (hend : inner <:+ cs) : Confined cs r := by
  cases r with
  | ok found => exact List.IsSuffix.trans h hend
  | error flaw =>
    intro n hflaw
    obtain ⟨hlong, run, hrun, hlength, hdigits⟩ := h n hflaw
    exact ⟨hlong, run, hrun.trans hend.isInfix, hlength, hdigits⟩

/-- A reader is followed by another one, on what it leaves. -/
theorem Confined.bind {r : Except Flaw (α × List Char)}
    {f : α × List Char → Except Flaw (β × List Char)} (h : Confined cs r)
    (hf : ∀ a rest, Confined rest (f (a, rest))) : Confined cs (r >>= f) := by
  cases r with
  | ok found => exact (hf found.1 found.2).mono h
  | error flaw => exact h

end

/-! ## Parts of values -/

section

variable {cs rest : List Char}

theorem confined_before {r : Except Flaw (List Char × List Char)} (h : Confined cs r)
    (done : List Char) : Confined cs (before done r) := by
  cases r with
  | ok found => exact h
  | error flaw => exact h

theorem confined_stringChars (opened : Nat) (high : Option Nat) (cs : List Char) :
    Confined cs (stringChars opened high cs) := by
  fun_induction stringChars opened high cs with
  | case1 => exact confined_misread _ _
  | case2 => exact confined_misread _ _
  | case3 high rest => exact List.suffix_cons _ _
  | case4 => exact confined_misread _ _
  | case5 high a b c d e rest unit _ done pending _ ih =>
    exact confined_before (ih.mono ⟨['\\', 'u', a, b, c, d], rfl⟩) _
  | case6 => exact confined_misread _ _
  | case7 => exact confined_misread _ _
  | case8 high e rest _ _ c _ ih => exact confined_before (ih.mono ⟨['\\', e], rfl⟩) _
  | case9 => exact confined_misread _ _
  | case10 high c rest _ _ _ _ _ _ ih => exact confined_before (ih.mono ⟨[c], rfl⟩) _

theorem suffix_skipBlanks (cs : List Char) : skipBlanks cs <:+ cs := List.dropWhile_suffix _

theorem suffix_afterWord? {word : List Char} (h : afterWord? word cs = some rest) :
    rest <:+ cs := by
  unfold afterWord? at h
  split at h
  · obtain rfl := Option.some.inj h
    exact List.drop_suffix _ _
  · contradiction

theorem suffix_literal? {j : Json} (h : literal? cs = some (j, rest)) : rest <:+ cs := by
  have hword : ∀ text value, (afterWord? text cs).map (value, ·) = some (j, rest) →
      rest <:+ cs := by
    intro text value hfound
    obtain ⟨tail, htail, heq⟩ := Option.map_eq_some_iff.1 hfound
    exact (Prod.mk.inj heq).2 ▸ suffix_afterWord? htail
  simp only [literal?, Option.orElse_eq_orElse, Option.orElse_eq_or, Option.or_eq_some_iff] at h
  rcases h with h | ⟨-, h | ⟨-, h | ⟨-, h | ⟨-, h | ⟨-, h⟩⟩⟩⟩⟩ <;> exact hword _ _ h

theorem append_of_wholeDigits? {whole : List Char} (h : wholeDigits? cs = some (whole, rest)) :
    cs = whole ++ rest := by
  unfold wholeDigits? at h
  split at h
  · obtain ⟨rfl, rfl⟩ := Prod.mk.inj (Option.some.inj h)
    rfl
  · split at h
    · obtain ⟨rfl, rfl⟩ := Prod.mk.inj (Option.some.inj h)
      rw [List.cons_append, List.takeWhile_append_dropWhile]
    · contradiction
  · contradiction

theorem suffix_fractionDigits? {digits : List Char} (h : fractionDigits? cs = some (digits, rest)) :
    rest <:+ cs := by
  unfold fractionDigits? at h
  split at h
  · simp only at h
    split at h
    · contradiction
    · obtain ⟨-, rfl⟩ := Prod.mk.inj (Option.some.inj h)
      exact (List.dropWhile_suffix _).trans (List.suffix_cons _ _)
  · contradiction

theorem suffix_exponent? {n : Int} (h : exponent? cs = some (n, rest)) : rest <:+ cs := by
  cases cs with
  | nil => contradiction
  | cons e tail =>
    -- the digits start after a sign, if there is one
    have hdigits : ∀ (negative : Bool) (body : List Char), body <:+ tail →
        (if (body.takeWhile isDigit).isEmpty then none
          else some (if negative then -(digitsValue (body.takeWhile isDigit) : Int)
            else digitsValue (body.takeWhile isDigit), body.dropWhile isDigit)) = some (n, rest) →
        rest <:+ e :: tail := by
      intro negative body hbody hsome
      split at hsome
      · contradiction
      · obtain ⟨-, rfl⟩ := Prod.mk.inj (Option.some.inj hsome)
        exact ((List.dropWhile_suffix _).trans hbody).trans (List.suffix_cons _ _)
    simp only [exponent?] at h
    split at h
    · split at h
      · exact hdigits true _ (List.suffix_cons _ _) h
      · exact hdigits false _ (List.suffix_cons _ _) h
      · exact hdigits false _ List.suffix_rfl h
    · contradiction

/-- What is left after a fraction and an exponent, where there are any. -/
theorem suffix_afterExponent (cs : List Char) :
    ((exponent? ((fractionDigits? cs).elim cs (·.2))).map (·.2)).getD
      (((fractionDigits? cs).map (·.2)).getD cs) <:+ cs := by
  have hfraction : (fractionDigits? cs).elim cs (·.2) <:+ cs ∧
      ((fractionDigits? cs).map (·.2)).getD cs <:+ cs := by
    cases h : fractionDigits? cs with
    | none => exact ⟨List.suffix_rfl, List.suffix_rfl⟩
    | some found => exact ⟨suffix_fractionDigits? h, suffix_fractionDigits? h⟩
  cases h : exponent? ((fractionDigits? cs).elim cs (·.2)) with
  | none => exact hfraction.2
  | some found => exact (suffix_exponent? h).trans hfraction.1

/-- A number that is refused for its digits is made of them. -/
theorem confined_number (cs : List Char) : Confined cs (number cs) := by
  have hbody : ∀ body, body <:+ cs → ∀ whole tail, wholeDigits? body = some (whole, tail) →
      whole <:+: cs ∧ tail <:+ cs := by
    intro body hbody whole tail hwhole
    have happend := append_of_wholeDigits? hwhole
    rw [happend] at hbody
    exact ⟨(List.prefix_append whole tail).isInfix.trans hbody.isInfix,
      (List.suffix_append whole tail).trans hbody⟩
  unfold number
  simp only
  split
  · exact confined_misread _ _
  · rename_i whole tail hwhole
    have hdigits := (isDigit_of_wholeDigits hwhole).2
    obtain ⟨hwithin, htail⟩ :=
      hbody _ (by split; exacts [List.suffix_cons _ _, List.suffix_rfl]) _ _ hwhole
    split
    · split
      · rename_i hlong
        intro n hn
        obtain rfl := Flaw.digitLimit.inj hn
        exact ⟨hlong, whole, hwithin, rfl, hdigits⟩
      · exact htail
    · exact (suffix_afterExponent tail).trans htail

/-! ## Values -/

variable {fuel : Nat}

/-- One value, when the containers that begin with it keep to their characters. -/
theorem confined_value_succ
    (helements : ∀ done cs, Confined cs (elements fuel done cs))
    (hmembers : ∀ done cs, Confined cs (members fuel done cs)) (cs : List Char) :
    Confined cs (value (fuel + 1) cs) := by
  rw [value.eq_def]
  simp only
  split
  · -- a string
    exact ((confined_stringChars _ _ _).mono (List.suffix_cons _ _)).bind
      fun text rest => List.suffix_rfl
  · -- an array
    rename_i tail
    have htail : skipBlanks tail <:+ '[' :: tail :=
      (suffix_skipBlanks tail).trans (List.suffix_cons _ _)
    split
    · rename_i rest heq
      rw [heq] at htail
      exact (List.suffix_cons _ _).trans htail
    · exact (helements _ _).mono htail
  · -- an object
    rename_i tail
    have htail : skipBlanks tail <:+ '{' :: tail :=
      (suffix_skipBlanks tail).trans (List.suffix_cons _ _)
    split
    · rename_i rest heq
      rw [heq] at htail
      exact (List.suffix_cons _ _).trans htail
    · exact (hmembers _ _).mono htail
  · split
    · rename_i found hfound
      exact suffix_literal? hfound
    · exact confined_number _

/-- One more element, when values and the elements after it keep to their characters. -/
theorem confined_elements_succ (hvalue : ∀ cs, Confined cs (value fuel cs))
    (helements : ∀ done cs, Confined cs (elements fuel done cs)) (done : List Json)
    (cs : List Char) : Confined cs (elements (fuel + 1) done cs) := by
  rw [elements]
  refine (hvalue cs).bind fun x rest => ?_
  have hrest := suffix_skipBlanks rest
  simp only
  split
  · rename_i tail heq
    rw [heq] at hrest
    exact (List.suffix_cons _ _).trans hrest
  · rename_i tail heq
    rw [heq] at hrest
    exact (helements _ _).mono ((suffix_skipBlanks tail).trans ((List.suffix_cons _ _).trans hrest))
  · exact confined_misread _ _

/-- One more member, when values and the members after it keep to their characters. -/
theorem confined_members_succ (hvalue : ∀ cs, Confined cs (value fuel cs))
    (hmembers : ∀ done cs, Confined cs (members fuel done cs)) (done : Members)
    (cs : List Char) : Confined cs (members (fuel + 1) done cs) := by
  rw [members.eq_def]
  simp only
  split
  · refine ((confined_stringChars _ _ _).mono (List.suffix_cons _ _)).bind fun key rest => ?_
    have hrest := suffix_skipBlanks rest
    simp only
    split
    · rename_i body heq
      rw [heq] at hrest
      refine (((hvalue _).mono ((suffix_skipBlanks body).trans
        ((List.suffix_cons _ _).trans hrest))).bind fun v left => ?_)
      have hleft := suffix_skipBlanks left
      simp only
      split
      · rename_i tail heq
        rw [heq] at hleft
        exact (List.suffix_cons _ _).trans hleft
      · rename_i tail heq
        rw [heq] at hleft
        exact (hmembers _ _).mono
          ((suffix_skipBlanks tail).trans ((List.suffix_cons _ _).trans hleft))
      · exact confined_misread _ _
    · exact confined_misread _ _
  · exact confined_misread _ _

end

/-- The reader keeps to its characters with any fuel: for a value, and for a container from any
place in it. -/
theorem confined_reader (fuel : Nat) :
    (∀ cs, Confined cs (value fuel cs)) ∧ (∀ done cs, Confined cs (elements fuel done cs)) ∧
    (∀ done cs, Confined cs (members fuel done cs)) := by
  induction fuel with
  | zero =>
    refine ⟨?_, ?_, ?_⟩
    · intro cs
      rw [value]
      exact confined_misread _ _
    · intro done cs
      rw [elements]
      exact confined_misread _ _
    · intro done cs
      rw [members]
      exact confined_misread _ _
  | succ fuel ih =>
    obtain ⟨hvalue, helements, hmembers⟩ := ih
    exact ⟨confined_value_succ helements hmembers, confined_elements_succ hvalue helements,
      confined_members_succ hvalue hmembers⟩

/-- Where the limit on digits is reported for a text, that many digits stand in a row in it. -/
theorem digits_of_digitLimit {text : String} {n : Nat} (h : read text = .error (.digitLimit n)) :
    maxDigits < n ∧ HasDigits n text.toList := by
  have hconfined : Confined text.toList (value (text.toList.length + 1) (skipBlanks text.toList)) :=
    ((confined_reader _).1 _).mono (suffix_skipBlanks _)
  unfold read readChars at h
  split at h
  · simp at h
  · cases hfound : value (text.toList.length + 1) (skipBlanks text.toList) with
    | error flaw =>
      rw [hfound] at h hconfined
      exact hconfined n (Except.error.inj h)
    | ok found =>
      -- only misreadings are reported after the value
      rw [hfound] at h
      simp only [bind, Except.bind] at h
      split at h
      · cases h
      · cases h

/-! ## Where the limit is met first -/

section

variable {d : Char} {digits : List Char} (hd : isDigit d = true) (hzero : d ≠ '0')
  (hdigits : ∀ c ∈ digits, isDigit c = true) (hlong : maxDigits ≤ digits.length)

include hd hzero hdigits hlong

/-- Too many digits in a row are no number, unless a fraction or an exponent follows. -/
theorem number_tooLong {rest : List Char} (hrest : Stops inNumber rest) :
    number (d :: (digits ++ rest)) = .error (.digitLimit (digits.length + 1)) := by
  have hwhole : wholeDigits? (d :: (digits ++ rest)) = some (d :: digits, rest) := by
    rw [wholeDigits?, if_pos hd, takeWhile_append hdigits (stops_isDigit hrest),
      dropWhile_append hdigits (stops_isDigit hrest)]
    exact hzero
  have hsign : ∀ tail, d :: (digits ++ rest) ≠ '-' :: tail := by
    rintro tail ⟨⟩
    contradiction
  have hcount : maxDigits < digits.length + 1 := Nat.lt_succ_of_le hlong
  rw [number]
  · simp only [hwhole, fractionDigits?_none hrest, Option.elim_none, exponent?_none hrest,
      List.length_cons, if_pos hcount]
  · exact hsign

/-- An array that starts with too many digits is refused for them. -/
theorem read_tooLong {c : Char} (hc : inNumber c = false) (rest : List Char) :
    read (String.ofList ('[' :: d :: (digits ++ c :: rest))) =
      .error (.digitLimit (digits.length + 1)) := by
  have hblank : isJsonBlank d = false := by
    cases hblank : isJsonBlank d with
    | false => rfl
    | true =>
      simp only [isJsonBlank, Bool.or_eq_true, beq_iff_eq] at hblank
      rcases hblank with ((rfl | rfl) | rfl) | rfl <;> contradiction
  have hclose : d ≠ ']' := by
    rintro rfl
    contradiction
  have hopen : ∀ fuel, value (fuel + 1) ('[' :: d :: (digits ++ c :: rest)) =
      elements fuel [] (d :: (digits ++ c :: rest)) :=
    fun fuel => value_bracket fuel (List.forall_mem_nil _) hblank hclose _
  have hrest : Stops inNumber (c :: rest) := stops_cons.2 hc
  have hnumber := number_tooLong hd hzero hdigits hlong hrest
  have hskip : skipBlanks ('[' :: d :: (digits ++ c :: rest)) =
      '[' :: d :: (digits ++ c :: rest) := rfl
  rw [read, String.toList_ofList, readChars, if_neg (by simp), hskip, hopen, List.length_cons,
    List.length_cons, elements, (value_number _ hd _).1, hnumber]
  rfl

end

end Dialogue.Json
