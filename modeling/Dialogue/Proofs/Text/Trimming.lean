import Dialogue.Text.Case
import Dialogue.Proofs.Text.CharClass

/-!
# Dialogue.Proofs.Text.Trimming — trimmed texts stay trimmed in small letters

Trimming takes the blanks off both ends of a text, so a text that starts and ends with other
characters is left as it is. The small form of a character that is not blank has no blank in it and
is not empty, whatever stands around the character: a trimmed text starts and ends with other
characters in small letters too.

* `isBlank_lowerAt` — the small form of one character, in any context;
* `trimmed_stripChars`, `stripChars_eq_self` — the texts that trimming gives, and leaves alone;
* `strip_lower_strip` — trimming, then small letters;
* `strip_eq_self_of_lower` — a text whose small letters show that it is trimmed.
-/

namespace Dialogue.Text

/-! ## Small letters are not blank -/

/-- A character that is blank was made of the number of one. -/
theorem mem_blanks_of_ofNat {n : Nat} (h : isBlank (Char.ofNat n) = true) :
    n ∈ members blankBounds := by
  by_cases valid : n.isValidChar
  · rw [Char.ofNat, dif_pos valid] at h
    exact mem_members rfl h
  · -- a number of no character makes the character zero
    rw [Char.ofNat, dif_neg valid] at h
    contradiction

/-- No run of capitals reaches a blank. -/
theorem lowerRuns_clear : ∀ r ∈ lowerRuns, ∀ b ∈ members blankBounds,
    0 < b ∧ ((b : Int) < r.first + r.shift ∨ r.last + r.shift < b) := by
  decide +kernel

theorem lowerSpecial_clear : ∀ entry ∈ lowerSpecial,
    entry.2 ≠ [] ∧ ∀ n ∈ entry.2, isBlank (Char.ofNat n) = false := by
  decide +kernel

theorem isBlank_of_apply {n m : Nat} (h : CaseRun.apply? lowerRuns n = some m) :
    isBlank (Char.ofNat m) = false := by
  cases hblank : isBlank (Char.ofNat m) with
  | false => rfl
  | true =>
    obtain ⟨r, hr, himage⟩ := List.exists_of_findSome?_eq_some h
    obtain ⟨hpos, hclear⟩ := lowerRuns_clear r hr m (mem_blanks_of_ofNat hblank)
    split at himage
    · rename_i hrun
      have hm := Option.some.inj himage
      omega
    · contradiction

theorem special_of_lookup {n : Nat} {image : List Nat} (h : lowerSpecial.lookup n = some image) :
    image ≠ [] ∧ ∀ m ∈ image, isBlank (Char.ofNat m) = false := by
  obtain ⟨before, after, heq, -⟩ := List.lookup_eq_some_iff.1 h
  exact lowerSpecial_clear (n, image) (by rw [heq]; simp)

theorem lowerAt_ne_nil (before : List Char) (c : Char) (rest : List Char) :
    lowerAt before c rest ≠ [] := by
  unfold lowerAt lowerChar mapCase
  split
  · split <;> simp
  · split
    · rename_i image himage
      simpa using (special_of_lookup himage).1
    · split <;> simp

/-- The small form of a character that is not blank has no blank in it. -/
theorem isBlank_lowerAt {c : Char} (hc : isBlank c = false) (before rest : List Char) :
    ∀ d ∈ lowerAt before c rest, isBlank d = false := by
  unfold lowerAt lowerChar mapCase
  split
  · split <;> simp [isBlank, togglesAt, togglesFrom, blankBounds]
  · split
    · rename_i image himage
      simpa using (special_of_lookup himage).2
    · split
      · rename_i m hm
        simpa using isBlank_of_apply hm
      · simpa using hc

/-! ## Runs at the end -/

section

variable {p : Char → Bool}

theorem stops_dropTrailing (cs : List Char) : Stops p (dropTrailing p cs).reverse := by
  rw [dropTrailing, List.reverse_reverse]
  exact stops_dropWhile _ _

/-- What is dropped at the end of a text. -/
theorem exists_append_dropTrailing (p : Char → Bool) (cs : List Char) :
    ∃ run, cs = dropTrailing p cs ++ run ∧ ∀ c ∈ run, p c = true := by
  refine ⟨(cs.reverse.takeWhile p).reverse, ?_, ?_⟩
  · rw [dropTrailing, ← List.reverse_append, List.takeWhile_append_dropWhile, List.reverse_reverse]
  · intro c hc
    exact List.all_eq_true.1 List.all_takeWhile c (List.mem_reverse.1 hc)

/-- A run at the end of a text that ends otherwise is dropped, and no more. -/
theorem dropTrailing_append {cs run : List Char} (hcs : Stops p cs.reverse)
    (hrun : ∀ c ∈ run, p c = true) : dropTrailing p (cs ++ run) = cs := by
  have hrun' : ∀ c ∈ run.reverse, p c = true := fun c hc => hrun c (List.mem_reverse.1 hc)
  rw [dropTrailing, List.reverse_append, dropWhile_append hrun' hcs, List.reverse_reverse]

theorem dropTrailing_eq_self {cs : List Char} (hcs : Stops p cs.reverse) :
    dropTrailing p cs = cs := by
  simpa using dropTrailing_append hcs (List.forall_mem_nil _)

end

/-! ## Trimmed texts -/

/-- A text starts and ends with characters that are not blank, or is empty. -/
structure Trimmed (cs : List Char) : Prop where
  first : Stops isBlank cs
  last : Stops isBlank cs.reverse

theorem trimmed_stripChars (cs : List Char) : Trimmed (stripChars cs) := by
  refine ⟨?_, stops_dropTrailing _⟩
  -- what is taken off the end leaves the start as it is
  obtain ⟨blanks, hsplit, -⟩ := exists_append_dropTrailing isBlank (cs.dropWhile isBlank)
  have hfirst : Stops isBlank (cs.dropWhile isBlank) := stops_dropWhile _ _
  rw [hsplit, ← stripChars] at hfirst
  intro c hc
  apply hfirst
  rw [List.head?_append, Option.mem_def.1 hc]
  rfl

theorem dropWhile_eq_self {p : Char → Bool} {cs : List Char} (h : Stops p cs) :
    cs.dropWhile p = cs :=
  dropWhile_append (List.forall_mem_nil _) h

theorem length_stripChars_le (cs : List Char) : (stripChars cs).length ≤ cs.length := by
  obtain ⟨run, whole, -⟩ := exists_append_dropTrailing isBlank (cs.dropWhile isBlank)
  have shorter := congrArg List.length whole
  have longer := (List.dropWhile_sublist isBlank (l := cs)).length_le
  rw [List.length_append, ← stripChars] at shorter
  omega

/-- Trimming leaves a trimmed text as it is. -/
theorem stripChars_eq_self {cs : List Char} (h : Trimmed cs) : stripChars cs = cs := by
  rw [stripChars, dropWhile_eq_self h.first, dropTrailing_eq_self h.last]

theorem stops_append_iff {p : Char → Bool} {cs : List Char} (hne : cs ≠ []) (rest : List Char) :
    Stops p (cs ++ rest) ↔ Stops p cs := by
  obtain ⟨c, tail, rfl⟩ := List.exists_cons_of_ne_nil hne
  rw [List.cons_append, stops_cons, stops_cons]

theorem stops_of_forall {p : Char → Bool} {cs : List Char} (h : ∀ c ∈ cs, p c = false) :
    Stops p cs :=
  fun c hc => h c (List.mem_of_head? hc)

/-- Trimming takes away the blanks around a trimmed text. -/
theorem stripChars_between {left cs right : List Char} (hleft : ∀ c ∈ left, isBlank c = true)
    (hright : ∀ c ∈ right, isBlank c = true) (hcs : Trimmed cs) (hne : cs ≠ []) :
    stripChars (left ++ cs ++ right) = cs := by
  have hfirst : Stops isBlank (cs ++ right) := (stops_append_iff hne right).2 hcs.first
  rw [stripChars, List.append_assoc, dropWhile_append hleft hfirst,
    dropTrailing_append hcs.last hright]

theorem lowerAfter_ne_nil (before : List Char) {cs : List Char} (hne : cs ≠ []) :
    lowerAfter before cs ≠ [] := by
  obtain ⟨c, rest, rfl⟩ := List.exists_cons_of_ne_nil hne
  exact List.append_ne_nil_of_left_ne_nil (lowerAt_ne_nil _ _ _) _

theorem lowerAfter_first {cs : List Char} (h : Stops isBlank cs) (before : List Char) :
    Stops isBlank (lowerAfter before cs) := by
  cases cs with
  | nil => exact h
  | cons c rest =>
    have hc : isBlank c = false := stops_cons.1 h
    rw [lowerAfter, stops_append_iff (lowerAt_ne_nil _ _ _)]
    exact stops_of_forall (isBlank_lowerAt hc before rest)

theorem lowerAfter_last {cs : List Char} (h : Stops isBlank cs.reverse) (before : List Char) :
    Stops isBlank (lowerAfter before cs).reverse := by
  induction cs generalizing before with
  | nil => exact h
  | cons c rest ih =>
    by_cases hrest : rest = []
    · subst hrest
      have hc : isBlank c = false := stops_cons.1 h
      rw [lowerAfter, lowerAfter, List.append_nil]
      apply stops_of_forall
      intro d hd
      exact isBlank_lowerAt hc before [] d (List.mem_reverse.1 hd)
    · rw [List.reverse_cons, stops_append_iff (List.reverse_ne_nil_iff.2 hrest)] at h
      rw [lowerAfter, List.reverse_append,
        stops_append_iff (List.reverse_ne_nil_iff.2 (lowerAfter_ne_nil _ hrest))]
      exact ih h _

theorem trimmed_lowerAfter {cs : List Char} (h : Trimmed cs) (before : List Char) :
    Trimmed (lowerAfter before cs) :=
  ⟨lowerAfter_first h.first before, lowerAfter_last h.last before⟩

/-- A trimmed text in small letters is trimmed. -/
theorem strip_lower_strip (s : String) : strip (lower (strip s)) = lower (strip s) := by
  have h : Trimmed (lowerAfter [] (stripChars s.toList)) :=
    trimmed_lowerAfter (trimmed_stripChars _) []
  rw [lower, strip, strip, String.toList_ofList, String.toList_ofList, stripChars_eq_self h]

/-! ## Blanks in small letters -/

theorem lowerChar_blanks :
    ∀ n ∈ members blankBounds, lowerChar (Char.ofNat n) = [Char.ofNat n] := by
  decide +kernel

/-- A blank is a blank in small letters. -/
theorem lowerAt_of_isBlank {c : Char} (hc : isBlank c = true) (before rest : List Char) :
    lowerAt before c rest = [c] := by
  have noSigma : c ≠ 'Σ' := by
    rintro rfl
    contradiction
  have fixed := lowerChar_blanks c.toNat (mem_members rfl hc)
  rw [Char.ofNat_toNat] at fixed
  rw [lowerAt, if_neg noSigma, fixed]

theorem mem_lowerAfter_of_isBlank {c : Char} (hc : isBlank c = true) {cs : List Char}
    (h : c ∈ cs) (before : List Char) : c ∈ lowerAfter before cs := by
  induction cs generalizing before with
  | nil => contradiction
  | cons d rest ih =>
    rw [lowerAfter]
    rcases List.mem_cons.1 h with rfl | later
    · rw [lowerAt_of_isBlank hc]
      simp
    · exact List.mem_append_right _ (ih later _)

/-- A text that has no blank in small letters is trimmed. -/
theorem strip_eq_self_of_lower {s : String} (h : (lower s).toList.any isBlank = false) :
    strip s = s := by
  have noBlank : ∀ c ∈ s.toList, isBlank c = false := by
    intro c hc
    by_contra blank
    have isBlank : isBlank c = true := by simpa using blank
    have inLower : c ∈ (lower s).toList := by
      rw [lower, String.toList_ofList]
      exact mem_lowerAfter_of_isBlank isBlank hc []
    exact List.any_eq_false.1 h c inLower isBlank
  have trimmed : Trimmed s.toList :=
    ⟨stops_of_forall noBlank, stops_of_forall fun c hc => noBlank c (List.mem_reverse.1 hc)⟩
  rw [strip, stripChars_eq_self trimmed, String.ofList_toList]

theorem lower_strip_ne_empty {s : String} (h : isBlankText s = false) :
    lower (strip s) ≠ "" := by
  intro empty
  have noChars : lowerAfter [] (stripChars s.toList) = [] := by
    simpa [lower, strip] using congrArg String.toList empty
  have stripped : stripChars s.toList = [] := by
    by_contra hne
    exact lowerAfter_ne_nil [] hne noChars
  have blank : isBlankText s = true := List.all_eq_true.2 (stripChars_eq_nil_iff.1 stripped)
  rw [blank] at h
  contradiction

end Dialogue.Text
