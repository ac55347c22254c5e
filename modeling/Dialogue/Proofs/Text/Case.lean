import Dialogue.Text.Case

/-!
# Dialogue.Proofs.Text.Case — changing the letter case twice

A character that a table of letter case gives is not changed by the table again: the images of each
run of code points lie beside all runs, and so do the images of several characters. So a text in
small letters is in small letters, and a text in capitals is in capitals.

* `Closed.mapCase_eq` — one character, under a table that is closed in this sense;
* `lower_lower`, `upper_upper` — whole texts.
-/

namespace Dialogue.Text

/-! ## Tables -/

/-- Whether a run holds a code point. -/
def CaseRun.Holds (r : CaseRun) (n : Nat) : Prop :=
  r.first ≤ n ∧ n ≤ r.last ∧ (n - r.first) % r.step = 0

/-- What a run makes of one of its members. -/
def CaseRun.image (r : CaseRun) (n : Nat) : Nat := ((n : Int) + r.shift).toNat

/-- Whether the images of a run lie beside another run: before it, behind it, or between its
members. -/
def CaseRun.misses (r r' : CaseRun) : Bool :=
  (r.image r.last).blt r'.first || r'.last.blt (r.image r.first) ||
    (r.first == r.last || r.step == r'.step) && r.image r.first % r'.step != r'.first % r'.step

/-- Whether the images of all runs lie beside all others. -/
def missAll (runs others : List CaseRun) : Bool :=
  runs.all fun r => others.all r.misses

/-- A code point as a run. -/
def CaseRun.single (n : Nat) : CaseRun := ⟨n, n, 1, 0⟩

/-- What a table gives is not changed by the table. -/
structure Closed (special : List (Nat × List Nat)) (runs : List CaseRun) : Prop where
  natural : ∀ r ∈ runs, 0 ≤ (r.first : Int) + r.shift
  misses : missAll runs runs = true
  missesSpecial : missAll runs (special.map fun entry => .single entry.1) = true
  fixed : ∀ entry ∈ special, ∀ n ∈ entry.2,
    mapCase special runs (Char.ofNat n) = [Char.ofNat n]
  zero : mapCase special runs '\x00' = ['\x00']

theorem closed_lower : Closed lowerSpecial lowerRuns where
  natural := by decide +kernel
  misses := by decide +kernel
  missesSpecial := by decide +kernel
  fixed := by decide +kernel
  zero := by decide +kernel

theorem closed_upper : Closed upperSpecial upperRuns where
  natural := by decide +kernel
  misses := by decide +kernel
  missesSpecial := by decide +kernel
  fixed := by decide +kernel
  zero := by decide +kernel

/-! ## One character -/

/-- No image of a run is in a run that it misses. -/
theorem CaseRun.not_holds_of_misses {r r' : CaseRun} (h : r.misses r' = true)
    (natural : 0 ≤ (r.first : Int) + r.shift) {n : Nat} (hn : r.Holds n) :
    ¬ r'.Holds (r.image n) := by
  rintro ⟨low, high, step⟩
  obtain ⟨hlow, hhigh, hstep⟩ := hn
  have apart : r.image n = r.image r.first + (n - r.first) := by
    unfold image
    omega
  simp only [misses, Bool.or_eq_true, Bool.and_eq_true, Nat.blt_eq, beq_iff_eq, bne_iff_ne] at h
  rcases h with (before | behind) | ⟨alike, between⟩
  · have : r.image n ≤ r.image r.last := by
      unfold image
      omega
    omega
  · omega
  · -- the images are whole steps apart, and so are the members
    apply between
    have steps : (n - r.first) % r'.step = 0 := by
      rcases alike with single | sameStep
      · rw [show n - r.first = 0 by omega, Nat.zero_mod]
      · rwa [← sameStep]
    calc r.image r.first % r'.step
        = r.image n % r'.step := by rw [apart, Nat.add_mod, steps, Nat.add_zero, Nat.mod_mod]
      _ = (r'.first + (r.image n - r'.first)) % r'.step := by rw [Nat.add_sub_cancel' low]
      _ = r'.first % r'.step := by rw [Nat.add_mod, step, Nat.add_zero, Nat.mod_mod]

theorem misses_of_missAll {runs others : List CaseRun} (h : missAll runs others = true)
    {r r' : CaseRun} (hr : r ∈ runs) (hr' : r' ∈ others) : r.misses r' = true :=
  List.all_eq_true.1 (List.all_eq_true.1 h r hr) r' hr'

theorem CaseRun.exists_of_apply? {runs : List CaseRun} {n m : Nat}
    (h : CaseRun.apply? runs n = some m) :
    ∃ r ∈ runs, r.Holds n ∧ m = r.image n := by
  obtain ⟨r, hr, image⟩ := List.exists_of_findSome?_eq_some h
  split at image
  · rename_i holds
    exact ⟨r, hr, holds, (Option.some.inj image).symm⟩
  · contradiction

theorem CaseRun.apply?_eq_none {runs : List CaseRun} {n : Nat} (h : ∀ r ∈ runs, ¬ r.Holds n) :
    CaseRun.apply? runs n = none := by
  refine List.findSome?_eq_none_iff.2 fun r hr => if_neg (h r hr)

section

variable {special : List (Nat × List Nat)} {runs : List CaseRun}

theorem mapCase_eq_self {c : Char} (notSpecial : ∀ entry ∈ special, entry.1 ≠ c.toNat)
    (inNoRun : ∀ r ∈ runs, ¬ r.Holds c.toNat) : mapCase special runs c = [c] := by
  have noEntry : special.lookup c.toNat = none := by
    refine List.lookup_eq_none_iff.2 fun entry hentry => ?_
    simpa using (notSpecial entry hentry).symm
  rw [mapCase, noEntry, CaseRun.apply?_eq_none inNoRun]

/-- What a closed table makes of a character is left as it is. -/
theorem Closed.mapCase_eq (h : Closed special runs) {c d : Char}
    (hd : d ∈ mapCase special runs c) : mapCase special runs d = [d] := by
  unfold mapCase at hd
  split at hd
  · rename_i image found
    obtain ⟨n, hn, rfl⟩ := List.mem_map.1 hd
    obtain ⟨before, after, heq, -⟩ := List.lookup_eq_some_iff.1 found
    exact h.fixed (c.toNat, image) (by simp [heq]) n hn
  · rename_i notFound
    split at hd
    · rename_i m found
      obtain rfl := List.mem_singleton.1 hd
      obtain ⟨r, hr, holds, rfl⟩ := CaseRun.exists_of_apply? found
      by_cases valid : (r.image c.toNat).isValidChar
      · have toNat : (Char.ofNat (r.image c.toNat)).toNat = r.image c.toNat := by
          rw [Char.ofNat, dif_pos valid]
          rfl
        apply mapCase_eq_self
        · intro entry hentry same
          have missed := misses_of_missAll h.missesSpecial hr (List.mem_map_of_mem hentry)
          apply CaseRun.not_holds_of_misses missed (h.natural r hr) holds
          rw [← toNat, ← same]
          simp [CaseRun.Holds, CaseRun.single]
        · intro r' hr'
          rw [toNat]
          have missed := misses_of_missAll h.misses hr hr'
          exact CaseRun.not_holds_of_misses missed (h.natural r hr) holds
      · -- a number of no character makes the character zero
        rw [Char.ofNat, dif_neg valid]
        exact h.zero
    · rename_i notInRun
      obtain rfl := List.mem_singleton.1 hd
      rw [mapCase, notFound, notInRun]

end

/-! ## Texts -/

theorem flatMap_eq_self {f : Char → List Char} {cs : List Char} (h : ∀ c ∈ cs, f c = [c]) :
    cs.flatMap f = cs := by
  induction cs with
  | nil => rfl
  | cons c rest ih =>
    obtain ⟨first, others⟩ := List.forall_mem_cons.1 h
    rw [List.flatMap_cons, first, ih others]
    rfl

theorem upper_upper (s : String) : upper (upper s) = upper s := by
  have fixed : ∀ d ∈ s.toList.flatMap upperChar, upperChar d = [d] := by
    intro d hd
    obtain ⟨c, -, hd⟩ := List.mem_flatMap.1 hd
    exact closed_upper.mapCase_eq hd
  rw [upper, upper, String.toList_ofList, flatMap_eq_self fixed]

/-- What a character becomes in small letters is not changed again, in any context. -/
theorem lowerAt_eq_self {before before' rest rest' : List Char} {c d : Char}
    (hd : d ∈ lowerAt before c rest) : lowerAt before' d rest' = [d] := by
  have small : d ≠ 'Σ' ∧ lowerChar d = [d] := by
    unfold lowerAt at hd
    split at hd
    · have sigma : d = 'ς' ∨ d = 'σ' := by
        split at hd <;> simp_all
      rcases sigma with rfl | rfl <;> decide +kernel
    · have fixed : lowerChar d = [d] := closed_lower.mapCase_eq hd
      refine ⟨?_, fixed⟩
      rintro rfl
      revert fixed
      decide +kernel
  rw [lowerAt, if_neg small.1, small.2]

theorem lowerAfter_eq_self {cs : List Char} (before : List Char)
    (h : ∀ d ∈ cs, ∀ before rest, lowerAt before d rest = [d]) : lowerAfter before cs = cs := by
  induction cs generalizing before with
  | nil => rfl
  | cons d rest ih =>
    rw [lowerAfter, h d (by simp), ih _ fun d hd => h d (by simp [hd])]
    rfl

theorem exists_of_mem_lowerAfter {cs : List Char} {before : List Char} {d : Char}
    (h : d ∈ lowerAfter before cs) : ∃ before c rest, d ∈ lowerAt before c rest := by
  induction cs generalizing before with
  | nil => contradiction
  | cons c rest ih =>
    rcases List.mem_append.1 h with here | later
    · exact ⟨before, c, rest, here⟩
    · exact ih later

theorem lower_lower (s : String) : lower (lower s) = lower s := by
  rw [lower, lower, String.toList_ofList, lowerAfter_eq_self]
  intro d hd before rest
  obtain ⟨before', c, rest', hd⟩ := exists_of_mem_lowerAfter hd
  exact lowerAt_eq_self hd

end Dialogue.Text
