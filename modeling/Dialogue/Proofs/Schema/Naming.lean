import Dialogue.Schema.Fragment
import Dialogue.Schema.Naming
import Mathlib.Data.Finset.Card
import Mathlib.Data.Finset.Dedup
import Mathlib.Data.Nat.Find

/-!
# Dialogue.Proofs.Schema.Naming — the search for a free name ends at the first one

A part gets the first free one of the candidates for its name, which are tried one after the other.
The candidates are without end, and nothing in the search itself bounds it; but they are all
different, so those that were tried in vain are as many different names in use.

* `candidate_injective` — the candidates are all different;
* `le_card_of_taken` — as many candidates in a row as are in use, there are names in use;
* `firstFree_spec` — the name that is found, and `firstFree_not_mem`, that it is new;
* `Finds` — the search as a loop, which tests one candidate at a time;
* `claim_finds_first` — the name that a fragment's part gets, how many candidates are tested for it,
  and what is in use afterwards.
-/

namespace Dialogue.Schema

/-! ## Candidates -/

/-- Different numbers are written differently. -/
theorem toString_injective : Function.Injective (toString : Nat → String) := by
  intro m n h
  have hread := congrArg (fun text : String => Nat.ofDigitChars 10 text.toList 0) h
  simpa [Nat.toString_eq_ofList_toDigits] using hread

/-- The candidates for a name are all different. -/
theorem candidate_injective (base : String) : Function.Injective (candidate base) := by
  have hlonger : ∀ n, base ≠ candidate base (n + 1) := by
    intro n h
    have hlength := congrArg String.length h
    simp only [candidate, String.length_append] at hlength
    have hmark : "_".length = 1 := rfl
    omega
  intro m n h
  cases m with
  | zero =>
    cases n with
    | zero => rfl
    | succ n => exact absurd h (hlonger n)
  | succ m =>
    cases n with
    | zero => exact absurd h.symm (hlonger m)
    | succ n =>
      have hsuffix := toString_injective ((String.append_right_inj _).1 h)
      omega

section

variable {used : List String} {base : String} {n : Nat}

/-- Candidates in a row that are all in use are no more than the names in use, each counted once. -/
theorem le_card_of_taken (htaken : ∀ m < n, candidate base m ∈ used) :
    n ≤ used.toFinset.card := by
  have hsubset : (Finset.range n).image (candidate base) ⊆ used.toFinset := by
    intro name hname
    rcases Finset.mem_image.1 hname with ⟨m, hm, rfl⟩
    exact List.mem_toFinset.2 (htaken m (Finset.mem_range.1 hm))
  have hcard := Finset.card_le_card hsubset
  rwa [Finset.card_image_of_injective _ (candidate_injective base), Finset.card_range] at hcard

/-- There is a first candidate that is free. -/
theorem exists_first_free (used : List String) (base : String) :
    ∃ n, (∀ m < n, candidate base m ∈ used) ∧ candidate base n ∉ used := by
  have hfree : ∃ n, candidate base n ∉ used := by
    by_contra hnone
    have htaken : ∀ m, candidate base m ∈ used := by
      intro m
      by_contra hm
      exact hnone ⟨m, hm⟩
    have hcard := le_card_of_taken (n := used.toFinset.card + 1) fun m _ => htaken m
    omega
  refine ⟨Nat.find hfree, ?_, Nat.find_spec hfree⟩
  intro m hm
  by_contra hnot
  exact Nat.find_min hfree hm hnot

/-- The first free candidate is found: it is among those that are looked at. -/
theorem firstFree_spec (htaken : ∀ m < n, candidate base m ∈ used)
    (hfree : candidate base n ∉ used) : firstFree used base = candidate base n := by
  have hcard := le_card_of_taken htaken
  have hlength := List.toFinset_card_le used
  have hfound : (List.range (used.length + 1)).find?
      ((fun name => !used.contains name) ∘ candidate base) = some n := by
    rw [List.find?_range_eq_some]
    refine ⟨by simpa using hfree, List.mem_range.2 (by omega), ?_⟩
    intro m hm
    simpa using htaken m hm
  rw [firstFree, List.find?_map, hfound]
  rfl

end

theorem firstFree_not_mem (used : List String) (base : String) : firstFree used base ∉ used := by
  rcases exists_first_free used base with ⟨n, htaken, hfree⟩
  rwa [firstFree_spec htaken hfree]

example : firstFree ["Item_2", "Item"] "Item" = "Item_3" := rfl

/-! ## The search as a loop -/

/-- The search for a free name that goes on at the `n`-th candidate: it tests that many candidates,
and ends with a name. -/
inductive Finds (used : List String) (base : String) : Nat → Nat → String → Prop where
  | free {n : Nat} (h : candidate base n ∉ used) : Finds used base n 1 (candidate base n)
  | taken {n tests : Nat} {name : String} (h : candidate base n ∈ used)
      (hrest : Finds used base (n + 1) tests name) : Finds used base n (tests + 1) name

section

variable {used : List String} {base : String}

/-- The search ends in one way only. -/
theorem Finds.unique {n tests tests' : Nat} {name name' : String}
    (h : Finds used base n tests name) (h' : Finds used base n tests' name') :
    tests = tests' ∧ name = name' := by
  induction h generalizing tests' with
  | free hfree =>
    cases h' with
    | free => exact ⟨rfl, rfl⟩
    | taken htaken => exact absurd htaken hfree
  | taken htaken _ ih =>
    cases h' with
    | free hfree => exact absurd htaken hfree
    | taken _ hrest =>
      rcases ih hrest with ⟨rfl, rfl⟩
      exact ⟨rfl, rfl⟩

/-- The search passes over the candidates in use and ends at the first that is free. -/
theorem finds_of_first (start n : Nat)
    (htaken : ∀ m < n, candidate base (start + m) ∈ used)
    (hfree : candidate base (start + n) ∉ used) :
    Finds used base start (n + 1) (candidate base (start + n)) := by
  induction n generalizing start with
  | zero => exact .free hfree
  | succ n ih =>
    have hlast : start + (n + 1) = start + 1 + n := by omega
    rw [hlast] at hfree ⊢
    refine .taken (htaken 0 (by omega)) (ih (start + 1) ?_ hfree)
    intro m hm
    have hnext : start + 1 + m = start + (m + 1) := by omega
    rw [hnext]
    exact htaken (m + 1) (by omega)

end

/-! ## Claiming -/

/-- The name wanted for a part: its title, else a hint that is not empty, else its kind with the
next number. -/
def wantedName (title hint : Option String) (kind : String) (names : Names) : String :=
  (title.or (hint.filter (· ≠ ""))).getD (kind ++ toString (names.numbered + 1))

/-- What is wanted for a part leaves the names in use as they are, and takes a number only when
there is neither a title nor a hint. -/
theorem wanted_eq (title hint : Option String) (kind : String) (names : Names) :
    wanted title hint kind names = (wantedName title hint kind names,
      { names with
        numbered := names.numbered + if (title.or (hint.filter (· ≠ ""))).isNone then 1 else 0 }) := by
  unfold wanted wantedName
  cases title with
  | some title => rfl
  | none => cases hint.filter (· ≠ "") <;> rfl

theorem claim_eq (title hint : Option String) (kind : String) (names : Names) :
    claim title hint kind names =
      (firstFree names.used (wantedName title hint kind names),
        { used := firstFree names.used (wantedName title hint kind names) :: names.used
          numbered :=
            names.numbered + if (title.or (hint.filter (· ≠ ""))).isNone then 1 else 0 }) := by
  rw [claim, wanted_eq]

/-- For every fragment, hint and kind, and whatever names are in use: the name claimed is the first
of the wanted one and those with `_2`, `_3`, … behind it that is not in use. The search for it ends,
in this way only, and tests at most one more candidate than there are names in use. Afterwards the
names in use are those before and the one claimed. -/
theorem claim_finds_first (fragment : Json.Members) (hint : Option String) (kind : String)
    (names : Names) :
    ∃ n name, claim (title? fragment) hint kind names =
        (name,
          { used := name :: names.used
            numbered := names.numbered +
              if ((title? fragment).or (hint.filter (· ≠ ""))).isNone then 1 else 0 }) ∧
      name = candidate (wantedName (title? fragment) hint kind names) n ∧ name ∉ names.used ∧
      (∀ m < n, candidate (wantedName (title? fragment) hint kind names) m ∈ names.used) ∧
      n + 1 ≤ names.used.toFinset.card + 1 ∧
      ∀ tests found, Finds names.used (wantedName (title? fragment) hint kind names) 0 tests found ↔
        tests = n + 1 ∧ found = name := by
  rcases exists_first_free names.used (wantedName (title? fragment) hint kind names) with
    ⟨n, htaken, hfree⟩
  have hfinds : Finds names.used (wantedName (title? fragment) hint kind names) 0 (n + 1)
      (candidate (wantedName (title? fragment) hint kind names) n) := by
    have h := finds_of_first 0 n (by simpa using htaken) (by simpa using hfree)
    rwa [Nat.zero_add] at h
  refine ⟨n, candidate (wantedName (title? fragment) hint kind names) n, ?_, rfl, hfree, htaken,
    ?_, ?_⟩
  · rw [claim_eq, firstFree_spec htaken hfree]
  · have hcard := le_card_of_taken htaken
    omega
  · intro tests found
    constructor
    · intro h
      exact h.unique hfinds
    · rintro ⟨rfl, rfl⟩
      exact hfinds

end Dialogue.Schema
