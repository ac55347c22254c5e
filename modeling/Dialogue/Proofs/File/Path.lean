import Dialogue.File.Path

/-!
# Dialogue.Proofs.File.Path — the normal form of a path is in normal form

A path in normal form is its slashes at the start and its parts with single slashes between them. No
part is empty, is `.`, or has a slash in it, so taking the path apart again finds the same slashes
and the same parts. The parts are those of the library's `splitOn`, and the path is their
`intercalate`.
-/

namespace Dialogue

/-! ## Parts and marks -/

namespace Text

theorem splitAt_eq_splitOn (mark : Char) (cs : List Char) : splitAt mark cs = cs.splitOn mark := by
  induction cs with
  | nil => rfl
  | cons c rest ih =>
    rw [List.splitOn] at ih
    simp only [List.splitOn, List.splitOnP_cons_eq_if_modifyHead, splitAt, ih, beq_iff_eq]
    by_cases marked : c = mark
    · simp [marked]
    · rw [if_neg marked, if_neg marked]
      obtain ⟨part, parts, split⟩ := List.exists_cons_of_ne_nil
        (List.splitOnP_ne_nil (· == mark) rest)
      simp [split]

theorem joinWith_eq_intercalate (mark : Char) (parts : List (List Char)) :
    joinWith mark parts = [mark].intercalate parts := by
  induction parts using joinWith.induct with
  | case1 => rfl
  | case2 part => simp [joinWith]
  | case3 part rest notNil ih =>
    obtain ⟨next, more, rfl⟩ := List.exists_cons_of_ne_nil notNil
    simp [joinWith, ih, List.intercalate_cons_cons]

/-- Parts without the mark are found again between the marks. -/
theorem splitAt_joinWith {mark : Char} {parts : List (List Char)} (h : parts ≠ [])
    (unmarked : ∀ part ∈ parts, mark ∉ part) : splitAt mark (joinWith mark parts) = parts := by
  rw [splitAt_eq_splitOn, joinWith_eq_intercalate]
  exact List.splitOn_intercalate mark unmarked h

theorem not_mem_of_mem_splitAt {mark : Char} {cs part : List Char} (h : part ∈ splitAt mark cs) :
    mark ∉ part := by
  induction cs generalizing part with
  | nil => simp_all [splitAt]
  | cons c rest ih =>
    rw [splitAt] at h
    split at h
    · rcases List.mem_cons.mp h with rfl | later
      · simp
      · exact ih later
    · rename_i unmarked
      split at h
      · rename_i first parts split
        rcases List.mem_cons.mp h with rfl | later
        · have inFirst : mark ∉ first := ih (by simp [split])
          simp [inFirst, Ne.symm unmarked]
        · exact ih (by simp [split, later])
      · obtain rfl := List.mem_singleton.mp h
        simpa using Ne.symm unmarked

end Text

/-! ## Paths -/

namespace File

/-- Whether the normal form keeps a part of a path. -/
def isPart (part : List Char) : Bool := part != [] && part != ['.']

/-- The parts of a path that its normal form keeps. -/
def partsOf (cs : List Char) : List (List Char) := (Text.splitAt '/' cs).filter isPart

/-- The characters of a normal form: the slashes at the start and the parts. -/
def normalChars (cs : List Char) : List Char := rootOf cs ++ Text.joinWith '/' (partsOf cs)

theorem normalPath_eq (path : String) :
    normalPath path =
      if (normalChars path.toList).isEmpty then "." else String.ofList (normalChars path.toList) :=
  rfl

/-- What the slashes at the start of a path can be. -/
theorem rootOf_cases (cs : List Char) :
    rootOf cs = [] ∨ rootOf cs = ['/'] ∨ rootOf cs = ['/', '/'] := by
  unfold rootOf
  split <;> simp

/-- Before characters that do not start with a slash the slashes are all of the root. -/
theorem rootOf_rootOf_append {cs rest : List Char} (h : ∀ more, rest ≠ '/' :: more) :
    rootOf (rootOf cs ++ rest) = rootOf cs := by
  rcases rootOf_cases cs with root | root | root
  all_goals
    rw [root]
    cases rest with
    | nil => rfl
    | cons c more =>
      have : c ≠ '/' := fun slash => h more (by rw [slash])
      simp [rootOf, this]

/-- Slashes at the start are around empty parts only. -/
theorem partsOf_rootOf_append (cs rest : List Char) :
    partsOf (rootOf cs ++ rest) = partsOf rest := by
  rcases rootOf_cases cs with root | root | root <;> simp [root, partsOf, Text.splitAt, isPart]

theorem partsOf_joinWith_partsOf (cs : List Char) :
    partsOf (Text.joinWith '/' (partsOf cs)) = partsOf cs := by
  by_cases none : partsOf cs = []
  · rw [none]
    rfl
  · have unmarked : ∀ part ∈ partsOf cs, '/' ∉ part := fun part h =>
      Text.not_mem_of_mem_splitAt (List.mem_filter.mp h).1
    calc partsOf (Text.joinWith '/' (partsOf cs))
        = (partsOf cs).filter isPart := by rw [partsOf, Text.splitAt_joinWith none unmarked]
      _ = partsOf cs := by simp [partsOf]

/-- The parts with slashes between them do not start with a slash. -/
theorem joinWith_partsOf_ne (cs more : List Char) :
    Text.joinWith '/' (partsOf cs) ≠ '/' :: more := by
  intro h
  cases parts : partsOf cs with
  | nil => simp [parts, Text.joinWith] at h
  | cons part rest =>
    have kept : part ∈ partsOf cs := by simp [parts]
    have unmarked := Text.not_mem_of_mem_splitAt (List.mem_filter.mp kept).1
    have isKept : isPart part = true := (List.mem_filter.mp kept).2
    cases part with
    | nil => simp [isPart] at isKept
    | cons c chars =>
      have : c ≠ '/' := fun slash => unmarked (by simp [slash])
      cases rest <;> simp_all [Text.joinWith]

theorem normalChars_normalChars (cs : List Char) :
    normalChars (normalChars cs) = normalChars cs := by
  have root : rootOf (normalChars cs) = rootOf cs := rootOf_rootOf_append (joinWith_partsOf_ne cs)
  have parts : partsOf (normalChars cs) = partsOf cs := by
    rw [normalChars, partsOf_rootOf_append, partsOf_joinWith_partsOf]
  rw [normalChars, root, parts, normalChars]

/-- A normal form is its own normal form. -/
@[simp] theorem normalPath_normalPath (path : String) :
    normalPath (normalPath path) = normalPath path := by
  rw [normalPath_eq path]
  split
  · decide
  · rename_i given
    rw [normalPath_eq, String.toList_ofList, normalChars_normalChars, if_neg given]

end File

end Dialogue
