import Dialogue.Proofs.Json.RoundTrip

/-!
# Dialogue.Proofs.Json.Regular — what reading a text can give

Not every value is one that a text writes: of members with one key only the last counts, and a whole
number with too many digits is not read. So a value that was read is `Regular`: no object in it has
the same key twice, and no whole number in it has more digits than are read.

* `regular_of_read` — the invariant of the reader, by induction on its fuel;
* `faithful_of_regular` — a regular value without doubles is read back from its own text.
-/

namespace Dialogue.Json

/-- Every part of a value can be read back, doubles apart. -/
def Regular (j : Json) : Prop := ∀ part, Occurs part j → part.Rereadable ∨ ∃ x, part = .float x

/-- No part of a value is a double. -/
def FloatFree (j : Json) : Prop := ∀ part, Occurs part j → ∀ x, part ≠ .float x

/-- A regular value without doubles is read back from its own text. -/
theorem faithful_of_regular {j : Json} (h : Regular j) (hfree : FloatFree j) : Faithful j := by
  intro part hpart
  rcases h part hpart with hread | ⟨x, hx⟩
  · exact hread
  · exact absurd hx (hfree part hpart x)

/-! ## Parts of regular values -/

theorem regular_of_faithful {j : Json} (h : Faithful j) : Regular j := by
  intro part hpart
  exact Or.inl (h part hpart)

theorem regular_float (x : Binary64) : Regular (.float x) := by
  rintro _ ⟨⟩
  exact Or.inr ⟨x, rfl⟩

theorem regular_arr {xs : List Json} (h : ∀ x ∈ xs, Regular x) : Regular (.arr xs) := by
  intro part hpart
  cases hpart with
  | here => exact Or.inl trivial
  | element hx hpart => exact h _ hx part hpart

theorem regular_obj {ms : Members} (hkeys : (ms.map (·.1)).Nodup) (h : ∀ m ∈ ms, Regular m.2) :
    Regular (.obj ms) := by
  intro part hpart
  cases hpart with
  | here => exact Or.inl hkeys
  | member hv hpart => exact h _ hv part hpart

theorem Regular.keys {ms : Members} (h : Regular (.obj ms)) : (ms.map (·.1)).Nodup := by
  rcases h _ .here with hkeys | ⟨x, hx⟩
  · exact hkeys
  · contradiction

theorem Regular.element {xs : List Json} (h : Regular (.arr xs)) : ∀ x ∈ xs, Regular x :=
  fun _ hx part hpart => h part (.element hx hpart)

theorem Regular.member {ms : Members} (h : Regular (.obj ms)) : ∀ m ∈ ms, Regular m.2 :=
  fun _ hm part hpart => h part (.member hm hpart)

/-- The value of a key is a member. -/
theorem mem_of_lookup {key : String} {v : Json} {ms : Members} (h : ms.lookup key = some v) :
    (key, v) ∈ ms := by
  obtain ⟨before, after, heq, -⟩ := List.lookup_eq_some_iff.1 h
  rw [heq]
  simp

theorem Regular.lookup {ms : Members} (h : Regular (.obj ms)) {key : String} {v : Json}
    (hv : ms.lookup key = some v) : Regular v :=
  h.member _ (mem_of_lookup hv)

/-! ## Members that are put in -/

theorem keys_put (key : String) (v : Json) (ms : Members) :
    (put key v ms).map (·.1) = if key ∈ ms.map (·.1) then ms.map (·.1) else ms.map (·.1) ++ [key] := by
  induction ms with
  | nil => simp [put]
  | cons m ms ih =>
    obtain ⟨k, w⟩ := m
    by_cases hk : k = key
    · simp [put, hk]
    · have hne : ¬ key = k := fun heq => hk heq.symm
      simp only [put, if_neg hk, List.map_cons, ih, List.mem_cons, hne, false_or]
      split
      · rfl
      · rfl

theorem mem_put {key : String} {v : Json} {ms : Members} {m : String × Json}
    (h : m ∈ put key v ms) : m.2 = v ∨ m ∈ ms := by
  induction ms with
  | nil =>
    left
    rw [List.mem_singleton.1 h]
  | cons n ms ih =>
    obtain ⟨k, w⟩ := n
    rw [put] at h
    split at h
    · rcases List.mem_cons.1 h with rfl | h
      · exact Or.inl rfl
      · exact Or.inr (List.mem_cons_of_mem _ h)
    · rcases List.mem_cons.1 h with rfl | h
      · exact Or.inr List.mem_cons_self
      · rcases ih h with hv | hm
        · exact Or.inl hv
        · exact Or.inr (List.mem_cons_of_mem _ hm)

/-- A member that is put in replaces the one with its key, or is new. -/
theorem regular_put {key : String} {v : Json} {ms : Members} (hv : Regular v)
    (h : Regular (.obj ms)) : Regular (.obj (put key v ms)) := by
  apply regular_obj
  · rw [keys_put]
    split
    · exact h.keys
    · rename_i hnew
      rw [List.nodup_append]
      refine ⟨h.keys, by simp, ?_⟩
      intro other hother new hmem heq
      rw [List.mem_singleton.1 hmem] at heq
      exact hnew (heq ▸ hother)
  · intro m hm
    rcases mem_put hm with hvalue | hm
    · rw [hvalue]
      exact hv
    · exact h.member m hm

/-! ## Numbers -/

theorem digit_le {c : Char} (h : isDigit c = true) : c.toNat - 48 ≤ 9 := by
  have hle : c ≤ '9' := by
    simp only [isDigit, decide_eq_true_eq] at h
    exact h.2
  have hval : c.toNat ≤ 57 := UInt32.le_iff_toNat_le.1 (Char.le_def.1 hle)
  omega

/-- Digits read from the left, after the number written so far. -/
theorem foldl_digits_lt {digits : List Char} (h : ∀ c ∈ digits, isDigit c = true) (n : Nat) :
    digits.foldl (fun n c => 10 * n + (c.toNat - 48)) n < (n + 1) * 10 ^ digits.length := by
  induction digits generalizing n with
  | nil => simp
  | cons c digits ih =>
    have hc : c.toNat - 48 ≤ 9 := digit_le (h c List.mem_cons_self)
    have hrest := ih (fun d hd => h d (List.mem_cons_of_mem c hd)) (10 * n + (c.toNat - 48))
    have hstep : (10 * n + (c.toNat - 48) + 1) * 10 ^ digits.length ≤
        (10 * (n + 1)) * 10 ^ digits.length := Nat.mul_le_mul_right _ (by omega)
    rw [List.foldl_cons, List.length_cons, Nat.pow_succ']
    calc _ < (10 * n + (c.toNat - 48) + 1) * 10 ^ digits.length := hrest
      _ ≤ (10 * (n + 1)) * 10 ^ digits.length := hstep
      _ = (n + 1) * (10 * 10 ^ digits.length) := by
        rw [Nat.mul_comm 10 (n + 1), Nat.mul_assoc]

/-- A number has no more digits than it was written with. -/
theorem length_toDigits_digitsValue {digits : List Char} (hne : digits ≠ [])
    (h : ∀ c ∈ digits, isDigit c = true) :
    (Nat.toDigits 10 (digitsValue digits)).length ≤ digits.length := by
  have hpos : 0 < digits.length := List.length_pos_iff.2 hne
  rw [Nat.length_toDigits_le_iff (by omega) hpos]
  have hlt := foldl_digits_lt h 0
  rw [Nat.zero_add, Nat.one_mul] at hlt
  exact hlt

theorem isDigit_of_wholeDigits {cs whole rest : List Char}
    (h : wholeDigits? cs = some (whole, rest)) :
    whole ≠ [] ∧ ∀ c ∈ whole, isDigit c = true := by
  unfold wholeDigits? at h
  split at h
  · obtain ⟨rfl, -⟩ := Prod.mk.inj (Option.some.inj h)
    simp [isDigit]
  · rename_i c tail _
    split at h
    · rename_i hc
      obtain ⟨rfl, -⟩ := Prod.mk.inj (Option.some.inj h)
      refine ⟨by simp, ?_⟩
      intro d hd
      rcases List.mem_cons.1 hd with rfl | hd
      · exact hc
      · exact List.mem_takeWhile_imp hd
    · contradiction
  · contradiction

/-- A number that is read is a double, or it has no more digits than are read. -/
theorem regular_number {cs rest : List Char} {j : Json} (h : number cs = .ok (j, rest)) :
    Regular j := by
  unfold number at h
  simp only at h
  split at h
  · contradiction
  · rename_i whole tail hwhole
    obtain ⟨hne, hdigits⟩ := isDigit_of_wholeDigits hwhole
    split at h
    · split at h
      · contradiction
      · rename_i hshort
        obtain ⟨rfl, -⟩ := Prod.mk.inj (Except.ok.inj h)
        apply regular_of_faithful
        apply faithful_int
        have hlength := length_toDigits_digitsValue hne hdigits
        have hsize : ∀ b : Bool, (if b then -(digitsValue whole : Int) else digitsValue whole).natAbs =
            digitsValue whole := by
          intro b
          cases b <;> simp
        rw [hsize]
        omega
    · obtain ⟨rfl, -⟩ := Prod.mk.inj (Except.ok.inj h)
      exact regular_float _

/-- A literal is a word without parts, or a double. -/
theorem regular_literal {cs rest : List Char} {j : Json} (h : literal? cs = some (j, rest)) :
    Regular j := by
  have hword : ∀ text value, (afterWord? text cs).map (value, ·) = some (j, rest) → j = value := by
    intro text value hfound
    obtain ⟨tail, -, heq⟩ := Option.map_eq_some_iff.1 hfound
    exact (Prod.mk.inj heq).1.symm
  have hplain : ∀ value, value = .null ∨ (∃ b, value = .bool b) → Regular value := by
    rintro value (rfl | ⟨b, rfl⟩)
    · rintro _ ⟨⟩
      exact Or.inl trivial
    · rintro _ ⟨⟩
      exact Or.inl trivial
  simp only [literal?, Option.orElse_eq_orElse, Option.orElse_eq_or, Option.or_eq_some_iff] at h
  rcases h with h | ⟨-, h | ⟨-, h | ⟨-, h | ⟨-, h | ⟨-, h⟩⟩⟩⟩⟩
  · rw [hword _ _ h]
    exact hplain _ (Or.inl rfl)
  · rw [hword _ _ h]
    exact hplain _ (Or.inr ⟨true, rfl⟩)
  · rw [hword _ _ h]
    exact hplain _ (Or.inr ⟨false, rfl⟩)
  · rw [hword _ _ h]
    exact regular_float _
  · rw [hword _ _ h]
    exact regular_float _
  · rw [hword _ _ h]
    exact regular_float _

/-! ## Reading -/

section

variable {fuel : Nat} {j : Json} {cs rest : List Char}

/-- One value, when the containers that begin with it are regular. -/
theorem regular_value_succ
    (helements : ∀ done cs j rest, (∀ x ∈ done, Regular x) →
      elements fuel done cs = .ok (j, rest) → Regular j)
    (hmembers : ∀ done cs j rest, Regular (.obj done) →
      members fuel done cs = .ok (j, rest) → Regular j)
    (h : value (fuel + 1) cs = .ok (j, rest)) : Regular j := by
  rw [value.eq_def] at h
  simp only at h
  split at h
  · -- a string
    rename_i tail
    cases hchars : stringChars ('"' :: tail).length none tail with
    | error flaw =>
      rw [hchars] at h
      contradiction
    | ok found =>
      rw [hchars] at h
      obtain ⟨rfl, -⟩ := Prod.mk.inj (Except.ok.inj h)
      exact regular_of_faithful (faithful_str _)
  · -- an array
    split at h
    · obtain ⟨rfl, -⟩ := Prod.mk.inj (Except.ok.inj h)
      exact regular_arr (by simp)
    · exact helements [] _ j rest (by simp) h
  · -- an object
    split at h
    · obtain ⟨rfl, -⟩ := Prod.mk.inj (Except.ok.inj h)
      exact regular_obj (by simp) (by simp)
    · exact hmembers [] _ j rest (regular_obj (by simp) (by simp)) h
  · split at h
    · rename_i found hfound
      obtain rfl := Except.ok.inj h
      exact regular_literal hfound
    · exact regular_number h

/-- One more element, when values and the elements after it are regular. -/
theorem regular_elements_succ (hvalue : ∀ cs j rest, value fuel cs = .ok (j, rest) → Regular j)
    (helements : ∀ done cs j rest, (∀ x ∈ done, Regular x) →
      elements fuel done cs = .ok (j, rest) → Regular j)
    {done : List Json} (hdone : ∀ x ∈ done, Regular x)
    (h : elements (fuel + 1) done cs = .ok (j, rest)) : Regular j := by
  rw [elements] at h
  cases hfound : value fuel cs with
  | error flaw =>
    rw [hfound] at h
    contradiction
  | ok found =>
    obtain ⟨x, tail⟩ := found
    have hx : Regular x := hvalue cs x tail hfound
    rw [hfound] at h
    simp only [bind, Except.bind] at h
    split at h
    · obtain ⟨rfl, -⟩ := Prod.mk.inj (Except.ok.inj h)
      apply regular_arr
      intro y hy
      rw [List.mem_append, List.mem_reverse, List.mem_singleton] at hy
      rcases hy with hy | rfl
      · exact hdone y hy
      · exact hx
    · exact helements _ _ _ _ (List.forall_mem_cons.2 ⟨hx, hdone⟩) h
    · contradiction

/-- One more member, when values and the members after it are regular. -/
theorem regular_members_succ (hvalue : ∀ cs j rest, value fuel cs = .ok (j, rest) → Regular j)
    (hmembers : ∀ done cs j rest, Regular (.obj done) →
      members fuel done cs = .ok (j, rest) → Regular j)
    {done : Members} (hdone : Regular (.obj done))
    (h : members (fuel + 1) done cs = .ok (j, rest)) : Regular j := by
  rw [members.eq_def] at h
  simp only at h
  split at h
  · rename_i tail
    cases hkey : stringChars ('"' :: tail).length none tail with
    | error flaw =>
      rw [hkey] at h
      contradiction
    | ok found =>
      obtain ⟨key, tail⟩ := found
      rw [hkey] at h
      simp only [bind, Except.bind] at h
      split at h
      · rename_i body _
        cases hfound : value fuel (skipBlanks body) with
        | error flaw =>
          rw [hfound] at h
          contradiction
        | ok found =>
          obtain ⟨v, left⟩ := found
          have hput : Regular (.obj (put (String.ofList key) v done)) :=
            regular_put (hvalue _ v left hfound) hdone
          rw [hfound] at h
          simp only at h
          split at h
          · obtain ⟨rfl, -⟩ := Prod.mk.inj (Except.ok.inj h)
            exact hput
          · exact hmembers _ _ _ _ hput h
          · contradiction
      · contradiction
  · contradiction

end

/-- What the reader gives with any fuel is regular: a value, and a container that has been regular as
far as it was read. -/
theorem regular_reader (fuel : Nat) :
    (∀ cs j rest, value fuel cs = .ok (j, rest) → Regular j) ∧
    (∀ done cs j rest, (∀ x ∈ done, Regular x) → elements fuel done cs = .ok (j, rest) → Regular j) ∧
    (∀ done cs j rest, Regular (.obj done) → members fuel done cs = .ok (j, rest) → Regular j) := by
  induction fuel with
  | zero =>
    refine ⟨?_, ?_, ?_⟩
    · intro cs j rest h
      rw [value] at h
      contradiction
    · intro done cs j rest _ h
      rw [elements] at h
      contradiction
    · intro done cs j rest _ h
      rw [members] at h
      contradiction
  | succ fuel ih =>
    obtain ⟨hvalue, helements, hmembers⟩ := ih
    refine ⟨?_, ?_, ?_⟩
    · intro cs j rest h
      exact regular_value_succ helements hmembers h
    · intro done cs j rest hdone h
      exact regular_elements_succ hvalue helements hdone h
    · intro done cs j rest hdone h
      exact regular_members_succ hvalue hmembers hdone h

/-- A value that was read is regular. -/
theorem regular_of_read {text : String} {j : Json} (h : read text = .ok j) : Regular j := by
  unfold read readChars at h
  split at h
  · contradiction
  · cases hfound : value (text.toList.length + 1) (skipBlanks text.toList) with
    | error flaw =>
      rw [hfound] at h
      contradiction
    | ok found =>
      obtain ⟨x, rest⟩ := found
      rw [hfound] at h
      simp only [bind, Except.bind] at h
      split at h
      · obtain rfl := Except.ok.inj h
        exact (regular_reader _).1 _ _ _ hfound
      · contradiction

end Dialogue.Json
