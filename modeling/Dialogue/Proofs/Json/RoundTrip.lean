import Dialogue.Proofs.Json.Printer
import Dialogue.Proofs.Json.Tokens

/-!
# Dialogue.Proofs.Json.RoundTrip — printed values are read back

`read_compact` and `read_indented`: a value printed in either style is read back to the value, provided
that every part of it is `Rereadable`.

* `Occurs` — being a part of a value, at any depth;
* `Rereadable` — a value has no double, no whole number with more digits than are read, and no object
  with the same key twice;
* `readsBack` — one induction on the value, for both styles at once: what is printed is read back
  before any text that does not go on with a number. The length of what is printed is enough fuel,
  since each step of the reader takes a character away.
-/

namespace Dialogue.Json

open Dialogue.Text (Stops stops_cons)

/-! ## Parts of a value -/

/-- What holds of a container as soon as it holds of everything in it holds of every value. -/
@[elab_as_elim]
theorem induction_on_parts {motive : Json → Prop} (null : motive .null) (bool : ∀ b, motive (.bool b))
    (int : ∀ i, motive (.int i)) (float : ∀ x, motive (.float x)) (str : ∀ s, motive (.str s))
    (arr : ∀ xs, (∀ x ∈ xs, motive x) → motive (.arr xs))
    (obj : ∀ ms : Members, (∀ m ∈ ms, motive m.2) → motive (.obj ms)) (j : Json) : motive j := by
  match j with
  | .null => exact null
  | .bool b => exact bool b
  | .int i => exact int i
  | .float x => exact float x
  | .str s => exact str s
  | .arr xs =>
    refine arr xs ?_
    intro x hx
    have hsize := List.sizeOf_lt_of_mem hx
    exact induction_on_parts null bool int float str arr obj x
  | .obj ms =>
    refine obj ms ?_
    intro m hm
    have hsize := List.sizeOf_lt_of_mem hm
    exact induction_on_parts null bool int float str arr obj m.2
termination_by sizeOf j
decreasing_by
  · simp
    omega
  · obtain ⟨key, v⟩ := m
    simp at hsize ⊢
    omega

/-- A value is another value or lies in it, at any depth. -/
inductive Occurs (part : Json) : Json → Prop where
  | here : Occurs part part
  | element {xs : List Json} {x : Json} (hx : x ∈ xs) (h : Occurs part x) : Occurs part (.arr xs)
  | member {ms : Members} {key : String} {v : Json} (hv : (key, v) ∈ ms) (h : Occurs part v) :
      Occurs part (.obj ms)

theorem exists_occurs_arr {P : Json → Prop} {xs : List Json} :
    (∃ part, Occurs part (.arr xs) ∧ P part) ↔
      P (.arr xs) ∨ ∃ x ∈ xs, ∃ part, Occurs part x ∧ P part := by
  constructor
  · rintro ⟨part, hpart, h⟩
    cases hpart with
    | here => exact Or.inl h
    | element hx hpart => exact Or.inr ⟨_, hx, part, hpart, h⟩
  · rintro (h | ⟨x, hx, part, hpart, h⟩)
    · exact ⟨_, .here, h⟩
    · exact ⟨part, .element hx hpart, h⟩

theorem exists_occurs_obj {P : Json → Prop} {ms : Members} :
    (∃ part, Occurs part (.obj ms) ∧ P part) ↔
      P (.obj ms) ∨ ∃ m ∈ ms, ∃ part, Occurs part m.2 ∧ P part := by
  constructor
  · rintro ⟨part, hpart, h⟩
    cases hpart with
    | here => exact Or.inl h
    | member hv hpart => exact Or.inr ⟨_, hv, part, hpart, h⟩
  · rintro (h | ⟨m, hm, part, hpart, h⟩)
    · exact ⟨_, .here, h⟩
    · exact ⟨part, .member hm hpart, h⟩

/-- What a value needs, its parts apart, so that its text is read back. -/
def Rereadable : Json → Prop
  | .int i => (Nat.toDigits 10 i.natAbs).length ≤ maxDigits
  | .float _ => False
  | .obj ms => (ms.map (·.1)).Nodup
  | _ => True

/-- A value whose text is read back. -/
def Faithful (j : Json) : Prop := ∀ part, Occurs part j → part.Rereadable

theorem Faithful.rereadable {j : Json} (h : Faithful j) : j.Rereadable := h j .here

theorem Faithful.element {xs : List Json} (h : Faithful (.arr xs)) : ∀ x ∈ xs, Faithful x :=
  fun _ hx part hpart => h part (.element hx hpart)

theorem Faithful.member {ms : Members} (h : Faithful (.obj ms)) : ∀ m ∈ ms, Faithful m.2 :=
  fun _ hm part hpart => h part (.member hm hpart)

theorem faithful_str (s : String) : Faithful (.str s) := by
  rintro _ ⟨⟩
  trivial

theorem faithful_int {i : Int} (h : (Nat.toDigits 10 i.natAbs).length ≤ maxDigits) :
    Faithful (.int i) := by
  rintro _ ⟨⟩
  exact h

theorem faithful_arr {xs : List Json} (h : ∀ x ∈ xs, Faithful x) : Faithful (.arr xs) := by
  intro part hpart
  cases hpart with
  | here => trivial
  | element hx hpart => exact h _ hx part hpart

theorem faithful_obj {ms : Members} (hkeys : (ms.map (·.1)).Nodup) (h : ∀ m ∈ ms, Faithful m.2) :
    Faithful (.obj ms) := by
  intro part hpart
  cases hpart with
  | here => exact hkeys
  | member hv hpart => exact h _ hv part hpart

/-! ## Between the tokens -/

theorem skipBlanks_append {blanks rest : List Char} (hblanks : ∀ c ∈ blanks, isJsonBlank c = true)
    (hrest : Stops isJsonBlank rest) : skipBlanks (blanks ++ rest) = rest :=
  Text.dropWhile_append hblanks hrest

theorem isJsonBlank_lineBreak (style : Style) (depth : Nat) :
    ∀ c ∈ style.lineBreak depth, isJsonBlank c = true := by
  intro c hc
  cases style with
  | compact => contradiction
  | indented =>
    have hcases : c = '\n' ∨ c = ' ' := by
      simp only [Style.lineBreak, List.mem_cons, List.mem_replicate] at hc
      exact hc.imp_right (·.2)
    rcases hcases with rfl | rfl
    · rfl
    · rfl

/-- A separator is a comma with blanks after it. -/
theorem separator_eq (style : Style) (depth : Nat) :
    ∃ blanks, style.separator depth = ',' :: blanks ∧ ∀ c ∈ blanks, isJsonBlank c = true := by
  cases style with
  | compact => exact ⟨[' '], rfl, List.forall_mem_singleton.2 rfl⟩
  | indented => exact ⟨_, rfl, isJsonBlank_lineBreak .indented depth⟩

/-- A blank stops a number. -/
theorem stops_inNumber {blanks : List Char} (hblanks : ∀ c ∈ blanks, isJsonBlank c = true) {c : Char}
    (hc : inNumber c = false) (rest : List Char) : Stops inNumber (blanks ++ c :: rest) := by
  cases blanks with
  | nil => exact stops_cons.2 hc
  | cons b blanks =>
    have hb : isJsonBlank b = true := hblanks b List.mem_cons_self
    have hcases : ((b = ' ' ∨ b = '\t') ∨ b = '\n') ∨ b = '\r' := by simpa [isJsonBlank] using hb
    refine stops_cons.2 ?_
    rcases hcases with ((rfl | rfl) | rfl) | rfl
    · rfl
    · rfl
    · rfl
    · rfl

/-- The text of a value starts with no blank, no closing bracket and no byte order mark. -/
theorem write_eq_cons (style : Style) (depth : Nat) {j : Json} (hj : j.Rereadable) :
    ∃ c tail, write style depth j = c :: tail ∧ isJsonBlank c = false ∧ c ≠ ']' ∧ c ≠ '\uFEFF' := by
  cases j with
  | null => exact ⟨'n', _, by rw [write], rfl, by decide, by decide⟩
  | bool b =>
    cases b with
    | true => exact ⟨'t', _, by rw [write], rfl, by decide, by decide⟩
    | false => exact ⟨'f', _, by rw [write], rfl, by decide, by decide⟩
  | int i =>
    rw [write]
    cases i with
    | ofNat n =>
      obtain ⟨d, digits, hcons⟩ := List.exists_cons_of_ne_nil (Nat.toDigits_ne_nil (n := n) (b := 10))
      have hd : isDigit d = true := isDigit_of_mem_toDigits (n := n) (by simp [hcons])
      have hne : ∀ c, isDigit c = false → d ≠ c := by
        rintro c hc rfl
        rw [hd] at hc
        contradiction
      refine ⟨d, digits, hcons, ?_, hne ']' (by decide), hne '\uFEFF' (by decide)⟩
      simp [isJsonBlank, hne ' ' (by decide), hne '\t' (by decide), hne '\n' (by decide),
        hne '\r' (by decide)]
    | negSucc n => exact ⟨'-', _, rfl, rfl, by decide, by decide⟩
  | float x => exact absurd hj id
  | str s => exact ⟨'"', _, by rw [write, quote]; rfl, rfl, by decide, by decide⟩
  | arr xs =>
    cases xs with
    | nil => exact ⟨'[', _, by rw [write], rfl, by decide, by decide⟩
    | cons x xs => exact ⟨'[', _, by rw [write]; rfl, rfl, by decide, by decide⟩
  | obj ms =>
    cases ms with
    | nil => exact ⟨'{', _, by rw [write], rfl, by decide, by decide⟩
    | cons m ms => exact ⟨'{', _, by rw [write]; rfl, rfl, by decide, by decide⟩

theorem stops_write (style : Style) (depth : Nat) {j : Json} (hj : j.Rereadable) (rest : List Char) :
    Stops isJsonBlank (write style depth j ++ rest) := by
  obtain ⟨c, tail, hcons, hblank, _⟩ := write_eq_cons style depth hj
  rw [hcons]
  exact stops_cons.2 hblank

theorem one_le_length_write (style : Style) (depth : Nat) {j : Json} (hj : j.Rereadable) :
    1 ≤ (write style depth j).length := by
  obtain ⟨c, tail, hcons, _⟩ := write_eq_cons style depth hj
  rw [hcons, List.length_cons]
  omega

/-- A new key goes to the end. -/
theorem put_of_not_mem {key : String} {v : Json} {ms : Members} (h : key ∉ ms.map (·.1)) :
    put key v ms = ms ++ [(key, v)] := by
  induction ms with
  | nil => rfl
  | cons m ms ih =>
    obtain ⟨k, w⟩ := m
    simp only [List.map_cons, List.mem_cons, not_or] at h
    rw [put, if_neg (Ne.symm h.1), ih h.2]
    rfl

/-- With distinct keys, a key is none of those before it. -/
theorem not_mem_of_nodup_keys {done ms : Members} {key : String} {v : Json}
    (h : ((done ++ (key, v) :: ms).map (·.1)).Nodup) : key ∉ done.map (·.1) := by
  rw [List.map_append, List.nodup_append] at h
  intro hkey
  exact h.2.2 key hkey key List.mem_cons_self rfl

/-! ## Steps of the reader -/

/-- A bracket that is not closed at once opens a list of elements. -/
theorem value_bracket (fuel : Nat) {blanks : List Char} (hblanks : ∀ c ∈ blanks, isJsonBlank c = true)
    {c : Char} (hc : isJsonBlank c = false) (hne : c ≠ ']') (rest : List Char) :
    value (fuel + 1) ('[' :: (blanks ++ c :: rest)) = elements fuel [] (c :: rest) := by
  rw [value, skipBlanks_append hblanks (stops_cons.2 hc)]
  split
  · rename_i heq
    exact absurd (List.cons.inj heq).1 hne
  · rfl

/-- A brace that a key follows opens a list of members. -/
theorem value_brace (fuel : Nat) {blanks : List Char} (hblanks : ∀ c ∈ blanks, isJsonBlank c = true)
    (key : String) (rest : List Char) :
    value (fuel + 1) ('{' :: (blanks ++ (quote key ++ rest))) =
      members fuel [] (quote key ++ rest) := by
  rw [quote_append, value, skipBlanks_append hblanks (stops_cons.2 rfl)]
  rfl

section

variable {fuel : Nat} {cs rest blanks : List Char} {x : Json}

theorem elements_last (hvalue : value fuel cs = .ok (x, blanks ++ ']' :: rest))
    (hblanks : ∀ c ∈ blanks, isJsonBlank c = true) (done : List Json) :
    elements (fuel + 1) done cs = .ok (.arr (done.reverse ++ [x]), rest) := by
  have hskip : skipBlanks (blanks ++ ']' :: rest) = ']' :: rest :=
    skipBlanks_append hblanks (stops_cons.2 rfl)
  simp only [elements, hvalue, bind, Except.bind, hskip]
  rfl

theorem elements_more (hvalue : value fuel cs = .ok (x, ',' :: rest)) (done : List Json) :
    elements (fuel + 1) done cs = elements fuel (x :: done) (skipBlanks rest) := by
  rw [elements, hvalue]
  rfl

variable (hcs : Stops isJsonBlank cs)

include hcs

theorem members_last (hvalue : value fuel cs = .ok (x, blanks ++ '}' :: rest))
    (hblanks : ∀ c ∈ blanks, isJsonBlank c = true) (done : Members) (key : String) :
    members (fuel + 1) done (quote key ++ ':' :: ' ' :: cs) = .ok (.obj (put key x done), rest) := by
  have hskip : skipBlanks (blanks ++ '}' :: rest) = '}' :: rest :=
    skipBlanks_append hblanks (stops_cons.2 rfl)
  have hcolon : skipBlanks (':' :: ' ' :: cs) = ':' :: ' ' :: cs := rfl
  have hspace : skipBlanks (' ' :: cs) = cs :=
    skipBlanks_append (List.forall_mem_singleton.2 rfl) hcs
  simp only [quote_append, members, stringChars_quote, bind, Except.bind, hcolon, hspace, hvalue,
    hskip, String.ofList_toList]
  rfl

theorem members_more (hvalue : value fuel cs = .ok (x, ',' :: rest)) (done : Members) (key : String) :
    members (fuel + 1) done (quote key ++ ':' :: ' ' :: cs) =
      members fuel (put key x done) (skipBlanks rest) := by
  have hcolon : skipBlanks (':' :: ' ' :: cs) = ':' :: ' ' :: cs := rfl
  have hspace : skipBlanks (' ' :: cs) = cs :=
    skipBlanks_append (List.forall_mem_singleton.2 rfl) hcs
  have hcomma : skipBlanks (',' :: rest) = ',' :: rest := rfl
  simp only [quote_append, members, stringChars_quote, bind, Except.bind, hcolon, hspace, hvalue,
    hcomma, String.ofList_toList]

end

/-! ## Values -/

/-- What stands between an item and the end of its container stops a number. -/
theorem stops_items (style : Style) (depth : Nat) (items : List (List Char)) {blanks : List Char}
    (hblanks : ∀ c ∈ blanks, isJsonBlank c = true) {closing : Char}
    (hclosing : inNumber closing = false) (rest : List Char) :
    Stops inNumber (items.flatMap (style.separator depth ++ ·) ++ (blanks ++ closing :: rest)) := by
  cases items with
  | nil => exact stops_inNumber hblanks hclosing rest
  | cons item items =>
    obtain ⟨_, hseparator, _⟩ := separator_eq style depth
    rw [List.flatMap_cons, hseparator]
    exact stops_cons.2 (by decide)

theorem stops_writeElements (style : Style) (depth : Nat) (xs : List Json) {blanks : List Char}
    (hblanks : ∀ c ∈ blanks, isJsonBlank c = true) (rest : List Char) :
    Stops inNumber (writeElements style depth xs ++ (blanks ++ ']' :: rest)) :=
  writeElements_eq style depth xs ▸ stops_items style depth _ hblanks rfl rest

theorem stops_writeMembers (style : Style) (depth : Nat) (ms : Members) {blanks : List Char}
    (hblanks : ∀ c ∈ blanks, isJsonBlank c = true) (rest : List Char) :
    Stops inNumber (writeMembers style depth ms ++ (blanks ++ '}' :: rest)) :=
  writeMembers_eq style depth ms ▸ stops_items style depth _ hblanks rfl rest

/-- The text of a value is read back before any text that does not go on with a number. -/
def ReadsBack (style : Style) (j : Json) : Prop :=
  ∀ depth fuel rest, (write style depth j).length ≤ fuel → Stops inNumber rest →
    value fuel (write style depth j ++ rest) = .ok (j, rest)

/-- The elements of a list are read back, after those already read and before the bracket. -/
theorem elements_write {style : Style} {depth fuel : Nat} {x : Json} {xs : List Json}
    (hxs : ∀ y ∈ x :: xs, y.Rereadable ∧ ReadsBack style y)
    (hfuel : (write style depth x ++ writeElements style depth xs).length < fuel)
    (done : List Json) {blanks : List Char} (hblanks : ∀ c ∈ blanks, isJsonBlank c = true)
    (rest : List Char) :
    elements fuel done
        (write style depth x ++ (writeElements style depth xs ++ (blanks ++ ']' :: rest))) =
      .ok (.arr (done.reverse ++ x :: xs), rest) := by
  induction xs generalizing x fuel done with
  | nil =>
    obtain ⟨fuel, rfl⟩ := Nat.exists_eq_add_of_le' (Nat.one_le_of_lt hfuel)
    rw [List.length_append] at hfuel
    have hvalue := (hxs x List.mem_cons_self).2 depth fuel _ (by omega)
      (stops_writeElements style depth [] hblanks rest)
    exact elements_last hvalue hblanks done
  | cons y ys ih =>
    obtain ⟨fuel, rfl⟩ := Nat.exists_eq_add_of_le' (Nat.one_le_of_lt hfuel)
    rw [List.length_append] at hfuel
    have hx := hxs x List.mem_cons_self
    have hys := fun z hz => hxs z (List.mem_cons_of_mem x hz)
    have hvalue := hx.2 depth fuel _ (by omega)
      (stops_writeElements style depth (y :: ys) hblanks rest)
    -- a comma and blanks, then the elements that are left
    obtain ⟨gap, hseparator, hgap⟩ := separator_eq style depth
    have hshort : (write style depth y ++ writeElements style depth ys).length < fuel := by
      have hlength := one_le_length_write style depth hx.1
      simp only [writeElements, hseparator, List.length_append, List.length_cons] at hfuel ⊢
      omega
    have hskip : skipBlanks (gap ++ (write style depth y ++
        (writeElements style depth ys ++ (blanks ++ ']' :: rest)))) = _ :=
      skipBlanks_append hgap (stops_write style depth (hys y List.mem_cons_self).1 _)
    rw [writeElements, hseparator] at hvalue ⊢
    simp only [List.cons_append, List.append_assoc] at hvalue ⊢
    rw [elements_more hvalue, hskip, ih hys hshort]
    simp

/-- The members of an object are read back, after those already read and before the brace. -/
theorem members_write {style : Style} {depth fuel : Nat} {k : String} {v : Json} {ms : Members}
    (hms : ∀ m ∈ (k, v) :: ms, m.2.Rereadable ∧ ReadsBack style m.2)
    (hfuel : (write style depth v ++ writeMembers style depth ms).length < fuel)
    (done : Members) (hkeys : ((done ++ (k, v) :: ms).map (·.1)).Nodup)
    {blanks : List Char} (hblanks : ∀ c ∈ blanks, isJsonBlank c = true) (rest : List Char) :
    members fuel done
        (quote k ++ (':' :: ' ' :: (write style depth v ++
          (writeMembers style depth ms ++ (blanks ++ '}' :: rest))))) =
      .ok (.obj (done ++ (k, v) :: ms), rest) := by
  induction ms generalizing k v fuel done with
  | nil =>
    have hv : v.Rereadable ∧ ReadsBack style v := hms (k, v) List.mem_cons_self
    have hnew := not_mem_of_nodup_keys hkeys
    obtain ⟨fuel, rfl⟩ := Nat.exists_eq_add_of_le' (Nat.one_le_of_lt hfuel)
    rw [List.length_append] at hfuel
    have hvalue := hv.2 depth fuel _ (by omega)
      (stops_writeMembers style depth [] hblanks rest)
    rw [members_last (stops_write style depth hv.1 _) hvalue hblanks, put_of_not_mem hnew]
  | cons m ms ih =>
    obtain ⟨l, w⟩ := m
    have hv : v.Rereadable ∧ ReadsBack style v := hms (k, v) List.mem_cons_self
    have hnew := not_mem_of_nodup_keys hkeys
    obtain ⟨fuel, rfl⟩ := Nat.exists_eq_add_of_le' (Nat.one_le_of_lt hfuel)
    rw [List.length_append] at hfuel
    have hvalue := hv.2 depth fuel _ (by omega)
      (stops_writeMembers style depth ((l, w) :: ms) hblanks rest)
    have hstart := stops_write style depth hv.1
      (writeMembers style depth ((l, w) :: ms) ++ (blanks ++ '}' :: rest))
    -- a comma and blanks, then the members that are left
    obtain ⟨gap, hseparator, hgap⟩ := separator_eq style depth
    have hshort : (write style depth w ++ writeMembers style depth ms).length < fuel := by
      have hlength := one_le_length_write style depth hv.1
      simp only [writeMembers, hseparator, List.length_append, List.length_cons] at hfuel ⊢
      omega
    have hskip : skipBlanks (gap ++ (quote l ++ (':' :: ' ' :: (write style depth w ++
        (writeMembers style depth ms ++ (blanks ++ '}' :: rest)))))) = _ :=
      skipBlanks_append hgap (quote_append l _ ▸ stops_cons.2 rfl)
    have hkeys' : (((done ++ [(k, v)]) ++ (l, w) :: ms).map (·.1)).Nodup := by simpa using hkeys
    have hmore := ih (fun m hm => hms m (List.mem_cons_of_mem (k, v) hm)) hshort _ hkeys'
    rw [writeMembers, hseparator] at hvalue hstart ⊢
    simp only [List.cons_append, List.append_assoc] at hvalue hstart ⊢
    rw [members_more hstart hvalue, hskip, put_of_not_mem hnew, hmore]
    simp

/-- A value is read back if it is with any fuel but none, since its text is not empty. -/
theorem readsBack_of_succ {style : Style} {j : Json} (hj : j.Rereadable)
    (h : ∀ depth fuel rest, (write style depth j).length ≤ fuel + 1 → Stops inNumber rest →
      value (fuel + 1) (write style depth j ++ rest) = .ok (j, rest)) : ReadsBack style j := by
  intro depth fuel rest hfuel hrest
  have hlength := one_le_length_write style depth hj
  obtain ⟨fuel, rfl⟩ := Nat.exists_eq_add_of_le' (hlength.trans hfuel)
  exact h depth fuel rest hfuel hrest

theorem readsBack_arr {style : Style} {xs : List Json}
    (hxs : ∀ y ∈ xs, y.Rereadable ∧ ReadsBack style y) : ReadsBack style (.arr xs) := by
  refine readsBack_of_succ trivial ?_
  intro depth fuel rest hfuel hrest
  cases xs with
  | nil => rfl
  | cons x xs =>
    obtain ⟨c, tail, hcons, hblank, hne, _⟩ :=
      write_eq_cons style (depth + 1) (hxs x List.mem_cons_self).1
    have hshort : (write style (depth + 1) x ++ writeElements style (depth + 1) xs).length < fuel := by
      simp only [write, List.length_append, List.length_cons] at hfuel ⊢
      omega
    have helements := elements_write hxs hshort [] (isJsonBlank_lineBreak style depth) rest
    rw [hcons, List.cons_append] at helements
    have hopen := value_bracket fuel (isJsonBlank_lineBreak style (depth + 1)) hblank hne
      (tail ++ (writeElements style (depth + 1) xs ++ (style.lineBreak depth ++ ']' :: rest)))
    rw [helements] at hopen
    simpa [write, hcons] using hopen

theorem readsBack_obj {style : Style} {ms : Members} (hkeys : (Json.obj ms).Rereadable)
    (hms : ∀ m ∈ ms, m.2.Rereadable ∧ ReadsBack style m.2) : ReadsBack style (.obj ms) := by
  refine readsBack_of_succ hkeys ?_
  intro depth fuel rest hfuel hrest
  cases ms with
  | nil => rfl
  | cons m ms =>
    obtain ⟨k, v⟩ := m
    have hshort : (write style (depth + 1) v ++ writeMembers style (depth + 1) ms).length < fuel := by
      simp only [write, List.length_append, List.length_cons] at hfuel ⊢
      omega
    have hmembers := members_write hms hshort [] hkeys (isJsonBlank_lineBreak style depth) rest
    have hopen := value_brace fuel (isJsonBlank_lineBreak style (depth + 1)) k
      (':' :: ' ' :: (write style (depth + 1) v ++
        (writeMembers style (depth + 1) ms ++ (style.lineBreak depth ++ '}' :: rest))))
    rw [hmembers] at hopen
    simpa [write] using hopen

/-- The text of a value is read back when each of its parts can be. -/
theorem readsBack (style : Style) {j : Json} (hj : Faithful j) : ReadsBack style j := by
  induction j using induction_on_parts with
  | null => exact readsBack_of_succ trivial fun _ _ _ _ _ => rfl
  | bool b =>
    cases b with
    | true => exact readsBack_of_succ trivial fun _ _ _ _ _ => rfl
    | false => exact readsBack_of_succ trivial fun _ _ _ _ _ => rfl
  | int i =>
    have hdigits := hj.rereadable
    exact readsBack_of_succ hdigits fun _ fuel _ _ => value_decimalChars fuel hdigits
  | float x => exact absurd hj.rereadable id
  | str s => exact readsBack_of_succ trivial fun _ fuel rest _ _ => value_quote fuel s rest
  | arr xs ih =>
    have hxs := hj.element
    exact readsBack_arr fun x hx => ⟨(hxs x hx).rereadable, ih x hx (hxs x hx)⟩
  | obj ms ih =>
    have hms := hj.member
    exact readsBack_obj hj.rereadable fun m hm => ⟨(hms m hm).rereadable, ih m hm (hms m hm)⟩

/-! ## Whole texts -/

/-- The text of a value, in either style, is read back to the value. -/
theorem readChars_write (style : Style) (depth : Nat) {j : Json} (hj : Faithful j) :
    readChars (write style depth j) = .ok j := by
  have hvalue := readsBack style hj depth ((write style depth j).length + 1) []
    (by omega) (by simp [Stops])
  obtain ⟨c, tail, hcons, hblank, _, hmark⟩ := write_eq_cons style depth hj.rereadable
  have hstart : skipBlanks (write style depth j) = write style depth j := by
    rw [hcons]
    exact List.dropWhile_cons_of_neg (by simp [hblank])
  have hhead : (write style depth j).head? ≠ some '\uFEFF' := by
    rw [hcons]
    simpa using hmark
  rw [List.append_nil] at hvalue
  rw [readChars, if_neg hhead, hstart, hvalue]
  rfl

theorem read_compact {j : Json} (hj : Faithful j) : read j.compact = .ok j := by
  rw [read, compact, String.toList_ofList, readChars_write .compact 0 hj]

theorem read_indented {j : Json} (hj : Faithful j) : read j.indented = .ok j := by
  rw [read, indented, String.toList_ofList, readChars_write .indented 0 hj]

end Dialogue.Json
