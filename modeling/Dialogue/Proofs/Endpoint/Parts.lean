import Dialogue.Endpoint
import Dialogue.Proofs.Text.CharClass

/-!
# Dialogue.Proofs.Endpoint.Parts — addresses that go on

An address with a scheme and an authority falls into these two and a tail, which begins with a slash
or a mark if there is any. What is written behind such an address, with a slash in front and no mark
in it, goes on with the last of its parts: the fragment if there is one, else the query if there is
one, else the path.

* `Served`, `exists_served`, `Served.ofText_eq` — addresses with a scheme and an authority;
* `Served.append`, `ofTail_append` — what is written behind one;
* `Served.of_append_slashes` — slashes that are taken off again.
-/

namespace Dialogue.Endpoint

open Text (Stops)

/-! ## Marks -/

theorem splitMark_of_not_mem {mark : Char} {cs : List Char} (h : mark ∉ cs) :
    splitMark mark cs = (cs, none) := by
  have all : ∀ c ∈ cs, (c != mark) = true := fun c hc => bne_iff_ne.2 fun same => h (same ▸ hc)
  rw [splitMark, Text.cutAt?, List.dropWhile_eq_nil_iff.2 all]

theorem splitMark_append_cons {mark : Char} {before : List Char} (h : mark ∉ before)
    (behind : List Char) : splitMark mark (before ++ mark :: behind) = (before, some behind) := by
  have all : ∀ c ∈ before, (c != mark) = true :=
    fun c hc => bne_iff_ne.2 fun same => h (same ▸ hc)
  have stops : Stops (· != mark) (mark :: behind) := Text.stops_cons.2 (by simp)
  rw [splitMark, Text.cutAt?, Text.dropWhile_append all stops, Text.takeWhile_append all stops]

/-- A text without the mark goes on with what is behind the mark, or else with what is before. -/
theorem splitMark_append {mark : Char} {s : List Char} (h : mark ∉ s) (cs : List Char) :
    splitMark mark (cs ++ s) =
      match splitMark mark cs with
      | (before, some behind) => (before, some (behind ++ s))
      | (before, none) => (before ++ s, none) := by
  by_cases marked : mark ∈ cs
  · obtain ⟨before, behind, rfl, unmarked⟩ := List.eq_append_cons_of_mem marked
    rw [List.append_assoc, List.cons_append, splitMark_append_cons unmarked,
      splitMark_append_cons unmarked]
  · rw [splitMark_of_not_mem marked, splitMark_of_not_mem (by simp [marked, h])]

/-! ## The tail of an address -/

/-- The parts of an address with a tail behind its authority. -/
def Parts.ofTail (scheme authority tail : List Char) : Parts :=
  let (rest, fragment) := splitMark '#' tail
  let (path, query) := splitMark '?' rest
  ⟨scheme, authority, path, query, fragment⟩

/-- The address with its last part continued. -/
def Parts.append (s : List Char) (p : Parts) : Parts :=
  match p.query, p.fragment with
  | _, some fragment => { p with fragment := some (fragment ++ s) }
  | some query, none => { p with query := some (query ++ s) }
  | none, none => { p with path := p.path ++ s }

theorem Parts.append_nil (p : Parts) : p.append [] = p := by
  obtain ⟨scheme, authority, path, _ | query, _ | fragment⟩ := p <;> simp [append]

/-- A text that can go on with a part: it starts with a slash and has no mark, and nothing in it is
passed over. -/
structure Continues (s : List Char) : Prop where
  slash : s.head? = some '/'
  noQuery : '?' ∉ s
  noFragment : '#' ∉ s
  counts : ∀ c ∈ s, isPassedOver c = false

theorem continues_slashes (n : Nat) : Continues (List.replicate (n + 1) '/') where
  slash := rfl
  noQuery := by simp
  noFragment := by simp
  counts c hc := by
    rw [List.eq_of_mem_replicate hc]
    decide

theorem continues_defaultPath : Continues defaultPath :=
  ⟨rfl, by decide, by decide, by simp [defaultPath, isPassedOver]⟩

theorem ofTail_append {s : List Char} (h : Continues s) (scheme authority tail : List Char) :
    Parts.ofTail scheme authority (tail ++ s) =
      (Parts.ofTail scheme authority tail).append s := by
  unfold Parts.ofTail
  rw [splitMark_append h.noFragment]
  obtain ⟨rest, _ | fragment⟩ := splitMark '#' tail
  · dsimp only
    rw [splitMark_append h.noQuery]
    obtain ⟨path, _ | query⟩ := splitMark '?' rest <;> rfl
  · obtain ⟨path, _ | query⟩ := splitMark '?' rest <;> rfl

/-! ## Scheme and authority -/

/-- Characters that can be a scheme. -/
structure IsScheme (cs : List Char) : Prop where
  first : cs.head?.any isAsciiLetter = true
  all : ∀ c ∈ cs, isSchemeChar c = true

/-- A text is an address with a scheme and an authority: the two, and a tail that is empty or begins
with a slash or a mark. -/
structure Served (cs scheme authority tail : List Char) : Prop where
  text : counted cs = scheme ++ ':' :: '/' :: '/' :: (authority ++ tail)
  scheme : IsScheme scheme
  nonempty : authority ≠ []
  authority : ∀ c ∈ authority, endsAuthority c = false
  tail : Stops (!endsAuthority ·) tail

theorem IsScheme.ne_colon {cs : List Char} (h : IsScheme cs) : ∀ c ∈ cs, (c != ':') = true := by
  intro c hc
  have schemeChar := h.all c hc
  rw [bne_iff_ne]
  rintro rfl
  contradiction

theorem IsScheme.takeScheme_append {cs : List Char} (h : IsScheme cs) (rest : List Char) :
    takeScheme (cs ++ ':' :: rest) = (cs, rest) := by
  have stops : Stops (· != ':') (':' :: rest) := Text.stops_cons.2 rfl
  rw [takeScheme, Text.dropWhile_append h.ne_colon stops, Text.takeWhile_append h.ne_colon stops]
  simp [h.first, List.all_eq_true.2 h.all]

theorem isScheme_of_takeScheme {cs scheme rest : List Char} (h : takeScheme cs = (scheme, rest))
    (hne : scheme ≠ []) : IsScheme scheme ∧ cs = scheme ++ ':' :: rest := by
  have whole : cs = cs.takeWhile (· != ':') ++ cs.dropWhile (· != ':') :=
    List.takeWhile_append_dropWhile.symm
  unfold takeScheme at h
  dsimp only at h
  split at h
  · rename_i behind hbehind
    split at h
    · rename_i can
      obtain ⟨rfl, rfl⟩ := Prod.mk.inj h
      rw [Bool.and_eq_true, List.all_eq_true] at can
      exact ⟨⟨can.1, can.2⟩, by rwa [hbehind] at whole⟩
    · exact absurd (Prod.mk.inj h).1.symm hne
  · exact absurd (Prod.mk.inj h).1.symm hne

theorem takeAuthority_append {authority tail : List Char}
    (hauthority : ∀ c ∈ authority, endsAuthority c = false) (htail : Stops (!endsAuthority ·) tail) :
    takeAuthority ('/' :: '/' :: (authority ++ tail)) = (authority, tail) := by
  have inside : ∀ c ∈ authority, (!endsAuthority c) = true := by simpa using hauthority
  rw [takeAuthority, Text.takeWhile_append inside htail, Text.dropWhile_append inside htail]

theorem of_takeAuthority {rest authority tail : List Char}
    (h : takeAuthority rest = (authority, tail)) (hne : authority ≠ []) :
    rest = '/' :: '/' :: (authority ++ tail) ∧ (∀ c ∈ authority, endsAuthority c = false) ∧
      Stops (!endsAuthority ·) tail := by
  unfold takeAuthority at h
  split at h
  · rename_i behind
    obtain ⟨htake, hdrop⟩ := Prod.mk.inj h
    obtain ⟨rfl, inside, stops⟩ := Text.span_eq_iff.1 ⟨htake, hdrop⟩
    exact ⟨rfl, by simpa using inside, stops⟩
  · exact absurd (Prod.mk.inj h).1.symm hne

/-- The parts of an address, by its tail. -/
theorem ofText_eq (cs : List Char) :
    Parts.ofText cs =
      let (scheme, rest) := takeScheme (counted cs)
      let (authority, tail) := takeAuthority rest
      (checkAuthority authority).map fun _ => Parts.ofTail scheme authority tail := by
  unfold Parts.ofText Parts.ofTail
  obtain ⟨scheme, rest⟩ := takeScheme (counted cs)
  dsimp only
  obtain ⟨authority, tail⟩ := takeAuthority rest
  dsimp only
  cases checkAuthority authority <;> rfl

theorem Served.ofText_eq {cs scheme authority tail : List Char}
    (h : Served cs scheme authority tail) :
    Parts.ofText cs =
      (checkAuthority authority).map fun _ => Parts.ofTail scheme authority tail := by
  rw [Endpoint.ofText_eq, h.text, h.scheme.takeScheme_append]
  dsimp only
  rw [takeAuthority_append h.authority h.tail]

/-- An address with a scheme and an authority is one by its text. -/
theorem exists_served {cs : List Char} {p : Parts} (h : Parts.ofText cs = .ok p)
    (hscheme : p.scheme ≠ []) (hauthority : p.authority ≠ []) :
    ∃ tail, Served cs p.scheme p.authority tail ∧ checkAuthority p.authority = .ok () ∧
      p = Parts.ofTail p.scheme p.authority tail := by
  rw [Endpoint.ofText_eq] at h
  cases hscheme' : takeScheme (counted cs) with | mk scheme rest =>
  cases hauthority' : takeAuthority rest with | mk authority tail =>
  simp only [hscheme', hauthority'] at h
  cases hcheck : checkAuthority authority with
  | error d =>
    rw [hcheck] at h
    contradiction
  | ok =>
    rw [hcheck] at h
    obtain rfl : Parts.ofTail scheme authority tail = p := Except.ok.inj h
    obtain ⟨isScheme, whole⟩ := isScheme_of_takeScheme hscheme' hscheme
    obtain ⟨rfl, inside, stops⟩ := of_takeAuthority hauthority' hauthority
    exact ⟨tail, ⟨whole, isScheme, hauthority, inside, stops⟩, hcheck, rfl⟩

/-! ## Behind an address -/

theorem counted_append {cs s : List Char} (hcs : cs.dropWhile isControlOrSpace ≠ [])
    (h : ∀ c ∈ s, isPassedOver c = false) : counted (cs ++ s) = counted cs ++ s := by
  have kept : s.filter (!isPassedOver ·) = s := List.filter_eq_self.2 (by simpa using h)
  have hempty : (cs.dropWhile isControlOrSpace).isEmpty = false := by simpa using hcs
  rw [counted, List.dropWhile_append, hempty, counted]
  simp [kept]

theorem Served.dropWhile_ne_nil {cs scheme authority tail : List Char}
    (h : Served cs scheme authority tail) : cs.dropWhile isControlOrSpace ≠ [] := by
  intro hempty
  have text := h.text
  rw [counted, hempty] at text
  simp at text

/-- An address goes on with its tail. -/
theorem Served.append {cs scheme authority tail s : List Char}
    (h : Served cs scheme authority tail) (hs : Continues s) :
    Served (cs ++ s) scheme authority (tail ++ s) where
  text := by
    rw [counted_append h.dropWhile_ne_nil hs.counts, h.text]
    simp
  scheme := h.scheme
  nonempty := h.nonempty
  authority := h.authority
  tail := by
    cases tail with
    | nil =>
      intro c hc
      rw [List.nil_append, hs.slash] at hc
      obtain rfl := Option.some.inj hc
      decide
    | cons c rest => exact Text.stops_cons.2 (Text.stops_cons.1 h.tail)

/-- What is left of an address without slashes at its end still has the authority. -/
theorem exists_tail_of_append_slashes {cs before authority tail : List Char} {n : Nat}
    (hauthority : authority ≠ []) (hends : ∀ c ∈ authority, endsAuthority c = false)
    (h : cs ++ List.replicate n '/' = before ++ authority ++ tail) :
    ∃ tail', cs = before ++ authority ++ tail' ∧ tail = tail' ++ List.replicate n '/' := by
  rcases List.append_eq_append_iff.1 h with ⟨cut, whole, slashes⟩ | ⟨tail', whole, behind⟩
  · -- the slashes do not reach into the authority
    rcases List.eq_nil_or_concat cut with rfl | ⟨more, last, rfl⟩
    · exact ⟨[], by simpa using whole.symm, by simpa using slashes.symm⟩
    · obtain ⟨init, z, rfl⟩ := (List.eq_nil_or_concat authority).resolve_left hauthority
      simp only [List.concat_eq_append, ← List.append_assoc] at whole slashes hends
      obtain rfl : z = last := List.append_singleton_inj.1 whole |>.2
      have slash : z = '/' := List.eq_of_mem_replicate (n := n) (by simp [slashes])
      have inside := hends z (by simp)
      rw [slash] at inside
      contradiction
  · exact ⟨tail', whole, behind⟩

/-- Slashes behind an address are the end of its tail. -/
theorem Served.of_append_slashes {cs scheme authority tail : List Char} {n : Nat}
    (h : Served (cs ++ List.replicate n '/') scheme authority tail) :
    ∃ tail', Served cs scheme authority tail' ∧ tail = tail' ++ List.replicate n '/' := by
  have counts : ∀ c ∈ List.replicate n '/', isPassedOver c = false := by
    intro c hc
    rw [List.eq_of_mem_replicate hc]
    decide
  have hcs : cs.dropWhile isControlOrSpace ≠ [] := by
    intro hempty
    -- slashes alone have no scheme
    have colon : ':' ∈ counted (cs ++ List.replicate n '/') := by simp [h.text]
    rw [counted, List.dropWhile_append, hempty, List.isEmpty_nil, if_pos rfl] at colon
    have inSlashes := (List.dropWhile_sublist _).mem (List.mem_filter.1 colon).1
    exact absurd (List.eq_of_mem_replicate inSlashes) (by decide)
  have text : counted cs ++ List.replicate n '/' =
      (scheme ++ [':', '/', '/']) ++ authority ++ tail := by
    rw [← counted_append hcs counts, h.text]
    simp
  obtain ⟨tail', whole, rfl⟩ := exists_tail_of_append_slashes h.nonempty h.authority text
  refine ⟨tail', ⟨by simpa using whole, h.scheme, h.nonempty, h.authority, ?_⟩, rfl⟩
  cases tail' with
  | nil => exact fun c hc => absurd hc (by simp)
  | cons c rest => exact Text.stops_cons.2 (Text.stops_cons.1 h.tail)

end Dialogue.Endpoint
