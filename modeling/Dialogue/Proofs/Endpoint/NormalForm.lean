import Dialogue.Proofs.Endpoint.Parts
import Dialogue.Proofs.Text.Trimming

/-!
# Dialogue.Proofs.Endpoint.NormalForm — what the normal form of an address keeps

The normal form is made by editing the end of the text: slashes are taken off, and the default path
is added to an address that has none. Of an address without a query and a fragment the end is that
of its path, so only the path is edited and the normal form is its own. With a query or a fragment
the end is theirs: slashes are taken off them, the default path is added to them and not seen as a
path the next time, while slashes at the end of the path stay.

Three more things are not as they should be: blanks that stand before the slashes at the end are
trimmed the next time only; line breaks and tabs between those slashes hide the rest of them; and a
path of one slash with parameters is taken for none.

* `Parts.EditsPath`, `Parts.Rooted.edited_eq_iff` — when the edits fall on the path;
* `keeps_parts_iff` — the parts of the normal form;
* `stable_iff` — the normal form of the normal form;
* `normalize_stable_keeps_iff` — both, for every text.
-/

namespace Dialogue.Endpoint

open Text (Stops Trimmed)

/-! ## Paths -/

theorem splitMark_fst (mark : Char) (cs : List Char) :
    (splitMark mark cs).1 <+: cs ∧ mark ∉ (splitMark mark cs).1 := by
  by_cases marked : mark ∈ cs
  · obtain ⟨before, behind, rfl, unmarked⟩ := List.eq_append_cons_of_mem marked
    rw [splitMark_append_cons unmarked]
    exact ⟨List.prefix_append _ _, unmarked⟩
  · rw [splitMark_of_not_mem marked]
    exact ⟨List.prefix_rfl, marked⟩

/-- Behind an authority a path is empty or begins with a slash. -/
theorem path_ofTail {tail : List Char} (h : Stops (!endsAuthority ·) tail)
    (scheme authority : List Char) :
    (Parts.ofTail scheme authority tail).path = [] ∨
      ∃ rest, (Parts.ofTail scheme authority tail).path = '/' :: rest := by
  obtain ⟨inTail, noFragment⟩ := splitMark_fst '#' tail
  obtain ⟨inRest, noQuery⟩ := splitMark_fst '?' (splitMark '#' tail).1
  change (splitMark '?' (splitMark '#' tail).1).1 = [] ∨
    ∃ rest, (splitMark '?' (splitMark '#' tail).1).1 = '/' :: rest
  generalize (splitMark '?' (splitMark '#' tail).1).1 = path at *
  cases path with
  | nil => exact .inl rfl
  | cons c rest =>
    have noFragment' : c ≠ '#' := fun same => noFragment (inRest.subset (by simp [same]))
    have noQuery' : c ≠ '?' := fun same => noQuery (by simp [same])
    obtain ⟨more, rfl⟩ := inRest.trans inTail
    have ends : endsAuthority c = true := by simpa using Text.stops_cons.1 h
    refine .inr ⟨rest, ?_⟩
    simpa [endsAuthority, noFragment', noQuery'] using ends

/-- Parameters are dropped behind the last slash. -/
theorem dropParameters_append_cons {last : List Char} (h : '/' ∉ last) (before : List Char) :
    dropParameters (before ++ '/' :: last) = before ++ '/' :: last.takeWhile (· != ';') := by
  have inLast : ∀ c ∈ last.reverse, (c != '/') = true := by
    intro c hc
    exact bne_iff_ne.2 fun same => h (same ▸ List.mem_reverse.1 hc)
  have stops : Stops (· != '/') ('/' :: before.reverse) := Text.stops_cons.2 rfl
  have segment : ((before ++ '/' :: last).reverse.takeWhile (· != '/')).reverse = last := by
    rw [List.reverse_append, List.reverse_cons, List.append_assoc, List.singleton_append,
      Text.takeWhile_append inLast stops, List.reverse_reverse]
  have upTo : (before ++ '/' :: last).take ((before ++ '/' :: last).length - last.length) =
      before ++ ['/'] := by
    rw [show before ++ '/' :: last = (before ++ ['/']) ++ last by simp, List.length_append,
      Nat.add_sub_cancel, List.take_left]
  simp only [dropParameters, segment, upTo]
  simp

theorem exists_last_segment (rest : List Char) :
    ∃ before last, '/' :: rest = before ++ '/' :: last ∧ '/' ∉ last := by
  have slash : '/' ∈ ('/' :: rest).reverse := by simp
  obtain ⟨last, before, whole, h⟩ := List.eq_append_cons_of_mem slash
  refine ⟨before.reverse, last.reverse, ?_, by simpa using h⟩
  simpa using congrArg List.reverse whole

/-- A path that begins with a slash is one without parameters, too. -/
theorem Parts.plainPath_ne_nil {p : Parts} {rest : List Char} (h : p.path = '/' :: rest) :
    p.plainPath ≠ [] := by
  obtain ⟨before, last, whole, hlast⟩ := exists_last_segment rest
  rw [plainPath, h]
  split
  · rw [whole, dropParameters_append_cons hlast]
    simp
  · simp

theorem Parts.plainPath_of_nil {p : Parts} (h : p.path = []) : p.plainPath = [] := by
  simp [plainPath, h, dropParameters]

/-- The default path has no parameters, whatever stands before it. -/
theorem Parts.plainPath_of_append_default {p : Parts} {before : List Char}
    (h : p.path = before ++ defaultPath) : p.plainPath = before ++ defaultPath := by
  have noSlash : '/' ∉ ['v', '1'] := by decide
  have segment : dropParameters (before ++ defaultPath) = before ++ defaultPath :=
    dropParameters_append_cons noSlash before
  rw [plainPath, h, segment, ite_self]

/-! ## What is done to the parts -/

/-- A path without slashes at its end. -/
def stripSlashes (path : List Char) : List Char := Text.dropTrailing (· == '/') path

/-- The normal form of a path: without slashes at its end, and the default path if nothing is left
then. -/
def normalPath (path : List Char) : List Char :=
  if stripSlashes path = [] then defaultPath else stripSlashes path

theorem stops_slash_iff {cs : List Char} :
    Stops (· == '/') cs.reverse ↔ cs.getLast? ≠ some '/' := by
  cases h : cs.getLast? <;> simp [Stops, h]

theorem getLast?_stripSlashes (path : List Char) : (stripSlashes path).getLast? ≠ some '/' :=
  stops_slash_iff.1 (Text.stops_dropTrailing path)

theorem getLast?_normalPath (path : List Char) : (normalPath path).getLast? ≠ some '/' := by
  unfold normalPath
  split
  · decide
  · exact getLast?_stripSlashes path

theorem normalPath_append_slashes (path : List Char) (n : Nat) :
    normalPath (path ++ List.replicate n '/') = normalPath path := by
  have same : stripSlashes (path ++ List.replicate n '/') = stripSlashes path := by
    obtain ⟨run, whole, hrun⟩ := Text.exists_append_dropTrailing (· == '/') path
    rw [← stripSlashes] at whole
    have slashes : ∀ c ∈ run ++ List.replicate n '/', (c == '/') = true := by
      intro c hc
      rcases List.mem_append.1 hc with inRun | added
      · exact hrun c inRun
      · exact beq_iff_eq.2 (List.eq_of_mem_replicate added)
    calc stripSlashes (path ++ List.replicate n '/')
        = stripSlashes (stripSlashes path ++ (run ++ List.replicate n '/')) := by
          rw [← List.append_assoc, ← whole]
      _ = stripSlashes path := Text.dropTrailing_append (Text.stops_dropTrailing path) slashes
  rw [normalPath, normalPath, same]

theorem normalPath_eq_self_iff {path : List Char} (hne : path ≠ []) :
    normalPath path = path ↔ path.getLast? ≠ some '/' := by
  refine ⟨fun same => same ▸ getLast?_normalPath path, fun h => ?_⟩
  have kept : stripSlashes path = path := Text.dropTrailing_eq_self (stops_slash_iff.2 h)
  rw [normalPath, kept, if_neg hne]

/-- The default path is no normal form behind another path. -/
theorem normalPath_ne_append {path : List Char} (hne : path ≠ []) :
    normalPath path ≠ path ++ defaultPath := by
  intro same
  unfold normalPath at same
  split at same
  · exact hne (by simpa using same)
  · obtain ⟨run, whole, -⟩ := Text.exists_append_dropTrailing (· == '/') path
    have shorter := congrArg List.length whole
    have longer := congrArg List.length same
    simp only [stripSlashes, List.length_append, defaultPath, List.length_cons] at shorter longer
    omega

/-- The parts of the normal form, if those of the trimmed address are given. -/
def Parts.edited (p : Parts) : Parts := if p.isBare then p.append defaultPath else p

/-- An address with a scheme, an authority and a path that is empty or begins with a slash. -/
structure Parts.Rooted (p : Parts) : Prop where
  scheme : p.scheme ≠ []
  authority : p.authority ≠ []
  path : p.path = [] ∨ ∃ rest, p.path = '/' :: rest

theorem Served.rooted {cs scheme authority tail : List Char}
    (h : Served cs scheme authority tail) : (Parts.ofTail scheme authority tail).Rooted where
  scheme empty := by
    have first := h.scheme.first
    rw [show scheme = [] from empty] at first
    contradiction
  authority := h.nonempty
  path := path_ofTail h.tail _ _

/-- A served address is bare if it has no path, or a slash and parameters at most. -/
theorem Parts.Rooted.isBare_iff {p : Parts} (h : p.Rooted) :
    p.isBare = true ↔ p.path = [] ∨ p.plainPath = ['/'] := by
  have noPath : p.plainPath = [] ↔ p.path = [] := by
    refine ⟨fun plain => ?_, p.plainPath_of_nil⟩
    rcases h.path with empty | ⟨rest, rooted⟩
    · exact empty
    · exact absurd plain (Parts.plainPath_ne_nil rooted)
  simp [isBare, h.scheme, h.authority, noPath]

/-- Whether what is done to the end of a trimmed address is done to its path, if it ends with so
many slashes.

* There are no other slashes at the end of the path, with a line break or a tab between them.
* The path is not a slash with parameters.
* The end is that of the path, as there is no query and no fragment; or nothing has to be done, as
  there is a path and no slash at the end. -/
structure Parts.EditsPath (p : Parts) (slashes : Nat) : Prop where
  path : p.path.getLast? ≠ some '/'
  parameters : p.plainPath ≠ ['/']
  marks : p.query = none ∧ p.fragment = none ∨ p.path ≠ [] ∧ slashes = 0

/-- The address with the slashes back, and its path in normal form. -/
def Parts.expected (slashes : Nat) (p : Parts) : Parts :=
  let whole := p.append (List.replicate slashes '/')
  { whole with path := normalPath whole.path }

theorem Parts.edited_eq (p : Parts) :
    p.edited = p.append (if p.isBare then defaultPath else []) := by
  unfold edited
  split
  · rfl
  · exact p.append_nil.symm

/-- The path of an address without marks is edited to its normal form, but for hidden slashes and
lone parameters. -/
theorem Parts.Rooted.path_edited_iff {p : Parts} (h : p.Rooted) :
    p.path ++ (if p.isBare then defaultPath else []) = normalPath p.path ↔
      p.path.getLast? ≠ some '/' ∧ p.plainPath ≠ ['/'] := by
  by_cases empty : p.path = []
  · have bare : p.isBare = true := h.isBare_iff.2 (.inl empty)
    simp [bare, empty, Parts.plainPath_of_nil empty, normalPath, stripSlashes, Text.dropTrailing]
  · by_cases lone : p.plainPath = ['/']
    · have bare : p.isBare = true := h.isBare_iff.2 (.inr lone)
      simp [bare, lone, (normalPath_ne_append empty).symm]
    · have notBare : ¬ p.isBare = true := fun bare => (h.isBare_iff.1 bare).elim empty lone
      rw [if_neg notBare, List.append_nil, eq_comm, normalPath_eq_self_iff empty,
        and_iff_left lone]

theorem Parts.append_of_unmarked {p : Parts} (h : p.query = none ∧ p.fragment = none)
    (s : List Char) : p.append s = { p with path := p.path ++ s } := by
  simp [append, h.1, h.2]

/-- What is written behind a query or a fragment does not go into the path. -/
theorem Parts.append_eq_iff_of_marked {p : Parts} (h : ¬ (p.query = none ∧ p.fragment = none))
    (s s' path : List Char) :
    p.append s = { p.append s' with path := path } ↔ s = s' ∧ p.path = path := by
  obtain ⟨scheme, authority, own, _ | query, _ | fragment⟩ := p
  · simp at h
  all_goals simp [append, and_comm]

theorem Parts.path_append_of_marked {p : Parts} (h : ¬ (p.query = none ∧ p.fragment = none))
    (s : List Char) : (p.append s).path = p.path :=
  (((Parts.append_eq_iff_of_marked h s s (p.append s).path).1 rfl).2).symm

/-- The parts of the normal form are those expected just when the end of the address is edited as
that of its path. -/
theorem Parts.Rooted.edited_eq_iff {p : Parts} (h : p.Rooted) (n : Nat) :
    p.edited = p.expected n ↔ p.EditsPath n := by
  rw [edited_eq]
  by_cases unmarked : p.query = none ∧ p.fragment = none
  · have paths : p.append (if p.isBare then defaultPath else []) = p.expected n ↔
        p.path ++ (if p.isBare then defaultPath else []) = normalPath p.path := by
      simp only [expected, append_of_unmarked unmarked, normalPath_append_slashes, Parts.mk.injEq,
        true_and, and_true]
    rw [paths, h.path_edited_iff]
    exact ⟨fun ⟨path, plain⟩ => ⟨path, plain, .inl unmarked⟩, fun e => ⟨e.path, e.parameters⟩⟩
  · rw [expected, append_eq_iff_of_marked unmarked, path_append_of_marked unmarked]
    by_cases bare : p.isBare = true
    · -- the default path is no run of slashes
      rw [if_pos bare]
      refine iff_of_false (fun both => ?_) (fun e => ?_)
      · have letter : 'v' ∈ List.replicate n '/' := both.1 ▸ (by decide : 'v' ∈ defaultPath)
        exact absurd (List.eq_of_mem_replicate letter) (by decide)
      · have hasPath := (e.marks.resolve_left unmarked).1
        exact (h.isBare_iff.1 bare).elim hasPath e.parameters
    · have hasPath : p.path ≠ [] := fun empty => bare (h.isBare_iff.2 (.inl empty))
      have plain : p.plainPath ≠ ['/'] := fun lone => bare (h.isBare_iff.2 (.inr lone))
      have noSlashes : [] = List.replicate n '/' ↔ n = 0 := by
        rw [eq_comm, List.replicate_eq_nil_iff]
      rw [if_neg bare, noSlashes, eq_comm (a := p.path), normalPath_eq_self_iff hasPath]
      exact ⟨fun ⟨noSlash, path⟩ => ⟨path, plain, .inr ⟨hasPath, noSlash⟩⟩,
        fun e => ⟨(e.marks.resolve_left unmarked).2, e.path⟩⟩

/-! ## What stays of an address -/

/-- Trimming takes blanks off an address, and then slashes off its end. -/
theorem exists_stripChars_eq (cs : List Char) :
    ∃ n, Text.stripChars cs = trim cs ++ List.replicate n '/' := by
  obtain ⟨run, whole, slashes⟩ := Text.exists_append_dropTrailing (· == '/') (Text.stripChars cs)
  refine ⟨run.length, ?_⟩
  rw [← List.eq_replicate_of_mem fun c hc => beq_iff_eq.1 (slashes c hc)]
  exact whole

theorem normalizeChars_eq {cs : List Char} {p : Parts} (h : Parts.ofText (trim cs) = .ok p) :
    normalizeChars cs = .ok (if p.isBare then trim cs ++ defaultPath else trim cs) := by
  rw [normalizeChars, h]
  rfl

theorem Served.ofText_edited {cs scheme authority tail : List Char}
    (h : Served cs scheme authority tail) (hcheck : checkAuthority authority = .ok ()) {p : Parts}
    (hp : p = Parts.ofTail scheme authority tail) :
    Parts.ofText (if p.isBare then cs ++ defaultPath else cs) = .ok p.edited := by
  unfold Parts.edited
  split
  · rw [(h.append continues_defaultPath).ofText_eq, hcheck, ofTail_append continues_defaultPath, hp]
    rfl
  · rw [h.ofText_eq, hcheck, hp]
    rfl

/-- The parts of the normal form of an address with a scheme and an authority are those of the
trimmed address with its path in normal form, just when the path is what is edited. -/
theorem keeps_parts_iff {cs : List Char} {whole : Parts}
    (h : Parts.ofText (Text.stripChars cs) = .ok whole) (hscheme : whole.scheme ≠ [])
    (hauthority : whole.authority ≠ []) :
    ∃ p n, Parts.ofText (trim cs) = .ok p ∧
      Text.stripChars cs = trim cs ++ List.replicate n '/' ∧
      ((∃ r, normalizeChars cs = .ok r ∧
        Parts.ofText r = .ok { whole with path := normalPath whole.path }) ↔ p.EditsPath n) := by
  obtain ⟨n, strip⟩ := exists_stripChars_eq cs
  obtain ⟨tail, served, hcheck, hwhole⟩ := exists_served h hscheme hauthority
  rw [strip] at served
  obtain ⟨tail', served', rfl⟩ := served.of_append_slashes
  obtain ⟨p, hp⟩ : ∃ p, p = Parts.ofTail whole.scheme whole.authority tail' := ⟨_, rfl⟩
  have trimmed : Parts.ofText (trim cs) = .ok p := by
    rw [served'.ofText_eq, hcheck, hp]
    rfl
  have expected : { whole with path := normalPath whole.path } = p.expected n := by
    have back : whole = p.append (List.replicate n '/') := by
      cases n with
      | zero => simpa [Parts.append_nil, hp] using hwhole
      | succ n => rw [hp, ← ofTail_append (continues_slashes n), ← hwhole]
    rw [Parts.expected, ← back]
  refine ⟨p, n, trimmed, strip, ?_⟩
  have rooted : p.Rooted := hp ▸ served'.rooted
  rw [normalizeChars_eq trimmed, expected, ← rooted.edited_eq_iff n]
  have edited := served'.ofText_edited hcheck hp
  constructor
  · rintro ⟨r, hr, kept⟩
    rw [← Except.ok.inj hr, edited] at kept
    exact Except.ok.inj kept
  · intro same
    exact ⟨_, rfl, by rw [edited, same]⟩

/-! ## The normal form of a normal form -/

theorem trim_eq_self {cs : List Char} (h : Trimmed cs) (slash : cs.getLast? ≠ some '/') :
    trim cs = cs := by
  rw [trim, Text.stripChars_eq_self h, Text.dropTrailing_eq_self (stops_slash_iff.2 slash)]

theorem getLast?_trim (cs : List Char) : (trim cs).getLast? ≠ some '/' :=
  stops_slash_iff.1 (Text.stops_dropTrailing _)

/-- A trimmed address begins with a character that is no blank, if it is not empty. -/
theorem first_trim (cs : List Char) : Stops Text.isBlank (trim cs) := by
  obtain ⟨n, strip⟩ := exists_stripChars_eq cs
  have first := (Text.trimmed_stripChars cs).first
  rw [strip] at first
  cases htrim : trim cs with
  | nil => exact fun c hc => absurd hc (by simp)
  | cons c rest =>
    rw [htrim] at first
    exact Text.stops_cons.2 (Text.stops_cons.1 first)

/-- With the default path at its end an address is trimmed. -/
theorem trim_append_default {cs : List Char} (hne : trim cs ≠ []) :
    trim (trim cs ++ defaultPath) = trim cs ++ defaultPath := by
  refine trim_eq_self ⟨?_, ?_⟩ (by simp [defaultPath])
  · exact (Text.stops_append_iff hne _).2 (first_trim cs)
  · rw [List.reverse_append]
    exact Text.stops_cons.2 (by decide)

/-- Trimming again changes an address that ends with a blank: taking slashes off has laid it bare. -/
theorem normal_ne_self {cs : List Char} (h : ¬ Stops Text.isBlank cs.reverse) (p : Parts) :
    (if p.isBare then trim cs ++ defaultPath else trim cs) ≠ cs := by
  intro same
  apply h
  split at same
  · rw [← same, List.reverse_append]
    exact Text.stops_cons.2 (by decide)
  · -- nothing was taken off, so it was trimmed
    obtain ⟨n, strip⟩ := exists_stripChars_eq cs
    have shorter := Text.length_stripChars_le cs
    rw [strip, same, List.length_append, List.length_replicate] at shorter
    obtain rfl : n = 0 := by omega
    rw [same, List.replicate_zero, List.append_nil] at strip
    rw [← strip]
    exact (Text.trimmed_stripChars cs).last

/-- The default path behind a bare address makes it bare no more, unless it went into a query or a
fragment. -/
theorem isBare_append_default {p : Parts} (h : p.isBare = true) :
    (p.append defaultPath).isBare = false ↔ p.query = none ∧ p.fragment = none := by
  by_cases unmarked : p.query = none ∧ p.fragment = none
  · refine iff_of_true ?_ unmarked
    have path : (p.append defaultPath).path = p.path ++ defaultPath := by
      rw [Parts.append_of_unmarked unmarked]
    rw [Parts.isBare, Parts.plainPath_of_append_default path]
    cases p.path <;> simp [defaultPath]
  · refine iff_of_false (fun served => ?_) unmarked
    have same : (p.append defaultPath).isBare = p.isBare := by
      obtain ⟨scheme, authority, path, _ | query, _ | fragment⟩ := p
      · simp at unmarked
      all_goals rfl
    rw [same, h] at served
    contradiction

theorem stable_of_bare_iff {cs : List Char} {p : Parts} (h : Parts.ofText (trim cs) = .ok p)
    (bare : p.isBare = true) :
    normalizeChars (trim cs ++ defaultPath) = .ok (trim cs ++ defaultPath) ↔
      p.query = none ∧ p.fragment = none := by
  obtain ⟨hscheme, hauthority⟩ : p.scheme ≠ [] ∧ p.authority ≠ [] := by
    simp only [Parts.isBare, Bool.and_eq_true, Bool.not_eq_true', List.isEmpty_eq_false_iff] at bare
    exact bare.1
  obtain ⟨tail, served, hcheck, hp⟩ := exists_served h hscheme hauthority
  have hne : trim cs ≠ [] := by
    intro empty
    have text := served.text
    rw [empty] at text
    simp [counted] at text
  have again : Parts.ofText (trim (trim cs ++ defaultPath)) = .ok p.edited := by
    have edited := served.ofText_edited hcheck hp
    rwa [if_pos bare, ← trim_append_default hne] at edited
  rw [normalizeChars_eq again, trim_append_default hne, Parts.edited, if_pos bare,
    ← isBare_append_default bare]
  cases (p.append defaultPath).isBare <;> simp [defaultPath]

theorem stable_of_not_bare_iff {cs : List Char} {p : Parts} (h : Parts.ofText (trim cs) = .ok p)
    (notBare : p.isBare = false) :
    normalizeChars (trim cs) = .ok (trim cs) ↔ Trimmed (trim cs) := by
  constructor
  · intro same
    refine ⟨first_trim cs, ?_⟩
    by_contra blank
    cases again : Parts.ofText (trim (trim cs)) with
    | error d => simp [normalizeChars, again, bind, Except.bind] at same
    | ok p' =>
      rw [normalizeChars_eq again] at same
      exact normal_ne_self blank p' (Except.ok.inj same)
  · intro trimmed
    have again := trim_eq_self trimmed (getLast?_trim cs)
    rw [normalizeChars_eq (again.symm ▸ h), again, notBare]
    rfl

theorem bind_eq_iff {cs r : List Char} (h : normalizeChars cs = .ok r) :
    (normalizeChars cs >>= normalizeChars) = normalizeChars cs ↔ normalizeChars r = .ok r := by
  rw [h]
  exact Iff.rfl

/-- The normal form of an address is its own normal form just when the default path was added as a
path, or was not added and the trimmed address does not end with a blank. -/
theorem stable_iff (cs : List Char) :
    (normalizeChars cs >>= normalizeChars) = normalizeChars cs ↔
      ∀ p, Parts.ofText (trim cs) = .ok p →
        if p.isBare then p.query = none ∧ p.fragment = none else Trimmed (trim cs) := by
  cases h : Parts.ofText (trim cs) with
  | error d => simp [normalizeChars, h, bind, Except.bind]
  | ok p =>
    by_cases bare : p.isBare = true
    · have once : normalizeChars cs = .ok (trim cs ++ defaultPath) := by
        rw [normalizeChars_eq h, if_pos bare]
      rw [bind_eq_iff once, stable_of_bare_iff h bare]
      simp only [Except.ok.injEq, forall_eq', if_pos bare]
    · have once : normalizeChars cs = .ok (trim cs) := by
        rw [normalizeChars_eq h, if_neg bare]
      rw [bind_eq_iff once, stable_of_not_bare_iff h (Bool.eq_false_iff.2 bare)]
      simp only [Except.ok.injEq, forall_eq', if_neg bare]

/-! ## Addresses -/

theorem normalize_bind_eq_iff (url : String) :
    (normalize url >>= normalize) = normalize url ↔
      (normalizeChars url.toList >>= normalizeChars) = normalizeChars url.toList := by
  unfold normalize
  cases normalizeChars url.toList with
  | error d => simp [bind, Except.bind, Except.map]
  | ok r =>
    simp only [Except.map, bind, Except.bind, String.toList_ofList]
    cases normalizeChars r <;> simp [String.ofList_inj]

theorem exists_normalize_iff (url : String) (P : List Char → Prop) :
    (∃ r, normalize url = .ok r ∧ P r.toList) ↔ ∃ r, normalizeChars url.toList = .ok r ∧ P r := by
  unfold normalize
  cases normalizeChars url.toList <;> simp [Except.map]

/-- The normal form of an address.

* It is its own normal form just when the default path, if it was added, went into no query and no
  fragment, and otherwise no blank stands before the slashes at the end.
* It has the scheme, the authority, the query and the fragment of the trimmed address and its path
  in normal form, just when what is edited is the end of the path (`Parts.EditsPath`). -/
theorem normalize_stable_keeps_iff (url : String) :
    ((normalize url >>= normalize) = normalize url ↔
      ∀ p, Parts.ofText (trim url.toList) = .ok p →
        if p.isBare then p.query = none ∧ p.fragment = none else Trimmed (trim url.toList)) ∧
    ∀ whole, Parts.ofText (Text.stripChars url.toList) = .ok whole →
      whole.scheme ≠ [] → whole.authority ≠ [] →
      ∃ p n, Parts.ofText (trim url.toList) = .ok p ∧
        Text.stripChars url.toList = trim url.toList ++ List.replicate n '/' ∧
        ((∃ r, normalize url = .ok r ∧
          Parts.ofText r.toList = .ok { whole with path := normalPath whole.path }) ↔
            p.EditsPath n) := by
  refine ⟨(normalize_bind_eq_iff url).trans (stable_iff _), fun whole h hscheme hauthority => ?_⟩
  obtain ⟨p, n, trimmed, strip, kept⟩ := keeps_parts_iff h hscheme hauthority
  exact ⟨p, n, trimmed, strip, (exists_normalize_iff url _).trans kept⟩

/-- An address with a path and a query, in a line of its own. -/
def keyedAddress : String := " http://localhost:1234/v1?key=a/b\n"

/-- There is nothing to do but to trim it. -/
theorem normalize_stable_keeps_iff_keyedAddress :
    (normalize keyedAddress >>= normalize) = normalize keyedAddress ∧
      ∃ whole, Parts.ofText (Text.stripChars keyedAddress.toList) = .ok whole ∧
        whole.scheme ≠ [] ∧ whole.authority ≠ [] ∧ whole.query = some "key=a/b".toList ∧
        ∃ r, normalize keyedAddress = .ok r ∧
          Parts.ofText r.toList = .ok { whole with path := normalPath whole.path } := by
  obtain ⟨stable, keeps⟩ := normalize_stable_keeps_iff keyedAddress
  let whole : Parts :=
    ⟨"http".toList, "localhost:1234".toList, "/v1".toList, some "key=a/b".toList, none⟩
  have trim : trim keyedAddress.toList = Text.stripChars keyedAddress.toList := by decide +kernel
  have h : Parts.ofText (Text.stripChars keyedAddress.toList) = .ok whole := by decide +kernel
  have hscheme : whole.scheme ≠ [] := by decide
  have hauthority : whole.authority ≠ [] := by decide
  obtain ⟨p, n, hp, strip, iff⟩ := keeps whole h hscheme hauthority
  obtain rfl : whole = p := Except.ok.inj (h.symm.trans (trim ▸ hp))
  have noSlash : n = 0 := by simpa [trim] using strip
  refine ⟨stable.2 fun q hq => ?_, whole, h, hscheme, hauthority, rfl, iff.2 ?_⟩
  · obtain rfl : whole = q := Except.ok.inj (hp.symm.trans hq)
    rw [if_neg (by decide +kernel), trim]
    exact Text.trimmed_stripChars _
  · exact ⟨by decide, by decide +kernel, .inr ⟨by decide, noSlash⟩⟩

/-- An address with a query but no path. -/
def queriedAddress : String := "http://h?x=1"

/-- The default path goes into the query, and does so again each time. -/
theorem normalize_queriedAddress :
    ∃ r whole, normalize queriedAddress = .ok r ∧ normalize r ≠ .ok r ∧
      Parts.ofText queriedAddress.toList = .ok whole ∧ whole.scheme ≠ [] ∧ whole.authority ≠ [] ∧
      Parts.ofText r.toList ≠ .ok { whole with path := normalPath whole.path } :=
  ⟨"http://h?x=1/v1", ⟨"http".toList, "h".toList, [], some "x=1".toList, none⟩,
    by decide +kernel, by decide +kernel, by decide +kernel, by decide, by decide,
    by decide +kernel⟩

end Dialogue.Endpoint
