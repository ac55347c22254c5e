import Dialogue.Tool.Spec

/-!
# Dialogue.Proofs.Tool.Payload — a tool described by a payload is described by its own

A payload may describe a tool in many ways: directly or under `function`, with a name of any kind,
and with parameters as an object, as pairs, or not at all. The tool that is read is always in one
form, which the payload written for a chat server describes again. It is the parameters that matter:
none at all would count as not given, and be read as something else.

* `parametersOf_ne_nil` — what is read from a payload has parameters, since pairs that are read give
  at least one (`collectPairs_ne_nil`);
* `parametersOf_names` — parameters stand in the order in which the payload lists them, since each
  pair leaves those before it in their places (`collectPairs_keys`);
* `ofJson_toJson_iff`, `exists_ofJson_iff` — the tools with parameters are those that their own
  payload describes, and those that any payload describes;
* `ofJson_toJson_of_described` — the statement for every payload that describes a tool.
-/

namespace Dialogue.ToolSpec

/-! ## Pairs -/

/-- A pair leaves the keys that are there in their places; a new one comes last. -/
theorem keys_putEntry (key value : Json) (entries : List (Json × Json)) :
    (putEntry key value entries).map (·.1) = entries.map (·.1) ∨
      (putEntry key value entries).map (·.1) = entries.map (·.1) ++ [key] := by
  induction entries with
  | nil => exact Or.inr rfl
  | cons entry rest ih =>
    rcases entry with ⟨k, v⟩
    rw [putEntry]
    split
    · exact Or.inl rfl
    · rcases ih with h | h
      · left
        rw [List.map_cons, List.map_cons, h]
      · right
        rw [List.map_cons, List.map_cons, h]
        rfl

/-- The key of a pair, if a value is one. -/
def pairKey? (item : Json) : Option Json := (walk? item).bind List.head?

section

variable {items : List Json} {entries : List (Json × Json)}

/-- One pair that is read, and the pairs after it. -/
theorem collectPairs_cons {position : Nat} {done : List (Json × Json)} {item : Json}
    (h : collectPairs position done (item :: items) = .ok entries) :
    ∃ key value, walk? item = some [key, value] ∧
      collectPairs (position + 1) (putEntry key value done) items = .ok entries := by
  unfold collectPairs at h
  split at h
  · contradiction
  · contradiction
  · contradiction
  · rename_i key value _ _ hpair
    exact ⟨key, value, hpair, h⟩
  · contradiction

/-- The keys that were there stay first, and those that are new are keys of pairs, in order. -/
theorem collectPairs_keys {position : Nat} {done : List (Json × Json)}
    (h : collectPairs position done items = .ok entries) :
    ∃ new, entries.map (·.1) = done.map (·.1) ++ new ∧ new.Sublist (items.filterMap pairKey?) := by
  induction items generalizing position done with
  | nil =>
    obtain rfl := Except.ok.inj h
    exact ⟨[], by simp, List.Sublist.refl _⟩
  | cons item rest ih =>
    rcases collectPairs_cons h with ⟨key, value, hpair, hrest⟩
    rcases ih hrest with ⟨new, hkeys, hnew⟩
    have hfirst : pairKey? item = some key := by rw [pairKey?, hpair]; rfl
    rw [List.filterMap_cons_some hfirst]
    rcases keys_putEntry key value done with hput | hput
    · exact ⟨new, by rw [hkeys, hput], hnew.cons key⟩
    · refine ⟨key :: new, ?_, hnew.cons_cons key⟩
      rw [hkeys, hput, List.append_assoc]
      rfl

/-- Pairs that are read give at least one entry. -/
theorem collectPairs_ne_nil {position : Nat} {done : List (Json × Json)}
    (hne : done ≠ [] ∨ items ≠ []) (h : collectPairs position done items = .ok entries) :
    entries ≠ [] := by
  induction items generalizing position done with
  | nil =>
    obtain rfl := Except.ok.inj h
    simpa using hne
  | cons item rest ih =>
    rcases collectPairs_cons h with ⟨key, value, -, hrest⟩
    refine ih (Or.inl ?_) hrest
    cases done with
    | nil => simp [putEntry]
    | cons entry done =>
      rw [putEntry]
      split <;> simp

end

/-! ## Parameters -/

/-- The names that a value lists as those of parameters, in order. -/
def listedNames : Json → List String
  | .obj members => members.map (·.1)
  | j => (((walk? j).getD []).filterMap pairKey?).map keyText

section

variable {given : Option Json} {members : Json.Members}

/-- The ways in which parameters are read. -/
theorem parametersOf_cases (h : parametersOf given = .ok members) :
    (given.bind Json.given? = none ∧ members = defaultParameters) ∨
    given.bind Json.given? = some (.obj members) ∨
    ∃ j items entries, given.bind Json.given? = some j ∧ (∀ ms, j ≠ .obj ms) ∧
      walk? j = some items ∧ collectPairs 0 [] items = .ok entries ∧
      members = entries.map fun (key, value) => (keyText key, value) := by
  unfold parametersOf at h
  split at h
  · rename_i hnone
    exact Or.inl ⟨hnone, (Except.ok.inj h).symm⟩
  · rename_i ms hobject
    obtain rfl := Except.ok.inj h
    exact Or.inr (Or.inl hobject)
  · rename_i j hother hgiven
    right
    right
    cases hwalk : walk? j with
    | none => simp [hwalk] at h
    | some items =>
      cases hpairs : collectPairs 0 [] items with
      | error d => simp [hwalk, hpairs, bind, Except.bind] at h
      | ok entries =>
        simp only [hwalk, hpairs, bind, Except.bind, pure, Except.pure, Except.ok.injEq] at h
        exact ⟨j, items, entries, hgiven, fun ms hj => hother ms hj, hwalk, hpairs, h.symm⟩

/-- A value that counts as given and can be walked through has elements. -/
theorem walk?_ne_nil {j : Json} {items : List Json} (hgiven : j.isGiven = true)
    (hwalk : walk? j = some items) : items ≠ [] := by
  cases j with
  | arr elements =>
    obtain rfl := Option.some.inj hwalk
    simpa [Json.isGiven] using hgiven
  | str text =>
    obtain rfl := Option.some.inj hwalk
    simpa [Json.isGiven] using hgiven
  | obj ms =>
    obtain rfl := Option.some.inj hwalk
    simpa [Json.isGiven] using hgiven
  | _ => simp [walk?] at hwalk

theorem isGiven_of_bind {j : Json} (h : given.bind Json.given? = some j) :
    given = some j ∧ j.isGiven = true := by
  rcases Option.bind_eq_some_iff.1 h with ⟨value, hvalue, hgiven⟩
  unfold Json.given? at hgiven
  split at hgiven
  · rename_i htrue
    obtain rfl := Option.some.inj hgiven
    exact ⟨hvalue, htrue⟩
  · contradiction

/-- What is read from a payload has parameters. -/
theorem parametersOf_ne_nil (h : parametersOf given = .ok members) : members ≠ [] := by
  rcases parametersOf_cases h with ⟨-, rfl⟩ | hobject | ⟨j, items, entries, hj, -, hwalk, hpairs, rfl⟩
  · simp [defaultParameters]
  · rcases isGiven_of_bind hobject with ⟨-, hgiven⟩
    simpa [Json.isGiven] using hgiven
  · rcases isGiven_of_bind hj with ⟨-, hgiven⟩
    have hentries := collectPairs_ne_nil (Or.inr (walk?_ne_nil hgiven hwalk)) hpairs
    simpa using hentries

/-- Parameters stand in the order in which they are listed. -/
theorem parametersOf_names (h : parametersOf given = .ok members) {j : Json}
    (hj : given.bind Json.given? = some j) :
    (members.map (·.1)).Sublist (listedNames j) := by
  rcases parametersOf_cases h with ⟨hnone, -⟩ | hobject | ⟨j', items, entries, hj', hother, hwalk,
    hpairs, rfl⟩
  · rw [hnone] at hj
    contradiction
  · obtain rfl := Option.some.inj (hobject.symm.trans hj)
    exact List.Sublist.refl _
  · obtain rfl := Option.some.inj (hj'.symm.trans hj)
    rcases collectPairs_keys hpairs with ⟨new, hkeys, hnew⟩
    have hlisted : listedNames j' = (items.filterMap pairKey?).map keyText := by
      cases j' with
      | obj ms => exact absurd rfl (hother ms)
      | _ => simp [listedNames, hwalk]
    have hnames : (entries.map fun (key, value) => (keyText key, value)).map (·.1) =
        (entries.map (·.1)).map keyText := by simp
    rw [hlisted, hnames, hkeys]
    exact hnew.map keyText

/-- Parameters that are there are read as they are. -/
theorem parametersOf_obj_eq_ok_iff {other : Json.Members} :
    parametersOf (some (.obj members)) = .ok other ↔
      other = if members = [] then defaultParameters else members := by
  rw [@eq_comm _ other]
  cases members with
  | nil => simp [parametersOf, Json.given?, Json.isGiven]
  | cons member rest => simp [parametersOf, Json.given?, Json.isGiven]

end

/-! ## Tools -/

theorem make_eq_ok_iff {name description : String} {parameters : Json.Members} {t : ToolSpec} :
    make name description parameters = .ok t ↔
      name = t.name ∧ description = t.description ∧ parameters = t.parameters := by
  rcases t with ⟨tname, tdescription, tparameters, hne⟩
  unfold make
  split
  · rename_i hempty
    refine iff_of_false (by simp) ?_
    rintro ⟨rfl, -, -⟩
    contradiction
  · simp

theorem ofMembers_eq_ok_iff {members : Json.Members} {t : ToolSpec} :
    ofMembers members = .ok t ↔
      parametersOf (members.lookup "parameters") = .ok t.parameters ∧
        textOf (members.lookup "name") = t.name ∧
        textOf (members.lookup "description") = t.description := by
  unfold ofMembers
  cases parametersOf (members.lookup "parameters") with
  | error d => simp [bind, Except.bind]
  | ok parameters =>
    simp only [bind, Except.bind, make_eq_ok_iff, Except.ok.injEq]
    constructor
    · rintro ⟨hname, hdescription, hparameters⟩
      exact ⟨hparameters, hname, hdescription⟩
    · rintro ⟨hparameters, hname, hdescription⟩
      exact ⟨hname, hdescription, hparameters⟩

/-- A text is its own text, and the empty one is that of what is not given. -/
theorem textOf_str (text : String) : textOf (some (.str text)) = text := by
  by_cases hempty : text = ""
  · subst hempty
    rfl
  · simp [textOf, Json.given?, Json.isGiven, hempty, Json.shown]

/-- The tools that their own payload describes are those with parameters. -/
theorem ofJson_toJson_iff (t : ToolSpec) : ofJson t.toJson = .ok t ↔ t.parameters ≠ [] := by
  have hpayload : ofJson t.toJson = ofMembers [("name", .str t.name),
      ("description", .str t.description), ("parameters", .obj t.parameters)] := rfl
  rw [hpayload, ofMembers_eq_ok_iff]
  simp only [List.lookup_cons, beq_self_eq_true, String.reduceBEq, textOf_str, and_self, and_true,
    parametersOf_obj_eq_ok_iff]
  by_cases hempty : t.parameters = []
  · simp [hempty, defaultParameters]
  · simp [hempty]

/-- The members that describe the tool of a payload. -/
def described : Json → Json.Members
  | .obj members =>
    match members.lookup "function" with
    | some (.obj inner) => inner
    | _ => members
  | _ => []

theorem ofJson_obj (members : Json.Members) :
    ofJson (.obj members) = ofMembers (described (.obj members)) := by
  rw [ofJson, described]
  cases hfunction : members.lookup "function" with
  | none => simp only
  | some j => cases j <;> simp only

theorem ofMembers_described {payload : Json} {t : ToolSpec} (h : ofJson payload = .ok t) :
    ofMembers (described payload) = .ok t := by
  cases payload with
  | obj members => rw [← ofJson_obj, h]
  | _ => contradiction

/-- A tool is described by some payload just when it has parameters. -/
theorem exists_ofJson_iff (t : ToolSpec) :
    (∃ payload, ofJson payload = .ok t) ↔ t.parameters ≠ [] := by
  constructor
  · rintro ⟨payload, h⟩
    exact parametersOf_ne_nil (ofMembers_eq_ok_iff.1 (ofMembers_described h)).1
  · intro hne
    exact ⟨t.toJson, (ofJson_toJson_iff t).2 hne⟩

/-- Every payload that describes a tool describes one that its own payload for a chat server
describes again: the same tool, with the same parameters in the same order. That is the order in
which the first payload lists them. -/
theorem ofJson_toJson_of_described {payload : Json} {t : ToolSpec} (h : ofJson payload = .ok t) :
    ofJson t.toJson = .ok t ∧
      ∀ j, ((described payload).lookup "parameters").bind Json.given? = some j →
        (t.parameters.map (·.1)).Sublist (listedNames j) := by
  refine ⟨(ofJson_toJson_iff t).2 ((exists_ofJson_iff t).1 ⟨payload, h⟩), ?_⟩
  intro j hj
  exact parametersOf_names (ofMembers_eq_ok_iff.1 (ofMembers_described h)).1 hj

/-- A payload in the nested form, with a name that is no text, a description that is not given, and
parameters as pairs: a list, a text of two characters, and a key that is there already. -/
def pairedParameters : Json :=
  .obj [("type", .str "function"), ("function", .obj [("name", .arr [.int 7]),
    ("description", .bool false), ("parameters", .arr [.arr [.str "b", .null], .str "ac",
      .arr [.int 1, .str "x"], .arr [.bool true, .arr []], .arr [.str "b", .int 0]])])]

/-- The tool that `pairedParameters` describes. -/
def pairedTool : ToolSpec where
  name := "[7]"
  parameters := [("b", .int 0), ("a", .str "c"), ("1", .arr [])]

theorem ofJson_toJson_of_described_pairedParameters :
    ofJson pairedParameters = .ok pairedTool ∧ ofJson pairedTool.toJson = .ok pairedTool ∧
      (["b", "a", "1"].Sublist ["b", "a", "1", "true", "b"]) := by
  have h : ofJson pairedParameters = .ok pairedTool := by rfl
  rcases ofJson_toJson_of_described h with ⟨hagain, hnames⟩
  exact ⟨h, hagain, hnames _ rfl⟩

end Dialogue.ToolSpec
