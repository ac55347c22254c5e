import Dialogue.File.Store
import Dialogue.Proofs.File.Path

/-!
# Dialogue.Proofs.File.Store — what was written to a store

The writes to a store are numbered from zero, and each leaves a content: its text, and the time that
the writer gave or a new one with the number of the write. A store holds nothing but such contents,
each under the path that it was written to, whatever is written or deleted next.

Wherever a file can be written (`Writable`), a text that is saved is read again (`read_write`).

Where two writes to one path give the same time only if they write the same text (`TimesTell`), two
contents that were written to the path are of one text as soon as they are of one time.
-/

namespace Dialogue.File

/-- A text being written to a file. -/
structure Write where
  path : String
  text : String
  /-- The time that the writer gives, if any. -/
  time : Option Int
deriving DecidableEq, Repr

/-- What the write with a number leaves in the file. -/
def Write.content (number : Nat) (w : Write) : Content :=
  ⟨w.text, match w.time with
    | some time => .given time
    | none => .tick number⟩

/-- Whether one of some writes left a content at a path in normal form. -/
def Wrote (writes : List Write) (path : String) (c : Content) : Prop :=
  ∃ (i : Nat) (w : Write), writes[i]? = some w ∧ normalPath w.path = path ∧ w.content i = c

/-- Whether a time that is given for a path is given with one text only: a write that changes the
text gives a time that was not given for that path before. -/
def TimesTell (writes : List Write) : Prop :=
  ∀ w ∈ writes, ∀ w' ∈ writes, normalPath w.path = normalPath w'.path → w.time.isSome →
    w.time = w'.time → w.text = w'.text

instance (writes : List Write) : Decidable (TimesTell writes) :=
  inferInstanceAs (Decidable (∀ w ∈ writes, ∀ w' ∈ writes,
    normalPath w.path = normalPath w'.path → w.time.isSome → w.time = w'.time → w.text = w'.text))

theorem Wrote.append {writes : List Write} {path : String} {c : Content} (h : Wrote writes path c)
    (more : List Write) : Wrote (writes ++ more) path c := by
  obtain ⟨i, w, at_i, h⟩ := h
  have inside : i < writes.length := (List.getElem?_eq_some_iff.mp at_i).1
  exact ⟨i, w, by rw [List.getElem?_append_left inside, at_i], h⟩

theorem wrote_last (writes : List Write) (w : Write) :
    Wrote (writes ++ [w]) (normalPath w.path) (w.content writes.length) :=
  ⟨writes.length, w, List.getElem?_concat_length, rfl, rfl⟩

/-- A time tells the text. New times differ, since the numbers of writes do. -/
theorem TimesTell.text_eq {writes : List Write} (h : TimesTell writes) {path : String}
    {c c' : Content} (wrote : Wrote writes path c) (wrote' : Wrote writes path c')
    (stamp : c.stamp = c'.stamp) : c.text = c'.text := by
  obtain ⟨i, w, at_i, rfl, rfl⟩ := wrote
  obtain ⟨i', w', at_i', same, rfl⟩ := wrote'
  cases time : w.time with
  | some t =>
    cases time' : w'.time with
    | some t' =>
      obtain rfl : t = t' := by simpa [Write.content, time, time'] using stamp
      exact h w (List.mem_of_getElem? at_i) w' (List.mem_of_getElem? at_i') same.symm
        (by simp [time]) (by rw [time, time'])
    | none => simp [Write.content, time, time'] at stamp
  | none =>
    cases time' : w'.time with
    | some t' => simp [Write.content, time, time'] at stamp
    | none =>
      obtain rfl : i = i' := by simpa [Write.content, time, time'] using stamp
      obtain rfl : w = w' := Option.some.inj (at_i.symm.trans at_i')
      rfl

namespace Store

/-! ## Finding after a change -/

theorem lookup_cons (path other : String) (c : Content) (files : List (String × Content)) :
    List.lookup other ((path, c) :: files) =
      if other = path then some c else files.lookup other := by
  rw [List.lookup_cons]
  split <;> simp_all

theorem without_cons (path other : String) (c : Content) (files : List (String × Content)) :
    without path ((other, c) :: files) =
      if other = path then without path files else (other, c) :: without path files := by
  by_cases same : other = path <;> simp [without, same]

theorem lookup_without (path other : String) (files : List (String × Content)) :
    (without path files).lookup other = if other = path then none else files.lookup other := by
  induction files with
  | nil => simp [without]
  | cons file rest ih =>
    obtain ⟨p, c⟩ := file
    rw [without_cons, lookup_cons]
    by_cases gone : p = path
    · rw [if_pos gone, ih]
      split
      · rfl
      · rename_i other_ne
        rw [if_neg (gone ▸ other_ne)]
    · rw [if_neg gone, lookup_cons, ih]
      by_cases same : other = p
      · simp [same, gone]
      · simp [same]

theorem find?_write (w : Write) (path : String) (s : Store) :
    (s.write w.path w.text w.time).find? path =
      if normalPath path = normalPath w.path then some (w.content s.ticks) else s.find? path := by
  simp only [find?, write, lookup_cons, lookup_without]
  by_cases same : normalPath path = normalPath w.path
  · rw [if_pos same, if_pos same]
    obtain ⟨_, _, _ | time⟩ := w <;> rfl
  · simp only [if_neg same]

theorem find?_of_delete {s s' : Store} {path other : String} {c : Content}
    (h : s.delete path = .ok s') (found : s'.find? other = some c) : s.find? other = some c := by
  unfold delete at h
  split at h
  · cases h
    rw [find?, lookup_without] at found
    split at found
    · contradiction
    · exact found
  · contradiction

theorem ticks_of_delete {s s' : Store} {path : String} (h : s.delete path = .ok s') :
    s'.ticks = s.ticks := by
  unfold delete at h
  split at h
  · cases h
    rfl
  · contradiction

/-! ## Saving and reading -/

/-- Whether a file can be written at a path: no folder is there, and those above it are. -/
structure Writable (s : Store) (path : String) : Prop where
  given : path ≠ ""
  file : s.isFolder (normalPath path) = false
  folders : (foldersOf (normalPath path)).all s.isFolder = true

theorem Writable.save {s : Store} {path : String} (h : s.Writable path) (text : String) :
    s.save path text = .ok (s.write path text none) := by
  simp only [Store.save, h.given, h.file, h.folders, if_true, if_false, Bool.false_eq_true]

/-- What was written is read again. -/
theorem read_write (path text : String) (s : Store) :
    (s.write path text none).read (normalPath path) = .ok text := by
  have hfound := find?_write ⟨path, text, none⟩ (normalPath path) s
  rw [if_pos (normalPath_normalPath path)] at hfound
  rw [read, hfound]
  rfl

/-! ## What a store holds -/

/-- Whether a store holds only what some writes left. -/
structure Holds (writes : List Write) (s : Store) : Prop where
  found : ∀ {path c}, s.find? path = some c → Wrote writes (normalPath path) c
  ticks : s.ticks = writes.length

theorem holds_nil : Holds [] {} where
  found h := by simp [find?] at h
  ticks := rfl

theorem Holds.write {writes : List Write} {s : Store} (h : s.Holds writes) (w : Write) :
    (s.write w.path w.text w.time).Holds (writes ++ [w]) where
  found {path c} found := by
    rw [find?_write] at found
    split at found
    · rename_i same
      obtain rfl := Option.some.inj found
      rw [same, h.ticks]
      exact wrote_last writes w
    · exact (h.found found).append [w]
  ticks := by simp [Store.write, h.ticks]

theorem Holds.delete {writes : List Write} {s s' : Store} {path : String} (h : s.Holds writes)
    (deleted : s.delete path = .ok s') : s'.Holds writes where
  found found := h.found (find?_of_delete deleted found)
  ticks := (ticks_of_delete deleted).trans h.ticks

end Store

end Dialogue.File
