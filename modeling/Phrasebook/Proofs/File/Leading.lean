/-
This file says which place a path leads to. Two paths that are written differently may
lead to one place, and only the place tells whether they mean the same file. Opening a
path for appending opens the place that it leads to. After an append every path leads
where it led before, and finds what it found before unless that is the file appended to.
-/

import Phrasebook.Proofs.File.Appending

namespace Phrasebook.FileSystem

variable {files before after : FileSystem} {path : FilePath} {place : Place}

/-! ### Where paths lead -/

/-- The path leads to the place, whether something is there or not. -/
structure LeadsTo (files : FileSystem) (path : FilePath) (place : Place) : Prop where
  allowed : checkPath path = .ok ()
  walked : files.walk (start path) (pieces path) = .ok place

theorem LeadsTo.unique {other : Place} (leads : files.LeadsTo path place)
    (also : files.LeadsTo path other) : place = other := by
  have walked := leads.walked
  rw [also.walked] at walked
  cases walked
  rfl

/-- A path finds what is at the place it leads to. -/
theorem LeadsTo.find_eq_ok_iff {entry : FileEntry} (leads : files.LeadsTo path place) :
    files.find path = .ok entry ↔ files.entryAt? place = some entry := by
  rw [find, leads.allowed]
  simp only [leads.walked]
  cases files.entryAt? place <;> simp

theorem exists_leadsTo_of_find {entry : FileEntry} (found : files.find path = .ok entry) :
    ∃ place, files.LeadsTo path place := by
  unfold find at found
  split at found
  · cases found
  · rename_i allowed
    split at found
    · cases found
    · rename_i place walked
      exact ⟨place, allowed, walked⟩

theorem KeepsDirectories.leadsTo (keeps : KeepsDirectories before after)
    (leads : before.LeadsTo path place) : after.LeadsTo path place :=
  ⟨leads.allowed, keeps.walk leads.walked⟩

/-! ### Opening -/

theorem walk_concat {pieces : List (List Char)} {piece : List Char} :
    ∀ {first middle last : Place}, files.walk first pieces = .ok middle →
      files.step middle piece = .ok last → files.walk first (pieces ++ [piece]) = .ok last := by
  induction pieces with
  | nil =>
    intro first middle last walked went
    cases walked
    rw [List.nil_append, walk, went]
    rfl
  | cons head rest inductionHypothesis =>
    intro first middle last walked went
    rw [walk] at walked
    rw [List.cons_append, walk]
    cases stepped : files.step first head with
    | error fault =>
      rw [stepped] at walked
      cases walked
    | ok next =>
      rw [stepped] at walked
      exact inductionHypothesis walked went

/-- The pieces of a path that can be opened: a way to a directory, and a name. -/
structure Openable (files : FileSystem) (path : FilePath) (directory : Place)
    (name : List Char) : Prop where
  allowed : checkPath path = .ok ()
  proper : name ≠ [] ∧ name ≠ ['.'] ∧ name ≠ ['.', '.']
  way : ∃ above, pieces path = above ++ [name] ∧
    files.walk (start path) above = .ok directory
  inside : files.entryAt? directory = some .directory

theorem dropWhile_isEmpty_of_head? {pieces : List (List Char)} (first : pieces.head? ≠ some []) :
    pieces.dropWhile List.isEmpty = pieces := by
  match pieces with
  | [] => rfl
  | [] :: rest => exact absurd rfl first
  | (_ :: _) :: rest => rfl

/-- Opening a path is opening the name that it ends with. -/
theorem openToAppend_eq_ok_iff {result : Place × FileSystem} :
    files.openToAppend path = .ok result ↔
      ∃ directory name, files.Openable path directory name ∧
        files.openIn directory name = .ok result := by
  constructor
  · intro opened
    unfold openToAppend at opened
    split at opened
    · cases opened
    · rename_i allowed
      simp only at opened
      split at opened
      · cases opened
      · rename_i name above listed
        split at opened
        · cases opened
        · rename_i directory walked
          split at opened
          · cases opened
          · rename_i checked
            split at opened
            · cases opened
            · rename_i proper
              simp only [not_or] at proper
              rw [dropWhile_isEmpty_of_head? proper.1] at listed
              have filled : name ≠ [] := by
                rintro rfl
                rw [listed] at proper
                exact proper.1 rfl
              refine ⟨directory, name, ⟨allowed, ⟨filled, proper.2⟩, ⟨above.reverse, ?_, walked⟩,
                checkDirectory_eq_ok_iff.mp checked⟩, opened⟩
              rw [← List.reverse_reverse (pieces path), listed, List.reverse_cons]
  · rintro ⟨directory, name, ⟨allowed, ⟨filled, proper⟩, ⟨above, listed, walked⟩, inside⟩, opened⟩
    have reversed : (pieces path).reverse = name :: above.reverse := by
      rw [listed, List.reverse_append, List.reverse_singleton, List.singleton_append]
    have first : (name :: above.reverse).head? ≠ some [] := by
      simpa using filled
    have improper : ¬((name :: above.reverse).head? = some [] ∨ name = ['.'] ∨
        name = ['.', '.']) := by
      rw [not_or, not_or]
      exact ⟨first, proper⟩
    rw [openToAppend, allowed]
    simp only [reversed, dropWhile_isEmpty_of_head? first, List.reverse_reverse, walked,
      checkDirectory_eq_ok_iff.mpr inside, if_neg improper]
    exact opened

theorem openIn_eq_ok_iff {directory : Place} {name : List Char} :
    files.openIn directory name = .ok (place, after) ↔
      ¬maxNameBytes < Text.byteLength name ∧ place = directory.child (String.ofList name) ∧
        ((∃ content, files.entryAt? place = some (.file content)) ∧ after = files ∨
          files.entryAt? place = none ∧ after = files.set place (.file ByteArray.empty)) := by
  unfold openIn
  split
  · rename_i long
    simp [long]
  · rename_i short
    simp only [short, not_false_eq_true, true_and]
    constructor
    · intro opened
      split at opened
      · cases opened
      · rename_i content found
        cases opened
        exact ⟨rfl, Or.inl ⟨⟨content, found⟩, rfl⟩⟩
      · rename_i missing
        cases opened
        exact ⟨rfl, Or.inr ⟨missing, rfl⟩⟩
    · rintro ⟨rfl, ⟨⟨content, found⟩, rfl⟩ | ⟨missing, rfl⟩⟩
      · rw [found]
      · rw [missing]

theorem Openable.leadsTo {directory : Place} {name : List Char}
    (openable : files.Openable path directory name)
    (short : ¬maxNameBytes < Text.byteLength name) :
    files.LeadsTo path (directory.child (String.ofList name)) := by
  obtain ⟨allowed, ⟨filled, proper⟩, ⟨above, listed, walked⟩, inside⟩ := openable
  refine ⟨allowed, ?_⟩
  rw [listed]
  refine walk_concat walked ?_
  have solid : FilePath.isHollow name = false := by
    simp [FilePath.isHollow, filled, proper.1]
  rw [step, checkDirectory_eq_ok_iff.mpr inside]
  simp [solid, proper.2, short]

/-- The place that is opened is the one the path leads to. -/
theorem leadsTo_of_openToAppend (opened : files.openToAppend path = .ok (place, after)) :
    files.LeadsTo path place := by
  obtain ⟨directory, name, openable, inside⟩ := openToAppend_eq_ok_iff.mp opened
  obtain ⟨short, rfl, -⟩ := openIn_eq_ok_iff.mp inside
  exact openable.leadsTo short

/-- Opening changes nothing, or it creates an empty file. -/
theorem openToAppend_cases (opened : files.openToAppend path = .ok (place, after)) :
    (∃ content, files.entryAt? place = some (.file content)) ∧ after = files ∨
      files.entryAt? place = none ∧ after = files.set place (.file ByteArray.empty) := by
  obtain ⟨directory, name, -, inside⟩ := openToAppend_eq_ok_iff.mp opened
  exact (openIn_eq_ok_iff.mp inside).2.2

/-! ### After an append -/

variable {added : ByteArray}

theorem Appended.keepsDirectories (appended : Appended place added before after) :
    KeepsDirectories before after := by
  intro other found
  have apart : other ≠ place := by
    rintro rfl
    exact appended.noDirectory found
  rw [appended.elsewhere other apart, found]

theorem Appended.keepsDirectories_back (appended : Appended place added before after) :
    KeepsDirectories after before := by
  intro other found
  have apart : other ≠ place := by
    rintro rfl
    rw [appended.held] at found
    cases found
  rw [← appended.elsewhere other apart, found]

/-- Every path leads where it led before. -/
theorem Appended.leadsTo_iff (appended : Appended place added before after) {other : Place} :
    after.LeadsTo path other ↔ before.LeadsTo path other :=
  ⟨appended.keepsDirectories_back.leadsTo, appended.keepsDirectories.leadsTo⟩

/-- What was appended was appended to the file as it was opened. -/
theorem Appended.of_opened {opened : FileSystem}
    (opening : Appended place ByteArray.empty before opened)
    (appended : Appended place added before after) : Appended place added opened after where
  noDirectory := by
    rw [opening.held]
    exact fun directory => nomatch directory
  held := by
    have same : opened.contentAt place = before.contentAt place := by
      rw [contentAt, opening.held, ByteArray.append_empty]
    rw [same, appended.held]
  elsewhere := fun other apart => by
    rw [appended.elsewhere other apart, opening.elsewhere other apart]

/-- A file that was opened is opened again without a change. -/
theorem Appended.openToAppend (appended : Appended place added before after)
    (opened : before.openToAppend path = .ok (place, files)) :
    after.openToAppend path = .ok (place, after) := by
  obtain ⟨directory, name, openable, inside⟩ := openToAppend_eq_ok_iff.mp opened
  obtain ⟨short, same, -⟩ := openIn_eq_ok_iff.mp inside
  obtain ⟨allowed, proper, ⟨above, listed, walked⟩, held⟩ := openable
  have keeps := appended.keepsDirectories
  refine openToAppend_eq_ok_iff.mpr ⟨directory, name, ⟨allowed, proper,
    ⟨above, listed, keeps.walk walked⟩, keeps _ held⟩, ?_⟩
  exact openIn_eq_ok_iff.mpr ⟨short, same, Or.inl ⟨⟨_, appended.held⟩, rfl⟩⟩

/-- At each place there is as much of a directory as before. -/
theorem Appended.checkDirectory (appended : Appended place added before after)
    {content : ByteArray} (held : before.entryAt? place = some (.file content)) (other : Place) :
    after.checkDirectory other = before.checkDirectory other := by
  unfold FileSystem.checkDirectory
  by_cases same : other = place
  · rw [same, appended.held, held]
  · rw [appended.elsewhere other same]

theorem walk_congr (same : ∀ place, after.checkDirectory place = before.checkDirectory place)
    (pieces : List (List Char)) (first : Place) :
    after.walk first pieces = before.walk first pieces := by
  induction pieces generalizing first with
  | nil => rfl
  | cons piece rest inductionHypothesis =>
    have stepped : after.step first piece = before.step first piece := by
      rw [step, step, same]
    rw [walk, walk, stepped]
    cases before.step first piece with
    | error fault => rfl
    | ok next => exact inductionHypothesis next

/-- A path that does not lead to the file appended to finds what it found before. -/
theorem Appended.find_eq (appended : Appended place added before after) {content : ByteArray}
    (held : before.entryAt? place = some (.file content)) (apart : ¬before.LeadsTo path place) :
    after.find path = before.find path := by
  unfold FileSystem.find
  rw [walk_congr (appended.checkDirectory held)]
  cases allowed : checkPath path with
  | error fault => rfl
  | ok =>
    simp only
    cases walked : before.walk (start path) (pieces path) with
    | error fault => rfl
    | ok other =>
      have elsewhere : other ≠ place := by
        rintro rfl
        exact apart ⟨allowed, walked⟩
      simp only [appended.elsewhere other elsewhere]

/-- A path that leads to the file appended to does not find what it found before. -/
theorem Appended.find_ne (appended : Appended place added before after)
    (grown : 0 < added.size) (leads : before.LeadsTo path place) {content : ByteArray}
    (found : before.find path = .ok (.file content)) :
    after.find path ≠ .ok (.file content) := by
  intro again
  have former : before.contentAt place = content := by
    rw [contentAt, leads.find_eq_ok_iff.mp found]
  have held := (appended.leadsTo_iff.mpr leads).find_eq_ok_iff.mp again
  rw [appended.held, former, Option.some.injEq, FileEntry.file.injEq] at held
  have sizes := congrArg ByteArray.size held
  rw [ByteArray.size_append] at sizes
  omega

end Phrasebook.FileSystem
