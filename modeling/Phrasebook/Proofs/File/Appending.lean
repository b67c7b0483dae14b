/-
This file says what appending does to a file system. Opening a file for appending
makes sure that there is one, and appending a line puts the line behind what the file
holds. Nothing else changes. Opening by itself adds nothing to any file, so
afterwards each path leads to what it led to before.
-/

import Phrasebook.File.System

namespace Phrasebook.FileSystem

variable {files before after : FileSystem}

/-! ### Entries -/

theorem lookup_replace (place : Place) (entry : FileEntry) (other : Place)
    (entries : List (Place × FileEntry)) :
    (replace place entry entries).lookup other =
      if other = place then some entry else entries.lookup other := by
  induction entries with
  | nil =>
    rw [replace, List.lookup_cons]
    by_cases same : other = place
    · simp [same]
    · simp [beq_false_of_ne same, same]
  | cons first rest inductionHypothesis =>
    obtain ⟨head, held⟩ := first
    rw [replace]
    by_cases atHead : head = place
    · rw [if_pos atHead, List.lookup_cons, List.lookup_cons, atHead]
      by_cases same : other = place
      · simp [same]
      · simp [beq_false_of_ne same, same]
    · rw [if_neg atHead, List.lookup_cons, List.lookup_cons, inductionHypothesis]
      by_cases same : other = head
      · simp [same, atHead]
      · simp [beq_false_of_ne same]

/-- Every way starts from a directory, so only what is below the start can be set. -/
theorem entryAt?_set {place : Place} (below : place.names ≠ []) (entry : FileEntry)
    (other : Place) :
    (files.set place entry).entryAt? other =
      if other = place then some entry else files.entryAt? other := by
  unfold entryAt? set
  rw [lookup_replace]
  by_cases same : other = place
  · rw [same, if_neg (by simpa using below), if_pos rfl, if_pos rfl]
  · rw [if_neg same, if_neg same]

theorem names_ne_nil {place : Place} (noDirectory : files.entryAt? place ≠ some .directory) :
    place.names ≠ [] := by
  intro start
  rw [entryAt?, start] at noDirectory
  exact noDirectory rfl

/-- What the file at a place holds, which is nothing if there is none. -/
def contentAt (files : FileSystem) (place : Place) : ByteArray :=
  match files.entryAt? place with
  | some (.file content) => content
  | _ => ByteArray.empty

/-! ### Appending to one file -/

/-- Afterwards the file at a place holds some more bytes, and nothing else has changed. If there
was no file, there is one now. -/
structure Appended (place : Place) (added : ByteArray) (before after : FileSystem) : Prop where
  noDirectory : before.entryAt? place ≠ some .directory
  held : after.entryAt? place = some (.file (before.contentAt place ++ added))
  elsewhere : ∀ other, other ≠ place → after.entryAt? other = before.entryAt? other

/-- A line that is appended goes behind what was appended before. -/
theorem Appended.appendLine {place : Place} {added : ByteArray}
    (appended : Appended place added before after) (line : String) :
    Appended place (added ++ (line ++ "\n").toUTF8) before (after.appendLine place line) := by
  have noDirectory : after.entryAt? place ≠ some .directory := by
    rw [appended.held]
    simp
  have below := names_ne_nil noDirectory
  unfold FileSystem.appendLine
  rw [appended.held]
  refine ⟨appended.noDirectory, ?_, fun other elsewhere => ?_⟩
  · rw [entryAt?_set below, if_pos rfl, ByteArray.append_assoc]
  · rw [entryAt?_set below, if_neg elsewhere]
    exact appended.elsewhere other elsewhere

theorem appended_openIn {directory place : Place} {name : List Char}
    (opened : files.openIn directory name = .ok (place, after)) :
    Appended place ByteArray.empty files after := by
  unfold openIn at opened
  split at opened
  · cases opened
  · simp only at opened
    split at opened
    · cases opened
    · rename_i content found
      cases opened
      refine ⟨by rw [found]; simp, ?_, fun _ _ => rfl⟩
      rw [contentAt, found, ByteArray.append_empty]
    · rename_i missing
      cases opened
      have noDirectory : files.entryAt? (directory.child (String.ofList name)) ≠
          some .directory := by rw [missing]; simp
      have below := names_ne_nil noDirectory
      refine ⟨noDirectory, ?_, fun other elsewhere => ?_⟩
      · rw [entryAt?_set below, if_pos rfl, contentAt, missing, ByteArray.append_empty]
      · rw [entryAt?_set below, if_neg elsewhere]

/-- Opening a file for appending appends nothing. -/
theorem appended_openToAppend {path : FilePath} {place : Place}
    (opened : files.openToAppend path = .ok (place, after)) :
    Appended place ByteArray.empty files after := by
  unfold openToAppend at opened
  split at opened
  · cases opened
  · simp only at opened
    split at opened
    · cases opened
    · split at opened
      · cases opened
      · split at opened
        · cases opened
        · split at opened
          · cases opened
          · exact appended_openIn opened

/-! ### What stays -/

/-- Whatever there was is still there. -/
def Keeps (before after : FileSystem) : Prop :=
  ∀ place entry, before.entryAt? place = some entry → after.entryAt? place = some entry

theorem Keeps.refl (files : FileSystem) : Keeps files files :=
  fun _ _ found => found

theorem Appended.keeps {place : Place} (appended : Appended place ByteArray.empty before after) :
    Keeps before after := by
  intro other entry found
  by_cases same : other = place
  · subst same
    cases entry with
    | directory => exact absurd found appended.noDirectory
    | file content => rw [appended.held, contentAt, found, ByteArray.append_empty]
  · rw [appended.elsewhere other same, found]

theorem checkDirectory_eq_ok_iff {place : Place} :
    files.checkDirectory place = .ok () ↔ files.entryAt? place = some .directory := by
  unfold checkDirectory
  cases files.entryAt? place with
  | none => simp
  | some entry => cases entry <;> simp

/-- Whatever was a directory still is one. -/
def KeepsDirectories (before after : FileSystem) : Prop :=
  ∀ place, before.entryAt? place = some .directory → after.entryAt? place = some .directory

theorem Keeps.directories (keeps : Keeps before after) : KeepsDirectories before after :=
  fun place => keeps place .directory

theorem KeepsDirectories.step {place next : Place} {piece : List Char}
    (keeps : KeepsDirectories before after) (went : before.step place piece = .ok next) :
    after.step place piece = .ok next := by
  unfold FileSystem.step at went ⊢
  cases checked : before.checkDirectory place with
  | error fault =>
    rw [checked] at went
    cases went
  | ok =>
    rw [checked] at went
    rw [checkDirectory_eq_ok_iff.mpr (keeps _ (checkDirectory_eq_ok_iff.mp checked))]
    exact went

/-- A way only leads through directories, so it stays open while they are there. -/
theorem KeepsDirectories.walk {last : Place} {pieces : List (List Char)}
    (keeps : KeepsDirectories before after) :
    ∀ {place : Place}, before.walk place pieces = .ok last →
      after.walk place pieces = .ok last := by
  induction pieces with
  | nil => exact fun walked => walked
  | cons piece rest inductionHypothesis =>
    intro place walked
    unfold FileSystem.walk at walked ⊢
    cases went : before.step place piece with
    | error fault =>
      rw [went] at walked
      cases walked
    | ok next =>
      rw [went] at walked
      rw [keeps.step went]
      exact inductionHypothesis walked

/-- A path that leads to something still leads to it. -/
theorem Keeps.find {path : FilePath} {entry : FileEntry} (keeps : Keeps before after)
    (found : before.find path = .ok entry) : after.find path = .ok entry := by
  unfold FileSystem.find at found ⊢
  cases checked : checkPath path with
  | error fault =>
    rw [checked] at found
    cases found
  | ok =>
    rw [checked] at found
    simp only at found ⊢
    cases walked : before.walk (start path) (pieces path) with
    | error fault =>
      rw [walked] at found
      cases found
    | ok place =>
      rw [walked] at found
      rw [keeps.directories.walk walked]
      simp only at found ⊢
      cases held : before.entryAt? place with
      | none =>
        rw [held] at found
        cases found
      | some kept =>
        rw [held] at found
        rw [keeps _ _ held]
        exact found

end Phrasebook.FileSystem
