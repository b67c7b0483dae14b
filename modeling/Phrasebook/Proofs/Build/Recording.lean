/-
This file says what recording does to an environment. A sink only ever gains lines at
its end, each ended by a line feed, and nothing else in the environment changes.
Opening the sink of a configuration writes no line, and an event that is recorded is
one more line.
-/

import Phrasebook.Build.Catalog
import Phrasebook.Proofs.File.Appending

namespace Phrasebook

namespace Environment

variable {before after : Environment} {sink : Audit.Sink} {lines : List String}

/-- The bytes of lines, each with a line feed behind it. -/
def lineBytes (lines : List String) : ByteArray :=
  lines.foldl (fun bytes line => bytes ++ (line ++ "\n").toUTF8) ByteArray.empty

theorem lineBytes_concat (lines : List String) (line : String) :
    lineBytes (lines ++ [line]) = lineBytes lines ++ (line ++ "\n").toUTF8 := by
  rw [lineBytes, List.foldl_append]
  rfl

/-- Afterwards the sink has gained these lines, and nothing else has changed. -/
def Wrote (sink : Audit.Sink) (lines : List String) (before after : Environment) : Prop :=
  match sink with
  | .discard => after = before
  | .standardError => after = { before with standardError := before.standardError ++ lines }
  | .file place =>
    after.standardError = before.standardError ∧
      before.files.Appended place (lineBytes lines) after.files

/-- A line that is written goes behind the lines that were written before. -/
theorem Wrote.writeLine (wrote : Wrote sink lines before after) (line : String) :
    Wrote sink (lines ++ [line]) before (after.writeLine sink line) := by
  cases sink with
  | discard => exact wrote
  | standardError =>
    rw [Wrote] at wrote ⊢
    rw [wrote, Environment.writeLine, List.append_assoc]
  | file place =>
    obtain ⟨unchanged, appended⟩ := wrote
    refine ⟨unchanged, ?_⟩
    rw [lineBytes_concat]
    exact appended.appendLine line

end Environment

namespace Config

variable {config : Config} {files opened : FileSystem} {sink : Audit.Sink}

/-- The sinks that are opened, by the destination of records. -/
theorem openSink_cases (opens : config.openSink files = .ok (sink, opened)) :
    (config.auditDestination = .disabled ∧ sink = .discard ∧ opened = files) ∨
      (config.auditDestination = .standardError ∧ sink = .standardError ∧ opened = files) ∨
      ∃ log place, config.auditDestination = .file log ∧ sink = .file place ∧
        files.openToAppend log = .ok (place, opened) := by
  unfold openSink at opens
  split at opens
  · rename_i destination
    cases opens
    exact Or.inl ⟨destination, rfl, rfl⟩
  · rename_i destination
    cases opens
    exact Or.inr (Or.inl ⟨destination, rfl, rfl⟩)
  · rename_i log destination
    split at opens
    · cases opens
    · rename_i place _ found
      cases opens
      exact Or.inr (Or.inr ⟨log, place, destination, rfl, found⟩)

/-- Opening the sink writes no line. -/
theorem wrote_openSink {environment : Environment}
    (opens : config.openSink environment.files = .ok (sink, opened)) :
    environment.Wrote sink [] { environment with files := opened } := by
  rcases openSink_cases opens with ⟨-, rfl, rfl⟩ | ⟨-, rfl, rfl⟩ | ⟨log, place, -, rfl, found⟩
  · rfl
  · rw [Environment.Wrote, List.append_nil]
  · exact ⟨rfl, FileSystem.appended_openToAppend found⟩

/-- Opening the sink changes nothing that was there. -/
theorem keeps_openSink (opens : config.openSink files = .ok (sink, opened)) :
    files.Keeps opened := by
  rcases openSink_cases opens with ⟨-, -, rfl⟩ | ⟨-, -, rfl⟩ | ⟨log, place, -, -, found⟩
  · exact FileSystem.Keeps.refl opened
  · exact FileSystem.Keeps.refl opened
  · exact (FileSystem.appended_openToAppend found).keeps

end Config

end Phrasebook
