/-
This file says how the components of a path come about. Behind a root or a dot at its
start a path is a list of steps, the pieces between slashes that are not hollow, and
what is appended to a directory adds its steps to the components of the directory. A
path without hollow pieces can be told from its components, and others cannot.
-/

import Mathlib.Data.List.Basic
import Phrasebook.File.Path

namespace Phrasebook.FilePath

/-! ### Steps -/

/-- The steps that characters say: the pieces between slashes, without the hollow ones. -/
def stepsOf (characters : List Char) : List Component :=
  ((characters.splitOn '/').filter fun piece => !isHollow piece).map componentOf

/-- The components of a path but for the root or the dot that it may start with. -/
def steps (path : FilePath) : List Component :=
  stepsOf path.text.toList

/-- The root or the dot that a path may start with. -/
def lead (path : FilePath) : Option Component :=
  (splitLead path.text.toList).1

/-- The characters of a path behind the root or the dot that it may start with. -/
def body (path : FilePath) : List Char :=
  (splitLead path.text.toList).2

variable {path directory : FilePath}

theorem stepsOf_append (first second : List Char) :
    stepsOf (first ++ '/' :: second) = stepsOf first ++ stepsOf second := by
  rw [stepsOf, List.splitOn_append_cons_self, List.filter_append, List.map_append]
  rfl

/-- The root and a dot at the start are no steps. -/
theorem stepsOf_body (path : FilePath) : stepsOf path.body = path.steps := by
  unfold body steps splitLead
  split
  · rename_i whole
    rw [whole]
    exact (stepsOf_append [] _).symm
  · rename_i whole
    rw [whole]
    exact (stepsOf_append [] _).trans (stepsOf_append ['.'] _).symm
  · rename_i whole
    rw [whole]
    rfl
  · rfl

theorem components_eq (path : FilePath) : path.components = path.lead.toList ++ path.steps := by
  rw [← stepsOf_body]
  rfl

theorem head?_ne_slash {characters : List Char} (notRoot : ∀ rest, characters ≠ '/' :: rest) :
    characters.head? ≠ some '/' := by
  intro first
  obtain ⟨rest, whole⟩ := List.head?_eq_some_iff.mp first
  exact notRoot rest whole

theorem lead_eq_root_iff : path.lead = some .root ↔ path.isAbsolute = true := by
  rw [lead, isAbsolute, beq_iff_eq]
  unfold splitLead
  split
  · rename_i whole
    simp [whole]
  · rename_i whole
    simp [whole]
  · rename_i whole
    simp [whole]
  · rename_i notRoot _ _
    exact iff_of_false (fun none => nomatch none) (head?_ne_slash notRoot)

/-- Neither the root nor a dot is a step. -/
theorem ne_of_mem_steps {component : Component} (member : component ∈ path.steps) :
    component ≠ .root ∧ component ≠ .current := by
  obtain ⟨piece, -, rfl⟩ := List.mem_map.mp member
  unfold componentOf
  split <;> exact ⟨nofun, nofun⟩

/-- The steps can be told from the components. -/
theorem steps_eq_filter (path : FilePath) :
    path.steps = path.components.filter fun component =>
      decide (component ≠ .root ∧ component ≠ .current) := by
  have kept : path.steps.filter (fun component =>
      decide (component ≠ .root ∧ component ≠ .current)) = path.steps :=
    List.filter_eq_self.mpr fun component member => decide_eq_true (ne_of_mem_steps member)
  rw [components_eq, List.filter_append, kept]
  unfold lead splitLead
  split <;> rfl

/-- The root is among the components of a path exactly when the path starts with it. -/
theorem root_mem_components_iff : .root ∈ path.components ↔ path.isAbsolute = true := by
  have apart : .root ∉ path.steps := fun member => (ne_of_mem_steps member).1 rfl
  rw [components_eq, List.mem_append, or_iff_left apart, Option.mem_toList]
  exact lead_eq_root_iff

theorem isAbsolute_eq_of_components {other : FilePath}
    (same : path.components = other.components) : path.isAbsolute = other.isAbsolute := by
  rw [Bool.eq_iff_iff, ← root_mem_components_iff, same, root_mem_components_iff]

/-! ### Joining -/

/-- What follows a slash does not change what characters start with. -/
theorem splitLead_append {characters : List Char} (filled : characters ≠ []) (rest : List Char) :
    (splitLead (characters ++ '/' :: rest)).1 = (splitLead characters).1 := by
  obtain ⟨first, others, rfl⟩ := List.exists_cons_of_ne_nil filled
  by_cases root : first = '/'
  · subst root
    rfl
  · by_cases dot : first = '.'
    · subst dot
      cases others with
      | nil => rfl
      | cons second others =>
        by_cases slash : second = '/'
        · subst slash
          rfl
        · simp [splitLead, slash]
    · simp [splitLead, root, dot]

theorem join_of_isAbsolute (absolute : path.isAbsolute = true) : directory.join path = path :=
  if_pos absolute

theorem join_of_text_eq_empty (empty : directory.text = "") : directory.join path = path := by
  unfold join
  simp [empty]

/-- Between a directory and what is joined to it there is one slash, that of the directory if it
ends with one. -/
theorem exists_toList_join (relative : path.isAbsolute = false) (filled : directory.text ≠ "") :
    ∃ front, (directory.join path).text.toList = front ++ '/' :: path.text.toList ∧
      (directory.text.toList = front ∨ directory.text.toList = front ++ ['/']) := by
  have unrooted : ¬path.isAbsolute = true := by
    rw [relative]
    exact Bool.false_ne_true
  unfold join
  rw [if_neg unrooted]
  dsimp only
  split
  · rename_i closed
    have last := closed.resolve_left fun none =>
      filled (String.toList_inj.mp (List.getLast?_eq_none_iff.mp none))
    obtain ⟨front, whole⟩ := List.getLast?_eq_some_iff.mp last
    refine ⟨front, ?_, Or.inr whole⟩
    rw [String.toList_append, whole, List.append_assoc]
    rfl
  · refine ⟨directory.text.toList, ?_, Or.inl rfl⟩
    rw [String.toList_append, String.toList_append, List.append_assoc]
    rfl

/-- A relative path adds its steps to a directory. -/
theorem components_join (relative : path.isAbsolute = false) (filled : directory.text ≠ "") :
    (directory.join path).components = directory.components ++ path.steps := by
  obtain ⟨front, joined, ended⟩ := exists_toList_join relative filled
  have leads : (directory.join path).lead = directory.lead := by
    rw [lead, lead, joined]
    rcases ended with whole | whole
    · rw [whole]
      refine splitLead_append ?_ _
      rintro rfl
      exact filled (String.toList_inj.mp whole)
    · rw [whole]
      by_cases empty : front = []
      · subst empty
        rfl
      · rw [splitLead_append empty, splitLead_append empty]
  have stepwise : (directory.join path).steps = directory.steps ++ path.steps := by
    rw [steps, steps, steps, joined, stepsOf_append]
    rcases ended with whole | whole
    · rw [whole]
    · rw [whole, stepsOf_append]
      exact congrArg (· ++ _) (List.append_nil _).symm
  rw [components_eq, components_eq, leads, stepwise, List.append_assoc]

/-! ### Tidy paths -/

theorem componentOf_injective : Function.Injective componentOf := by
  intro first second same
  unfold componentOf at same
  split at same
  · rename_i firstUp
    split at same
    · rename_i secondUp
      rw [firstUp, secondUp]
    · cases same
  · split at same
    · cases same
    · exact String.ofList_injective (Component.name.inj same)

/-- No piece of the path is hollow, the root aside. -/
def Tidy (path : FilePath) : Prop :=
  ∀ piece ∈ path.body.splitOn '/', isHollow piece = false

instance (path : FilePath) : Decidable path.Tidy :=
  inferInstanceAs (Decidable (∀ piece ∈ _, _))

/-- The steps of a tidy path are all its pieces. -/
theorem Tidy.steps_eq (tidy : path.Tidy) :
    path.steps = (path.body.splitOn '/').map componentOf := by
  rw [← stepsOf_body, stepsOf, List.filter_eq_self.mpr]
  intro piece member
  rw [tidy piece member]
  rfl

/-- A tidy path starts with the root or with its first piece, since a dot is hollow. -/
theorem Tidy.starts (tidy : path.Tidy) :
    path.lead = (if path.isAbsolute then some .root else none) ∧
      path.text.toList = (if path.isAbsolute then ['/'] else []) ++ path.body := by
  unfold Tidy body at tidy
  unfold lead isAbsolute body
  unfold splitLead at tidy ⊢
  split at tidy
  · rename_i rest whole
    simp [whole]
  · rename_i rest whole
    cases tidy [] (List.splitOn_append_cons_self [] rest ▸ List.mem_cons_self)
  · cases tidy [] List.mem_cons_self
  · rename_i notRoot _ _
    simp [head?_ne_slash notRoot]

/-- Tidy paths with the same components are the same. -/
theorem Tidy.eq_of_components {other : FilePath} (tidy : path.Tidy) (tidyOther : other.Tidy)
    (same : path.components = other.components) : path = other := by
  have roots := isAbsolute_eq_of_components same
  rw [components_eq, components_eq, tidy.starts.1, tidyOther.starts.1, roots,
    List.append_cancel_left_eq, tidy.steps_eq, tidyOther.steps_eq] at same
  have pieces := componentOf_injective.list_map same
  have bodies : path.body = other.body := by
    have joined := congrArg ['/'].intercalate pieces
    rw [List.intercalate_splitOn, List.intercalate_splitOn] at joined
    exact joined
  have texts : path.text.toList = other.text.toList := by
    rw [tidy.starts.2, tidyOther.starts.2, roots, bodies]
  exact congrArg FilePath.mk (String.toList_inj.mp texts)

end Phrasebook.FilePath
