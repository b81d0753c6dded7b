import JobShell.Programs.Copying
import JobShell.Programs.Counting
import JobShell.Programs.Echo
import JobShell.Programs.FileTree
import JobShell.Programs.Format
import JobShell.Programs.Listing
import JobShell.Programs.Mapping
import JobShell.Programs.Repeats
import JobShell.Programs.Scripting.Start
import JobShell.Programs.Search
import JobShell.Programs.Sorting
import JobShell.Programs.Waiting

/-!
# The programs of the system
-/

namespace JobShell.Programs

open JobShell.Machine

def table : List (String × Program) :=
  [("cat", cat), ("echo", echo), ("false", fail), ("grep", grep), ("head", head), ("ls", ls),
   ("printenv", printenv), ("printf", printf), ("pwd", pwd), ("rmdir", rmdir),
   ("sh", sh), ("sleep", sleep), ("sort", sort), ("stat", stat), ("tr", tr), ("true", succeed),
   ("uniq", uniq), ("wc", wc), ("yes", yes)]

def ofName? (name : String) : Option Program :=
  table.lookup name

end JobShell.Programs
