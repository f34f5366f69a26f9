import TokenScopes.Proofs.File.Tree

namespace TokenScopes

namespace FileNode

variable {n node : FileNode} {place : List String}

end FileNode

namespace FileSystem

open FileNode

variable {fs after : FileSystem} {p : Path} {s : String}

end FileSystem

end TokenScopes
