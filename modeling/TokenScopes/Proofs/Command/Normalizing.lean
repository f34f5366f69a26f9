import TokenScopes.Proofs.Command.Quiet
import TokenScopes.Proofs.File.Writing
import TokenScopes.Proofs.Fixture.Loading

namespace TokenScopes

namespace NormalizeCommand

variable {c : NormalizeCommand} {around : Surroundings} {bytes : List UInt8}

def sourceName (c : NormalizeCommand) : Path :=
  if c.source.toText = streamName then Path.of "stdin.json" else c.source

def sourceOf (c : NormalizeCommand) (cs : List Char) : Source :=
  ⟨c.sourceName, String.ofList (Text.foldLineEnds cs)⟩

theorem sourceOf_eq {p : Path} (name : c.sourceName = p) (cs : List Char) :
    c.sourceOf cs = ⟨p, String.ofList (Text.foldLineEnds cs)⟩ := by
  rw [sourceOf, name]

def strayByte : Surroundings where
  files := { top := .directory [("a.json", .file [0xff])] }

end NormalizeCommand

end TokenScopes
