import Mathlib.Data.List.Basic
import TokenScopes.Proofs.Outcome
import TokenScopes.Yaml.Node.Parser

namespace TokenScopes.Yaml

/-- A fault that the parser may have for these tokens. -/
def Passes (ts : List Token) (f : Fault) : Prop :=
  f = .malformed ∨ .fault f ∈ ts

theorem Passes.mono {ts us : List Token} {f : Fault} (h : Passes ts f) (part : ts <:+ us) :
    Passes us f :=
  h.imp_right fun member => part.subset member

/-- The faults of an end of the tokens are faults of all of them. -/
theorem Passes.widen {α : Type} {ts us : List Token} {r : Except Fault α} {P Q : α → Prop}
    (h : Yields (Passes ts) P r) (part : ts <:+ us) (values : ∀ a, P a → Q a) :
    Yields (Passes us) Q r :=
  h.mono (fun _ passed => passed.mono part) values

namespace Ahead

variable {α : Type} {a b : Ahead}

/-- A reader leaves an end of the tokens, or it has a fault of the parser. -/
abbrev Heeds (a : Ahead) (r : Except Fault (α × Ahead)) : Prop :=
  Yields (Passes a.tokens) (fun read => read.2.tokens <:+ a.tokens) r

/-- A reader that starts further back heeds all the tokens. -/
theorem Heeds.of_suffix {r : Except Fault (α × Ahead)} (h : Heeds b r)
    (left : b.tokens <:+ a.tokens) : Heeds a r :=
  Passes.widen h left fun _ further => further.trans left

section

-- What the readers do with less fuel.
variable {fuel : Nat}
  (nodes : ∀ block indentless a, Heeds a (node block indentless fuel a))
  (entries : ∀ indentless acc a, Heeds a (blockEntries indentless acc fuel a))
  (members : ∀ acc a, Heeds a (blockMembers acc fuel a))
  (items : ∀ first acc a, Heeds a (flowItems first acc fuel a))
  (pairs : ∀ first acc a, Heeds a (flowEntries first acc fuel a))

section

variable {next : NodeId × Ahead → Except Fault (α × Ahead)}
  (after : ∀ read : NodeId × Ahead, read.2.tokens <:+ a.tokens → Heeds a (next read))

-- A key or a value of a flow collection may be left out.

include nodes after

end

end

end Ahead

end TokenScopes.Yaml
