import TokenScopes.Proofs.Checker.Isolation
import TokenScopes.Proofs.Fixture.Loading

namespace TokenScopes.Run

variable (fs : FileSystem) (config : Config) (echoes : Bool)

end TokenScopes.Run
