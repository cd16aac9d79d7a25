import RestrictedShell.Proofs.Session.Refusal
import RestrictedShell.Proofs.Session.Stopping

namespace RestrictedShell

namespace Trace

end Trace

namespace Console

end Console

namespace Session

variable {κ : Type} [Launcher κ]

end Session

end RestrictedShell
