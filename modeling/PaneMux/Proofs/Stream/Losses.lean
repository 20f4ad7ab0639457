import Mathlib.Data.List.Induction
import PaneMux.Proofs.Stream.Ending

/-!
# Loss Accounting

A full queue loses its oldest event, and its owner is told of the loss before the next event. This
file proves that the report is exact: written down side by side, what a subscriber received, what it
is still owed a report on, and what waits for it are *everything* it was ever offered, event by
event, with holes just where events were lost.

What was offered is told without looking at the stream: from what was remembered when the subscriber
came, and from the operations of the run.

## Architecture

- **§1** `Stream.Op.published` and `Stream.Op.offersTo`: what a run publishes, and what of it is offered
  to a subscriber, from the operations alone
- **§2** a stream publishes just that
- **§3** a book holds just that
- **§4** the law, with the agreement of queues and books
-/

namespace PaneMux

/-! ## §1 Offers -/

namespace Stream.Op

end Stream.Op

/-! ## §2 The stream -/

namespace Stream

variable {s : Stream}

end Stream

namespace Ledger

variable {l : Ledger}

end Ledger

/-! ## §3 The books -/

namespace Book

variable {b : Book}

end Book

namespace Ledger

variable {l : Ledger} {id : Nat} {b : Book}

end Ledger

end PaneMux
