import Rollup.Json.Path
import Rollup.Proofs.Entries

/-!
# Steps of a path

A path is followed one segment at a time, and each step is a lookup: where the
members of an object have different keys, a key leads to the value that was put
under it.
-/

namespace Rollup.Json

theorem descend?_cons {value next : Json} {segment : List Char}
    (h : value.child? segment = some next) (rest : List (List Char)) :
    value.descend? (segment :: rest) = next.descend? rest := by
  rw [descend?, List.foldlM_cons, h]
  rfl

theorem child?_object (members : List (String × Json)) (key : String) :
    child? (.object members) key.toList = Entries.get? key members := by
  rw [child?, String.ofList_toList]

/-- A path is followed along the pieces that it is cut into. -/
theorem at?_eq_descend? {path : String} {segments : List (List Char)} (hne : path ≠ "")
    (hcut : Text.splitOn (· = '.') path.toList = segments) (value : Json) :
    value.at? path = value.descend? segments := by
  rw [at?, if_neg hne, hcut]

theorem at?_key {key : String} (hne : key ≠ "") (hdot : '.' ∉ key.toList)
    (members : List (String × Json)) : (object members).at? key = Entries.get? key members := by
  have hcut : Text.splitOn (· = '.') key.toList = [key.toList] :=
    Text.splitOn_of_forall_not fun c hc => by
      rw [decide_eq_false_iff_not]
      rintro rfl
      exact hdot hc
  rw [at?_eq_descend? hne hcut]
  show (child? (.object members) key.toList >>= some) = _
  rw [child?_object]
  exact bind_pure _

end Rollup.Json
