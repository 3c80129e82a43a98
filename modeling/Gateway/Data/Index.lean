import Gateway.Data.Table
import Mathlib.Logic.Function.Basic

/-! Secondary indexes of a table.

A ledger keeps, beside its table of records, maps and sets that are computed from
the records alone: which record holds a slot, which ones belong to a class. An
index is right when it is the inverse of the partial function that sends each id
to the key it is filed under. One record changes at a time, and the lemmas say
how the index must change with it. -/
namespace Gateway.Data

/-- `index` sends each key to the one id that is filed under it. -/
def Inverse (index : Table String) (entry : String → Option String) : Prop :=
  ∀ key id : String, index[key]? = some id ↔ entry id = some key

namespace Inverse
variable {index : Table String} {entry : String → Option String} {id key : String}

/-- Two ids are never filed under one key. -/
theorem injective (h : Inverse index entry) {a b : String} (ha : entry a = some key)
    (hb : entry b = some key) : a = b := by
  have hab := ((h key a).mpr ha).symm.trans ((h key b).mpr hb)
  exact Option.some.inj hab

/-- Taking one id out. -/
theorem erase (h : Inverse index entry) (old : entry id = some key) :
    Inverse (index.erase key) (Function.update entry id none) := by
  intro k a
  rw [Table.get_erase, Function.update_apply]
  by_cases hk : key = k
  · subst hk
    rw [if_pos rfl]
    by_cases ha : a = id
    · simp [ha]
    · rw [if_neg ha]
      constructor
      · intro none_eq
        cases none_eq
      · intro filed
        exact absurd (h.injective filed old) ha
  · rw [if_neg hk, h k a]
    by_cases ha : a = id
    · subst ha
      simp [old, hk]
    · rw [if_neg ha]

/-- Filing one id under a free key. -/
theorem insert (h : Inverse index entry) (unfiled : entry id = none) (free : index[key]? = none) :
    Inverse (index.insert key id) (Function.update entry id (some key)) := by
  intro k a
  rw [Table.get_insert, Function.update_apply]
  by_cases ha : a = id
  · subst ha
    by_cases hk : key = k
    · simp [hk]
    · rw [if_neg hk, h k a, unfiled]
      simp [hk]
  · rw [if_neg ha]
    by_cases hk : key = k
    · subst hk
      rw [← h key a, free]
      simp [Ne.symm ha]
    · rw [if_neg hk, h k a]

/-- An id that was unfiled and stays so changes nothing. -/
theorem update_none (h : Inverse index entry) (unfiled : entry id = none) :
    Inverse index (Function.update entry id none) := by
  rwa [← unfiled, Function.update_eq_self]

end Inverse

end Gateway.Data
