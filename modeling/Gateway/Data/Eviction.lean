import Gateway.Data.Table
import Gateway.Data.Text

/-! Dropping the oldest of what is dated and named.

Items are in order of their time, and of their name where times are equal. What is left when the
oldest item is dropped until the rest fits is the longest end of the list that fits: an end that
fits is never passed over, whatever the bound is. -/
namespace Gateway.Data.Eviction
open Table
variable {V : Type} (time : V → Nat) (name : V → String)

/-- The item is no later than the other. -/
def Before (a b : V) : Prop :=
  time a < time b ∨ time a = time b ∧ name a ≤ name b

instance : DecidableRel (Before time name) := fun a b =>
  inferInstanceAs (Decidable (time a < time b ∨ time a = time b ∧ name a ≤ name b))

variable {time name} in
theorem Before.trans {a b c : V} (ab : Before time name a b) (bc : Before time name b c) :
    Before time name a c := by
  rcases ab with ab | ⟨ab, le⟩
  · rcases bc with bc | ⟨bc, -⟩
    · exact .inl (ab.trans bc)
    · exact .inl (bc ▸ ab)
  · rcases bc with bc | ⟨bc, le'⟩
    · exact .inl (ab ▸ bc)
    · exact .inr ⟨ab.trans bc, String.le_trans le le'⟩

theorem before_total (a b : V) : Before time name a b ∨ Before time name b a := by
  rcases Nat.lt_trichotomy (time a) (time b) with earlier | same | later
  · exact .inl (.inl earlier)
  · exact (String.le_total (name a) (name b)).imp (fun le => .inr ⟨same, le⟩)
      fun le => .inr ⟨same.symm, le⟩
  · exact .inr (.inl later)

instance : Std.Total (Before time name) :=
  ⟨before_total time name⟩

instance : IsTrans V (Before time name) :=
  ⟨fun _ _ _ => Before.trans⟩

/-- The items, oldest first. -/
def chronological (items : List V) : List V :=
  items.insertionSort (Before time name)

theorem chronological_perm (items : List V) : (chronological time name items).Perm items :=
  List.perm_insertionSort _ _

theorem chronological_pairwise (items : List V) :
    (chronological time name items).Pairwise (Before time name) :=
  List.pairwise_insertionSort _ _

variable {time name} {items items' rest : List V} {a b : V}

theorem name_eq_of_before (ab : Before time name a b) (ba : Before time name b a) :
    name a = name b := by
  rcases ab with ab | ⟨ab, le⟩
  · rcases ba with ba | ⟨ba, -⟩
    · exact absurd (ab.trans ba) (Nat.lt_irrefl _)
    · exact absurd ba.symm (Nat.ne_of_lt ab)
  · rcases ba with ba | ⟨-, le'⟩
    · exact absurd ab.symm (Nat.ne_of_lt ba)
    · exact String.le_antisymm le le'

/-- Items of different names have one order. -/
theorem eq_chronological (distinct : (items.map name).Nodup) (perm : items'.Perm items)
    (sorted : items'.Pairwise (Before time name)) : items' = chronological time name items := by
  have all := perm.trans (chronological_perm time name items).symm
  refine all.eq_of_pairwise (fun a b mem mem' ab ba => ?_) sorted (chronological_pairwise time name items)
  have one := perm.mem_iff.mp mem
  have other := (chronological_perm time name items).mem_iff.mp mem'
  exact List.inj_on_of_nodup_map distinct one other (name_eq_of_before ab ba)

theorem chronological_congr (distinct : (items.map name).Nodup) (perm : items'.Perm items) :
    chronological time name items' = chronological time name items :=
  eq_chronological distinct ((chronological_perm time name items').trans perm) (chronological_pairwise time name items')

/-- The least item is no later than any. -/
theorem before_of_leastBy (least : leastBy time name items = some a) (mem : b ∈ items) :
    Before time name a b := by
  have self : ∀ c : V, Before time name c c := fun c => .inr ⟨rfl, String.le_refl _⟩
  induction items generalizing a with
  | nil => cases mem
  | cons first rest ih =>
    rw [leastBy] at least
    split at least
    · next none_left =>
      cases least
      rcases List.mem_cons.mp mem with rfl | later
      · exact self b
      · have some_left : ∃ c, leastBy time name rest = some c :=
          leastBy_isSome (List.ne_nil_of_mem later)
        obtain ⟨c, found⟩ := some_left
        rw [none_left] at found
        cases found
    · next c found =>
      split at least
      · next older =>
        cases least
        rcases List.mem_cons.mp mem with rfl | later
        · exact older.imp id fun both => ⟨both.1, String.not_lt.mp (String.lt_asymm both.2)⟩
        · exact ih found later
      · next younger =>
        cases least
        rcases List.mem_cons.mp mem with rfl | later
        · exact self b
        · refine Before.trans ?_ (ih found later)
          rcases before_total time name first c with before | earlier | ⟨same, le⟩
          · exact before
          · exact absurd (.inl earlier) younger
          · exact .inr ⟨same.symm, String.not_lt.mp fun lt => younger (.inr ⟨same, lt⟩)⟩

/-- The oldest item stands before the others. -/
theorem chronological_of_leastBy (distinct : (items.map name).Nodup)
    (least : leastBy time name items = some a) (perm : items.Perm (a :: rest)) :
    chronological time name items = a :: chronological time name rest := by
  refine (eq_chronological distinct ?_ ?_).symm
  · exact ((chronological_perm time name rest).cons a).trans perm.symm
  · rw [List.pairwise_cons]
    refine ⟨fun b mem => ?_, chronological_pairwise time name rest⟩
    have later := (chronological_perm time name rest).mem_iff.mp mem
    exact before_of_leastBy least (perm.mem_iff.mpr (List.mem_cons_of_mem _ later))

/-! ### The longest end that fits -/

/-- `kept` is the longest end of `whole` that fits. -/
structure Newest (fits : List V → Prop) (whole kept : List V) : Prop where
  suffix : kept <:+ whole
  within : fits kept
  longest : ∀ other, other <:+ whole → fits other → other.length ≤ kept.length

theorem Newest.self {fits : List V → Prop} {whole : List V} (within : fits whole) :
    Newest fits whole whole :=
  ⟨List.suffix_rfl, within, fun _ ends _ => ends.length_le⟩

/-- An item that makes the list too long is dropped first. -/
theorem Newest.cons {fits : List V → Prop} {kept : List V} (h : Newest fits rest kept)
    (crowded : ¬fits (a :: rest)) : Newest fits (a :: rest) kept := by
  refine ⟨h.suffix.trans (List.suffix_cons a rest), h.within, fun other ends fitting => ?_⟩
  rcases List.suffix_cons_iff.mp ends with rfl | shorter
  · exact absurd fitting crowded
  · exact h.longest other shorter fitting

/-! ### Tables filed by name -/

/-- Each item is filed under its name. -/
def Filed (name : V → String) (t : Table V) : Prop :=
  ∀ (k : String) (v : V), t[k]? = some v → name v = k

namespace Filed
variable {t : Table V}

section
variable (filed : Filed name t)
include filed

theorem nodup_values : (t.values.map name).Nodup :=
  nodup_values_map fun found found' same => by
    rw [← filed _ _ found, ← filed _ _ found', same]

theorem erase (k : String) : Filed name (t.erase k) := by
  intro k' v found
  rw [get_erase] at found
  split at found
  · cases found
  · exact filed k' v found

theorem insert (v : V) : Filed name (t.insert (name v) v) := by
  intro k w found
  rw [get_insert] at found
  split at found
  · next same =>
    cases found
    exact same
  · exact filed k w found

theorem get_of_mem (mem : a ∈ t.values) : t[name a]? = some a := by
  obtain ⟨k, found⟩ := mem_values.mp mem
  rwa [filed k a found]

/-- Filing a new item adds it to the others. -/
theorem values_insert (new : t[name a]? = none) :
    (t.insert (name a) a).values.Perm (a :: t.values) := by
  refine (List.perm_ext_iff_of_nodup ((filed.insert a).nodup_values.of_map _) ?_).mpr fun b => ?_
  · refine List.nodup_cons.mpr ⟨fun mem => ?_, filed.nodup_values.of_map _⟩
    rw [filed.get_of_mem mem] at new
    cases new
  · rw [List.mem_cons, mem_values, mem_values]
    constructor
    · rintro ⟨k, found⟩
      rw [get_insert] at found
      split at found
      · cases found
        exact .inl rfl
      · exact .inr ⟨k, found⟩
    · rintro (rfl | ⟨k, found⟩)
      · exact ⟨_, get_insert_self _ _ _⟩
      · refine ⟨k, ?_⟩
        rw [get_insert_of_ne, found]
        rintro rfl
        rw [new] at found
        cases found

/-- Taking an item out leaves the others. -/
theorem values_erase (mem : a ∈ t.values) : t.values.Perm (a :: (t.erase (name a)).values) := by
  have gone : (t.erase (name a))[name a]? = none := by
    rw [get_erase, if_pos rfl]
  have back : (t.erase (name a)).insert (name a) a = t := by
    apply ext_get
    intro k
    rw [get_insert]
    split
    · next same => rw [← same, filed.get_of_mem mem]
    · next other => rw [get_erase_of_ne other]
  have perm := (filed.erase (name a)).values_insert gone
  rwa [back] at perm

end

end Filed

end Gateway.Data.Eviction
