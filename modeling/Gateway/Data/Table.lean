import Mathlib.Data.List.Nodup
import Mathlib.Data.List.Perm.Basic
import Std.Data.ExtTreeMap
import Std.Data.ExtTreeSet

/-! String-keyed tables.

A hash map read only through its lookups is an extensional map: two tables with
the same lookups are the same table. `Table` and `Names` are the standard
library's extensional tree map and set at string keys; the lemmas here are the
few facts about keys that a ledger built from several such tables needs. -/
namespace Gateway.Data

/-- A finite map from strings. -/
abbrev Table (V : Type) : Type := Std.ExtTreeMap String V

/-- A finite set of strings. -/
abbrev Names : Type := Std.ExtTreeSet String

namespace Table
variable {V W : Type}

theorem get_insert (t : Table V) (k a : String) (v : V) :
    (t.insert k v)[a]? = if k = a then some v else t[a]? := by
  rw [Std.ExtTreeMap.getElem?_insert]
  simp

@[simp]
theorem get_insert_self (t : Table V) (k : String) (v : V) : (t.insert k v)[k]? = some v := by
  rw [get_insert, if_pos rfl]

variable {t u : Table V} {k a : String} {key : V → String} {accept : V → Bool} {items : List V}

theorem get_insert_of_ne {v : V} (h : k ≠ a) : (t.insert k v)[a]? = t[a]? := by
  rw [get_insert, if_neg h]

theorem get_erase (t : Table V) (k a : String) :
    (t.erase k)[a]? = if k = a then none else t[a]? := by
  rw [Std.ExtTreeMap.getElem?_erase]
  simp

theorem get_erase_of_ne (h : k ≠ a) : (t.erase k)[a]? = t[a]? := by
  rw [get_erase, if_neg h]

theorem mem_iff_get : k ∈ t ↔ ∃ v, t[k]? = some v := by
  rw [Std.ExtTreeMap.mem_iff_isSome_getElem?, Option.isSome_iff_exists]

theorem not_mem_iff_get : k ∉ t ↔ t[k]? = none := by
  rw [Std.ExtTreeMap.mem_iff_isSome_getElem?, Option.not_isSome_iff_eq_none]

/-- Two tables that answer every lookup alike are equal. -/
theorem ext_get (h : ∀ k : String, t[k]? = u[k]?) : t = u := Std.ExtTreeMap.ext_getElem? h

/-- Filing what is already filed changes nothing. -/
theorem insert_of_get {v : V} (h : t[k]? = some v) : t.insert k v = t := by
  apply ext_get
  intro a
  rw [get_insert]
  split
  · next same => rw [← same, h]
  · rfl

/-- Filing under two keys, in either order. -/
theorem insert_comm {b : String} (h : a ≠ b) (x y : V) :
    (t.insert a x).insert b y = (t.insert b y).insert a x := by
  apply ext_get
  intro k
  simp only [get_insert]
  by_cases hb : b = k
  · rw [if_pos hb, if_neg (fun ha => h (ha.trans hb.symm))]
    rw [if_pos hb]
  · rw [if_neg hb, if_neg hb]

/-- Filing and erasing under two keys, in either order. -/
theorem erase_insert_comm {b : String} (h : a ≠ b) (x : V) :
    (t.insert b x).erase a = (t.erase a).insert b x := by
  apply ext_get
  intro k
  simp only [get_insert, get_erase]
  by_cases ha : a = k
  · rw [if_pos ha, if_neg (fun hb => h (ha.trans hb.symm)), if_pos ha]
  · rw [if_neg ha, if_neg ha]

theorem values_eq (t : Table V) : t.values = t.toList.map Prod.snd := by
  have folded : t.values = t.foldr (fun _ v rest => v :: rest) [] := by
    obtain ⟨t⟩ := t
    induction t using Std.ExtDTreeMap.inductionOn with
    | mk t => rfl
  rw [folded, Std.ExtTreeMap.foldr_eq_foldr_toList]
  simp

theorem values_map (t : Table V) (f : V → W) : (t.map fun _ v => f v).values = t.values.map f := by
  rw [values_eq, values_eq, Std.ExtTreeMap.toList_map, List.map_map, List.map_map]
  rfl

/-- Tables alike through a view list the same viewed entries. -/
theorem filterMap_toList {X : Type} (view : V → W)
    (same : ∀ k : String, t[k]?.map view = u[k]?.map view) (pick : String → W → Option X) :
    t.toList.filterMap (fun entry => pick entry.1 (view entry.2)) =
      u.toList.filterMap fun entry => pick entry.1 (view entry.2) := by
  have viewed : (t.map fun _ v => view v) = u.map fun _ v => view v := by
    apply ext_get
    intro k
    rw [Std.ExtTreeMap.getElem?_map, Std.ExtTreeMap.getElem?_map, same]
  have listed := congrArg (fun t : Table W => t.toList.filterMap fun entry => pick entry.1 entry.2) viewed
  simpa only [Std.ExtTreeMap.toList_map, List.filterMap_map, Function.comp_def] using listed

/-- Tables alike through a view list the same viewed values. -/
theorem filterMap_values (view : V → Option W)
    (same : ∀ k : String, t[k]?.map view = u[k]?.map view) :
    t.values.filterMap view = u.values.filterMap view := by
  have listed := filterMap_toList view same fun _ w => w
  simpa only [values_eq, List.filterMap_map, Function.comp_def] using listed

theorem length_values (t : Table V) : t.values.length = t.size := by
  rw [values_eq, List.length_map, Std.ExtTreeMap.length_toList]

theorem mem_values {v : V} : v ∈ t.values ↔ ∃ k : String, t[k]? = some v := by
  simp [values_eq]

theorem values_insert_ne_nil (t : Table V) (k : String) (v : V) : (t.insert k v).values ≠ [] := by
  intro none
  have among : v ∈ (t.insert k v).values := mem_values.mpr ⟨k, get_insert_self t k v⟩
  rw [none] at among
  cases among

theorem get_of_size_zero (none : t.size = 0) (k : String) : t[k]? = Option.none := by
  rw [Std.ExtTreeMap.eq_empty_iff_size_eq_zero.mpr none, Std.ExtTreeMap.getElem?_empty]

theorem nodup_keys (t : Table V) : (t.toList.map Prod.fst).Nodup := by
  rw [Std.ExtTreeMap.map_fst_toList_eq_keys]
  exact Std.ExtTreeMap.nodup_keys

/-- What tells entries of a table apart tells its values apart. -/
theorem nodup_values_map {f : V → W}
    (distinct : ∀ {k k' : String} {v v' : V}, t[k]? = some v → t[k']? = some v' → f v = f v' → k = k') :
    (t.values.map f).Nodup := by
  rw [values_eq, List.map_map]
  have keys := nodup_keys t
  refine (keys.of_map _).map_on fun entry mem entry' mem' same => ?_
  have found := Std.ExtTreeMap.mem_toList_iff_getElem?_eq_some.mp mem
  have found' := Std.ExtTreeMap.mem_toList_iff_getElem?_eq_some.mp mem'
  exact List.inj_on_of_nodup_map keys mem mem' (distinct found found' same)

/-- Keys kept by a filter on keys. -/
theorem mem_names_filter {t : Names} {keep : String → Bool} :
    k ∈ t.filter keep ↔ k ∈ t ∧ keep k = true := by
  rw [Std.ExtTreeSet.mem_filter]
  constructor
  · rintro ⟨mem, kept⟩
    rw [Std.ExtTreeSet.get_eq] at kept
    exact ⟨mem, kept⟩
  · rintro ⟨mem, kept⟩
    exact ⟨mem, by rw [Std.ExtTreeSet.get_eq]; exact kept⟩

/-- Names read back from a list of them. -/
theorem ofList_names {names : Names} {items : List String} (perm : items.Perm names.toList) :
    Std.ExtTreeSet.ofList items = names := by
  refine Std.ExtTreeSet.ext_mem_iff.mpr fun k => ?_
  rw [Std.ExtTreeSet.mem_ofList, List.contains_iff_mem, perm.mem_iff, Std.ExtTreeSet.mem_toList]

/-- A list with as many items as names repeats none. -/
theorem nodup_of_size {items : List String}
    (size : (Std.ExtTreeSet.ofList items : Names).size = items.length) : items.Nodup := by
  set names : Names := Std.ExtTreeSet.ofList items with names_eq
  have distinct : names.toList.Nodup := by
    refine Std.ExtTreeSet.distinct_toList.imp ?_
    rintro a _ differ rfl
    exact differ Std.ReflCmp.compare_self
  have within : names.toList ⊆ items := by
    intro k mem
    rw [Std.ExtTreeSet.mem_toList, Std.ExtTreeSet.mem_ofList, List.contains_iff_mem] at mem
    exact mem
  have length : items.length ≤ names.toList.length :=
    Nat.le_of_eq (Std.ExtTreeSet.length_toList.trans size).symm
  exact ((List.subperm_of_subset distinct within).perm_of_length_le length).nodup_iff.mp distinct

/-- Filing some items of a list touches only their keys. -/
theorem get_foldl_of_ne {α : Type} {keep : α → Bool} {key : α → String} {value : α → V} {d : String}
    {items : List α} (other : ∀ x ∈ items, keep x = true → key x ≠ d) (t : Table V) :
    (items.foldl (fun t x => if keep x then t.insert (key x) (value x) else t) t)[d]? = t[d]? := by
  induction items generalizing t with
  | nil => rfl
  | cons a rest ih =>
    rw [List.foldl_cons, ih fun x mem => other x (List.mem_cons_of_mem _ mem)]
    split
    · next kept => rw [get_insert_of_ne (other a List.mem_cons_self kept)]
    · rfl

/-- An item filed under a key no other item has is found there. -/
theorem get_foldl_of_mem {α : Type} {keep : α → Bool} (key : α → String) {value : α → V} {a : α}
    {items : List α} (mem : a ∈ items) (kept : keep a = true)
    (unique : ∀ x ∈ items, keep x = true → key x = key a → x = a) (t : Table V) :
    (items.foldl (fun t x => if keep x then t.insert (key x) (value x) else t) t)[key a]? =
      some (value a) := by
  induction items generalizing t with
  | nil => cases mem
  | cons b rest ih =>
    rw [List.foldl_cons]
    by_cases later : a ∈ rest
    · exact ih later (fun x mem => unique x (List.mem_cons_of_mem _ mem)) _
    · obtain rfl : a = b := (List.mem_cons.mp mem).resolve_right later
      rw [get_foldl_of_ne, if_pos kept, get_insert_self]
      intro x mem kept' same
      exact later (unique x (List.mem_cons_of_mem _ mem) kept' same ▸ mem)

/-! ### Reading a table back from a list -/

/-- Insert each item under its key; refuse an item that fails its check or whose key is taken. -/
def collect (key : V → String) (accept : V → Bool) : List V → Table V → Option (Table V)
  | [], t => some t
  | a :: rest, t =>
    if accept a ∧ key a ∉ t then collect key accept rest (t.insert (key a) a) else none

/-- An item that fails its check fails the whole list. -/
theorem collect_of_refused {a : V} (mem : a ∈ items) (refused : accept a = false) (t : Table V) :
    collect key accept items t = none := by
  induction items generalizing t with
  | nil => cases mem
  | cons b rest ih =>
    rw [collect]
    split
    · next ok =>
      rcases List.mem_cons.mp mem with rfl | later
      · rw [refused] at ok
        cases ok.1
      · exact ih later _
    · rfl

/-- Accepted items with distinct new keys are all filed. -/
theorem collect_of_accepted (key : V → String) (accept : V → Bool)
    (accepted : ∀ a ∈ items, accept a = true) (distinct : (items.map key).Nodup) (t : Table V)
    (fresh : ∀ a ∈ items, key a ∉ t) : ∃ u, collect key accept items t = some u ∧
      ∀ k : String, u[k]? = (items.find? fun a => key a = k).or t[k]? := by
  induction items generalizing t with
  | nil => exact ⟨t, rfl, fun k => rfl⟩
  | cons a rest ih =>
    rw [List.map_cons, List.nodup_cons] at distinct
    obtain ⟨u, collected, get⟩ := ih (fun b mem => accepted b (List.mem_cons_of_mem _ mem)) distinct.2
      (t.insert (key a) a) (by
        intro b mem
        rw [Std.ExtTreeMap.mem_insert, Std.LawfulEqCmp.compare_eq_iff_eq, not_or]
        refine ⟨fun same => distinct.1 ?_, fresh b (List.mem_cons_of_mem _ mem)⟩
        rw [same]
        exact List.mem_map_of_mem mem)
    refine ⟨u, ?_, fun k => ?_⟩
    · rw [collect, if_pos ⟨accepted a List.mem_cons_self, fresh a List.mem_cons_self⟩, collected]
    · rw [get k, get_insert]
      by_cases here : key a = k
      · have none_later : (rest.find? fun b => key b = k) = none := by
          rw [List.find?_eq_none]
          intro b mem same
          exact distinct.1 (by rw [here, ← of_decide_eq_true same]; exact List.mem_map_of_mem mem)
        simp [here, none_later]
      · simp [here]

/-- The values of a table filed by their own key, read back. -/
theorem collect_values {key : W → String} {accept : W → Bool} {f : V → W}
    (keyed : ∀ (k : String) (v : V), t[k]? = some v → key (f v) = k) {items : List W}
    (perm : items.Perm (t.values.map f))
    (accepted : ∀ (k : String) (v : V), t[k]? = some v → accept (f v) = true) :
    collect key accept items ∅ = some (t.map fun _ v => f v) := by
  have from_table : ∀ b ∈ items, ∃ (k : String) (v : V), t[k]? = some v ∧ f v = b := by
    intro b mem
    obtain ⟨v, filed, rfl⟩ := List.mem_map.mp (perm.mem_iff.mp mem)
    obtain ⟨k, found⟩ := mem_values.mp filed
    exact ⟨k, v, found, rfl⟩
  have distinct : (items.map key).Nodup := by
    rw [(perm.map key).nodup_iff, List.map_map]
    refine nodup_values_map fun {k k' v v'} found found' same => ?_
    rw [← keyed k v found, ← keyed k' v' found']
    exact same
  obtain ⟨u, collected, get⟩ := collect_of_accepted key accept (t := ∅)
    (fun b mem => by
      obtain ⟨k, v, found, rfl⟩ := from_table b mem
      exact accepted k v found)
    distinct (fun b _ => by simp)
  rw [collected, Option.some.injEq]
  apply ext_get
  intro k
  rw [get k, Std.ExtTreeMap.getElem?_empty, Option.or_none, Std.ExtTreeMap.getElem?_map]
  cases found : t[k]? with
  | none =>
    rw [Option.map_none, List.find?_eq_none]
    intro b mem same
    obtain ⟨k', v, found', rfl⟩ := from_table b mem
    rw [keyed k' v found', decide_eq_true_eq] at same
    rw [← same, found'] at found
    cases found
  | some v =>
    have mem : f v ∈ items := perm.mem_iff.mpr (List.mem_map_of_mem (mem_values.mpr ⟨k, found⟩))
    cases hit : items.find? fun b => key b = k with
    | none =>
      rw [List.find?_eq_none] at hit
      exact absurd (decide_eq_true (keyed k v found)) (hit _ mem)
    | some b =>
      obtain ⟨k', v', found', rfl⟩ := from_table b (List.mem_of_find?_eq_some hit)
      have same := List.find?_some hit
      rw [decide_eq_true_eq, keyed k' v' found'] at same
      rw [same, found, Option.some.injEq] at found'
      rw [Option.map_some, found']

/-- A list that is read back was accepted item by item, under distinct new keys. -/
theorem of_collect (collected : collect key accept items t = some u) :
    (∀ a ∈ items, accept a = true) ∧ (items.map key).Nodup ∧ ∀ a ∈ items, key a ∉ t := by
  induction items generalizing t with
  | nil => exact ⟨by simp, by simp, by simp⟩
  | cons a rest ih =>
    rw [collect] at collected
    split at collected
    · next ok =>
      obtain ⟨accepted, distinct, fresh⟩ := ih collected
      have apart : ∀ b ∈ rest, key b ∉ t ∧ key a ≠ key b := by
        intro b mem
        have outside := fresh b mem
        rw [Std.ExtTreeMap.mem_insert, Std.LawfulEqCmp.compare_eq_iff_eq, not_or] at outside
        exact ⟨outside.2, outside.1⟩
      refine ⟨?_, ?_, ?_⟩
      · rw [List.forall_mem_cons]
        exact ⟨ok.1, accepted⟩
      · rw [List.map_cons, List.nodup_cons]
        refine ⟨fun again => ?_, distinct⟩
        obtain ⟨b, mem, same⟩ := List.mem_map.mp again
        exact (apart b mem).2 same.symm
      · rw [List.forall_mem_cons]
        exact ⟨ok.2, fun b mem => (apart b mem).1⟩
    · cases collected

/-- A list that is read back is filed whole and nothing else is. -/
theorem get_collected (collected : collect key accept items ∅ = some u) {v : V} :
    u[k]? = some v ↔ v ∈ items ∧ key v = k := by
  obtain ⟨accepted, distinct, fresh⟩ := of_collect collected
  obtain ⟨u', again, get⟩ := collect_of_accepted key accept accepted distinct ∅ fresh
  cases collected.symm.trans again
  rw [get k, Std.ExtTreeMap.getElem?_empty, Option.or_none]
  constructor
  · intro found
    have same := List.find?_some found
    exact ⟨List.mem_of_find?_eq_some found, of_decide_eq_true same⟩
  · rintro ⟨mem, same⟩
    cases hit : items.find? fun a => key a = k with
    | none => exact absurd (decide_eq_true same) (List.find?_eq_none.mp hit v mem)
    | some w =>
      have here := List.find?_some hit
      rw [List.inj_on_of_nodup_map distinct (List.mem_of_find?_eq_some hit) mem
        ((of_decide_eq_true here).trans same.symm)]

/-- The values of a table read back from a list are the items of the list. -/
theorem values_collected (collected : collect key accept items ∅ = some u) :
    u.values.Perm items := by
  have distinct := (of_collect collected).2.1
  have values : (u.values.map key).Nodup := nodup_values_map fun found found' same => by
    rw [← ((get_collected collected).mp found).2, ← ((get_collected collected).mp found').2]
    exact same
  refine (List.perm_ext_iff_of_nodup (values.of_map _) (distinct.of_map _)).mpr fun v => ?_
  rw [mem_values]
  simp only [get_collected collected, exists_and_left, exists_eq', and_true]

/-- The order of the list does not matter. -/
theorem collect_of_perm {items' : List V} (perm : items'.Perm items)
    (collected : collect key accept items ∅ = some u) : collect key accept items' ∅ = some u := by
  obtain ⟨accepted, distinct, -⟩ := of_collect collected
  obtain ⟨u', again, -⟩ := collect_of_accepted key accept
    (fun a mem => accepted a (perm.mem_iff.mp mem)) ((perm.map key).nodup_iff.mpr distinct) ∅
    fun _ _ => by simp
  rw [again, Option.some.injEq]
  apply ext_get
  intro k
  apply Option.ext
  intro v
  rw [get_collected again, get_collected collected, perm.mem_iff]

/-- A table read back from its values is that table. -/
theorem eq_of_collect_values {key : W → String} {accept : W → Bool} {f : V → W}
    (keyed : ∀ (k : String) (v : V), t[k]? = some v → key (f v) = k) {items : List W}
    (perm : items.Perm (t.values.map f)) {u : Table W}
    (collected : collect key accept items ∅ = some u) :
    u = t.map (fun _ v => f v) ∧ ∀ (k : String) (v : V), t[k]? = some v → accept (f v) = true := by
  have accepted : ∀ (k : String) (v : V), t[k]? = some v → accept (f v) = true := by
    intro k v found
    by_contra refused
    have mem : f v ∈ items := perm.mem_iff.mpr (List.mem_map_of_mem (mem_values.mpr ⟨k, found⟩))
    rw [collect_of_refused mem (Bool.eq_false_iff.mpr refused)] at collected
    cases collected
  rw [collect_values keyed perm accepted, Option.some.injEq] at collected
  exact ⟨collected.symm, accepted⟩

end Table

end Gateway.Data
