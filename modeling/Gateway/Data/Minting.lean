import Gateway.Data.Table

/-! Tables whose names are drawn at random.

A name is drawn a few times until it is not in use. A group of entries is added name by name;
when one of them cannot be added the names of the group are taken back, and the table is what
it was. -/
namespace Gateway.Data.Table
variable {V : Type}

/-- The first of a few drawn names that is not in use. -/
def firstUnused (attempts : Nat) (t : Table V) (drawn : List String) : Option String :=
  (drawn.take attempts).find? fun name => !t.contains name

variable {t : Table V} {name : String}

/-- What is kept was there, and is to be kept. -/
theorem get_filter_eq_some {keep : String → V → Bool} {v : V} :
    (t.filter keep)[name]? = some v ↔ t[name]? = some v ∧ keep name v = true := by
  rw [Std.ExtTreeMap.getElem?_filter', Option.filter_eq_some_iff]

/-- Take names out. -/
def discard (t : Table V) (names : List String) : Table V :=
  names.foldl (fun t name => t.erase name) t

theorem get_discard (t : Table V) (names : List String) (name : String) :
    (discard t names)[name]? = if name ∈ names then none else t[name]? := by
  induction names generalizing t with
  | nil => simp [discard]
  | cons first rest ih =>
    show (discard (t.erase first) rest)[name]? = _
    rw [ih, get_erase]
    by_cases same : name = first
    · simp [same]
    · simp [same, Ne.symm same]

/-- `now` is `base` with entries under `minted` added, each of them good. -/
structure Grown (good : String → V → Prop) (base : Table V) (minted : List String)
    (now : Table V) : Prop where
  unused : ∀ name ∈ minted, base[name]? = none
  kept : ∀ name, name ∉ minted → now[name]? = base[name]?
  added : ∀ name ∈ minted, ∃ v, now[name]? = some v ∧ good name v

namespace Grown
variable {good : String → V → Prop} {base now : Table V} {minted : List String} {name : String}
  {v : V}

theorem start (base : Table V) : Grown good base [] base := ⟨nofun, fun _ _ => rfl, nofun⟩

theorem insert (grown : Grown good base minted now) (unused : now[name]? = none)
    (ok : good name v) : Grown good base (name :: minted) (now.insert name v) := by
  have new : name ∉ minted := by
    intro among
    obtain ⟨w, found, _⟩ := grown.added name among
    rw [unused] at found
    cases found
  refine ⟨?_, ?_, ?_⟩
  · intro other among
    rcases List.mem_cons.mp among with rfl | among
    · rw [← grown.kept other new, unused]
    · exact grown.unused other among
  · intro other absent
    rw [List.mem_cons, not_or] at absent
    rw [get_insert_of_ne (Ne.symm absent.1), grown.kept other absent.2]
  · intro other among
    rcases List.mem_cons.mp among with rfl | among
    · exact ⟨v, get_insert_self now other v, ok⟩
    · obtain ⟨w, found, ok⟩ := grown.added other among
      have differs : name ≠ other := fun same => new (same ▸ among)
      exact ⟨w, by rw [get_insert_of_ne differs, found], ok⟩

end Grown

/-! ### How many are held -/

/-- A new entry is added to the others. -/
theorem values_insert_perm (unused : t[name]? = none) (v : V) :
    (t.insert name v).values.Perm (v :: t.values) := by
  have pairs : (t.insert name v).toList.Perm ((name, v) :: t.toList) := by
    refine (List.perm_ext_iff_of_nodup (nodup_keys _).of_map (List.nodup_cons.mpr
      ⟨fun mem => ?_, (nodup_keys t).of_map⟩)).mpr fun entry => ?_
    · rw [Std.ExtTreeMap.mem_toList_iff_getElem?_eq_some, unused] at mem
      cases mem
    · rw [List.mem_cons, Std.ExtTreeMap.mem_toList_iff_getElem?_eq_some,
        Std.ExtTreeMap.mem_toList_iff_getElem?_eq_some, get_insert]
      split
      · next same =>
        subst same
        rw [unused]
        constructor
        · intro is
          exact .inl (Prod.ext rfl (Option.some.inj is).symm)
        · rintro (is | is)
          · rw [is]
          · cases is
      · next differs =>
        constructor
        · exact .inr
        · rintro (is | is)
          · exact absurd (congrArg Prod.fst is).symm differs
          · exact is
  rw [values_eq, values_eq]
  exact pairs.map Prod.snd

/-- How many entries an owner has. -/
def live (owner : V → String) (t : Table V) (who : String) : Nat :=
  (t.values.filter fun v => owner v = who).length

theorem live_insert {owner : V → String} {v : V} (unused : t[name]? = none) :
    live owner (t.insert name v) (owner v) = live owner t (owner v) + 1 := by
  unfold live
  rw [((values_insert_perm unused v).filter _).length_eq, List.filter_cons,
    if_pos (decide_eq_true rfl), List.length_cons]

/-! ### Names drawn for one group -/

/-- The names drawn for each entry of a group are new, and others than those drawn for the rest. -/
structure Fresh (draws : Nat → List String) (t : Table V) : Prop where
  some : ∀ n, draws n ≠ []
  unused : ∀ n, ∀ name ∈ draws n, t[name]? = none
  apart : ∀ m n, m ≠ n → ∀ name ∈ draws m, name ∉ draws n

theorem Fresh.mono {draws : Nat → List String} {u : Table V} (fresh : Fresh draws t)
    (fewer : ∀ name : String, t[name]? = none → u[name]? = none) : Fresh draws u :=
  ⟨fresh.some, fun n name among => fewer name (fresh.unused n name among), fresh.apart⟩

/-- As many entries of the owner have been added as names were drawn for. -/
structure Minted (good : String → V → Prop) (owner : V → String) (who : String)
    (draws : Nat → List String) (base : Table V) (minted : List String) (now : Table V) : Prop where
  grown : Grown good base minted now
  held : live owner now who = live owner base who + minted.length
  drawn : ∀ name ∈ minted, ∃ n < minted.length, name ∈ draws n

namespace Minted
variable {good : String → V → Prop} {owner : V → String} {who : String}
  {draws : Nat → List String} {base now : Table V} {minted : List String} {name : String} {v : V}

theorem start (base : Table V) : Minted good owner who draws base [] base :=
  ⟨Grown.start base, rfl, nofun⟩

section
variable (so : Minted good owner who draws base minted now)
include so

theorem insert (unused : now[name]? = none) (ok : good name v) (owned : owner v = who)
    (drawn : name ∈ draws minted.length) :
    Minted good owner who draws base (name :: minted) (now.insert name v) := by
  refine ⟨so.grown.insert unused ok, ?_, ?_⟩
  · subst owned
    rw [live_insert unused, so.held]
    rfl
  · intro other among
    rcases List.mem_cons.mp among with rfl | among
    · exact ⟨minted.length, Nat.lt_succ_self _, drawn⟩
    · obtain ⟨n, below, drawn⟩ := so.drawn other among
      exact ⟨n, Nat.lt_succ_of_lt below, drawn⟩

/-- The names drawn next are not in use. -/
theorem unused (fresh : Fresh draws base) (among : name ∈ draws minted.length) :
    now[name]? = none := by
  have new : name ∉ minted := by
    intro among'
    obtain ⟨n, below, drawn⟩ := so.drawn name among'
    exact fresh.apart n minted.length (Nat.ne_of_lt below) name drawn among
  rw [so.grown.kept name new, fresh.unused _ name among]

/-- So a name is found among them. -/
theorem firstUnused_eq (fresh : Fresh draws base) :
    ∃ name ∈ draws minted.length, firstUnused 4 now (draws minted.length) = some name := by
  obtain ⟨name, rest, are⟩ := List.exists_cons_of_ne_nil (fresh.some minted.length)
  have mem : name ∈ draws minted.length := are ▸ List.mem_cons_self
  refine ⟨name, mem, ?_⟩
  have free : now.contains name = false := by
    rw [← Bool.not_eq_true]
    exact not_mem_iff_get.mpr (so.unused fresh mem)
  rw [firstUnused, are, List.take_succ_cons, List.find?_cons, free]
  rfl

end

end Minted

end Gateway.Data.Table
