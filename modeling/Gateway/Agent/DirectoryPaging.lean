import Gateway.Agent.Filesystem
import Gateway.Carrier.Result

/-! Listing a directory page by page.

A page is cut from a fresh listing at a cursor, which is the last name of the page before it. As
long as the directory does not change, the pages together are the listing. -/
namespace Gateway.Agent
open Data Control DirectoryEntry Json

structure DirectoryPage where
  entries : List DirectoryEntry
  truncated : Bool
  after : Option String
  nextCursor : Option String

def DirectoryPage.result (page : DirectoryPage) : DeviceResult :=
  .directoryEntries page.entries page.truncated page.after page.nextCursor

/-- The pages from a cursor on, each asked for with the cursor that the one before it gave. There
are none when a page fails, or when there are more than can be asked for. -/
def followCursors (policy : FilesystemPolicy) (directory : Directory) :
    Nat → Option String → Option (List DirectoryPage)
  | 0, _ => none
  | fuel + 1, after =>
    match listDirectoryPage policy (.ok directory) after with
    | .ok (.directoryEntries entries truncated after none) => some [⟨entries, truncated, after, none⟩]
    | .ok (.directoryEntries entries truncated after (some cursor)) =>
      (followCursors policy directory fuel (some cursor)).map
        (⟨entries, truncated, after, some cursor⟩ :: ·)
    | _ => none

/-- Being able to ask for more pages makes no difference once they have come to an end. -/
theorem followCursors_mono {policy : FilesystemPolicy} {directory : Directory} {fuel fuel' : Nat}
    {after : Option String} {pages : List DirectoryPage}
    (followed : followCursors policy directory fuel after = some pages) (more : fuel ≤ fuel') :
    followCursors policy directory fuel' after = some pages := by
  induction fuel generalizing fuel' after pages with
  | zero => cases followed
  | succ fuel ih =>
    obtain ⟨fuel', rfl⟩ := Nat.exists_eq_add_of_le' (Nat.le_trans (Nat.le_add_left 1 fuel) more)
    rw [followCursors] at followed ⊢
    split at followed
    · exact followed
    · obtain ⟨rest, again, rfl⟩ := Option.map_eq_some_iff.mp followed
      rw [ih again (Nat.le_of_succ_le_succ more)]
      rfl
    · cases followed

/-- The JSON of a list of entries. -/
def entriesJson (entries : List DirectoryEntry) : Json :=
  .array (entries.map Carrier.directoryEntryJson)

/-- The pages asked for from a cursor on list what remains: each is accepted for its command, fits
the budget, and has a cursor exactly when more remains, which the pages after it list. -/
def Lists (path : String) : Option String → List DirectoryPage → List DirectoryEntry → Prop
  | _, [], _ => False
  | cursor, page :: rest, remaining =>
    page.result.matchesCommand (.listDirectory path cursor) = true ∧
    size (entriesJson page.entries) ≤ maxDirectoryResultJsonBytes ∧
    page.nextCursor.isSome = page.truncated ∧
    ∃ left, remaining = page.entries ++ left ∧ (page.truncated = true ↔ left ≠ []) ∧
      if page.truncated then Lists path page.nextCursor rest left else rest = []

theorem Lists.entries {path : String} {cursor : Option String} {pages : List DirectoryPage}
    {remaining : List DirectoryEntry} (lists : Lists path cursor pages remaining) :
    pages.flatMap DirectoryPage.entries = remaining := by
  induction pages generalizing cursor remaining with
  | nil => exact lists.elim
  | cons page rest ih =>
    obtain ⟨-, -, -, left, rfl, truncated, onward⟩ := lists
    rw [List.flatMap_cons]
    split at onward
    · rw [ih onward]
    · next complete =>
      rw [onward, not_not.mp fun more => complete (truncated.mpr more)]
      rfl

/-! ### The budget -/

theorem size_entry_le (entry : DirectoryEntry) :
    size (Carrier.directoryEntryJson entry) + 34 ≤ entryBound entry := by
  have name := stringLength_le entry.name
  have labels : stringLength "name" = 6 ∧ stringLength "kind" = 6 := by decide
  have kind : stringLength (Carrier.entryKindName entry.kind) ≤ 11 := by
    cases entry.kind <;> decide
  simp only [Carrier.directoryEntryJson, size, memberSizes, bracketed, member,
    List.length_cons, List.length_nil, List.sum_cons, List.sum_nil, entryBound]
  omega

/-- The estimate of a page is on the safe side. -/
theorem size_entries_le {entries : List DirectoryEntry}
    (estimate : (entries.map entryBound).sum ≤ maxDirectoryResultJsonBytes) :
    size (entriesJson entries) ≤ maxDirectoryResultJsonBytes := by
  have each : (entries.map fun entry => size (Carrier.directoryEntryJson entry)).sum +
      34 * entries.length ≤ (entries.map entryBound).sum := by
    clear estimate
    induction entries with
    | nil => exact Nat.le_refl 0
    | cons entry rest ih =>
      have := size_entry_le entry
      simp only [List.map_cons, List.sum_cons, List.length_cons]
      omega
  rw [entriesJson, size, itemSizes_eq, List.map_map, bracketed, List.length_map]
  have two : 2 ≤ maxDirectoryResultJsonBytes := by decide
  simp only [Function.comp_def]
  rcases Nat.eq_zero_or_pos entries.length with none | some_
  · rw [List.length_eq_zero_iff.mp none]
    exact two
  · omega

/-- Entries of which none is too large fill a page within the budget, and not an empty one. -/
theorem fillPage_fills {maxEntries count estimated : Nat} {remaining : List DirectoryEntry}
    (small : ∀ entry ∈ remaining, entryBound entry ≤ maxDirectoryResultJsonBytes)
    (within : estimated ≤ maxDirectoryResultJsonBytes) :
    ∃ page, fillPage maxEntries remaining count estimated = .ok page ∧
      estimated + (page.map entryBound).sum ≤ maxDirectoryResultJsonBytes ∧
      (remaining ≠ [] → count < maxEntries → estimated = 0 → page ≠ []) := by
  induction remaining generalizing count estimated with
  | nil => exact ⟨[], rfl, within, fun some_ => absurd rfl some_⟩
  | cons entry rest ih =>
    have fits := small entry List.mem_cons_self
    rw [fillPage]
    split
    · next full => exact ⟨[], rfl, within, fun _ room => absurd room (Nat.not_lt.mpr full)⟩
    rw [if_neg (Nat.not_lt.mpr fits)]
    split
    · next full => exact ⟨[], rfl, within, fun _ _ empty => by omega⟩
    · next room =>
      obtain ⟨page, filled, sum, -⟩ := @ih (count + 1) (estimated + entryBound entry)
        (fun e among => small e (List.mem_cons_of_mem _ among)) (Nat.not_lt.mp room)
      refine ⟨entry :: page, ?_, ?_, fun _ _ _ => List.cons_ne_nil _ _⟩
      · rw [filled]
        rfl
      · rw [List.map_cons, List.sum_cons]
        omega

/-! ### Cursors -/

/-- The cursor after some entries is found again behind them. -/
theorem passed_split {before remaining : List DirectoryEntry}
    (sorted : (before ++ remaining).Pairwise fun a b => a.name < b.name) :
    passed (before ++ remaining) (before.getLast?.map name) = before.length := by
  rcases List.eq_nil_or_concat before with rfl | ⟨front, last, rfl⟩
  · rfl
  rw [List.concat_eq_append] at sorted ⊢
  rw [List.getLast?_append_of_ne_nil _ (List.cons_ne_nil _ _), List.getLast?_singleton,
    Option.map_some, passed]
  obtain ⟨inOrder, -, apart⟩ := List.pairwise_append.mp sorted
  obtain ⟨-, -, earlier⟩ := List.pairwise_append.mp inOrder
  have skipped : ∀ entry ∈ front ++ [last], decide (entry.name ≤ last.name) = true := by
    intro entry among
    rw [decide_eq_true_eq]
    rcases List.mem_append.mp among with among | among
    · have lower := earlier entry among last (List.mem_singleton.mpr rfl)
      exact (String.le_total _ _).resolve_right (String.not_le.mpr lower)
    · exact List.mem_singleton.mp among ▸ String.le_refl _
  have kept : remaining.takeWhile (fun entry => decide (entry.name ≤ last.name)) = [] := by
    cases remaining with
    | nil => rfl
    | cons entry rest =>
      have beyond := apart last (by simp) entry List.mem_cons_self
      rw [List.takeWhile_cons]
      simpa using beyond
  rw [List.takeWhile_append_of_pos skipped, kept, List.append_nil]

/-- A directory that can be listed: its entries can be read, are few enough to be scanned, and
none of them is too large for a page. -/
structure Listable (policy : FilesystemPolicy) (directory : Directory)
    (entries : List DirectoryEntry) : Prop where
  positive : 0 < policy.maxDirectoryEntries
  listing : directory.listing = entries.map .ok
  few : entries.length ≤ policy.maxDirectoryScanEntries
  small : ∀ entry ∈ entries, entryBound entry ≤ maxDirectoryResultJsonBytes

variable {policy : FilesystemPolicy} {directory : Directory} {entries : List DirectoryEntry}

theorem scanEntries_of_few {limit : Nat} (few : entries.length ≤ limit) :
    scanEntries limit (entries.map .ok) = .ok entries := by
  induction entries generalizing limit with
  | nil => cases limit <;> rfl
  | cons entry rest ih =>
    cases limit with
    | zero => exact absurd few (Nat.not_succ_le_zero _)
    | succ limit =>
      rw [List.map_cons, scanEntries, ih (Nat.le_of_succ_le_succ few)]
      rfl

theorem Listable.sorted (h : Listable policy directory entries) :
    (sortBy name entries).Pairwise fun a b => a.name < b.name := by
  refine pairwise_sortBy ?_
  have names := directory.distinct
  rw [h.listing] at names
  simpa [Except.toOption] using names

/-- A page goes on from the entries before its cursor. -/
theorem Listable.page (h : Listable policy directory entries) {before remaining : List DirectoryEntry}
    (split : sortBy name entries = before ++ remaining) :
    ∃ page left, remaining = page ++ left ∧ (remaining ≠ [] → page ≠ []) ∧
      (page.map entryBound).sum ≤ maxDirectoryResultJsonBytes ∧
      listDirectoryPage policy (.ok directory) (before.getLast?.map name) =
        .ok (.directoryEntries page (decide (left ≠ [])) (before.getLast?.map name)
          (if left ≠ [] then page.getLast?.map name else none)) := by
  have sorted := h.sorted
  have small : ∀ entry ∈ remaining, entryBound entry ≤ maxDirectoryResultJsonBytes := by
    intro entry among
    refine h.small entry ((sortBy_perm name entries).mem_iff.mp ?_)
    rw [split]
    exact List.mem_append_right _ among
  rw [split] at sorted
  obtain ⟨page, filled, sum, some_⟩ :=
    @fillPage_fills policy.maxDirectoryEntries 0 0 remaining small (Nat.zero_le _)
  obtain ⟨left, rfl⟩ := fillPage_prefix filled
  have shown : page ++ left ≠ [] → page ≠ [] := fun more => some_ more h.positive rfl
  refine ⟨page, left, rfl, shown, by omega, ?_⟩
  have more : decide ((page ++ left).length > page.length) = decide (left ≠ []) := by
    rw [decide_eq_decide, List.length_append, ← List.length_pos_iff]
    omega
  unfold listDirectoryPage
  simp only [h.listing, scanEntries_of_few h.few, Result.ok_bind, split, passed_split sorted,
    List.drop_left, filled, more]
  rw [if_neg fun both => shown both.1 both.2]
  simp only [decide_eq_true_eq]

/-- With enough pages, what remains is listed. -/
theorem Listable.follow (h : Listable policy directory entries) (path : String) {fuel : Nat}
    {before remaining : List DirectoryEntry}
    (split : sortBy name entries = before ++ remaining)
    (enough : remaining.length < fuel) :
    ∃ pages, followCursors policy directory fuel (before.getLast?.map name) =
        some pages ∧
      Lists path (before.getLast?.map name) pages remaining := by
  induction fuel generalizing before remaining with
  | zero => exact absurd enough (Nat.not_lt_zero _)
  | succ fuel ih =>
    obtain ⟨page, left, rfl, shown, sum, listed⟩ := h.page split
    have accepted : DeviceResult.matchesCommand _ (.listDirectory path _) = true :=
      listDirectoryPage_matches listed
    rw [followCursors, listed]
    by_cases complete : left = []
    · simp only [complete] at accepted ⊢
      exact ⟨_, rfl, accepted, size_entries_le sum, rfl, [], rfl, by simp, rfl⟩
    · have filled : page ≠ [] := shown fun none => complete (List.append_eq_nil_iff.mp none).2
      obtain ⟨last, ends⟩ := Option.ne_none_iff_exists'.mp (mt List.getLast?_eq_none_iff.mp filled)
      have cursor : (before ++ page).getLast?.map name = some last.name := by
        rw [List.getLast?_append_of_ne_nil _ filled, ends]
        rfl
      obtain ⟨pages, followed, lists⟩ := @ih (before ++ page) left
        (by rw [split, List.append_assoc]) (by
          have := List.length_pos_iff.mpr filled
          rw [List.length_append] at enough
          omega)
      rw [cursor] at followed lists
      simp only [ne_eq, complete, not_false_eq_true, if_true, ends, Option.map_some,
        followed] at accepted ⊢
      exact ⟨_, rfl, accepted, size_entries_le sum, rfl, left, rfl, by simp [complete], lists⟩

/-- **Listing a directory page by page is complete**: following the cursors ends, and the pages list
every entry once, in the order of the names. -/
theorem directory_pages_complete (h : Listable policy directory entries) (path : String) :
    ∃ pages, (∀ fuel > entries.length, followCursors policy directory fuel none = some pages) ∧
      Lists path none pages (sortBy name entries) ∧
      (pages.flatMap DirectoryPage.entries).Perm entries ∧
      (pages.flatMap DirectoryPage.entries).Pairwise fun a b => a.name < b.name := by
  have length : (sortBy name entries).length = entries.length :=
    (sortBy_perm name entries).length_eq
  have split : sortBy name entries = [] ++ sortBy name entries := rfl
  obtain ⟨pages, followed, lists⟩ := h.follow path split (length.trans_lt (Nat.lt_succ_self _))
  refine ⟨pages, fun fuel enough => followCursors_mono followed enough, lists, ?_, ?_⟩
  · rw [lists.entries]
    exact sortBy_perm _ _
  · rw [lists.entries]
    exact h.sorted

/-- Three files, one to a page. -/
def threeFiles : List DirectoryEntry :=
  [⟨"b", .file⟩, ⟨"a", .file⟩, ⟨"c", .file⟩]

theorem directory_pages_complete_three :
    ∃ pages, followCursors ⟨1, 1, 3⟩ ⟨threeFiles.map .ok, by decide⟩ 4 none = some pages ∧
      pages.map (·.nextCursor) = [some "a", some "b", none] ∧
      (pages.flatMap DirectoryPage.entries).Perm threeFiles := by
  have listable : Listable ⟨1, 1, 3⟩ ⟨threeFiles.map .ok, by decide⟩ threeFiles :=
    ⟨by decide, rfl, by decide, by decide⟩
  obtain ⟨pages, followed, -, perm, -⟩ := directory_pages_complete listable "/w"
  have cursors : (followCursors ⟨1, 1, 3⟩ ⟨threeFiles.map .ok, by decide⟩ 4 none).map
      (·.map (·.nextCursor)) = some [some "a", some "b", none] := by decide +kernel
  have asked := followed 4 (by decide)
  rw [asked] at cursors
  exact ⟨pages, asked, Option.some.inj cursors, perm⟩

end Gateway.Agent
