import Gateway.Control.Message
import Gateway.Data.Result
import Gateway.Data.Text

/-! The device's read-only file surface.

A file is what an open handle shows from the requested offset on; a directory is what
enumerating it yields, entry by entry, in whatever order the system lists it. Both are
given: resolving a path against the approved roots is not part of this module. What is
modelled is the page that is cut from them, and that the Hub accepts it. -/
namespace Gateway.Agent
open Data Control DirectoryEntry DeviceResult Result

def maxDirectoryResultJsonBytes : Nat := 24 * 1024

inductive FilesystemError where
  | noAllowedRoots | rootNotDirectory | invalidLimit | invalidPath | pathDenied | notFile
  | notDirectory | nonUtf8Name | rangeTooLarge | rangeOverflow | directoryScanLimitExceeded
  | directoryEntryTooLarge
  | io (notFound : Bool)

structure FilesystemPolicy where
  maxFileBytes : Nat
  maxDirectoryEntries : Nat
  maxDirectoryScanEntries : Nat

/-! ### Files -/

/-- One page of a file. One byte more than requested is read, to tell whether there is more. -/
def readFileRange (policy : FilesystemPolicy) (opened : Except FilesystemError (List UInt8))
    (offset : Nat) (maxBytes : Option Nat) : Except FilesystemError DeviceResult :=
  let requested := maxBytes.getD policy.maxFileBytes
  if requested = 0 ∨ requested > policy.maxFileBytes then .error .rangeTooLarge
  else match checkedAdd offset requested with
    | none => .error .rangeOverflow
    | some _ =>
      match opened with
      | .error e => .error e
      | .ok rest =>
        let read := rest.take (min (requested + 1) (2 ^ 64 - 1))
        if read.length > requested then
          let bytes := read.take requested
          match checkedAdd offset bytes.length with
          | none => .error .rangeOverflow
          | some next => .ok (.fileContents bytes true offset (some next))
        else .ok (.fileContents read false offset none)

theorem readFileRange_matches {policy : FilesystemPolicy}
    {opened : Except FilesystemError (List UInt8)} {path : String} {offset : Nat}
    {maxBytes : Option Nat} {result : DeviceResult}
    (read : readFileRange policy opened offset maxBytes = .ok result) :
    result.matchesCommand (.readFile path offset maxBytes) = true := by
  obtain ⟨-, read⟩ := guard_eq_ok.mp read
  split at read
  · cases read
  split at read
  · cases read
  dsimp only at read
  -- The length of what was read is within an explicit limit in both branches.
  have within : ∀ bytes : List UInt8, bytes.length ≤ maxBytes.getD policy.maxFileBytes →
      maxBytes.all (fun limit => bytes.length ≤ limit) = true := by
    intro bytes short
    cases maxBytes with
    | none => rfl
    | some limit => exact decide_eq_true short
  split at read
  · split at read
    · cases read
    · next next_offset sum =>
      cases read
      simp only [matchesCommand, contentsFit, sum, if_true, decide_true,
        Bool.and_true]
      exact within _ (List.length_take_le _ _)
  · next short =>
    cases read
    simp only [matchesCommand, contentsFit, decide_true, Bool.true_and,
      Bool.and_eq_true]
    exact ⟨within _ (Nat.not_lt.mp short), rfl⟩

/-- A file from an offset on, page by page: the Hub asks for each page where the one it accepted
before ended. -/
def readPages (policy : FilesystemPolicy) (file : List UInt8) (path : String)
    (maxBytes : Option Nat) : Nat → Nat → Option (List UInt8)
  | 0, _ => none
  | pages + 1, offset =>
    match readFileRange policy (.ok (file.drop offset)) offset maxBytes with
    | .error _ => none
    | .ok page =>
      if page.matchesCommand (.readFile path offset maxBytes) then
        match page with
        | .fileContents bytes _ _ none => some bytes
        | .fileContents bytes _ _ (some next) =>
          (bytes ++ ·) <$> readPages policy file path maxBytes pages next
        | _ => none
      else none

theorem readFileRange_eq {policy : FilesystemPolicy} {rest : List UInt8} {offset : Nat}
    {maxBytes : Option Nat} (some_ : 0 < maxBytes.getD policy.maxFileBytes)
    (allowed : maxBytes.getD policy.maxFileBytes ≤ policy.maxFileBytes)
    (bounded : offset + rest.length + policy.maxFileBytes < 2 ^ 64 - 1) :
    readFileRange policy (.ok rest) offset maxBytes =
      if rest.length > maxBytes.getD policy.maxFileBytes then
        .ok (.fileContents (rest.take (maxBytes.getD policy.maxFileBytes)) true offset
          (some (offset + maxBytes.getD policy.maxFileBytes)))
      else .ok (.fileContents rest false offset none) := by
  unfold readFileRange
  generalize maxBytes.getD policy.maxFileBytes = n at *
  have sum : checkedAdd offset n = some (offset + n) := by
    rw [checkedAdd, if_pos (by omega)]
  have one : min (n + 1) (2 ^ 64 - 1) = n + 1 := by omega
  simp only [sum, one]
  rw [if_neg (by omega)]
  by_cases more : rest.length > n
  · have length : (rest.take (n + 1)).length > n := by simp; omega
    rw [if_pos length, if_pos more, List.take_take, Nat.min_eq_left (Nat.le_succ n),
      List.length_take_of_le (by omega), sum]
  · have whole : rest.take (n + 1) = rest := List.take_of_length_le (by omega)
    rw [whole, if_neg more, if_neg more]

/-- **Reading a file page by page is complete**: every page is accepted, following the offsets
ends, and the pages are the file. -/
theorem file_pages_complete (policy : FilesystemPolicy) (file : List UInt8) (path : String)
    (maxBytes : Option Nat) (some_ : 0 < maxBytes.getD policy.maxFileBytes)
    (allowed : maxBytes.getD policy.maxFileBytes ≤ policy.maxFileBytes)
    (bounded : file.length + policy.maxFileBytes < 2 ^ 64 - 1) (offset pages : Nat)
    (inside : offset ≤ file.length)
    (enough : file.length - offset < pages * maxBytes.getD policy.maxFileBytes) :
    readPages policy file path maxBytes pages offset = some (file.drop offset) := by
  induction pages generalizing offset with
  | zero => omega
  | succ pages ih =>
    have read := @readFileRange_eq policy (file.drop offset) offset maxBytes some_ allowed
      (by rw [List.length_drop]; omega)
    have accepted := @readFileRange_matches policy (.ok (file.drop offset)) path offset maxBytes
    split at read <;> rw [readPages, read] <;> dsimp only <;> rw [if_pos (accepted read)]
    next more =>
      rw [List.length_drop] at more
      rw [Nat.succ_mul] at enough
      rw [ih _ (by omega) (by omega), ← List.drop_drop]
      exact congrArg some (List.take_append_drop _ _)

theorem file_pages_complete_three :
    readPages ⟨2, 1, 1⟩ [.ofNat 1, .ofNat 2, .ofNat 3] "a" none 2 0 =
      some [.ofNat 1, .ofNat 2, .ofNat 3] :=
  file_pages_complete ⟨2, 1, 1⟩ [.ofNat 1, .ofNat 2, .ofNat 3] "a" none (by decide) (by decide)
    (by decide) 0 2 (by decide) (by decide)

/-! ### Directories -/

/-- A directory as it is enumerated. An entry may fail to be read; no two entries share a name. -/
structure Directory where
  listing : List (Except FilesystemError DirectoryEntry)
  distinct : (listing.filterMap fun entry => entry.toOption.map name).Nodup

/-- Enumerate a directory, at most `limit` entries of it. -/
def scanEntries (limit : Nat) :
    List (Except FilesystemError DirectoryEntry) → Except FilesystemError (List DirectoryEntry)
  | [] => .ok []
  | entry :: rest =>
    match limit with
    | 0 => .error .directoryScanLimitExceeded
    | limit + 1 => do
      let first ← entry
      let others ← scanEntries limit rest
      .ok (first :: others)

/-- A conservative size of an entry in JSON: every byte of its name may need six. -/
def entryBound (entry : DirectoryEntry) : Nat :=
  entry.name.utf8ByteSize * 6 + 64

/-- Fill a page, up to a number of entries and an estimated size. -/
def fillPage (maxEntries : Nat) :
    List DirectoryEntry → Nat → Nat → Except FilesystemError (List DirectoryEntry)
  | [], _, _ => .ok []
  | entry :: rest, count, estimated =>
    if count ≥ maxEntries then .ok []
    else if entryBound entry > maxDirectoryResultJsonBytes then .error .directoryEntryTooLarge
    else if estimated + entryBound entry > maxDirectoryResultJsonBytes then .ok []
    else do
      let others ← fillPage maxEntries rest (count + 1) (estimated + entryBound entry)
      .ok (entry :: others)

/-- How many entries of a sorted listing a cursor has already passed. -/
def passed (entries : List DirectoryEntry) (after : Option String) : Nat :=
  match after with
  | none => 0
  | some cursor => (entries.takeWhile fun entry => entry.name ≤ cursor).length

/-- One page of a directory, from a cursor on. -/
def listDirectoryPage (policy : FilesystemPolicy) (opened : Except FilesystemError Directory)
    (after : Option String) : Except FilesystemError DeviceResult := do
  let directory ← opened
  let scanned ← scanEntries policy.maxDirectoryScanEntries directory.listing
  let entries := sortBy name scanned
  let remaining := entries.drop (passed entries after)
  let page ← fillPage policy.maxDirectoryEntries remaining 0 0
  if remaining ≠ [] ∧ page = [] then .error .directoryEntryTooLarge
  else
    let truncated := decide (remaining.length > page.length)
    .ok (.directoryEntries page truncated after
      (if truncated then page.getLast?.map name else none))

theorem eq_of_scanEntries {limit : Nat} {listing : List (Except FilesystemError DirectoryEntry)}
    {scanned : List DirectoryEntry} (scan : scanEntries limit listing = .ok scanned) :
    listing = scanned.map .ok := by
  induction listing generalizing limit scanned with
  | nil =>
    simp only [scanEntries, Except.ok.injEq] at scan
    rw [← scan]
    rfl
  | cons entry rest ih =>
    cases limit with
    | zero => cases scan
    | succ limit =>
      simp only [scanEntries, bind_eq_ok] at scan
      obtain ⟨first, rfl, others, more, same⟩ := scan
      cases same
      rw [List.map_cons, ← ih more]

/-- A page is a beginning of what remains. -/
theorem fillPage_prefix {maxEntries count estimated : Nat} {remaining page : List DirectoryEntry}
    (filled : fillPage maxEntries remaining count estimated = .ok page) : page <+: remaining := by
  induction remaining generalizing count estimated page with
  | nil =>
    cases filled
    exact List.prefix_rfl
  | cons entry rest ih =>
    rw [fillPage] at filled
    split at filled
    · cases filled
      exact List.nil_prefix
    · split at filled
      · cases filled
      · split at filled
        · cases filled
          exact List.nil_prefix
        · simp only [bind_eq_ok] at filled
          obtain ⟨others, more, same⟩ := filled
          cases same
          exact List.cons_prefix_cons.mpr ⟨rfl, ih more⟩

variable {entries : List DirectoryEntry}

theorem strictlySorted_of_pairwise (sorted : entries.Pairwise fun a b => a.name < b.name) :
    strictlySorted entries = true := by
  induction entries with
  | nil => rfl
  | cons a rest ih =>
    cases rest with
    | nil => rfl
    | cons b rest =>
      rw [strictlySorted, ih sorted.of_cons, Bool.and_true, decide_eq_true_eq]
      exact List.rel_of_pairwise_cons sorted List.mem_cons_self

/-- Sorting distinct names puts each strictly before the next. -/
theorem pairwise_sortBy (distinct : (entries.map name).Nodup) :
    (sortBy name entries).Pairwise fun a b => a.name < b.name := by
  have ordered : (sortBy name entries).Pairwise fun a b => a.name ≤ b.name := by
    let before (a b : DirectoryEntry) : Prop := a.name ≤ b.name
    exact List.pairwise_insertionSort before entries
  have apart : (sortBy name entries).Pairwise fun a b => a.name ≠ b.name := by
    rw [← List.pairwise_map (f := name)]
    exact ((sortBy_perm _ entries).map _).nodup_iff.mpr distinct
  refine (ordered.and apart).imp fun both => ?_
  exact String.not_le.mp fun back => both.2 (String.le_antisymm both.1 back)

/-- What remains of a sorted listing comes after the cursor. -/
theorem after_of_mem_remaining {cursor : String}
    (sorted : entries.Pairwise fun a b => a.name < b.name) {entry : DirectoryEntry}
    (mem : entry ∈ entries.drop (passed entries (some cursor))) : cursor < entry.name := by
  induction entries with
  | nil => simp at mem
  | cons first rest ih =>
    by_cases skipped : first.name ≤ cursor
    · simp only [passed, List.takeWhile_cons, skipped] at mem
      exact ih sorted.of_cons mem
    · simp only [passed, List.takeWhile_cons, skipped] at mem
      have beyond := String.not_le.mp skipped
      rcases List.mem_cons.mp mem with rfl | later
      · exact beyond
      · exact String.lt_trans beyond (List.rel_of_pairwise_cons sorted later)

theorem listDirectoryPage_matches {policy : FilesystemPolicy}
    {opened : Except FilesystemError Directory} {path : String} {after : Option String}
    {result : DeviceResult} (listed : listDirectoryPage policy opened after = .ok result) :
    result.matchesCommand (.listDirectory path after) = true := by
  simp only [listDirectoryPage, bind_eq_ok] at listed
  obtain ⟨directory, rfl, scanned, scan, page, filled, listed⟩ := listed
  obtain ⟨shown, listed⟩ := guard_eq_ok.mp listed
  cases listed
  have distinct : (scanned.map name).Nodup := by
    have names := directory.distinct
    rw [eq_of_scanEntries scan] at names
    simpa [Except.toOption] using names
  have sorted := pairwise_sortBy distinct
  set entries := sortBy name scanned
  set remaining := entries.drop (passed entries after)
  have lead := fillPage_prefix filled
  simp only [matchesCommand, entriesFit, decide_true, Bool.true_and, Bool.and_eq_true]
  refine ⟨⟨?_, ?_⟩, ?_⟩
  · exact strictlySorted_of_pairwise ((sorted.sublist (List.drop_sublist _ _)).sublist lead.sublist)
  · cases after with
    | none => rfl
    | some cursor =>
      rw [Option.all_some, List.all_eq_true]
      intro entry mem
      exact decide_eq_true (after_of_mem_remaining sorted (lead.subset mem))
  · split
    · next more =>
      have some_left : remaining ≠ [] := by
        intro none_left
        simp [none_left] at more
      have filled_some : page ≠ [] := fun empty => shown ⟨some_left, empty⟩
      simp [filled_some]
    · rfl

end Gateway.Agent
