import Mathlib.Data.List.Basic

/-! Lines on a byte stream. -/
namespace Gateway.Data

def newline : UInt8 := 10

/-- Bytes without a line end. -/
structure Line where
  bytes : List UInt8
  whole : newline ∉ bytes
  deriving DecidableEq

namespace Line

/-- A line as it is sent. -/
def sent (line : Line) : List UInt8 :=
  line.bytes ++ [newline]

theorem sent_ne_nil (line : Line) : line.sent ≠ [] :=
  List.append_ne_nil_of_right_ne_nil _ (List.cons_ne_nil _ _)

@[simp]
theorem dropLast_sent (line : Line) : line.sent.dropLast = line.bytes := List.dropLast_concat

end Line

/-- The first line of a stream, and what comes after it. -/
def splitLine : List UInt8 → Option (List UInt8 × List UInt8)
  | [] => none
  | byte :: rest =>
    if byte = newline then some ([], rest)
    else (splitLine rest).map fun parts => (byte :: parts.1, parts.2)

/-- A stream up to its first line end, which is taken with it. -/
def uptoNewline : List UInt8 → List UInt8
  | [] => []
  | byte :: rest => if byte = newline then [byte] else byte :: uptoNewline rest

theorem splitLine_of_not_mem {bytes : List UInt8} (none : newline ∉ bytes) :
    splitLine bytes = Option.none := by
  induction bytes with
  | nil => rfl
  | cons byte rest ih =>
    have here : byte ≠ newline := fun is => none (is ▸ List.mem_cons_self)
    rw [splitLine, if_neg here, ih fun later => none (List.mem_cons_of_mem _ later)]
    rfl

theorem splitLine_sent (line : Line) : splitLine line.sent = some (line.bytes, []) := by
  obtain ⟨bytes, whole⟩ := line
  show splitLine (bytes ++ [newline]) = some (bytes, [])
  induction bytes with
  | nil => rfl
  | cons byte rest ih =>
    have here : byte ≠ newline := fun is => whole (is ▸ List.mem_cons_self)
    rw [List.cons_append, splitLine, if_neg here,
      ih fun later => whole (List.mem_cons_of_mem _ later)]
    rfl

variable {before after : List UInt8} {line : Line}

/-- A piece of one line is read whole. -/
theorem uptoNewline_of_append {piece : List UInt8} (is : before ++ piece ++ after = line.sent) :
    uptoNewline piece = piece := by
  induction piece generalizing before with
  | nil => rfl
  | cons byte rest ih =>
    rw [uptoNewline]
    split
    · next ends =>
      -- A line end is the last byte there is.
      cases rest with
      | nil => rfl
      | cons next more =>
        exfalso
        have apart : line.bytes = (before ++ byte :: next :: (more ++ after)).dropLast := by
          rw [← line.dropLast_sent, ← is]
          simp
        apply line.whole
        rw [apart, ← ends]
        simp
    · rw [@ih (before ++ [byte]) (by simpa using is)]

/-- A line that is not finished has no line end. -/
theorem not_mem_of_append (more : after ≠ []) (is : before ++ after = line.sent) :
    newline ∉ before := by
  intro listed
  apply line.whole
  rw [← line.dropLast_sent, ← is, List.dropLast_append_of_ne_nil more]
  exact List.mem_append_left _ listed

/-- What is left of a line has its end. -/
theorem mem_of_append (more : after ≠ []) (is : before ++ after = line.sent) : newline ∈ after := by
  rcases List.eq_nil_or_concat after with rfl | ⟨init, last, rfl⟩
  · exact absurd rfl more
  · rw [List.concat_eq_append] at is ⊢
    rw [← List.append_assoc] at is
    obtain ⟨-, ends⟩ := List.append_inj' is rfl
    rw [ends]
    exact List.mem_append_right _ List.mem_cons_self

/-- The part of a line that ends it ends the line. -/
theorem eq_nil_of_ends (ends : newline ∈ before) (is : before ++ after = line.sent) :
    after = [] := by
  by_contra more
  exact not_mem_of_append more is ends

end Gateway.Data
