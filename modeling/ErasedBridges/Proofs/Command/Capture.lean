import Mathlib
import ErasedBridges.Command.Output

/-!
# What is kept of a stream

A stream is read to its end, and its first bytes are kept. The invariant of the loop is that after
every read the bytes and the flag are those of the part of the stream that was read so far, so they
do not depend on how this part came.
-/

namespace ErasedBridges

/-- The reads give the stream: some bytes each, and not more than the buffer holds. -/
structure Splits (reads : List Bytes) (stream : Bytes) : Prop where
  flatten_eq : reads.flatten = stream
  nonempty : ∀ bytes ∈ reads, bytes ≠ []
  fits : ∀ bytes ∈ reads, bytes.length ≤ bufferSize

theorem splits_bufferfuls (stream : Bytes) : Splits (bufferfuls stream) stream := by
  induction stream using bufferfuls.induct with
  | case1 =>
    rw [bufferfuls]
    exact ⟨rfl, List.forall_mem_nil _, List.forall_mem_nil _⟩
  | case2 b bytes ih =>
    rw [bufferfuls]
    refine ⟨?_, List.forall_mem_cons.2 ⟨?_, ih.nonempty⟩, List.forall_mem_cons.2 ⟨?_, ih.fits⟩⟩
    · rw [List.flatten_cons, ih.flatten_eq, List.take_append_drop]
    · simp [bufferSize]
    · exact List.length_take_le _ _

namespace Captured

variable {maxBytes : Nat} {c : Captured} {reads : List Bytes} {stream : Bytes}

/-- The bytes and the flag are those of a stream of which so much was read. -/
structure IsOf (maxBytes : Nat) (stream : Bytes) (c : Captured) : Prop where
  bytes_eq : c.bytes = stream.take maxBytes
  truncated_iff : c.truncated = true ↔ maxBytes < stream.length

theorem isOf_empty (maxBytes : Nat) : empty.IsOf maxBytes [] := by
  constructor
  · exact List.take_nil.symm
  · simp [empty]

/-- A read may end before the limit, reach it, pass it or come after it. -/
theorem IsOf.keep (h : c.IsOf maxBytes stream) (bytes : Bytes) :
    (c.keep maxBytes bytes).IsOf maxBytes (stream ++ bytes) := by
  have hlength : c.bytes.length = min maxBytes stream.length := by
    rw [h.bytes_eq, List.length_take]
  have hroom : maxBytes - c.bytes.length = maxBytes - stream.length := by
    omega
  constructor
  · calc (c.keep maxBytes bytes).bytes
        = c.bytes ++ bytes.take (maxBytes - c.bytes.length) := by
          rw [Captured.keep, ← List.take_eq_take_min]
      _ = stream.take maxBytes ++ bytes.take (maxBytes - stream.length) := by
          rw [hroom, h.bytes_eq]
      _ = (stream ++ bytes).take maxBytes := List.take_append.symm
  · rw [Captured.keep, Bool.or_eq_true, decide_eq_true_iff, h.truncated_iff, hroom,
      List.length_append]
    omega

theorem IsOf.foldl_keep (h : c.IsOf maxBytes stream) (reads : List Bytes) :
    (reads.foldl (Captured.keep maxBytes) c).IsOf maxBytes (stream ++ reads.flatten) := by
  induction reads generalizing c stream with
  | nil =>
    rw [List.flatten_nil, List.append_nil]
    exact h
  | cons bytes reads ih =>
    have hkept := ih (h.keep bytes)
    rw [List.append_assoc] at hkept
    exact hkept

/-- Reads that give bytes are all kept, as far as there is room. -/
theorem readOn_append (hreads : ∀ bytes ∈ reads, bytes ≠ []) (later : List ReadResult) :
    readOn maxBytes c (reads.map .ok ++ later) =
      readOn maxBytes (reads.foldl (keep maxBytes) c) later := by
  induction reads generalizing c with
  | nil => rfl
  | cons bytes reads ih =>
    obtain ⟨hbytes, hrest⟩ := List.forall_mem_cons.1 hreads
    cases bytes with
    | nil => exact absurd rfl hbytes
    | cons b bytes => exact ih hrest

theorem exists_read (h : Splits reads stream) (maxBytes : Nat) (later : List ReadResult) :
    ∃ c : Captured, read maxBytes (reads.map .ok ++ .ok [] :: later) = .ok (c, later) ∧
      c.IsOf maxBytes stream := by
  have hkept := (isOf_empty maxBytes).foldl_keep reads
  rw [List.nil_append, h.flatten_eq] at hkept
  refine ⟨_, ?_, hkept⟩
  rw [read, readOn_append h.nonempty, readOn]

/-- A stream is read to its end and not further, and what is kept of it is the same for all ways
in which it can be split into reads. -/
theorem read_of_splits (h : Splits reads stream) (maxBytes : Nat) (later : List ReadResult) :
    ∃ c, read maxBytes (reads.map .ok ++ .ok [] :: later) = .ok (c, later) ∧
      c.bytes = stream.take (min maxBytes stream.length) ∧
      (c.truncated = true ↔ maxBytes < stream.length) := by
  obtain ⟨c, hread, hkept⟩ := exists_read h maxBytes later
  refine ⟨c, hread, ?_, hkept.truncated_iff⟩
  rw [hkept.bytes_eq, List.take_eq_take_min]

/-- The second read passes the limit of four bytes, and the third one comes after it. -/
theorem read_of_splits_four :
    Splits [[1, 2, 3], [4, 5], [6]] [1, 2, 3, 4, 5, 6] ∧
      ∃ c, read 4 ([[1, 2, 3], [4, 5], [6]].map .ok ++ .ok [] :: [.ok [7]]) = .ok (c, [.ok [7]]) ∧
        c.bytes = [1, 2, 3, 4] ∧ (c.truncated = true ↔ 4 < 6) := by
  have hsplits : Splits [[1, 2, 3], [4, 5], [6]] [1, 2, 3, 4, 5, 6] :=
    ⟨rfl, by decide, by decide⟩
  exact ⟨hsplits, read_of_splits hsplits 4 [.ok [7]]⟩

/-- A read that fails ends the reading, and nothing is kept. -/
theorem read_of_failure (h : ∀ bytes ∈ reads, bytes ≠ []) (maxBytes : Nat) (e : OsError)
    (later : List ReadResult) :
    read maxBytes (reads.map .ok ++ .error e :: later) = .error e := by
  rw [read, readOn_append h, readOn]

end Captured

/-- The output of a command does not depend on how its streams come. -/
theorem Output.ofReads_of_splits {outReads errReads : List Bytes} {out err : Bytes}
    (hout : Splits outReads out) (herr : Splits errReads err) (maxBytes : Nat)
    (later later' : List ReadResult) :
    Output.ofReads maxBytes (outReads.map .ok ++ .ok [] :: later)
        (errReads.map .ok ++ .ok [] :: later') =
      .ok ⟨Text.decodeLossy (out.take maxBytes), Text.decodeLossy (err.take maxBytes),
        decide (maxBytes < out.length ∨ maxBytes < err.length)⟩ := by
  obtain ⟨o, ho, hkeptOut⟩ := Captured.exists_read hout maxBytes later
  obtain ⟨e, he, hkeptErr⟩ := Captured.exists_read herr maxBytes later'
  have htruncated : (o.truncated || e.truncated) =
      decide (maxBytes < out.length ∨ maxBytes < err.length) := by
    rw [Bool.eq_iff_iff, Bool.or_eq_true, decide_eq_true_iff, hkeptOut.truncated_iff,
      hkeptErr.truncated_iff]
  rw [Output.ofReads, ho, he, ← hkeptOut.bytes_eq, ← hkeptErr.bytes_eq, ← htruncated]
  rfl

end ErasedBridges
