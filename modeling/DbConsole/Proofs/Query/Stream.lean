import DbConsole.Query.Stream
import Mathlib.Data.List.Basic

namespace DbConsole

/-- A list cut into pieces of one size. The last may be shorter, and none is empty. -/
structure Pieces {α : Type} (size : Nat) (l : List α) (pieces : List (List α)) : Prop where
  flatten : pieces.flatten = l
  nonempty : ∀ piece ∈ pieces, piece ≠ []
  full : ∀ piece ∈ pieces.dropLast, piece.length = size
  within : ∀ piece ∈ pieces, piece.length ≤ size

namespace Pieces

variable {α : Type} {size : Nat} {l piece : List α} {pieces : List (List α)}

theorem eq_nil (h : Pieces size ([] : List α) pieces) : pieces = [] := by
  cases pieces with
  | nil => rfl
  | cons piece rest =>
    have hflatten := h.flatten
    rw [List.flatten_cons, List.append_eq_nil_iff] at hflatten
    exact absurd hflatten.1 (h.nonempty piece (.head _))

theorem single (hne : l ≠ []) (hl : l.length ≤ size) : Pieces size l [l] where
  flatten := List.flatten_singleton
  nonempty := by simpa using hne
  full := nofun
  within := by simpa using hl

theorem cons (hne : piece ≠ []) (hsize : piece.length = size) (h : Pieces size l pieces) :
    Pieces size (piece ++ l) (piece :: pieces) where
  flatten := by rw [List.flatten_cons, h.flatten]
  nonempty := List.forall_mem_cons.mpr ⟨hne, h.nonempty⟩
  full := by
    cases pieces with
    | nil => nofun
    | cons next rest =>
      rw [List.dropLast_cons_cons]
      exact List.forall_mem_cons.mpr ⟨hsize, h.full⟩
  within := List.forall_mem_cons.mpr ⟨Nat.le_of_eq hsize, h.within⟩

end Pieces

theorem pieces_chunks {α : Type} (size : Nat) (l : List α) :
    Pieces (size + 1) l (chunks size l) := by
  induction l using chunks.induct size with
  | case1 =>
    rw [chunks]
    exact ⟨rfl, nofun, nofun, nofun⟩
  | case2 a rest ih =>
    have hsplit : (a :: rest.take size) ++ rest.drop size = a :: rest := by
      rw [List.cons_append, List.take_append_drop]
    rw [chunks]
    by_cases hl : rest.length ≤ size
    · rw [List.drop_eq_nil_of_le hl, List.take_of_length_le hl, chunks]
      exact .single (List.cons_ne_nil a rest) (Nat.succ_le_succ hl)
    · have hlength : (a :: rest.take size).length = size + 1 := by
        rw [List.length_cons, List.length_take, Nat.min_eq_left (by omega)]
      have hpieces := ih.cons (List.cons_ne_nil a _) hlength
      rwa [hsplit] at hpieces

theorem pieces_batches (size : Nat) (rows : List Row) :
    Pieces (max size 1) rows (batches size rows) := by
  have hsize : size - 1 + 1 = max size 1 := by omega
  rw [← hsize]
  exact pieces_chunks (size - 1) rows

end DbConsole
