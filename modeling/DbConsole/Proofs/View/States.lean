import DbConsole.Proofs.View.Deeds
import Mathlib.Data.List.Chain

namespace DbConsole

namespace SessionState

variable {x last : SessionState} {l : List SessionState}

/-- What a state may turn into by one deed. -/
inductive Follows : SessionState → SessionState → Prop where
  | stay (s : SessionState) : Follows s s
  | start : Follows .initialized .running
  | finish (s : SessionState) (h : s.phase.isFinal = true) : Follows .running s

/-- The states of a session in their order, each of them found any number of times: initialized
first, then running, and at last completed or failed for good. None is left out. -/
def Progresses (l : List SessionState) : Prop :=
  ∃ (i r f : Nat) (last : SessionState), last.phase.isFinal = true ∧ (r ≠ 0 → i ≠ 0) ∧
    (f ≠ 0 → r ≠ 0) ∧
    l = List.replicate i .initialized ++ List.replicate r .running ++ List.replicate f last

theorem eq_running (h : x.phase = .running) : x = .running := by
  cases x with
  | running => rfl
  | initialized | completed | failed => cases h

theorem eq_of_final (hf : last.phase.isFinal = true) (h : last.Follows x) : x = last := by
  cases h with
  | stay => rfl
  | start | finish => cases hf

theorem replicate_of_final (hf : last.phase.isFinal = true) (hl : (last :: l).IsChain Follows) :
    l = List.replicate l.length last := by
  induction l with
  | nil => rfl
  | cons x rest ih =>
    obtain ⟨hx, hrest⟩ := List.isChain_cons_cons.mp hl
    rw [eq_of_final hf hx] at hrest ⊢
    rw [List.length_cons, List.replicate_succ, ← ih hrest]

theorem replicate_of_running (hl : (running :: l).IsChain Follows) :
    ∃ (r f : Nat) (last : SessionState), last.phase.isFinal = true ∧
      l = List.replicate r .running ++ List.replicate f last := by
  induction l with
  | nil => exact ⟨0, 0, .failed default, rfl, rfl⟩
  | cons x rest ih =>
    obtain ⟨hx, hrest⟩ := List.isChain_cons_cons.mp hl
    cases hx with
    | stay =>
      obtain ⟨r, f, last, hf, he⟩ := ih hrest
      exact ⟨r + 1, f, last, hf, by rw [he]; rfl⟩
    | finish _ hf =>
      refine ⟨0, rest.length + 1, x, hf, ?_⟩
      rw [List.replicate_succ, ← replicate_of_final hf hrest]
      rfl

theorem progresses_of_chain (hl : (initialized :: l).IsChain Follows) :
    Progresses (initialized :: l) := by
  induction l with
  | nil => exact ⟨1, 0, 0, .failed default, rfl, by simp, by simp, rfl⟩
  | cons x rest ih =>
    obtain ⟨hx, hrest⟩ := List.isChain_cons_cons.mp hl
    cases hx with
    | stay =>
      obtain ⟨i, r, f, last, hf, hi, hr, he⟩ := ih hrest
      exact ⟨i + 1, r, f, last, hf, fun _ => Nat.succ_ne_zero i, hr, by rw [he]; rfl⟩
    | start =>
      obtain ⟨r, f, last, hf, he⟩ := replicate_of_running hrest
      exact ⟨1, r + 1, f, last, hf, by simp, by simp, by rw [he]; rfl⟩

end SessionState

namespace Session

variable {s t : Session}

theorem running_of_due (h : s.Connected) (hd : s.isDue = true) : s.state = .running := by
  have hsome : s.run.isSome = true := by
    obtain ⟨run, hr, _⟩ := (Option.any_eq_true _ _).mp hd
    rw [hr, Option.isSome_some]
  rw [h.run] at hsome
  have hp : s.cancelled = false ∧ s.state.phase = .running := by simpa using hsome
  exact SessionState.eq_running hp.2

theorem follows_of_effect (h : s.Connected) (he : s.Effect t) : s.state.Follows t.state := by
  cases he with
  | started k size hs hc hk =>
    rw [hs]
    exact .start
  | ended state hd hf =>
    rw [running_of_due h hd]
    exact .finish state hf
  | stay | looked | closed | stalled => exact .stay _

end Session

end DbConsole
