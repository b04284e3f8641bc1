import DbConsole.Proofs.Console.Handles
import Mathlib.Data.List.Perm.Basic

namespace DbConsole

namespace Console

variable {c c' : Console} {h hd : Handle} {s s' : Session} {id : String}

def opened (c : Console) : List Session := c.sessions.gather fun e => e.2.all

theorem opened_new (catalog : Catalog) (pageSize : Nat) :
    (Console.new catalog pageSize).opened = [] := rfl

theorem opened_putLineage (c : Console) (id : String) : ∃ rest,
    c.opened.Perm ((c.lineage id).all ++ rest) ∧
      ∀ l, (c.putLineage id l).opened.Perm (l.all ++ rest) := by
  refine ⟨(c.sessions.erase id).gather fun e => e.2.all, ?_,
    fun l => SortedMap.gather_insert_perm c.sessions id l fun e => e.2.all⟩
  cases hf : c.sessions.find? id with
  | none =>
    rw [SortedMap.erase_of_find?_none hf]
    unfold lineage
    rw [hf]
    exact .refl _
  | some l =>
    unfold lineage
    rw [hf]
    exact SortedMap.gather_perm (fun e => e.2.all) hf

theorem mem_opened : s ∈ c.opened ↔ ∃ h, c.sessionAt h = some s := by
  constructor
  · intro hs
    obtain ⟨⟨id, l⟩, he, hm⟩ := SortedMap.mem_gather.mp hs
    obtain ⟨i, hi⟩ := List.mem_iff_getElem?.mp hm
    refine ⟨⟨id, i⟩, ?_⟩
    have hl : c.lineage id = l := by
      unfold lineage
      rw [SortedMap.find?_eq_some_iff.mpr he]
      rfl
    unfold sessionAt
    rw [hl, Lineage.get?_eq]
    exact hi
  · rintro ⟨h, hs⟩
    unfold sessionAt at hs
    rw [Lineage.get?_eq] at hs
    obtain ⟨rest, hp, _⟩ := opened_putLineage c h.id
    exact hp.mem_iff.mpr (List.mem_append_left _ (List.mem_of_getElem? hs))

theorem perm_set {l : List Session} {i : Nat} (h : l[i]? = some s) (s' : Session) :
    l.Perm (s :: l.eraseIdx i) ∧ (l.set i s').Perm (s' :: l.eraseIdx i) := by
  obtain ⟨hi, rfl⟩ := List.getElem?_eq_some_iff.mp h
  exact ⟨(List.getElem_cons_eraseIdx_perm hi).symm, List.set_perm_cons_eraseIdx hi s'⟩

theorem opened_set (hs : c.sessionAt h = some s) : ∃ rest, c.opened.Perm (s :: rest) ∧
    ∀ l s', l.all = (c.lineage h.id).all.set h.place s' →
      (c.putLineage h.id l).opened.Perm (s' :: rest) := by
  unfold sessionAt at hs
  rw [Lineage.get?_eq] at hs
  obtain ⟨rest, hold, hnew⟩ := opened_putLineage c h.id
  refine ⟨(c.lineage h.id).all.eraseIdx h.place ++ rest, ?_, fun l s' hl => ?_⟩
  · exact hold.trans ((perm_set hs s).1.append_right rest)
  · have hp := hnew l
    rw [hl] at hp
    exact hp.trans ((perm_set hs s').2.append_right rest)

theorem opened_putHeld (hs : c.sessionAt h = some s) : ∃ rest, c.opened.Perm (s :: rest) ∧
    ∀ s', (c.putHeld h s').opened.Perm (s' :: rest) := by
  obtain ⟨rest, hold, hnew⟩ := opened_set hs
  exact ⟨rest, hold, fun s' => hnew _ s' (Lineage.all_set hs s')⟩

theorem opened_retire (hs : c.session? id = some s) : ∃ rest, c.opened.Perm (s :: rest) ∧
    (c.putLineage id (c.lineage id).retire).opened.Perm (s.close :: rest) := by
  obtain ⟨rest, hold, hnew⟩ := opened_set (sessionAt_place hs)
  exact ⟨rest, hold, hnew _ s.close (Lineage.all_retire hs)⟩

theorem opened_putSession (hf : ¬c.isRegistered id) (s : Session) :
    (c.putSession id s).opened.Perm (s :: c.opened) := by
  have hn : (c.lineage id).current = none := by
    simpa [isRegistered, session?] using hf
  obtain ⟨rest, hold, hnew⟩ := opened_putLineage c id
  have hp := hnew ((c.lineage id).register s)
  rw [Lineage.all_register hn, List.append_assoc] at hp
  exact hp.trans (List.perm_middle.trans (hold.symm.cons s))

variable {P : Session → Prop}

theorem evolves_preserves (changes : ∀ {s s'}, P s → c.Changes s s' → P s') (hs : P s)
    (he : c.Evolves s s') : P s' := by
  induction he with
  | refl => exact hs
  | tail _ hc ih => exact changes ih hc

theorem forall_opened_of_moves (opens : ∀ {id s}, c.Opens id s → P s)
    (changes : ∀ {s s'}, P s → c.Changes s s' → P s') (hc : ∀ s ∈ c.opened, P s)
    (hm : c.Moves c') : ∀ s ∈ c'.opened, P s := by
  intro s' hs'
  obtain ⟨h, hs'⟩ := mem_opened.mp hs'
  obtain ⟨hold, hnew⟩ := evolves_of_moves hm h
  cases hx : c.sessionAt h with
  | none =>
    obtain ⟨s, ho, he⟩ := hnew hx s' hs'
    exact evolves_preserves changes (opens ho) he
  | some s =>
    obtain ⟨s₁, hs₁, he⟩ := hold s hx
    cases hs₁.symm.trans hs'
    exact evolves_preserves changes (hc s (mem_opened.mpr ⟨h, hx⟩)) he

theorem invariant_opens (hP : Session.Invariant P) (ho : c.Opens id s) : P s := by
  obtain ⟨request, r, q, _⟩ := ho
  exact hP.opened id r q _

theorem invariant_changes (hP : Session.Invariant P) (hs : P s) (hc : c.Changes s s') : P s' := by
  cases hc with
  | act _ ha => exact hP.acts hs ha
  | close => exact hP.closed hs
  | settle => exact hP.settled _ hs

theorem invariant_of_moves (hP : Session.Invariant P) (hc : ∀ s ∈ c.opened, P s)
    (hm : c.Moves c') : ∀ s ∈ c'.opened, P s :=
  forall_opened_of_moves (invariant_opens hP) (invariant_changes hP) hc hm

theorem forall_opened_run (hP : Session.Invariant P) (catalog : Catalog) (pageSize : Nat)
    (steps : List Step) : ∀ s ∈ ((Console.new catalog pageSize).run steps).opened, P s := by
  refine run_preserves (P := fun c => ∀ s ∈ c.opened, P s) ?_ ?_ steps ?_
  · exact fun _ h => h
  · exact invariant_of_moves hP
  · rw [opened_new]
    exact fun _ hs => (List.not_mem_nil hs).elim

end Console

end DbConsole
