import DbConsole.Proofs.Console.Moves
import DbConsole.Proofs.View.Request

namespace DbConsole

open Console

/-- How many connections an opening holds that no session owns yet. -/
def Opening.held : Opening → Nat
  | .connected _ => 1
  | .prepared s => s.connections
  | .asked | .admitted | .done _ => 0

/-- An opening that has come this far by its own steps. -/
inductive Opening.Valid (catalog : Catalog) (id : String) (request : ViewRequest) :
    Opening → Prop where
  | asked : Valid catalog id request .asked
  | admitted : Valid catalog id request .admitted
  | connected (hr : catalog.reach request.target.database = .ok ()) :
    Valid catalog id request (.connected ⟨request.target.database⟩)
  | prepared (r : Relation) (q : Select) (hr : catalog.reach request.target.database = .ok ())
    (hp : request.prepare (catalog.relation request.target.database request.target.oid) =
      .ok (r, q)) :
    Valid catalog id request (.prepared (.new id r q ⟨request.target.database⟩))
  | done (answer : Except ViewError String) : Valid catalog id request (.done answer)

namespace Console

/-- A session is opened under an id that is free. -/
inductive OpenMove (id : String) (c : Console) : Console → Prop where
  | opened (request : ViewRequest) (r : Relation) (q : Select) (hf : ¬c.isRegistered id)
    (hr : c.catalog.reach request.target.database = .ok ())
    (hp : request.prepare (c.catalog.relation request.target.database request.target.oid) =
      .ok (r, q)) :
    OpenMove id c { c.putSession id (.new id r q ⟨request.target.database⟩) with
      connections := c.connections + 1 }

theorem OpenMove.session {c c' : Console} {id : String} (h : c.OpenMove id c') :
    c.SessionMove c' := by
  cases h with
  | opened request r q hf hr hp => exact .opened id request r q hf hr hp

/-- With so many connections more, which openings hold. -/
def lend (c : Console) (n : Nat) : Console := { c with connections := c.connections + n }

theorem SessionMove.catalog_eq {c c' : Console} (h : c.SessionMove c') :
    c'.catalog = c.catalog := by
  cases h <;> rfl

theorem catalog_eq_of_sessions {c c' : Console} (h : Relation.ReflTransGen SessionMove c c') :
    c'.catalog = c.catalog := by
  induction h with
  | refl => rfl
  | tail _ h ih => exact h.catalog_eq.trans ih

theorem sessions_of_openings {c c' : Console} {id : String}
    (h : Relation.ReflTransGen (OpenMove id) c c') : Relation.ReflTransGen SessionMove c c' :=
  Relation.ReflTransGen.mono (r := OpenMove id) (fun _ _ => OpenMove.session) _ _ h

theorem catalog_eq_of_openings {c c' : Console} {id : String}
    (h : Relation.ReflTransGen (OpenMove id) c c') : c'.catalog = c.catalog :=
  catalog_eq_of_sessions (sessions_of_openings h)

theorem release_lend (c : Console) (n m : Nat) : (c.lend (n + m)).release m = c.lend n := by
  simp only [lend, release, ← Nat.add_assoc, Nat.add_sub_cancel]

variable (id : String) (request : ViewRequest)

theorem advance_moves (c : Console) (n : Nat) {o : Opening}
    (hv : o.Valid c.catalog id request) : ∃ o' c',
      (c.lend (n + o.held)).advance id request o = (o', c'.lend (n + o'.held)) ∧
      Relation.ReflTransGen (OpenMove id) c c' ∧ o'.Valid c.catalog id request := by
  cases hv with
  | asked =>
    simp only [advance]
    split
    · exact ⟨_, c, rfl, .refl, .done _⟩
    · exact ⟨_, c, rfl, .refl, .admitted⟩
  | admitted =>
    simp only [advance]
    split
    · exact ⟨_, c, rfl, .refl, .done _⟩
    · next hk =>
      obtain ⟨hr, hk⟩ := connect_eq_ok hk
      cases hk
      exact ⟨_, c, rfl, .refl, .connected hr⟩
  | connected hr =>
    simp only [advance]
    split
    · next e _ => exact ⟨.done (.error e), c, Prod.ext rfl (release_lend c n 1), .refl, .done _⟩
    · next hp =>
      obtain ⟨hf, hk⟩ := ViewRequest.prepare_eq_ok.mp hp
      have hp' := ViewRequest.prepare_eq_ok.mpr ⟨ok_of_strike hf, hk⟩
      exact ⟨_, c, rfl, .refl, .prepared _ _ hr hp'⟩
  | prepared r q hr hp =>
    simp only [advance]
    split
    · exact ⟨.done _, c, Prod.ext rfl (release_lend c n 1), .refl, .done _⟩
    · next hf =>
      have hn : c.connections + (n + 1) = c.connections + 1 + n := by omega
      refine ⟨.done _, _, Prod.ext rfl ?_, .single (.opened request r q hf hr hp), .done _⟩
      exact congrArg (fun m => { c.putSession id _ with connections := m }) hn
  | done answer => exact ⟨_, c, rfl, .refl, .done _⟩

theorem complete_advance (c : Console) (o : Opening) :
    (c.advance id request o).2.complete id request (c.advance id request o).1 =
      c.complete id request o := by
  cases o with
  | done answer => rfl
  | asked | admitted | connected k | prepared s =>
    symm
    rw [complete]

theorem complete_moves (c : Console) (n : Nat) {o : Opening}
    (hv : o.Valid c.catalog id request) : ∃ answer c',
      (c.lend (n + o.held)).complete id request o = (answer, c'.lend n) ∧
      Relation.ReflTransGen (OpenMove id) c c' := by
  obtain ⟨steps, hs⟩ : ∃ steps, o.stepsLeft ≤ steps := ⟨_, Nat.le_refl _⟩
  induction steps generalizing c o with
  | zero =>
    cases o with
    | done answer => exact ⟨answer, c, by rw [complete]; rfl, .refl⟩
    | asked | admitted | connected k | prepared s => cases hs
  | succ steps ih =>
    have hle := stepsLeft_advance id request (c.lend (n + o.held)) o
    obtain ⟨o₁, c₁, ha, hm, hv₁⟩ := advance_moves id request c n hv
    rw [ha] at hle
    have hlt : o₁.stepsLeft ≤ steps := Nat.le_trans hle (Nat.sub_le_of_le_add hs)
    obtain ⟨answer, c₂, hc, hm₂⟩ := ih c₁ (catalog_eq_of_openings hm ▸ hv₁) hlt
    refine ⟨answer, c₂, ?_, hm.trans hm₂⟩
    rw [← complete_advance, ha]
    exact hc

theorem interleave_moves (second : ViewRequest) (c : Console) {a b : Opening} (turns : List Turn)
    (ha : a.Valid c.catalog id request) (hb : b.Valid c.catalog id second) :
    ∃ a' b' c', (c.lend (a.held + b.held)).interleave id request second a b turns =
        (a', b', c'.lend (a'.held + b'.held)) ∧ Relation.ReflTransGen (OpenMove id) c c' ∧
      a'.Valid c.catalog id request ∧ b'.Valid c.catalog id second := by
  induction turns generalizing c a b with
  | nil => exact ⟨a, b, c, rfl, .refl, ha, hb⟩
  | cons turn rest ih =>
    cases turn with
    | first =>
      obtain ⟨a₁, c₁, he, hm, hv⟩ := advance_moves id request c b.held ha
      have hk := catalog_eq_of_openings hm
      obtain ⟨a', b', c', hi, hm', ha', hb'⟩ := ih c₁ (hk ▸ hv) (hk ▸ hb)
      refine ⟨a', b', c', ?_, hm.trans hm', hk ▸ ha', hk ▸ hb'⟩
      rw [interleave, Nat.add_comm a.held, he, Nat.add_comm b.held]
      exact hi
    | second =>
      obtain ⟨b₁, c₁, he, hm, hv⟩ := advance_moves id second c a.held hb
      have hk := catalog_eq_of_openings hm
      obtain ⟨a', b', c', hi, hm', ha', hb'⟩ := ih c₁ (hk ▸ ha) (hk ▸ hv)
      refine ⟨a', b', c', ?_, hm.trans hm', hk ▸ ha', hk ▸ hb'⟩
      rw [interleave, he]
      exact hi

theorem openSession_moves (c : Console) :
    Relation.ReflTransGen (OpenMove id) c (c.openSession id request).2 := by
  obtain ⟨answer, c', he, hm⟩ := complete_moves id request c 0 .asked
  have he' : c.openSession id request = (answer, c') := he
  rw [he']
  exact hm

theorem openPair_moves (second : ViewRequest) (c : Console) (turns : List Turn) :
    Relation.ReflTransGen (OpenMove id) c (c.openPair id request second turns).2.2 := by
  obtain ⟨a, b, c₁, hi, hm, ha, hb⟩ := interleave_moves id request second c turns .asked .asked
  have hk := catalog_eq_of_openings hm
  obtain ⟨answer, c₂, h₂, hm₂⟩ := complete_moves id request c₁ b.held (hk ▸ ha)
  have hk₂ := catalog_eq_of_openings hm₂
  obtain ⟨other, c₃, h₃, hm₃⟩ := complete_moves id second c₂ 0 (hk₂ ▸ hk ▸ hb)
  have hi' : c.interleave id request second .asked .asked turns =
    (a, b, c₁.lend (b.held + a.held)) := Nat.add_comm a.held b.held ▸ hi
  have h₃' : (c₂.lend b.held).complete id second b = (other, c₃) :=
    Nat.zero_add b.held ▸ h₃
  have he : c.openPair id request second turns = (answer, other, c₃) := by
    simp only [openPair, hi', h₂, h₃']
  rw [he]
  exact hm.trans (hm₂.trans hm₃)

end Console

end DbConsole
