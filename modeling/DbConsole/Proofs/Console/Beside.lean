import DbConsole.Proofs.Console.Registration

namespace DbConsole

/-- Two computations that fail with the same error, or have results that are related. -/
inductive Concur {ε α : Type} (R : α → α → Prop) : Except ε α → Except ε α → Prop where
  | failed (e : ε) : Concur R (.error e) (.error e)
  | done (a b : α) (h : R a b) : Concur R (.ok a) (.ok b)

namespace Concur

variable {ε δ α β : Type} {R : α → α → Prop} {S : β → β → Prop}

theorem bind_same {x : Except ε α} {f g : α → Except ε β} (hf : ∀ a, Concur S (f a) (g a)) :
    Concur S (x >>= f) (x >>= g) := by
  cases x with
  | error e => exact .failed e
  | ok a => exact hf a

theorem eq_or {x y : Except ε α} (h : Concur R x y) :
    (∃ e, x = .error e ∧ y = .error e) ∨ ∃ a b, x = .ok a ∧ y = .ok b ∧ R a b := by
  cases h with
  | failed e => exact .inl ⟨e, rfl, rfl⟩
  | done a b h => exact .inr ⟨a, b, rfl, rfl, h⟩

theorem mapError {x y : Except ε α} (f : ε → δ) (h : Concur R x y) :
    Concur R (x.mapError f) (y.mapError f) := by
  cases h with
  | failed e => exact .failed (f e)
  | done a b h => exact .done a b h

end Concur

namespace Console

def holds (c : Console) (id name : String) : Bool := (c.handles.find? name).any (·.id = id)

theorem id_of_holds {c : Console} {id name : String} {h : Handle} (hn : c.holds id name = true)
    (hf : c.handles.find? name = some h) : h.id = id := by
  unfold holds at hn
  rw [hf] at hn
  exact of_decide_eq_true hn

theorem id_ne_of_holds {c : Console} {id name : String} {h : Handle}
    (hn : c.holds id name = false) (hf : c.handles.find? name = some h) : h.id ≠ id := by
  unfold holds at hn
  rw [hf] at hn
  exact of_decide_eq_false hn

/-- Two consoles that differ in nothing but the sessions under an id, the names that the first of
them has for these, and how many connections are open. -/
structure Beside (id : String) (c c' : Console) : Prop where
  catalog : c'.catalog = c.catalog
  links : c'.links = c.links
  faults : c'.faults = c.faults
  pageSize : c'.pageSize = c.pageSize
  lineage : ∀ other, other ≠ id → c'.lineage other = c.lineage other
  handle : ∀ name, c.holds id name = false → c'.handles.find? name = c.handles.find? name

/-- Operations on two consoles with the same answer, after which the consoles still do not differ
in more. -/
structure Agree {α : Type} (id : String) (x y : α × Console) : Prop where
  answer : y.1 = x.1
  beside : Beside id x.2 y.2

variable {c c' c₁ c₂ : Console} {id other name : String}

theorem Agree.eq_and {α : Type} {x y : α × Console} (h : Agree id x y) :
    ∃ a c c', x = (a, c) ∧ y = (a, c') ∧ Beside id c c' :=
  ⟨x.1, x.2, y.2, rfl, Prod.ext h.answer rfl, h.beside⟩

namespace Beside

theorem refl (id : String) (c : Console) : Beside id c c :=
  ⟨rfl, rfl, rfl, rfl, fun _ _ => rfl, fun _ _ => rfl⟩

theorem trans (h : Beside id c c₁) (h₁ : Beside id c₁ c₂) : Beside id c c₂ where
  catalog := h₁.catalog.trans h.catalog
  links := h₁.links.trans h.links
  faults := h₁.faults.trans h.faults
  pageSize := h₁.pageSize.trans h.pageSize
  lineage other hi := (h₁.lineage other hi).trans (h.lineage other hi)
  handle name hn := by
    have he := h.handle name hn
    have hn₁ : c₁.holds id name = false := by
      unfold holds at hn ⊢
      rw [he]
      exact hn
    exact (h₁.handle name hn₁).trans he

section

variable (h : Beside id c c')

include h

theorem relation (k : Connection) (oid : Oid) : c'.relation k oid = c.relation k oid := by
  unfold Console.relation
  rw [h.faults, h.catalog]

theorem trigger (k : Connection) (tableOid oid : Oid) :
    c'.trigger k tableOid oid = c.trigger k tableOid oid := by
  unfold Console.trigger
  rw [h.faults, h.catalog]

theorem triggerAgain (k : Connection) (tableOid oid : Oid) :
    c'.triggerAgain k tableOid oid = c.triggerAgain k tableOid oid := by
  unfold Console.triggerAgain
  rw [h.faults, h.catalog]

theorem stream (k : Connection) (q : Select) (batchSize : Nat) :
    c'.stream k q batchSize = c.stream k q batchSize := by
  unfold Console.stream
  rw [h.faults, h.catalog]

theorem relationIn (k : Connection) (schemaOid oid : Oid) (kind : RelationKind) :
    c'.relationIn k schemaOid oid kind = c.relationIn k schemaOid oid kind := by
  unfold Console.relationIn
  rw [h.relation]

theorem triggerIn (k : Connection) (schemaOid tableOid oid : Oid) :
    c'.triggerIn k schemaOid tableOid oid = c.triggerIn k schemaOid tableOid oid := by
  unfold Console.triggerIn
  rw [h.relationIn, h.trigger]

theorem session? (hi : other ≠ id) : c'.session? other = c.session? other := by
  unfold Console.session?
  rw [h.lineage other hi]

theorem isRegistered (hi : other ≠ id) : c'.isRegistered other = c.isRegistered other := by
  unfold Console.isRegistered
  rw [h.session? hi]

theorem session (hi : other ≠ id) : c'.session other = c.session other := by
  unfold Console.session
  rw [h.session? hi]

theorem held? (hn : c.holds id name = false) : c'.held? name = c.held? name := by
  unfold Console.held?
  rw [h.handle name hn]
  cases hf : c.handles.find? name with
  | none => simp
  | some hd => simp only [bind, Option.bind, h.lineage hd.id (id_ne_of_holds hn hf)]

theorem withCatalog (catalog : Catalog) :
    Beside id { c with catalog } { c' with catalog } :=
  { h with catalog := rfl }

theorem withLinks (links : SortedMap String Connection) :
    Beside id { c with links } { c' with links } :=
  { h with links := rfl }

theorem withFaults (faults : Faults) : Beside id { c with faults } { c' with faults } :=
  { h with faults := rfl }

theorem withConnections (n m : Nat) :
    Beside id { c with connections := n } { c' with connections := m } := { h with }

theorem release (n m : Nat) : Beside id (c.release n) (c'.release m) := h.withConnections _ _

theorem putLineage (other : String) (l : Lineage) :
    Beside id (c.putLineage other l) (c'.putLineage other l) :=
  { h with
    lineage i hne := by
      rw [lineage_putLineage, lineage_putLineage, h.lineage i hne] }

theorem putSession (hi : other ≠ id) (s : Session) :
    Beside id (c.putSession other s) (c'.putSession other s) := by
  unfold Console.putSession
  rw [h.lineage other hi]
  exact h.putLineage _ _

theorem putHeld {hd : Handle} (hi : hd.id ≠ id) (s : Session) :
    Beside id (c.putHeld hd s) (c'.putHeld hd s) := by
  unfold Console.putHeld
  rw [h.lineage hd.id hi]
  exact h.putLineage _ _

theorem settle : Beside id c.settle c'.settle :=
  { h with
    lineage i hne := by
      unfold Console.settle
      rw [lineage_map rfl, lineage_map rfl, h.lineage i hne]
      simp only [h.stream] }

theorem hold (hd : Handle) (name : String) :
    Beside id { c with handles := c.handles.insert name hd }
      { c' with handles := c'.handles.insert name hd } :=
  { h with
    handle other hn := by
      unfold holds at hn
      rw [SortedMap.find?_insert] at hn ⊢
      rw [SortedMap.find?_insert]
      split
      · rfl
      · next hne =>
        rw [if_neg hne] at hn
        exact h.handle other hn }

theorem changeCatalog {α : Type} (answer : α → Answer)
    (result : Except CatalogError (α × Catalog)) :
    Agree id (c.changeCatalog answer result) (c'.changeCatalog answer result) := by
  cases result with
  | error e => exact ⟨rfl, h⟩
  | ok r => exact ⟨rfl, h.withCatalog r.2⟩

theorem alterCatalog (changed : Except CatalogError Catalog) :
    Agree id (c.alterCatalog changed) (c'.alterCatalog changed) :=
  h.changeCatalog _ _

theorem stepInsert (p : DatabasePath) (oid : Oid) (rows : List Row) :
    Agree id (c.stepInsert p oid rows) (c'.stepInsert p oid rows) := by
  unfold Console.stepInsert
  rw [h.catalog]
  split
  · next catalog _ => exact ⟨rfl, h.withCatalog catalog⟩
  · exact ⟨rfl, h⟩
  · exact ⟨rfl, h⟩

theorem connect (p : DatabasePath) : Concur (Agree id) (c.connect p) (c'.connect p) := by
  have hr : Faults.strike c'.faults.connect (c'.catalog.reach p) =
      Faults.strike c.faults.connect (c.catalog.reach p) := by
    rw [h.faults, h.catalog]
  unfold Console.connect
  rw [hr]
  exact .bind_same fun _ => .done _ _ ⟨rfl, h.withConnections _ _⟩

theorem stepConnect (link : String) (p : DatabasePath) :
    Agree id (c.stepConnect link p) (c'.stepConnect link p) := by
  unfold Console.stepConnect
  rcases (h.connect p).eq_or with ⟨e, hx, hy⟩ | ⟨r, r', hx, hy, hr⟩
  · rw [hx, hy]
    exact ⟨rfl, h⟩
  · obtain ⟨k, c₁, c₂, rfl, rfl, h₁⟩ := hr.eq_and
    rw [hx, hy]
    dsimp only
    rw [h₁.links]
    exact ⟨rfl, (h₁.withLinks _).release _ _⟩

theorem stepDisconnect (link : String) :
    Agree id (c.stepDisconnect link) (c'.stepDisconnect link) := by
  unfold Console.stepDisconnect
  rw [h.links]
  split
  · exact ⟨rfl, (h.withLinks _).release 1 1⟩
  · exact ⟨rfl, h⟩

theorem withLink {use use' : Connection → Answer × Console} (link : String)
    (hu : ∀ k, Agree id (use k) (use' k)) :
    Agree id (c.withLink link use) (c'.withLink link use') := by
  unfold Console.withLink
  rw [h.links]
  split
  · exact hu _
  · exact ⟨rfl, h⟩

theorem execute (k : Connection) (statements : List Statement) :
    Concur (Beside id) (c.execute k statements) (c'.execute k statements) := by
  have hs : Faults.strike c'.faults.execute (c'.catalog.execute k.database statements) =
      Faults.strike c.faults.execute (c.catalog.execute k.database statements) := by
    rw [h.faults, h.catalog]
  unfold Console.execute
  rw [hs]
  exact .bind_same fun catalog => .done _ _ (h.withCatalog catalog)

theorem stepExecute (k : Connection) (statements : List Statement) :
    Agree id (c.stepExecute k statements) (c'.stepExecute k statements) := by
  unfold Console.stepExecute
  rcases (h.execute k statements).eq_or with ⟨e, hx, hy⟩ | ⟨c₁, c₂, hx, hy, h₁⟩
  · rw [hx, hy]
    exact ⟨rfl, h⟩
  · rw [hx, hy]
    exact ⟨rfl, h₁⟩

theorem advance (hi : other ≠ id) (request : ViewRequest) (o : Opening) :
    Agree id (c.advance other request o) (c'.advance other request o) := by
  cases o with
  | asked =>
    simp only [Console.advance, h.isRegistered hi]
    exact ⟨rfl, h⟩
  | admitted =>
    simp only [Console.advance]
    rcases (h.connect request.target.database).eq_or with ⟨e, hx, hy⟩ | ⟨r, r', hx, hy, hr⟩
    · rw [hx, hy]
      exact ⟨rfl, h⟩
    · rw [hx, hy]
      exact ⟨congrArg Opening.connected hr.answer, hr.beside⟩
  | connected k =>
    simp only [Console.advance, h.relation]
    split
    · exact ⟨rfl, h.release 1 1⟩
    · exact ⟨rfl, h⟩
  | prepared s =>
    simp only [Console.advance, h.isRegistered hi]
    split
    · exact ⟨rfl, h.release _ _⟩
    · exact ⟨rfl, h.putSession hi s⟩
  | done answer => exact ⟨rfl, h⟩

theorem complete (hi : other ≠ id) (request : ViewRequest) (o : Opening) :
    Agree id (c.complete other request o) (c'.complete other request o) := by
  -- On how many steps are left: both consoles come to their ends with the same steps.
  obtain ⟨steps, hs⟩ : ∃ steps, o.stepsLeft ≤ steps := ⟨_, Nat.le_refl _⟩
  induction steps generalizing c c' o with
  | zero =>
    cases o with
    | done answer =>
      rw [Console.complete, Console.complete]
      exact ⟨rfl, h⟩
    | asked | admitted | connected k | prepared s => cases hs
  | succ steps ih =>
    have hle := stepsLeft_advance other request c o
    have hlt : (c.advance other request o).1.stepsLeft ≤ steps :=
      Nat.le_trans hle (Nat.sub_le_of_le_add hs)
    obtain ⟨ha, h₁⟩ := h.advance hi request o
    rw [← complete_advance, ← complete_advance other request c', ha]
    exact ih h₁ _ hlt

theorem openSession (hi : other ≠ id) (request : ViewRequest) :
    Agree id (c.openSession other request) (c'.openSession other request) :=
  h.complete hi request .asked

theorem stepOpen (hi : other ≠ id) (request : ViewRequest) :
    Agree id (c.stepOpen other request) (c'.stepOpen other request) := by
  obtain ⟨answer, c₁, c₂, hx, hy, h₁⟩ := (h.openSession hi request).eq_and
  unfold Console.stepOpen
  rw [hx, hy]
  exact ⟨rfl, h₁⟩

theorem interleave (hi : other ≠ id) (first second : ViewRequest) (a b : Opening)
    (turns : List Turn) : ∃ a' b' c₁ c₂,
      c.interleave other first second a b turns = (a', b', c₁) ∧
      c'.interleave other first second a b turns = (a', b', c₂) ∧ Beside id c₁ c₂ := by
  induction turns generalizing c c' a b with
  | nil => exact ⟨a, b, c, c', rfl, rfl, h⟩
  | cons turn rest ih => cases turn with
    | first =>
      obtain ⟨a', c₁, c₂, hx, hy, h₁⟩ := (h.advance hi first a).eq_and
      rw [Console.interleave, Console.interleave, hx, hy]
      exact ih h₁ a' b
    | second =>
      obtain ⟨b', c₁, c₂, hx, hy, h₁⟩ := (h.advance hi second b).eq_and
      rw [Console.interleave, Console.interleave, hx, hy]
      exact ih h₁ a b'

theorem stepOpenPair (hi : other ≠ id) (request : ViewRequest) (turns : List Turn) :
    Agree id (c.stepOpenPair other request turns) (c'.stepOpenPair other request turns) := by
  obtain ⟨a, b, c₁, c₂, hx, hy, h₁⟩ := h.interleave hi request request .asked .asked turns
  obtain ⟨answer, c₃, c₄, hx₁, hy₁, h₂⟩ := (h₁.complete hi request a).eq_and
  obtain ⟨answer', c₅, c₆, hx₂, hy₂, h₃⟩ := (h₂.complete hi request b).eq_and
  unfold Console.stepOpenPair openPair
  simp only [hx, hy, hx₁, hy₁, hx₂, hy₂]
  exact ⟨rfl, h₃⟩

theorem start (hi : other ≠ id) : Concur (Agree id) (c.start other) (c'.start other) := by
  unfold Console.start
  rw [h.session hi, h.pageSize]
  exact .bind_same fun s => .bind_same fun r => .done _ _ ⟨rfl, h.putSession hi r.2⟩

theorem poll (hi : other ≠ id) : Concur (Agree id) (c.poll other) (c'.poll other) := by
  unfold Console.poll
  rw [h.session hi, h.pageSize]
  exact .bind_same fun s => .done _ _ ⟨rfl, h.putSession hi _⟩

theorem fetch (hi : other ≠ id) : Concur (Agree id) (c.fetch other) (c'.fetch other) := by
  unfold Console.fetch
  rw [h.session hi, h.pageSize]
  exact .bind_same fun s => .bind_same fun r => .done _ _ ⟨rfl, h.putSession hi r.2⟩

theorem close (hi : other ≠ id) : Agree id (c.close other) (c'.close other) := by
  unfold Console.close
  rw [h.session? hi, h.lineage other hi]
  split
  · exact ⟨rfl, (h.putLineage _ _).release _ _⟩
  · exact ⟨rfl, h⟩

theorem stepHold (hi : other ≠ id) (name : String) :
    Agree id (c.step (.hold other name)) (c'.step (.hold other name)) := by
  have hx : Concur (Beside id) (c.hold other name) (c'.hold other name) := by
    unfold Console.hold
    rw [h.session hi, h.lineage other hi]
    exact .bind_same fun _ => .done _ _ (h.hold _ name)
  dsimp only [Console.step]
  rcases hx.eq_or with ⟨e, hx, hy⟩ | ⟨c₁, c₂, hx, hy, h₁⟩
  · rw [hx, hy]
    exact ⟨rfl, h⟩
  · rw [hx, hy]
    exact ⟨rfl, h₁⟩

theorem changeView {α : Type} {x y : Except ViewError (α × Console)} (answer : α → Answer)
    (hx : Concur (Agree id) x y) : Agree id (c.changeView answer x) (c'.changeView answer y) := by
  cases hx with
  | failed e => exact ⟨rfl, h⟩
  | done a b hab => exact ⟨congrArg answer hab.answer, hab.beside⟩

theorem withHeld {use use' : Handle → Session → Answer × Console} (hn : c.holds id name = false)
    (hu : ∀ hd s, hd.id ≠ id → Agree id (use hd s) (use' hd s)) :
    Agree id (c.withHeld name use) (c'.withHeld name use') := by
  unfold Console.withHeld
  rw [h.held? hn]
  split
  · next hd s hh => exact hu hd s (id_ne_of_holds hn (of_held hh).1)
  · exact ⟨rfl, h⟩

theorem startHeld {hd : Handle} (hi : hd.id ≠ id) (s : Session) (size : Nat) :
    Concur (Agree id) (c.startHeld hd s size) (c'.startHeld hd s size) :=
  .bind_same fun r => .done _ _ ⟨rfl, h.putHeld hi r.2⟩

theorem fetchHeld {hd : Handle} (hi : hd.id ≠ id) (s : Session) (size : Nat) :
    Concur (Agree id) (c.fetchHeld hd s size) (c'.fetchHeld hd s size) :=
  .bind_same fun r => .done _ _ ⟨rfl, h.putHeld hi r.2⟩

theorem withConnection {α : Type} (p : DatabasePath)
    {operation : Console → Connection → Except ConsoleError α × Console}
    (ho : ∀ d d' k, Beside id d d' → Agree id (operation d k) (operation d' k)) :
    Agree id (c.withConnection p operation) (c'.withConnection p operation) := by
  unfold Console.withConnection
  rcases (h.connect p).eq_or with ⟨e, hx, hy⟩ | ⟨r, r', hx, hy, hr⟩
  · rw [hx, hy]
    exact ⟨rfl, h⟩
  · obtain ⟨k, c₁, c₂, rfl, rfl, h₁⟩ := hr.eq_and
    rw [hx, hy]
    obtain ⟨ha, h₂⟩ := ho c₁ c₂ k h₁
    exact ⟨ha, h₂.release 1 1⟩

theorem viewRelation (p : DatabasePath) (schemaOid oid : Oid) (kind : RelationKind) :
    Agree id (c.viewRelation p schemaOid oid kind) (c'.viewRelation p schemaOid oid kind) :=
  h.withConnection p fun _ _ k hd =>
    ⟨congrArg (Except.mapError ConsoleError.catalog) (hd.relationIn k schemaOid oid kind), hd⟩

theorem viewTrigger (p : DatabasePath) (schemaOid tableOid oid : Oid) :
    Agree id (c.viewTrigger p schemaOid tableOid oid)
      (c'.viewTrigger p schemaOid tableOid oid) :=
  h.withConnection p fun _ _ k hd =>
    ⟨congrArg (Except.mapError ConsoleError.catalog) (hd.triggerIn k schemaOid tableOid oid), hd⟩

theorem carryOut (k : Connection) (statements : Except BadRequest (List Statement)) :
    Concur (Beside id) (c.carryOut k statements) (c'.carryOut k statements) := by
  refine .bind_same fun statements => .mapError _ ?_
  unfold executeAny
  split
  · exact .done _ _ h
  · exact h.execute k statements

theorem changeRelation (p : DatabasePath) (schemaOid oid : Oid) (kind : RelationKind)
    (u : RelationUpdate) : Agree id (c.changeRelation p schemaOid oid kind u)
      (c'.changeRelation p schemaOid oid kind u) := by
  refine h.withConnection p fun d d' k hd => ?_
  rw [hd.relationIn]
  split
  · exact ⟨rfl, hd⟩
  · next r _ =>
    rcases (hd.carryOut k (u.statements r)).eq_or with ⟨e, hx, hy⟩ | ⟨d₁, d₂, hx, hy, h₁⟩
    · rw [hx, hy]
      exact ⟨rfl, hd⟩
    · rw [hx, hy]
      exact ⟨rfl, h₁⟩

theorem changeTrigger (p : DatabasePath) (schemaOid tableOid oid : Oid) (u : TriggerUpdate) :
    Agree id (c.changeTrigger p schemaOid tableOid oid u)
      (c'.changeTrigger p schemaOid tableOid oid u) := by
  refine h.withConnection p fun d d' k hd => ?_
  rw [hd.triggerIn]
  split
  · exact ⟨rfl, hd⟩
  · next t _ =>
    rcases (hd.carryOut k (u.statements t)).eq_or with ⟨e, hx, hy⟩ | ⟨d₁, d₂, hx, hy, h₁⟩
    · rw [hx, hy]
      exact ⟨rfl, hd⟩
    · rw [hx, hy]
      dsimp only
      rw [h₁.triggerAgain]
      exact ⟨rfl, h₁⟩

theorem respond {α : Type} {x y : Except ViewError (α × Console)} (data : α → Json)
    (hx : Concur (Agree id) x y) : Agree id (c.respond data x) (c'.respond data y) := by
  cases hx with
  | failed e => exact ⟨rfl, h⟩
  | done a b hab =>
    exact ⟨congrArg (fun a => Http.Response.success (data a)) hab.answer, hab.beside⟩

theorem respondOpening (hi : other ≠ id) (request : Except ConsoleError ViewRequest) :
    Agree id (c.respondOpening other request) (c'.respondOpening other request) := by
  cases request with
  | error e => exact ⟨rfl, h⟩
  | ok request =>
    obtain ⟨ha, h₁⟩ := h.openSession hi request
    exact ⟨congrArg (Http.Response.ofExcept _ _) ha, h₁⟩

theorem respondRelationUpdate (kind : RelationKind) (p : DatabasePath) (schemaOid oid : Oid)
    (body : String) : Agree id (c.respondRelationUpdate kind p schemaOid oid body)
      (c'.respondRelationUpdate kind p schemaOid oid body) := by
  unfold Console.respondRelationUpdate
  split
  · exact ⟨rfl, h⟩
  · next u _ =>
    obtain ⟨answer, c₁, c₂, hx, hy, h₁⟩ := (h.changeRelation p schemaOid oid kind u).eq_and
    rw [hx, hy]
    cases answer <;> exact ⟨rfl, h₁⟩

theorem respondTriggerUpdate (p : DatabasePath) (schemaOid tableOid oid : Oid) (body : String) :
    Agree id (c.respondTriggerUpdate p schemaOid tableOid oid body)
      (c'.respondTriggerUpdate p schemaOid tableOid oid body) := by
  unfold Console.respondTriggerUpdate
  split
  · exact ⟨rfl, h⟩
  · next u _ =>
    obtain ⟨answer, c₁, c₂, hx, hy, h₁⟩ := (h.changeTrigger p schemaOid tableOid oid u).eq_and
    rw [hx, hy]
    cases answer <;> exact ⟨rfl, h₁⟩

end

end Beside

end Console

end DbConsole
