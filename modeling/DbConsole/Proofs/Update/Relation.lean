import DbConsole.Proofs.Catalog.Objects
import DbConsole.Proofs.Update.Options

namespace DbConsole

namespace Statement

/-- Statements that can be applied to a relation of a kind. -/
inductive Addresses (oid : Oid) (kind : RelationKind) : Statement → Prop where
  | comment (name : QualifiedName) (text : Option String) :
    Addresses oid kind (.comment (.relation oid kind name) text)
  | setOptions (name : QualifiedName) (options : List (String × String))
    (hk : kind.hasParameters = true) : Addresses oid kind (.setOptions oid kind name options)
  | resetOptions (name : QualifiedName) (options : List String) :
    Addresses oid kind (.resetOptions oid kind name options)

def rewrite (r : Relation) : Statement → Relation
  | .comment _ text => { r with description := Database.commentText text }
  | .setOptions _ _ _ options =>
    { r with options := options.foldl (fun m e => m.insert e.1 e.2) r.options }
  | .resetOptions _ _ _ options => { r with options := options.foldl SortedMap.erase r.options }
  | .setTriggerMode .. | .renameTrigger .. => r

theorem kind_rewrite (r : Relation) (s : Statement) : (s.rewrite r).kind = r.kind := by
  cases s <;> rfl

end Statement

namespace Database

variable {db : Database} {oid : Oid} {stored : StoredRelation} {s : Statement}
  {statements : List Statement}

theorem apply_addressed (hf : db.relations.find? oid = some stored)
    (h : s.Addresses oid stored.relation.kind) :
    db.apply s = .ok (db.putRelation oid stored (s.rewrite stored.relation)) := by
  have hr : db.relationAs oid stored.relation.kind = .ok stored := relationAs_eq_ok.mpr ⟨hf, rfl⟩
  cases h with
  | comment name text => exact bind_eq_ok.mpr ⟨stored, hr, rfl⟩
  | setOptions name options hk =>
    refine bind_eq_ok.mpr ⟨stored, hr, ?_⟩
    rw [if_pos hk]
    rfl
  | resetOptions name options => exact bind_eq_ok.mpr ⟨stored, hr, rfl⟩

theorem putRelation_self (hf : db.relations.find? oid = some stored) :
    db.putRelation oid stored stored.relation = db := by
  have hi : db.relations.insert oid stored = db.relations := SortedMap.insert_self hf
  unfold putRelation putStored
  rw [hi]

theorem putRelation_putRelation (db : Database) (oid : Oid) (stored : StoredRelation)
    (r r' : Relation) : (db.putRelation oid stored r).putRelation oid
      { stored with relation := r } r' = db.putRelation oid stored r' := by
  unfold putRelation putStored
  rw [SortedMap.insert_insert]

theorem applyAll_addressed (hf : db.relations.find? oid = some stored)
    (h : ∀ s ∈ statements, s.Addresses oid stored.relation.kind) : db.applyAll statements =
      .ok (db.putRelation oid stored (statements.foldl Statement.rewrite stored.relation)) := by
  induction statements generalizing db stored with
  | nil =>
    rw [List.foldl_nil, putRelation_self hf]
    rfl
  | cons first rest ih =>
    have hfirst := apply_addressed hf (h first (.head _))
    have hfound : (db.putRelation oid stored (first.rewrite stored.relation)).relations.find? oid =
        some { stored with relation := first.rewrite stored.relation } :=
      (db.onlyRelation_putStored oid _).relation
    have hrest := ih hfound fun s hs => by
      rw [Statement.kind_rewrite]
      exact h s (.tail _ hs)
    rw [putRelation_putRelation] at hrest
    exact bind_eq_ok.mpr ⟨_, hfirst, hrest⟩

end Database

theorem VacuumGroup.not_mem_toast :
    ∀ name ∈ VacuumGroup.table.options, name ∉ VacuumGroup.toast.options := by
  decide +kernel

namespace RelationUpdate

variable {u : RelationUpdate} {r : Relation}

/-- An update whose parts are both accepted. -/
structure Accepted (u : RelationUpdate) : Prop where
  table : u.table.Accepted .table
  toast : u.toast.Accepted .toast

/-- What an update makes of a relation: the options of either group by the part for it, the comment
if one is given, where the empty one removes it, and nothing else. -/
structure Settles (u : RelationUpdate) (r r' : Relation) : Prop where
  core : r'.core = r.core
  table : u.table.Settles .table r.options r'.options
  toast : u.toast.Settles .toast r.options r'.options
  others : ∀ name, name ∉ VacuumGroup.table.options → name ∉ VacuumGroup.toast.options →
    r'.options.find? name = r.options.find? name
  described : ∀ text, u.description = some text →
    r'.description = if text = "" then none else some text
  undescribed : u.description = none → r'.description = r.description

def optionChanges (u : RelationUpdate) : OptionChanges :=
  u.table.optionChanges .table ++ u.toast.optionChanges .toast

def rewritten (u : RelationUpdate) (r : Relation) : Relation :=
  { r with
    description := match u.description with
      | some text => if text = "" then none else some text
      | none => r.description
    options := u.optionChanges.apply r.options }

theorem settles_rewritten (h : u.Accepted) (r : Relation) : u.Settles r (u.rewritten r) where
  core := rfl
  table := VacuumRequest.settles_of_find? (by decide +kernel) h.table fun name hn =>
    OptionChanges.find?_apply_append_left (VacuumRequest.within_optionChanges h.toast)
      (VacuumGroup.not_mem_toast name hn)
  toast := VacuumRequest.settles_of_find? (by decide +kernel) h.toast fun name hn =>
    OptionChanges.find?_apply_append_right (VacuumRequest.within_optionChanges h.table)
      fun ht => VacuumGroup.not_mem_toast name ht hn
  others name htable htoast := by
    change (u.optionChanges.apply r.options).find? name = _
    rw [optionChanges, OptionChanges.find?_apply_append_left
      (VacuumRequest.within_optionChanges h.toast) htoast,
      OptionChanges.find?_apply_of_not_mem (VacuumRequest.within_optionChanges h.table) htable]
  described text ht := by simp only [rewritten, ht]
  undescribed hn := by simp only [rewritten, hn]

theorem statements_refused (h : ¬u.Accepted) (r : Relation) :
    ∃ error, u.statements r = .error error := by
  unfold statements
  by_cases ht : u.table.Accepted .table
  · have htoast : ¬u.toast.Accepted .toast := fun htoast => h ⟨ht, htoast⟩
    obtain ⟨error, he⟩ := VacuumRequest.changes_refused htoast
    refine ⟨error, ?_⟩
    rw [VacuumRequest.changes_eq ht, he]
    rfl
  · obtain ⟨error, he⟩ := VacuumRequest.changes_refused ht
    refine ⟨error, ?_⟩
    rw [he]
    rfl

theorem statements_eq (h : u.Accepted) (hk : r.kind.hasParameters = true) :
    u.statements r = .ok (u.commentStatements r ++
      ((if u.optionChanges.set = [] then []
        else [.setOptions r.oid r.kind r.name u.optionChanges.set]) ++
      if u.optionChanges.reset = [] then []
        else [.resetOptions r.oid r.kind r.name u.optionChanges.reset])) := by
  refine bind_eq_ok.mpr ⟨_, VacuumRequest.changes_eq h.table, bind_eq_ok.mpr
    ⟨_, VacuumRequest.changes_eq h.toast, bind_eq_ok.mpr ⟨_, ?_, rfl⟩⟩⟩
  rw [optionStatements_eq, if_neg (by simp [hk])]
  rfl

/-- Whatever the kind of the relation: what an update says of it can be carried out on it. -/
theorem addresses_of_statements {statements : List Statement}
    (hs : u.statements r = .ok statements) : ∀ s ∈ statements, s.Addresses r.oid r.kind := by
  obtain ⟨table, _, hs⟩ := bind_eq_ok.mp hs
  obtain ⟨toast, _, hs⟩ := bind_eq_ok.mp hs
  obtain ⟨options, ho, hs⟩ := bind_eq_ok.mp hs
  cases hs
  rw [optionStatements_eq] at ho
  split at ho
  · cases ho
  next hstorage =>
  cases ho
  intro s hs
  rcases List.mem_append.mp hs with hs | hs
  · obtain ⟨text, _, rfl⟩ := List.mem_map.mp hs
    exact .comment _ _
  rcases List.mem_append.mp hs with hs | hs
  · split at hs
    · cases hs
    · next hset =>
      cases List.mem_singleton.mp hs
      refine .setOptions _ _ ?_
      by_contra hk
      exact hstorage ⟨hset, Bool.eq_false_iff.mpr hk⟩
  · split at hs
    · cases hs
    · cases List.mem_singleton.mp hs
      exact .resetOptions _ _

theorem foldl_commentStatements (u : RelationUpdate) (r r' : Relation) :
    (u.commentStatements r').foldl Statement.rewrite r =
      { r with description := (u.rewritten r).description } := by
  unfold commentStatements rewritten
  cases hd : u.description with
  | none => rfl
  | some text =>
    by_cases ht : text = ""
    · simp [Statement.rewrite, Database.commentText, ht]
    · simp [Statement.rewrite, Database.commentText, ht, Option.filter]

theorem foldl_statements (h : u.Accepted) (hk : r.kind.hasParameters = true)
    {statements : List Statement} (hs : u.statements r = .ok statements) :
    statements.foldl Statement.rewrite r = u.rewritten r := by
  rw [statements_eq h hk] at hs
  cases hs
  rw [List.foldl_append, List.foldl_append, foldl_commentStatements]
  by_cases hset : u.optionChanges.set = [] <;> by_cases hreset : u.optionChanges.reset = [] <;>
    simp [hset, hreset, Statement.rewrite, rewritten, OptionChanges.apply]

end RelationUpdate

theorem Database.applyAll_statements {db : Database} {oid : Oid} {stored : StoredRelation}
    {u : RelationUpdate} (hf : db.relations.find? oid = some stored)
    (ho : stored.relation.oid = oid) (hk : stored.relation.kind.hasParameters = true)
    (h : u.Accepted) : ∃ statements, u.statements stored.relation = .ok statements ∧
      db.applyAll statements = .ok (db.putRelation oid stored (u.rewritten stored.relation)) := by
  subst ho
  have hs := RelationUpdate.statements_eq h hk
  refine ⟨_, hs, ?_⟩
  have haddresses := RelationUpdate.addresses_of_statements hs
  rw [applyAll_addressed hf haddresses, RelationUpdate.foldl_statements h hk hs]

end DbConsole
