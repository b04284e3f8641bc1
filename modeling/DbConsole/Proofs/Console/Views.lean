import DbConsole.Proofs.Console.Objects
import DbConsole.Proofs.Console.Verdict

namespace DbConsole

open Http Text

namespace Http

def number? (bits : Nat) (encoded : String) : Option Nat :=
  (percentDecode? encoded).bind (unsigned? (Nat.pow 2 bits))

/-- The parameters in the path of a request that opens a view, still percent-encoded. -/
structure ViewPath where
  id : String
  mode : String
  kind : String
  group : String
  server : String
  database : String
  oid : String

namespace ViewPath

def segments (p : ViewPath) : List String :=
  ["datagrid", "initialize", "datagrid", p.id, p.mode, p.kind, p.group, p.server, p.database, p.oid]

def numbers (p : ViewPath) : List (Nat × String) :=
  [(8, p.mode), (32, p.group), (32, p.server), (32, p.database), (32, p.oid)]

/-- What the parameters say. -/
structure Reads (p : ViewPath) (id : String) (mode : UInt8) (kind : String)
    (database : DatabasePath) (oid : Oid) : Prop where
  id : percentDecode? p.id = some id
  mode : number? 8 p.mode = some mode.toNat
  kind : percentDecode? p.kind = some kind
  group : number? 32 p.group = some database.group.toNat
  server : number? 32 p.server = some database.server.toNat
  database : number? 32 p.database = some database.database.toNat
  oid : number? 32 p.oid = some oid.toNat

def parameters (p : ViewPath) : List Parameter :=
  [⟨"trans_id", p.id⟩, ⟨"view_mode", p.mode⟩, ⟨"obj_type", p.kind⟩, ⟨"sgid", p.group⟩,
    ⟨"sid", p.server⟩, ⟨"did", p.database⟩, ⟨"obj_id", p.oid⟩]

end ViewPath

theorem Parameter.text_eq_ok {p : Parameter} {t : String} :
    p.text = .ok t ↔ percentDecode? p.encoded = some t := by
  unfold Parameter.text
  cases percentDecode? p.encoded <;> simp

theorem texts_eq_ok {l : List Parameter} {texts : List String} :
    l.mapM Parameter.text = .ok texts ↔
      List.Forall₂ (fun p t => percentDecode? p.encoded = some t) l texts := by
  simp only [mapM_eq_ok, Parameter.text_eq_ok]

theorem lt_of_unsigned? {bound n : Nat} {s : String} (h : unsigned? bound s = some n) :
    n < bound := by
  simpa using (Option.filter_eq_some_iff.mp h).2

namespace Texts

variable {t : Texts} {place : Nat}

theorem number_eq_ok {bits n : Nat} :
    t.number bits place = .ok n ↔ unsigned? (Nat.pow 2 bits) (t.text place) = some n := by
  unfold number
  cases unsigned? (Nat.pow 2 bits) (t.text place) <;> simp

theorem uint8_eq_ok {n : UInt8} :
    t.uint8 place = .ok n ↔ unsigned? (Nat.pow 2 8) (t.text place) = some n.toNat := by
  rw [uint8, map_eq_ok, ← number_eq_ok]
  constructor
  · rintro ⟨m, hm, rfl⟩
    have hlt : m < 2 ^ 8 := lt_of_unsigned? (number_eq_ok.mp hm)
    rwa [UInt8.toNat_ofNat_of_lt' hlt]
  · exact fun hn => ⟨n.toNat, hn, UInt8.ofNat_toNat⟩

theorem uint32_eq_ok {n : UInt32} :
    t.uint32 place = .ok n ↔ unsigned? (Nat.pow 2 32) (t.text place) = some n.toNat := by
  rw [uint32, map_eq_ok, ← number_eq_ok]
  constructor
  · rintro ⟨m, hm, rfl⟩
    have hlt : m < 2 ^ 32 := lt_of_unsigned? (number_eq_ok.mp hm)
    rwa [UInt32.toNat_ofNat_of_lt' hlt]
  · exact fun hn => ⟨n.toNat, hn, UInt32.ofNat_toNat⟩

end Texts

theorem number?_of_decoded {bits : Nat} {encoded t : String} (h : percentDecode? encoded = some t) :
    number? bits encoded = unsigned? (Nat.pow 2 bits) t := by
  rw [number?, h]
  rfl

theorem ViewPath.route_eq_ok {p : ViewPath} {route : Route} :
    Endpoint.openView.route p.parameters = .ok route ↔ ∃ id mode kind database oid,
      p.Reads id mode kind database oid ∧ route = .openView id mode kind database oid := by
  rw [Endpoint.route, bind_eq_ok]
  constructor
  · rintro ⟨texts, ht, hr⟩
    rw [texts_eq_ok] at ht
    simp only [parameters, List.forall₂_cons_left_iff, List.forall₂_nil_left_iff] at ht
    obtain ⟨id, _, hid, ⟨_, _, hmode, ⟨kind, _, hkind, ⟨_, _, hgroup, ⟨_, _, hserver,
      ⟨_, _, hdatabase, ⟨_, _, hoid, rfl, rfl⟩, rfl⟩, rfl⟩, rfl⟩, rfl⟩, rfl⟩, rfl⟩ := ht
    obtain ⟨mode, hm, hr⟩ := bind_eq_ok.mp hr
    obtain ⟨database, hdb, hr⟩ := bind_eq_ok.mp hr
    obtain ⟨oid, ho, hr⟩ := bind_eq_ok.mp hr
    obtain ⟨group, hg, hdb⟩ := bind_eq_ok.mp hdb
    obtain ⟨server, hs, hdb⟩ := bind_eq_ok.mp hdb
    obtain ⟨number, hd, hdb⟩ := bind_eq_ok.mp hdb
    cases hdb
    cases hr
    rw [Texts.uint8_eq_ok] at hm
    rw [Texts.uint32_eq_ok] at ho hg hs hd
    refine ⟨id, mode, kind, ⟨group, server, number⟩, oid, ?_, rfl⟩
    exact ⟨hid, (number?_of_decoded hmode).trans hm, hkind, (number?_of_decoded hgroup).trans hg,
      (number?_of_decoded hserver).trans hs, (number?_of_decoded hdatabase).trans hd,
      (number?_of_decoded hoid).trans ho⟩
  · rintro ⟨id, mode, kind, database, oid, h, rfl⟩
    obtain ⟨m, hm, hmode⟩ := Option.bind_eq_some_iff.mp h.mode
    obtain ⟨g, hg, hgroup⟩ := Option.bind_eq_some_iff.mp h.group
    obtain ⟨s, hs, hserver⟩ := Option.bind_eq_some_iff.mp h.server
    obtain ⟨d, hd, hdatabase⟩ := Option.bind_eq_some_iff.mp h.database
    obtain ⟨o, ho, hoid⟩ := Option.bind_eq_some_iff.mp h.oid
    refine ⟨[id, m, kind, g, s, d, o], texts_eq_ok.mpr ?_,
      bind_eq_ok.mpr ⟨mode, Texts.uint8_eq_ok.mpr hmode, bind_eq_ok.mpr ⟨database, ?_,
        bind_eq_ok.mpr ⟨oid, Texts.uint32_eq_ok.mpr hoid, rfl⟩⟩⟩⟩
    · exact .cons h.id (.cons hm (.cons h.kind (.cons hg (.cons hs (.cons hd (.cons ho .nil))))))
    · exact bind_eq_ok.mpr ⟨_, Texts.uint32_eq_ok.mpr hgroup, bind_eq_ok.mpr
        ⟨_, Texts.uint32_eq_ok.mpr hserver, bind_eq_ok.mpr
          ⟨_, Texts.uint32_eq_ok.mpr hdatabase, rfl⟩⟩⟩

theorem ViewPath.ofSegments?_eq {p : ViewPath} (h : p.oid ≠ "") :
    Endpoint.ofSegments? p.segments = some (.openView, p.parameters) := by
  have hlast : p.segments.getLast? ≠ some "" := by simpa [segments] using h
  unfold Endpoint.ofSegments?
  rw [if_neg hlast]
  rfl

theorem ViewPath.ofSegments?_eq_none {p : ViewPath} (h : p.oid = "") :
    Endpoint.ofSegments? p.segments = none := by
  have hlast : p.segments.getLast? = some "" := by simpa [segments] using h
  unfold Endpoint.ofSegments?
  rw [if_pos hlast]

end Http

namespace Console

end Console

namespace Http

/-- What can be done with an open session. -/
inductive SessionDeed where
  | start
  | poll
  | fetch
  | close

namespace SessionDeed

def segments (encoded : String) : SessionDeed → List String
  | .start => ["sqleditor", "view_data", "start", encoded]
  | .poll => ["sqleditor", "poll", encoded]
  | .fetch => ["sqleditor", "fetch", encoded]
  | .close => ["datagrid", "close", encoded]

def endpoint : SessionDeed → Endpoint
  | .start => .start
  | .poll => .poll
  | .fetch => .fetch
  | .close => .close

def methods : SessionDeed → List String
  | .start | .poll | .fetch => ["GET", "HEAD"]
  | .close => ["DELETE"]

def step (id : String) : SessionDeed → Step
  | .start => .start id
  | .poll => .poll id
  | .fetch => .fetch id
  | .close => .close id

def route (id : String) : SessionDeed → Route
  | .start => .start id
  | .poll => .poll id
  | .fetch => .fetch id
  | .close => .close id

end SessionDeed

end Http

namespace Http

variable {r : Request} {p : ViewPath}

theorem SessionDeed.ofSegments?_eq (deed : SessionDeed) {encoded : String} (hn : encoded ≠ "") :
    Endpoint.ofSegments? (deed.segments encoded) =
      some (deed.endpoint, [⟨"trans_id", encoded⟩]) := by
  have hlast : (deed.segments encoded).getLast? ≠ some "" := by
    cases deed <;> simpa [segments] using hn
  unfold Endpoint.ofSegments?
  rw [if_neg hlast]
  cases deed <;> rfl

theorem ViewPath.Reads.oid_ne_empty {id word : String} {code : UInt8} {database : DatabasePath}
    {oid : Oid} (h : p.Reads id code word database oid) : p.oid ≠ "" := by
  intro he
  have hoid := h.oid
  have hnone : number? 32 "" = none := by decide +kernel
  rw [he, hnone] at hoid
  cases hoid

theorem ViewPath.route?_eq_some {route : Route} (hm : r.method = "POST")
    (hp : segments? r.uri = some p.segments) : r.route? = some route ↔
      ∃ id code word database oid, p.Reads id code word database oid ∧
        route = .openView id code word database oid := by
  rw [Console.route?_eq_some, hp, Option.bind_some]
  by_cases hn : p.oid = ""
  · rw [ofSegments?_eq_none hn]
    constructor
    · rintro ⟨_, _, h, _⟩
      cases h
    · rintro ⟨_, _, _, _, _, h, _⟩
      exact absurd hn h.oid_ne_empty
  · rw [ofSegments?_eq hn]
    constructor
    · rintro ⟨_, _, he, _, h⟩
      cases he
      exact route_eq_ok.mp h
    · exact fun h => ⟨_, _, rfl, by simp [Endpoint.methods, hm], route_eq_ok.mpr h⟩

end Http

namespace Console

variable {c : Console} {r : Request} {answer : Answer} {response : Response}

end Console

end DbConsole
