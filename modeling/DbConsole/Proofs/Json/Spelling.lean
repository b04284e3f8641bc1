import DbConsole.Json.Printer
import DbConsole.Json.Source

namespace DbConsole

open Text

namespace Token

/-- Where a word may end: before any character but a letter, and at the end of the text. -/
def Ends (rest : List Char) : Prop := ∀ c ∈ rest.head?, c.isAlpha = false

/-- A text is read as these tokens, if a word may end after it. -/
def Spells (chars : List Char) (tokens : List Token) : Prop :=
  ∀ before rest, Ends rest →
    scan? before .between (chars ++ rest) = scan? (tokens.reverse ++ before) .between rest

variable {chars chars' : List Char} {tokens tokens' : List Token} {c : Char} {t : Token}

theorem ends_nil : Ends [] := nofun

theorem ends_cons {rest : List Char} (h : c.isAlpha = false) : Ends (c :: rest) := by
  rintro _ ⟨⟩
  exact h

theorem Spells.append (h : Spells chars tokens) (h' : Spells (c :: chars') tokens')
    (hc : c.isAlpha = false) : Spells (chars ++ c :: chars') (tokens ++ tokens') := by
  intro before rest hr
  have hend : Ends (c :: chars' ++ rest) := ends_cons hc
  rw [List.append_assoc, h before _ hend, h' _ rest hr, List.reverse_append, List.append_assoc]

theorem Spells.symbol (hc : start? c = some ([t], .between)) (h : Spells chars tokens) :
    Spells (c :: chars) (t :: tokens) := by
  intro before rest hr
  have hs : step? .between c = some ([t], .between) := hc
  rw [List.cons_append, scan?, hs]
  simpa using h (t :: before) rest hr

theorem spells_nil : Spells [] [] := fun _ _ _ => rfl

theorem scan?_word (chars : List Char) {before : List Token} (ht : ofWord? chars = some t) :
    ∀ rest, Ends rest → scan? before (.word chars) rest = scan? (t :: before) .between rest
  | [], _ => by simp [scan?, finish?, ht]
  | c :: rest, hr => by
    have hs : step? (.word chars) c = (start? c).map fun r => (t :: r.1, r.2) := by
      rw [step?, if_neg (by simp [hr c rfl]), ht]
      cases start? c <;> rfl
    have hs' : step? .between c = start? c := rfl
    rw [scan?, scan?, hs, hs']
    cases start? c <;> simp

theorem spells_null : Spells ['n', 'u', 'l', 'l'] [.null] := fun _ rest hr =>
  scan?_word ['l', 'l', 'u', 'n'] rfl rest hr

theorem spells_true : Spells ['t', 'r', 'u', 'e'] [.bool true] := fun _ rest hr =>
  scan?_word ['e', 'u', 'r', 't'] rfl rest hr

theorem spells_false : Spells ['f', 'a', 'l', 's', 'e'] [.bool false] := fun _ rest hr =>
  scan?_word ['e', 's', 'l', 'a', 'f'] rfl rest hr

def pieceOf (c : Char) : Piece :=
  if c.toNat < 0x20 ∧ c ∉ ['\x08', '\t', '\n', '\x0c', '\r'] then .unit c.toNat else .char c

theorem hexDigit?_hexChar : ∀ n < 16, hexDigit? (hexChar n) = some n := by decide

theorem scan?_hexDigits {n : Nat} (h : n < 0x20) (before : List Token) (pieces : List Piece)
    (rest : List Char) :
    scan? before (.unicode pieces 0 0) (hexDigits 4 n ++ rest) =
      scan? before (.string (.unit n :: pieces)) rest := by
  have hdigits : hexDigits 4 n = ['0', '0', hexChar (n / 16), hexChar (n % 16)] := by
    have hz : n / 16 / 16 = 0 := by omega
    have hq : n / 16 % 16 = n / 16 := by omega
    simp [hexDigits, hz, hq]
    rfl
  have h0 : hexDigit? '0' = some 0 := rfl
  have hn : 16 * (n / 16) + n % 16 = n := by omega
  simp [hdigits, scan?, step?, h0, hexDigit?_hexChar (n / 16) (by omega),
    hexDigit?_hexChar (n % 16) (by omega), hn]

theorem scan?_writeChar (before : List Token) (pieces : List Piece) (c : Char) (rest : List Char) :
    scan? before (.string pieces) (Json.writeChar c ++ rest) =
      scan? before (.string (pieceOf c :: pieces)) rest := by
  unfold Json.writeChar
  split
  iterate 7 rfl
  next hquote hslash _ _ _ _ _ =>
  split
  · next hc =>
    have hp : pieceOf c = .unit c.toNat := if_pos ⟨hc, by simp_all⟩
    rw [hp, ← scan?_hexDigits hc]
    rfl
  · next hc =>
    have hp : pieceOf c = .char c := if_neg fun h => hc h.1
    have hs : step? (.string pieces) c = some ([], .string (.char c :: pieces)) := by
      rw [step?, if_neg (by simpa using hquote), if_neg (by simpa using hslash), if_neg hc]
    rw [hp, List.singleton_append, scan?, hs]
    rfl

theorem joinPieces?_unit {n : Nat} (hn : n < 0xD800) (rest : List Piece) :
    joinPieces? (.unit n :: rest) = (joinPieces? rest).map (Char.ofNat n :: ·) := by
  have hhigh : isHighSurrogate n = false := by
    rw [isHighSurrogate, decide_eq_false (by omega), Bool.false_and]
  have hlow : isLowSurrogate n = false := by
    rw [isLowSurrogate, decide_eq_false (by omega), Bool.false_and]
  cases rest with
  | nil => simp [joinPieces?, hhigh, hlow]
  | cons p rest => cases p <;> simp [joinPieces?, hhigh, hlow]

theorem joinPieces?_pieceOf (chars : List Char) : joinPieces? (chars.map pieceOf) = some chars := by
  induction chars with
  | nil => rfl
  | cons c chars ih =>
    rw [List.map_cons, pieceOf]
    split
    · next hc =>
      rw [joinPieces?_unit (Nat.lt_trans hc.1 (by decide)), ih, Option.map_some, Char.ofNat_toNat]
    · rw [joinPieces?, ih]
      rfl

theorem scan?_writeChars (before : List Token) (chars rest : List Char) (pieces : List Piece) :
    scan? before (.string pieces) (chars.flatMap Json.writeChar ++ rest) =
      scan? before (.string ((chars.map pieceOf).reverse ++ pieces)) rest := by
  induction chars generalizing pieces with
  | nil => rfl
  | cons c chars ih =>
    rw [List.flatMap_cons, List.append_assoc, scan?_writeChar, ih, List.map_cons,
      List.reverse_cons, List.append_assoc]
    rfl

theorem spells_string (s : String) : Spells (Json.writeString s) [.string (some s)] := by
  intro before rest _
  have htoken : ofString (s.toList.map pieceOf).reverse = .string (some s) := by
    simp [ofString, joinPieces?_pieceOf]
  have hstart : scan? before .between (Json.writeString s ++ rest) =
      scan? before (.string []) (s.toList.flatMap Json.writeChar ++ '"' :: rest) := by
    simp [Json.writeString]; rfl
  rw [hstart, scan?_writeChars, List.append_nil, scan?]
  simp [step?, htoken]

end Token

namespace Json

mutual

def source : Json → Source
  | .null => .null
  | .bool b => .bool b
  | .number n => .number n
  | .string s => .string s
  | .array items => .array (itemSources items)
  | .object members => .object (memberSources members)

def itemSources : List Json → List Source
  | [] => []
  | j :: rest => source j :: itemSources rest

def memberSources : List (String × Json) → List (Option String × Source)
  | [] => []
  | (key, j) :: rest => (some key, source j) :: memberSources rest

end

/-- A value without numbers, in which containers stand in one another up to a depth. -/
inductive Numberless : Nat → Json → Prop where
  | null (depth : Nat) : Numberless depth .null
  | bool (depth : Nat) (b : Bool) : Numberless depth (.bool b)
  | string (depth : Nat) (s : String) : Numberless depth (.string s)
  | array (depth : Nat) (items : List Json) (h : ∀ j ∈ items, Numberless depth j) :
    Numberless (depth + 1) (.array items)
  | object (depth : Nat) (members : List (String × Json))
    (h : ∀ m ∈ members, Numberless depth m.2) : Numberless (depth + 1) (.object members)

end Json

namespace Source

open Reader

/-- A text is read as a value wherever containers may be that deep. -/
def Reads (depth : Nat) (chars : List Char) (v : Source) : Prop :=
  ∃ tokens, Token.Spells chars tokens ∧
    ∀ frames e, (e = .value ∨ e = .firstItem) → frames.length + depth < depthLimit →
      tokens.foldlM step? ⟨frames, e⟩ = some (put frames v)

def ReadsItems (depth : Nat) (chars : List Char) (items : List Source) : Prop :=
  ∃ tokens, Token.Spells chars tokens ∧
    ∀ frames before e, (e = .value ∨ e = .firstItem) → frames.length + depth < depthLimit →
      tokens.foldlM step? ⟨.array before :: frames, e⟩ =
        some ⟨.array (items.reverse ++ before) :: frames, .separator⟩

def ReadsMembers (depth : Nat) (chars : List Char) (members : List (Option String × Source)) :
    Prop :=
  ∃ tokens, Token.Spells chars tokens ∧
    ∀ frames before key e, (e = .key ∨ e = .firstKey) → frames.length + depth < depthLimit →
      tokens.foldlM step? ⟨.object before key :: frames, e⟩ =
        some ⟨.object (members.reverse ++ before) none :: frames, .separator⟩

variable {depth : Nat} {chars chars' : List Char} {v : Source}

theorem step?_value {frames : List Frame} {e : Expected} {t : Token}
    (he : e = .value ∨ e = .firstItem) (ht : t ≠ .closeArray) :
    step? ⟨frames, e⟩ t = value? frames t := by
  rcases he with rfl | rfl
  · rfl
  · cases t <;> first | rfl | contradiction

theorem reads_single {t : Token} (hs : Token.Spells chars [t]) (ht : t ≠ .closeArray)
    (hv : ∀ frames, value? frames t = some (put frames v)) : Reads depth chars v := by
  refine ⟨[t], hs, fun frames e he _ => ?_⟩
  exact (bind_pure _).trans ((step?_value he ht).trans (hv frames))

theorem Reads.items (h : Reads depth chars v) : ReadsItems (depth + 1) chars [v] := by
  obtain ⟨tokens, hs, hv⟩ := h
  refine ⟨tokens, hs, fun frames before e he hd => ?_⟩
  exact hv _ e he (by simp only [List.length_cons]; omega)

theorem Reads.cons_items {items : List Source} (h : Reads depth chars v)
    (h' : ReadsItems (depth + 1) chars' items) :
    ReadsItems (depth + 1) (chars ++ ',' :: chars') (v :: items) := by
  obtain ⟨tokens, hs, hv⟩ := h.items
  obtain ⟨tokens', hs', hv'⟩ := h'
  refine ⟨tokens ++ .comma :: tokens', hs.append (.symbol rfl hs') rfl, ?_⟩
  intro frames before e he hd
  have hfirst : tokens.foldlM step? ⟨.array before :: frames, e⟩ =
      some ⟨.array (v :: before) :: frames, .separator⟩ := hv frames before e he hd
  rw [List.foldlM_append, hfirst, List.reverse_cons, List.append_assoc]
  exact hv' frames (v :: before) .value (.inl rfl) hd

theorem Reads.member (h : Reads depth chars v) (key : String) :
    ReadsMembers (depth + 1) (Json.writeString key ++ ':' :: chars) [(some key, v)] := by
  obtain ⟨tokens, hs, hv⟩ := h
  refine ⟨.string (some key) :: .colon :: tokens,
    (Token.spells_string key).append (.symbol rfl hs) rfl, ?_⟩
  intro frames before old e he hd
  have hkey : step? ⟨.object before old :: frames, e⟩ (.string (some key)) =
      some ⟨.object before old :: frames, .colon (some key)⟩ := by
    rcases he with rfl | rfl <;> rfl
  rw [List.foldlM_cons, hkey]
  exact hv (.object before (some key) :: frames) .value (.inl rfl)
    (by simp only [List.length_cons]; omega)

theorem Reads.cons_members {members : List (Option String × Source)} (h : Reads depth chars v)
    (key : String) (h' : ReadsMembers (depth + 1) chars' members) :
    ReadsMembers (depth + 1) (Json.writeString key ++ ':' :: chars ++ ',' :: chars')
      ((some key, v) :: members) := by
  obtain ⟨tokens, hs, hv⟩ := h.member key
  obtain ⟨tokens', hs', hv'⟩ := h'
  refine ⟨tokens ++ .comma :: tokens', hs.append (.symbol rfl hs') rfl, ?_⟩
  intro frames before old e he hd
  have hfirst : tokens.foldlM step? ⟨.object before old :: frames, e⟩ =
      some ⟨.object ((some key, v) :: before) none :: frames, .separator⟩ :=
    hv frames before old e he hd
  rw [List.foldlM_append, hfirst, List.reverse_cons, List.append_assoc]
  exact hv' frames ((some key, v) :: before) none .key (.inl rfl) hd

theorem reads_enclosed {before after : Char} {opening closing : Token} {tokens : List Token}
    {inside : List Frame → Reader} (hb : Token.start? before = some ([opening], .between))
    (ha : Token.start? after = some ([closing], .between)) (hletter : after.isAlpha = false)
    (ho : opening ≠ .closeArray) (hopen : ∀ frames, value? frames opening = some (inside frames))
    (hs : Token.Spells chars tokens)
    (hv : ∀ frames, frames.length + (depth + 1) < depthLimit →
      (tokens ++ [closing]).foldlM step? (inside frames) = some (close frames v)) :
    Reads (depth + 1) (before :: chars ++ [after]) v := by
  refine ⟨opening :: tokens ++ [closing],
    (Token.Spells.symbol hb hs).append (.symbol ha Token.spells_nil) hletter, ?_⟩
  intro frames e he hd
  have hput : close frames v = put frames v := by
    rw [close, if_pos (by omega)]
  rw [List.cons_append, List.foldlM_cons, step?_value he ho, hopen, ← hput]
  exact hv frames hd

theorem ReadsItems.array {items : List Source} (h : ReadsItems (depth + 1) chars items) :
    Reads (depth + 1) ('[' :: chars ++ [']']) (.array items) := by
  obtain ⟨tokens, hs, hv⟩ := h
  refine reads_enclosed rfl rfl rfl nofun (fun _ => rfl) hs fun frames hd => ?_
  have hclose : step? ⟨.array items.reverse :: frames, .separator⟩ .closeArray =
      some (close frames (.array items.reverse.reverse)) := rfl
  rw [List.reverse_reverse] at hclose
  rw [List.foldlM_append, hv frames [] .firstItem (.inr rfl) hd, List.append_nil]
  exact (bind_pure _).trans hclose

theorem ReadsMembers.object {members : List (Option String × Source)}
    (h : ReadsMembers (depth + 1) chars members) :
    Reads (depth + 1) ('\x7b' :: chars ++ ['\x7d']) (.object members) := by
  obtain ⟨tokens, hs, hv⟩ := h
  refine reads_enclosed rfl rfl rfl nofun (fun _ => rfl) hs fun frames hd => ?_
  have hclose : step? ⟨.object members.reverse none :: frames, .separator⟩ .closeObject =
      some (close frames (.object members.reverse.reverse)) := rfl
  rw [List.reverse_reverse] at hclose
  rw [List.foldlM_append, hv frames [] none .firstKey (.inr rfl) hd, List.append_nil]
  exact (bind_pure _).trans hclose

theorem readsItems_write {items : List Json} (hne : items ≠ [])
    (h : ∀ j ∈ items, Reads depth j.write j.source) :
    ReadsItems (depth + 1) (Json.writeItems items) (Json.itemSources items) := by
  induction items with
  | nil => contradiction
  | cons j rest ih =>
    have hj := h j (.head _)
    cases rest with
    | nil => exact hj.items
    | cons j' rest =>
      exact hj.cons_items (ih (List.cons_ne_nil _ _) fun i hi => h i (.tail _ hi))

theorem readsMembers_write {members : List (String × Json)} (hne : members ≠ [])
    (h : ∀ m ∈ members, Reads depth m.2.write m.2.source) :
    ReadsMembers (depth + 1) (Json.writeMembers members) (Json.memberSources members) := by
  induction members with
  | nil => contradiction
  | cons m rest ih =>
    obtain ⟨key, j⟩ := m
    have hj := h (key, j) (.head _)
    cases rest with
    | nil => exact hj.member key
    | cons m' rest =>
      exact hj.cons_members key (ih (List.cons_ne_nil _ _) fun i hi => h i (.tail _ hi))

/-- A value is read back from what is written of it. -/
theorem reads_write {j : Json} (h : j.Numberless depth) : Reads depth j.write j.source := by
  induction h with
  | null depth => exact reads_single Token.spells_null nofun fun _ => rfl
  | bool depth b =>
    cases b
    · exact reads_single Token.spells_false nofun fun _ => rfl
    · exact reads_single Token.spells_true nofun fun _ => rfl
  | string depth s => exact reads_single (Token.spells_string s) nofun fun _ => rfl
  | array depth items _ ih =>
    cases items with
    | nil =>
      exact reads_enclosed rfl rfl rfl nofun (fun _ => rfl) Token.spells_nil fun _ _ => rfl
    | cons j rest => exact (readsItems_write (List.cons_ne_nil _ _) ih).array
  | object depth members _ ih =>
    cases members with
    | nil =>
      exact reads_enclosed rfl rfl rfl nofun (fun _ => rfl) Token.spells_nil fun _ _ => rfl
    | cons m rest => exact (readsMembers_write (List.cons_ne_nil _ _) ih).object

theorem ofText?_text {j : Json} (h : j.Numberless depth) (hd : depth < depthLimit) :
    ofText? j.text = some j.source := by
  obtain ⟨tokens, hs, hv⟩ := reads_write h
  have htokens : Token.ofText? j.text = some tokens := by
    have hscan : Token.scan? [] .between j.write = Token.scan? tokens.reverse .between [] := by
      simpa using hs [] [] Token.ends_nil
    rw [Token.ofText?, Json.text, String.toList_ofList, hscan]
    simp [Token.scan?, Token.finish?]
  have hreader : tokens.foldlM step? start = some (put [] j.source) :=
    hv [] .value (.inl rfl) (by simpa using hd)
  rw [ofText?, htokens, Option.bind_eq_bind, Option.bind_some, hreader]
  rfl

end Source

end DbConsole
