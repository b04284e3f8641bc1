import DbConsole.Sql.Name
import Mathlib.Data.List.Forall2

namespace DbConsole.Sql

def Ends (p : Char → Prop) (t : List Char) : Prop := ∀ c ∈ t.head?, p c

section Ends

variable {p q : Char → Prop} {k k' t t' : List Char} {c : Char}

@[simp] theorem ends_nil : Ends p [] := nofun

@[simp] theorem ends_cons : Ends p (c :: t) ↔ p c := by simp [Ends]

instance [DecidablePred p] : (t : List Char) → Decidable (Ends p t)
  | [] => .isTrue ends_nil
  | c :: _ => decidable_of_iff (p c) ends_cons.symm

theorem Ends.mono (h : Ends p t) (hpq : ∀ c, p c → q c) : Ends q t := fun c hc => hpq c (h c hc)

theorem Ends.append (hne : k ≠ []) (h : Ends p k) : Ends p (k ++ t) := by
  obtain ⟨c, rest, rfl⟩ := List.exists_cons_of_ne_nil hne
  exact h

theorem ends_flatMap {α : Type} {write : α → List Char} (hne : k ≠ []) (h : Ends p k) (l : List α)
    (ht : Ends p t) : Ends p (l.flatMap (fun a => k ++ write a) ++ t) := by
  cases l with
  | nil => exact ht
  | cons a rest =>
    rw [List.flatMap_cons, List.append_assoc, List.append_assoc]
    exact h.append hne

/-- Two texts that differ at some character, wherever they go on. -/
def Apart (k k' : List Char) : Prop := ¬k <+: k' ∧ ¬k' <+: k

instance : Decidable (Apart k k') := inferInstanceAs (Decidable (_ ∧ _))

theorem Apart.not_isPrefixOf (h : Apart k k') (hk' : k' <+: t) : ¬k <+: t := fun hk =>
  (List.prefix_or_prefix_of_prefix hk hk').elim h.1 h.2

def Opens (words : List (List Char)) (t : List Char) : Prop := t = [] ∨ ∃ k ∈ words, k <+: t

theorem Opens.ends {words : List (List Char)} (h : Opens words t)
    (hw : ∀ k ∈ words, k ≠ [] ∧ Ends p k) : Ends p t := by
  obtain rfl | ⟨k, hk, rest, rfl⟩ := h
  · exact ends_nil
  · exact (hw k hk).2.append (hw k hk).1

theorem Opens.not_isPrefixOf {words : List (List Char)} (h : Opens words t) (hne : k ≠ [])
    (hw : ∀ w ∈ words, Apart k w) : ¬k <+: t := by
  obtain rfl | ⟨w, hm, hpre⟩ := h
  · simpa using hne
  · exact (hw w hm).not_isPrefixOf hpre

/-- Of two words with a delimiter behind each, neither is longer, unless it goes on where the other
one is delimited. -/
theorem words_eq (h : k ++ t = k' ++ t') (ht : Ends p t) (ht' : Ends p t')
    (hk : ∀ d, p d → ¬k ++ [d] <+: k') (hk' : ∀ d, p d → ¬k' ++ [d] <+: k) : k = k' ∧ t = t' := by
  obtain ⟨more, rfl, rfl⟩ | ⟨more, rfl, rfl⟩ := List.append_eq_append_iff.mp h
  · cases more with
    | nil => simp
    | cons d more =>
      have hd : p d := ends_cons.mp ht
      exact absurd ⟨more, by simp⟩ (hk d hd)
  · cases more with
    | nil => simp
    | cons d more =>
      have hd : p d := ends_cons.mp ht'
      exact absurd ⟨more, by simp⟩ (hk' d hd)

theorem runs_eq (h : k ++ t = k' ++ t') (ht : Ends p t) (ht' : Ends p t') (hk : ∀ c ∈ k, ¬p c)
    (hk' : ∀ c ∈ k', ¬p c) : k = k' ∧ t = t' := by
  refine words_eq h ht ht' (fun d hd hpre => ?_) fun d hd hpre => ?_
  · exact hk' d (hpre.subset (by simp)) hd
  · exact hk d (hpre.subset (by simp)) hd

end Ends

theorem toList_intercalate_cons {α : Type} (separator : String) (write : α → String) (a : α)
    (l : List α) : (separator.intercalate ((a :: l).map write)).toList =
      (write a).toList ++ l.flatMap fun b => separator.toList ++ (write b).toList := by
  induction l generalizing a with
  | nil => simp
  | cons b l ih =>
    rw [List.map_cons, List.map_cons, String.intercalate_cons_cons, String.toList_append,
      String.toList_append, List.flatMap_cons, ← List.map_cons, ih]
    simp only [List.append_assoc]

/-- A way of writing that shows where it ends, in front of certain characters: `R` relates what is
written alike. -/
def SelfDelimiting {α : Type} (R : α → α → Prop) (p : Char → Prop) (write : α → List Char) : Prop :=
  ∀ ⦃a b s t⦄, Ends p s → Ends p t → write a ++ s = write b ++ t → R a b ∧ s = t

namespace SelfDelimiting

variable {α : Type} {R : α → α → Prop} {p q : Char → Prop} {write : α → List Char}

theorem mono (h : SelfDelimiting R p write) (hpq : ∀ c, q c → p c) : SelfDelimiting R q write :=
  fun _ _ _ _ hs ht he => h (hs.mono hpq) (ht.mono hpq) he

theorem of_reader (read : List Char → Option (α × List Char))
    (h : ∀ a t, Ends p t → read (write a ++ t) = some (a, t)) : SelfDelimiting Eq p write := by
  intro a b s t hs ht he
  have hread := h a s hs
  rw [he, h b t ht] at hread
  obtain ⟨rfl, rfl⟩ := Prod.mk.inj (Option.some.inj hread)
  exact ⟨rfl, rfl⟩

theorem of_prefixFree (h : ∀ a b, write a <+: write b → a = b) : SelfDelimiting Eq p write := by
  intro a b s t _ _ he
  have hab : a = b := by
    obtain hpre | hpre :=
      List.prefix_or_prefix_of_prefix (List.prefix_append (write a) s) ⟨t, he.symm⟩
    · exact h a b hpre
    · exact (h b a hpre).symm
  subst hab
  exact ⟨rfl, List.append_cancel_left he⟩

theorem of_words (hinj : ∀ a b, write a = write b → a = b)
    (h : ∀ a b d, p d → ¬write a ++ [d] <+: write b) : SelfDelimiting Eq p write := by
  intro a b s t hs ht he
  obtain ⟨hab, hst⟩ := words_eq he hs ht (h a b) (h b a)
  exact ⟨hinj a b hab, hst⟩

theorem flatMap (h : SelfDelimiting R p write) {before : List Char} (hne : before ≠ [])
    (hb : Ends p before) {l l' : List α} {s t : List Char} (hs : Ends p s) (ht : Ends p t)
    (hns : ¬before <+: s) (hnt : ¬before <+: t)
    (he : l.flatMap (fun a => before ++ write a) ++ s =
      l'.flatMap (fun a => before ++ write a) ++ t) : List.Forall₂ R l l' ∧ s = t := by
  induction l generalizing l' with
  | nil =>
    cases l' with
    | nil => exact ⟨.nil, he⟩
    | cons b rest => exact absurd ⟨_, by simpa using he.symm⟩ hns
  | cons a l ih =>
    cases l' with
    | nil => exact absurd ⟨_, by simpa using he⟩ hnt
    | cons b l' =>
      simp only [List.flatMap_cons, List.append_assoc] at he
      obtain ⟨hab, hrest⟩ := h (ends_flatMap hne hb l hs) (ends_flatMap hne hb l' ht)
        (List.append_cancel_left he)
      obtain ⟨hl, hst⟩ := ih hrest
      exact ⟨.cons hab hl, hst⟩

theorem intercalate {writeMember : α → String}
    (h : SelfDelimiting R p fun a => (writeMember a).toList) {separator : String}
    (hne : separator.toList ≠ []) (hb : Ends p separator.toList) {l l' : List α} (hl : l ≠ [])
    (hl' : l' ≠ []) {s t : List Char} (hs : Ends p s) (ht : Ends p t)
    (hns : ¬separator.toList <+: s) (hnt : ¬separator.toList <+: t)
    (he : (separator.intercalate (l.map writeMember)).toList ++ s =
      (separator.intercalate (l'.map writeMember)).toList ++ t) : List.Forall₂ R l l' ∧ s = t := by
  obtain ⟨a, l, rfl⟩ := List.exists_cons_of_ne_nil hl
  obtain ⟨b, l', rfl⟩ := List.exists_cons_of_ne_nil hl'
  simp only [toList_intercalate_cons, List.append_assoc] at he
  obtain ⟨hab, hrest⟩ := h (ends_flatMap hne hb l hs) (ends_flatMap hne hb l' ht) he
  obtain ⟨hl, hst⟩ := h.flatMap hne hb hs ht hns hnt hrest
  exact ⟨.cons hab hl, hst⟩

end SelfDelimiting

def marks : List Char := [' ', ',', '(', ')', '\x27', '"', '=', ';']

def IsBare (s : String) : Prop := ∀ c ∈ s.toList, c ∉ marks

theorem bare_selfDelimiting :
    SelfDelimiting Eq (· ∈ marks) fun word : {s : String // IsBare s} => word.1.toList := by
  rintro ⟨a, ha⟩ ⟨b, hb⟩ s t hs ht he
  obtain ⟨hab, hst⟩ := runs_eq he hs ht ha hb
  exact ⟨Subtype.ext (String.toList_inj.mp hab), hst⟩

/-- Reads up to a `quote` that is not doubled; answers what stands before it, with one of each
doubled pair, and what follows. -/
def readRest? (quote : Char) : List Char → Option (List Char × List Char)
  | [] => none
  | c :: rest =>
    if c ≠ quote then (readRest? quote rest).map fun r => (c :: r.1, r.2)
    else match rest with
      | [] => some ([], [])
      | d :: more =>
        if d = quote then (readRest? quote more).map fun r => (quote :: r.1, r.2)
        else some ([], d :: more)

def readEnclosed? (quote : Char) : List Char → Option (List Char × List Char)
  | [] => none
  | c :: rest => if c = quote then readRest? quote rest else none

theorem readEnclosed?_enclose (quote : Char) (s : List Char) {t : List Char}
    (ht : Ends (· ≠ quote) t) : readEnclosed? quote (enclose quote s ++ t) = some (s, t) := by
  have hrest : ∀ s : List Char, readRest? quote
      (s.flatMap (fun c => if c = quote then [c, c] else [c]) ++ quote :: t) = some (s, t) := by
    intro s
    induction s with
    | nil =>
      cases t with
      | nil => simp [readRest?]
      | cons d more => simp [readRest?, ends_cons.mp ht]
    | cons c rest ih =>
      by_cases hc : c = quote
      · subst c
        simp [readRest?, ih]
      · simp only [List.flatMap_cons, if_neg hc, List.cons_append, List.nil_append]
        generalize rest.flatMap _ ++ quote :: t = text at ih
        cases text <;> simp_all [readRest?]
  simp [enclose, readEnclosed?, hrest]

theorem literal_selfDelimiting :
    SelfDelimiting Eq (· ≠ '\x27') fun value => (literal value).toList := by
  refine .of_reader
    (fun s => (readEnclosed? '\x27' s).map fun r => (String.ofList r.1, r.2)) fun value t ht => ?_
  simp [literal, readEnclosed?_enclose _ _ ht]

def readName? : List Char → Option (List Char × List Char)
  | [] => none
  | c :: rest =>
    if isNameStart c then some ((c :: rest).takeWhile isNameChar, (c :: rest).dropWhile isNameChar)
    else readEnclosed? '"' (c :: rest)

def EndsName (c : Char) : Prop := c ≠ '"' ∧ isNameChar c = false

instance : DecidablePred EndsName := fun c => inferInstanceAs (Decidable (c ≠ '"' ∧ _))

theorem isPlain_iff {s : List Char} :
    isPlain s = true ↔ (∃ c ∈ s.head?, isNameStart c = true) ∧ ∀ c ∈ s, isNameChar c = true := by
  cases s with
  | nil => simp [isPlain]
  | cons c rest =>
    simp only [isPlain, Bool.and_eq_true, List.all_eq_true, List.head?_cons, Option.mem_some_iff,
      exists_eq_left', List.forall_mem_cons]
    refine and_congr_right fun hc => ?_
    simp [isNameChar, hc]

theorem readName?_identChars (s : List Char) {t : List Char} (ht : Ends EndsName t) :
    readName? (identChars s ++ t) = some (s, t) := by
  by_cases hs : isPlain s = true
  · obtain ⟨⟨c, hc, hstart⟩, hall⟩ := isPlain_iff.mp hs
    obtain ⟨rest, rfl⟩ := List.head?_eq_some_iff.mp hc
    have hend : t.takeWhile isNameChar = [] ∧ t.dropWhile isNameChar = t := by
      cases t with
      | nil => simp
      | cons d more => simp [(ends_cons.mp ht).2]
    rw [identChars, if_pos hs, List.cons_append, readName?, if_pos hstart, ← List.cons_append,
      List.takeWhile_append_of_pos hall, List.dropWhile_append_of_pos hall, hend.1, hend.2,
      List.append_nil]
  · have hquote : isNameStart '"' = false := by decide
    have hread := readEnclosed?_enclose '"' s (ht.mono fun _ h => h.1)
    simp only [enclose, List.cons_append, List.append_assoc, List.nil_append] at hread
    simp [identChars, hs, enclose, readName?, hquote, hread]

theorem ident_selfDelimiting : SelfDelimiting Eq EndsName fun name => (ident name).toList := by
  refine .of_reader
    (fun s => (readName? s).map fun r => (String.ofList r.1, r.2)) fun name t ht => ?_
  simp [ident, readName?_identChars _ ht]

end DbConsole.Sql

namespace DbConsole

open Sql

theorem QualifiedName.selfDelimiting :
    SelfDelimiting Eq EndsName fun name : QualifiedName => name.sql.toList := by
  rintro ⟨schema, name⟩ ⟨schema', name'⟩ s t hs ht he
  simp only [sql, String.toList_append, List.append_assoc] at he
  have hdot : EndsName '.' := by decide
  obtain ⟨rfl, hrest⟩ := ident_selfDelimiting (by simpa using hdot) (by simpa using hdot) he
  obtain ⟨rfl, hst⟩ := ident_selfDelimiting hs ht (List.append_cancel_left hrest)
  exact ⟨rfl, hst⟩

end DbConsole
