import GridQuery.Proofs.Batch.Placeholders
import GridQuery.Proofs.Text.Places

/-! # Slots of a statement

Every place of a statement is in its slot: a bracket opens a name, an `ORDER BY` starts sort
items, and a semicolon ends the statement. Constants are so by themselves, and a caller's text,
once it is sanitized, is so before anything that does not continue it. -/

namespace GridQuery
open Text

/-- The text goes on with a word that a closing bracket ends. -/
def OpensName (s : List Char) : Prop := (s.dropWhile isWord).head? = some ']'

def EndsLine (s : List Char) : Prop := ∃ c ∈ s.head?, c = '\n' ∨ c = ';'

/-- A word, or a word between brackets, which may be empty. -/
def IsSortKey (key : List Char) : Prop :=
  ∃ word, (∀ c ∈ word, isWord c = true) ∧ (key = word ∨ key = '[' :: (word ++ [']']))

def IsSortItem (item : List Char) : Prop :=
  ∃ key, IsSortKey key ∧ (item = key ++ " ASC".toList ∨ item = key ++ " DESC".toList)

/-- The text goes on with sort items, and with nothing else on their line. -/
def SortsLine (s : List Char) : Prop :=
  ∃ items rest, items ≠ [] ∧ (∀ item ∈ items, IsSortItem item) ∧
    s = ", ".toList.intercalate items ++ rest ∧ EndsLine rest

/-- What stands at a place of a statement is in its slot. -/
structure InSlot (s : List Char) : Prop where
  semicolon : ∀ a, s = ';' :: a → "\n\n".toList <+: a
  name : ∀ a, s = '[' :: a → "$Type]".toList <+: a ∨ OpensName a
  sorts : ∀ a, s = "ORDER BY ".toList ++ a → SortsLine a

theorem toList_orderBy : "ORDER BY ".toList = 'O' :: "RDER BY ".toList := by decide

section InSlot
variable {c : Char} {s t w rest : List Char}

theorem inSlot_of_not_mem (h : c ∉ [';', '[', 'O']) : InSlot (c :: s) := by
  simp only [List.mem_cons, List.not_mem_nil, or_false, not_or] at h
  refine ⟨?_, ?_, ?_⟩ <;> intro a ha
  · exact absurd (List.cons.inj ha).1 h.1
  · exact absurd (List.cons.inj ha).1 h.2.1
  · exact absurd (List.cons.inj ha).1 h.2.2

theorem inSlot_name (h : OpensName s) : InSlot ('[' :: s) := by
  refine ⟨nofun, fun a ha => ?_, fun a ha => absurd (List.cons.inj ha).1 (by decide)⟩
  cases ha
  exact .inr h

theorem inSlot_of_not_prefix (h : ¬ "RDER BY ".toList <+: s) : InSlot ('O' :: s) := by
  refine ⟨nofun, nofun, fun a ha => absurd ?_ h⟩
  exact ⟨a, (List.cons.inj ha).2.symm⟩

theorem inSlot_sorts (h : SortsLine s) : InSlot ("ORDER BY ".toList ++ s) := by
  refine ⟨nofun, nofun, fun a ha => ?_⟩
  rwa [← List.append_cancel_left ha]

/-- The place is in its slot, whatever comes behind the text. -/
def Settled : List Char → Prop
  | [] => False
  | c :: a => (c = ';' → "\n\n".toList <+: a) ∧ (c = '[' → "$Type]".toList <+: a) ∧
      (c = 'O' → ¬ "RDER BY ".toList <+: a ∧ ¬ a <+: "RDER BY ".toList)

instance : DecidablePred Settled
  | [] => isFalse id
  | c :: a => inferInstanceAs (Decidable ((c = ';' → "\n\n".toList <+: a) ∧
      (c = '[' → "$Type]".toList <+: a) ∧
      (c = 'O' → ¬ "RDER BY ".toList <+: a ∧ ¬ a <+: "RDER BY ".toList)))

theorem Settled.inSlot (h : Settled s) : InSlot (s ++ rest) := by
  cases s with
  | nil => cases h
  | cons c s =>
    obtain ⟨hs, hn, ho⟩ := h
    refine ⟨fun a ha => ?_, fun a ha => ?_, fun a ha => ?_⟩
    · cases ha
      exact (hs rfl).trans (List.prefix_append _ _)
    · cases ha
      exact .inl ((hn rfl).trans (List.prefix_append _ _))
    · rw [toList_orderBy] at ha
      obtain ⟨rfl, hk⟩ := List.cons.inj ha
      -- the text and the keyword both start what stands here, so one of them starts the other
      have hk : "RDER BY ".toList <+: s ++ rest := ⟨a, hk.symm⟩
      obtain h | h := List.prefix_or_prefix_of_prefix hk (List.prefix_append s rest)
      · exact absurd h (ho rfl).1
      · exact absurd h (ho rfl).2

theorem throughout_of_settled (h : Throughout Settled t []) : Throughout InSlot t rest :=
  h.of_local fun _ ha => ha.inSlot

theorem not_prefix_word (hw : ∀ c ∈ w, isWord c = true) (hr : EndsWord rest)
    (hb : ¬ " BY ".toList <+: rest) : ¬ "RDER BY ".toList <+: w ++ rest := by
  rintro ⟨a, ha⟩
  have hd := (takeWhile_append_of_ends hw hr).2
  rw [← ha] at hd
  exact hb ⟨a, hd⟩

theorem throughout_word (hw : ∀ c ∈ w, isWord c = true) (hr : EndsWord rest)
    (hb : ¬ " BY ".toList <+: rest) : Throughout InSlot w rest := by
  induction w with
  | nil => trivial
  | cons c w ih =>
    obtain ⟨hc, hw⟩ := List.forall_mem_cons.1 hw
    refine ⟨?_, ih hw⟩
    by_cases ho : c = 'O'
    · exact ho ▸ inSlot_of_not_prefix (not_prefix_word hw hr hb)
    · refine inSlot_of_not_mem ?_
      simp only [List.mem_cons, List.not_mem_nil, or_false, not_or]
      refine ⟨?_, ?_, ho⟩ <;> rintro rfl <;> exact absurd hc (by decide)

theorem throughout_name (hw : ∀ c ∈ w, isWord c = true) :
    Throughout InSlot ('[' :: (w ++ [']'])) rest := by
  have he : EndsWord (']' :: rest) := by simp; decide
  have hd : (w ++ ']' :: rest).dropWhile isWord = ']' :: rest := (takeWhile_append_of_ends hw he).2
  refine ⟨inSlot_name (by simp [OpensName, hd]), throughout_append.2 ⟨?_, ?_⟩⟩
  · exact throughout_word hw he (by simp)
  · exact ⟨inSlot_of_not_mem (by decide), trivial⟩

end InSlot

def bodyMarks : List Char :=
  ['[', ']', '@', '(', ')', '.', ',', '*', '=', '<', '>', ' ', '\n']

/-- The text keeps to its slots in front of what is allowed behind it. -/
structure KeepsBefore (behind : List Char → Prop) (t : String) : Prop where
  marks : MadeOf bodyMarks t
  places : ∀ rest, behind rest → Throughout InSlot t.toList rest

abbrev Keeps (t : String) : Prop := KeepsBefore (fun _ => True) t

/-- The text keeps to its slots where its line ends behind it. -/
abbrev KeepsLine (t : String) : Prop := KeepsBefore EndsLine t

section Keeps
variable {behind : List Char → Prop} {s t : String} {fragments : Fragments} {items : List Fragments}

theorem Keeps.before (h : Keeps t) : KeepsBefore behind t :=
  ⟨h.marks, fun rest _ => h.places rest trivial⟩

theorem KeepsBefore.prepend (ht : KeepsBefore behind t) (hs : Keeps s) :
    KeepsBefore behind (s ++ t) := by
  refine ⟨hs.marks.append ht.marks, fun rest hr => ?_⟩
  rw [String.toList_append]
  exact throughout_append.2 ⟨hs.places _ trivial, ht.places rest hr⟩

theorem Keeps.append (hs : Keeps s) (ht : Keeps t) : Keeps (s ++ t) := ht.prepend hs

def IsConstant (t : String) : Prop := MadeOf bodyMarks t ∧ Throughout Settled t.toList []

instance (t : String) : Decidable (IsConstant t) :=
  inferInstanceAs (Decidable (MadeOf bodyMarks t ∧ Throughout Settled t.toList []))

theorem keeps_constant (h : IsConstant t) : Keeps t :=
  ⟨h.1, fun _ _ => throughout_of_settled h.2⟩

theorem keeps_of_madeOf (hm : MadeOf bodyMarks t) (h : 'O' ∉ t.toList) (hn : '[' ∉ t.toList) :
    Keeps t := by
  have hs : ';' ∉ t.toList := hm.not_mem (by decide) (by decide)
  refine ⟨hm, fun rest _ => throughout_of_forall fun c hc a => inSlot_of_not_mem ?_⟩
  simp only [List.mem_cons, List.not_mem_nil, or_false, not_or]
  refine ⟨?_, ?_, ?_⟩ <;> rintro rfl <;> contradiction

theorem keeps_identifier (name : String) : Keeps (identifier name) := by
  refine ⟨(madeOf_identifier name).mono (by decide), fun rest _ => ?_⟩
  have ht : (identifier name).toList = '[' :: ((sanitize name).toList ++ [']']) := by
    simp [identifier_eq]
  rw [ht]
  exact throughout_name fun _ => isWord_of_mem_sanitize

theorem keeps_toString (n : Nat) : Keeps (toString n) := by
  refine keeps_of_madeOf (fun c hc => .inl (isWord_of_mem_toString hc)) ?_ ?_ <;>
    exact fun h => absurd (isDigit_of_mem_toString h) (by decide)

theorem keeps_placeholder (n : Nat) : Keeps (placeholder n) :=
  .append (keeps_constant (by decide)) (keeps_toString n)

theorem keeps_fragments (h : ∀ f ∈ fragments, Keeps f.text) : Keeps fragments.text := by
  induction fragments with
  | nil => exact (keeps_constant (by decide) : Keeps "")
  | cons f rest ih =>
    obtain ⟨hf, hr⟩ := List.forall_mem_cons.1 h
    rw [Fragments.text_cons]
    exact hf.append (ih hr)

theorem keeps_commaSeparated (h : ∀ item ∈ items, ∀ f ∈ item, Keeps f.text) :
    ∀ f ∈ Fragments.commaSeparated items, Keeps f.text := by
  intro f hf
  obtain rfl | rfl | ⟨item, hi, hf⟩ := mem_commaSeparated hf
  · exact keeps_constant (by decide)
  · exact keeps_constant (by decide)
  · exact h item hi f hf

end Keeps
end GridQuery
