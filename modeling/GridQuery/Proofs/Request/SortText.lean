import GridQuery.Proofs.Result
import GridQuery.Proofs.Text.Words
import GridQuery.Request.QueryString

/-! # Sort items as text

A list of sort items is written with commas between the items, each as its key with the direction
behind white space; an ascending item needs no direction. White space around items, items without
characters and the case of a direction do not matter. A text is read as a list of sort items
exactly if it is written so for keys that are told apart by their digits. -/

namespace GridQuery
open Text

def SortKey.text : SortKey → String
  | column name => name
  | expression text => text

/-- The key is told from its text: a word without commas, which is all digits for an expression and
for no column. -/
inductive SortKey.IsPlain : SortKey → Prop where
  | column {name : String} : IsWord name.toList → ',' ∉ name.toList →
      ¬ (∀ c ∈ name.toList, c.isDigit = true) → IsPlain (.column name)
  | expression {text : String} : text.toList ≠ [] → (∀ c ∈ text.toList, c.isDigit = true) →
      IsPlain (.expression text)

namespace SortItem

def direction (item : SortItem) : String := if item.descending then "desc" else "asc"

inductive Renders (item : SortItem) : List Char → Prop where
  | key {before after : List Char} : item.descending = false → Blank before → Blank after →
      Renders item (before ++ (item.key.text.toList ++ after))
  | directed {before gap direction after : List Char} : Blank before → Blank gap → gap ≠ [] →
      equalIgnoringCase (String.ofList direction) item.direction = true → Blank after →
      Renders item (before ++ (item.key.text.toList ++ (gap ++ (direction ++ after))))

/-- The texts are the items in their order, with blank texts among them. -/
inductive Pieces : List SortItem → List (List Char) → Prop where
  | nil : Pieces [] []
  | blank {items : List SortItem} {piece : List Char} {pieces : List (List Char)} :
      Blank piece → Pieces items pieces → Pieces items (piece :: pieces)
  | item {item : SortItem} {items : List SortItem} {piece : List Char}
      {pieces : List (List Char)} : item.Renders piece → Pieces items pieces →
      Pieces (item :: items) (piece :: pieces)

def RendersAll (items : List SortItem) (text : String) : Prop :=
  ∃ pieces, Pieces items pieces ∧ text.toList = [','].intercalate pieces

end SortItem

section SortKey
variable {key : SortKey} {name : List Char}

@[simp] theorem SortKey.text_ofName : (SortKey.ofName name).text = String.ofList name := by
  unfold SortKey.ofName
  split <;> rfl

theorem SortKey.isPlain_ofName (hw : IsWord name) (hc : ',' ∉ name) :
    (SortKey.ofName name).IsPlain := by
  unfold SortKey.ofName
  split
  · rename_i hd
    exact .expression (by simpa using hw.ne_nil) (by simpa using hd)
  · rename_i hd
    exact .column (by simpa using hw) (by simpa using hc) (by simpa using hd)

namespace SortKey.IsPlain

theorem isWord (h : key.IsPlain) : IsWord key.text.toList := by
  cases h with
  | column hw => exact hw
  | expression hn hd => exact ⟨hn, fun c hc => isBlank_of_isWord (isWord_of_isDigit (hd c hc))⟩

theorem comma_not_mem (h : key.IsPlain) : ',' ∉ key.text.toList := by
  cases h with
  | column _ hc => exact hc
  | expression _ hd => exact fun hc => absurd (hd _ hc) (by decide)

theorem eq_ofName (h : key.IsPlain) : key = .ofName key.text.toList := by
  cases h with
  | column _ _ hd => simpa [SortKey.ofName, SortKey.text] using hd
  | expression _ hd => simpa [SortKey.ofName, SortKey.text] using hd

end SortKey.IsPlain
end SortKey

namespace SortItem
variable {item : SortItem} {items : List SortItem} {piece name dir : List Char}
  {pieces rest : List (List Char)}

section Item

theorem readDirection_eq_ok_iff {t : String} {descending : Bool} :
    readDirection t = .ok descending ↔
      equalIgnoringCase t (if descending then "desc" else "asc") = true := by
  have hne : equalIgnoringCase t "asc" = true → equalIgnoringCase t "desc" = false := by
    intro h
    rw [equalIgnoringCase, beq_iff_eq] at h
    rw [equalIgnoringCase, h]
    decide
  unfold readDirection
  by_cases ha : equalIgnoringCase t "asc" = true
  · cases descending <;> simp [ha, hne ha]
  · by_cases hd : equalIgnoringCase t "desc" = true <;> cases descending <;> simp [ha, hd]

theorem direction_letters (h : equalIgnoringCase (String.ofList dir) item.direction = true) :
    dir ≠ [] ∧ ∀ c ∈ dir, isWord c = true := by
  have hmap : dir.map Char.toLower = item.direction.toList.map Char.toLower := by
    simpa only [equalIgnoringCase, lowerAscii, beq_iff_eq, String.ofList_inj,
      String.toList_ofList] using h
  have hd : item.direction.toList ≠ [] ∧ ∀ c ∈ item.direction.toList, isWord c = true := by
    unfold direction
    split <;> decide
  refine ⟨?_, isWord_of_map_toLower hmap hd.2⟩
  rintro rfl
  exact hd.1 (List.map_eq_nil_iff.1 hmap.symm)

theorem isWord_of_direction (h : equalIgnoringCase (String.ofList dir) item.direction = true) :
    IsWord dir :=
  ⟨(direction_letters h).1, fun c hc => isBlank_of_isWord ((direction_letters h).2 c hc)⟩

theorem renders_iff (hk : IsWord item.key.text.toList) : item.Renders piece ↔
    words piece = [item.key.text.toList] ∧ item.descending = false ∨
      ∃ dir, words piece = [item.key.text.toList, dir] ∧
        equalIgnoringCase (String.ofList dir) item.direction = true := by
  constructor
  · rintro (⟨hd, hb, ha⟩ | @⟨before, gap, dir, after, hb, hg, hn, he, ha⟩)
    · left
      rw [words_blank_append hb, words_append_blank _ ha, words_word hk]
      exact ⟨rfl, hd⟩
    · right
      have hgap : ∀ c ∈ (gap ++ (dir ++ after)).head?, isBlank c = true := by
        obtain ⟨c, gap, rfl⟩ := List.exists_cons_of_ne_nil hn
        simpa using hg c List.mem_cons_self
      refine ⟨dir, ?_, he⟩
      rw [words_blank_append hb, words_word_append hk hgap, words_blank_append hg,
        words_append_blank _ ha, words_word (isWord_of_direction he)]
  · rintro (⟨hw, hd⟩ | ⟨dir, hw, he⟩)
    · obtain ⟨before, t, hb, -, -, rfl, ht⟩ := words_eq_cons_iff.1 hw
      exact .key hd hb (words_eq_nil_iff.1 ht)
    · obtain ⟨before, t, hb, -, hs, rfl, ht⟩ := words_eq_cons_iff.1 hw
      obtain ⟨gap, after, hg, hdir, -, rfl, ha⟩ := words_eq_cons_iff.1 ht
      refine .directed hb hg ?_ he (words_eq_nil_iff.1 ha)
      -- without white space the direction would go on with the key
      rintro rfl
      obtain ⟨c, dir, rfl⟩ := List.exists_cons_of_ne_nil hdir.ne_nil
      have hc := hdir.not_isBlank c List.mem_cons_self
      rw [hs c rfl] at hc
      cases hc

/-- The key is the first word, and a direction is all that may follow. -/
theorem isPlain_and_renders_iff (hc : ',' ∉ piece) (hw : words piece = name :: rest) :
    item.key.IsPlain ∧ item.Renders piece ↔ item.key = .ofName name ∧
      (rest = [] ∧ item.descending = false ∨
        ∃ dir, rest = [dir] ∧ readDirection (String.ofList dir) = .ok item.descending) := by
  obtain ⟨before, t, -, hname, -, hpiece, -⟩ := words_eq_cons_iff.1 hw
  constructor
  · rintro ⟨hk, hr⟩
    have hr := (renders_iff hk.isWord).1 hr
    simp only [hw, List.cons.injEq] at hr
    obtain ⟨⟨rfl, hrest⟩, hd⟩ | ⟨dir, ⟨rfl, hrest⟩, he⟩ := hr
    · exact ⟨hk.eq_ofName, .inl ⟨hrest, hd⟩⟩
    · exact ⟨hk.eq_ofName, .inr ⟨dir, hrest, readDirection_eq_ok_iff.2 he⟩⟩
  · rintro ⟨hk, h⟩
    have hp : item.key.IsPlain :=
      hk ▸ SortKey.isPlain_ofName hname fun h => hc (by simp [hpiece, h])
    refine ⟨hp, (renders_iff hp.isWord).2 ?_⟩
    simp only [hw, hk, SortKey.text_ofName, String.toList_ofList, List.cons.injEq, true_and]
    exact h.imp_right fun ⟨dir, hrest, he⟩ => ⟨dir, hrest, readDirection_eq_ok_iff.1 he⟩

theorem ofText_trim_eq_ok_iff (hc : ',' ∉ piece) (hb : ¬ Blank piece) :
    ofText (trim piece) = .ok item ↔ item.key.IsPlain ∧ item.Renders piece := by
  obtain ⟨name, rest, hw⟩ := List.exists_cons_of_ne_nil (mt words_eq_nil_iff.1 hb)
  obtain ⟨key, descending⟩ := item
  rw [isPlain_and_renders_iff hc hw, ofText, words_trim, hw]
  rcases rest with _ | ⟨dir, _ | ⟨more, rest⟩⟩
  · simp [eq_comm]
  · simp only [bind_eq_ok_iff]
    constructor
    · rintro ⟨d, hd, h⟩
      cases h
      exact ⟨rfl, .inr ⟨dir, rfl, hd⟩⟩
    · rintro ⟨rfl, ⟨h, -⟩ | ⟨dir', h, hd⟩⟩
      · cases h
      · cases h
        exact ⟨descending, hd, rfl⟩
  · simp [bind_eq_ok_iff]

end Item

section Pieces

theorem not_blank_of_renders (hk : IsWord item.key.text.toList) (h : item.Renders piece) :
    ¬ Blank piece := by
  intro hb
  have hw := (renders_iff hk).1 h
  simp [words_blank hb] at hw

theorem comma_not_mem_of_renders (hk : item.key.IsPlain) (h : item.Renders piece) :
    ',' ∉ piece := by
  have hblank {w : List Char} (hw : Blank w) : ',' ∉ w := fun hc => absurd (hw _ hc) (by decide)
  cases h with
  | key _ hb ha => simp [hblank hb, hblank ha, hk.comma_not_mem]
  | directed hb hg _ he ha =>
    have hd : ',' ∉ _ := fun hc => absurd ((direction_letters he).2 _ hc) (by decide)
    simp [hblank hb, hblank hg, hblank ha, hd, hk.comma_not_mem]

theorem comma_not_mem_of_pieces (hk : ∀ item ∈ items, item.key.IsPlain)
    (h : Pieces items pieces) : ∀ piece ∈ pieces, ',' ∉ piece := by
  induction h with
  | nil => nofun
  | blank hb _ ih =>
    exact List.forall_mem_cons.2 ⟨fun hc => absurd (hb _ hc) (by decide), ih hk⟩
  | item hr _ ih =>
    obtain ⟨hi, hk⟩ := List.forall_mem_cons.1 hk
    exact List.forall_mem_cons.2 ⟨comma_not_mem_of_renders hi hr, ih hk⟩

/-- Reading goes on piece by piece: a blank one is passed over, any other is an item. -/
theorem mapM_eq_ok_iff_pieces (hp : ∀ piece ∈ pieces, ',' ∉ piece) :
    ((pieces.map trim).filter (!·.isEmpty)).mapM ofText = .ok items ↔
      (∀ item ∈ items, item.key.IsPlain) ∧ Pieces items pieces := by
  rw [mapM_eq_ok_iff]
  induction pieces generalizing items with
  | nil =>
    rw [List.map_nil, List.filter_nil, List.forall₂_nil_left_iff]
    constructor
    · rintro rfl
      exact ⟨nofun, .nil⟩
    · rintro ⟨-, h⟩
      cases h
      rfl
  | cons piece pieces ih =>
    obtain ⟨hc, hp⟩ := List.forall_mem_cons.1 hp
    by_cases hb : Blank piece
    · rw [List.map_cons, trim_eq_nil_iff.2 hb, List.filter_cons_of_neg (by simp), ih hp]
      refine and_congr_right fun hk => ⟨.blank hb, fun h => ?_⟩
      cases h with
      | blank _ h => exact h
      | item hr => exact absurd hb (not_blank_of_renders (hk _ List.mem_cons_self).isWord hr)
    · have ht : trim piece ≠ [] := mt trim_eq_nil_iff.1 hb
      rw [List.map_cons, List.filter_cons_of_pos (by simpa using ht), List.forall₂_cons_left_iff]
      constructor
      · rintro ⟨item, rest, hi, hrest, rfl⟩
        obtain ⟨hk, hr⟩ := (ofText_trim_eq_ok_iff hc hb).1 hi
        obtain ⟨hks, hps⟩ := (ih hp).1 hrest
        exact ⟨List.forall_mem_cons.2 ⟨hk, hks⟩, .item hr hps⟩
      · rintro ⟨hk, h⟩
        cases h with
        | blank hb' => exact absurd hb' hb
        | item hr h =>
          obtain ⟨hi, hk⟩ := List.forall_mem_cons.1 hk
          exact ⟨_, _, (ofText_trim_eq_ok_iff hc hb).2 ⟨hi, hr⟩, (ih hp).2 ⟨hk, h⟩, rfl⟩

end Pieces

end SortItem

open SortItem

/-- A text is read as a list of sort items exactly if the keys are plain and the text is the list,
with any white space, empty items and case of directions. -/
theorem sortOfText_eq_ok_iff (items : List SortItem) (text : String) :
    sortOfText text = .ok items ↔
      (∀ item ∈ items, item.key.IsPlain) ∧ RendersAll items text := by
  rw [sortOfText, commaItems, mapM_eq_ok_iff_pieces fun piece => notMem_of_mem_splitOn]
  refine and_congr_right fun hk => ⟨fun h => ⟨_, h, (List.intercalate_splitOn ',').symm⟩, ?_⟩
  rintro ⟨pieces, hp, ht⟩
  cases pieces with
  | nil =>
    -- no piece at all is written as one empty piece
    cases hp
    rw [ht]
    exact .blank (by decide) .nil
  | cons piece pieces =>
    rw [ht, List.splitOn_intercalate ',' (comma_not_mem_of_pieces hk hp) (List.cons_ne_nil _ _)]
    exact hp

theorem sortOfText_directed : sortOfText ",\u3000asc\tDesc,2 ASC ," =
    .ok [⟨.column "asc", true⟩, ⟨.expression "2", false⟩] := by
  have hfirst : Renders ⟨.column "asc", true⟩
      (['\u3000'] ++ ("asc".toList ++ (['\t'] ++ ("Desc".toList ++ [])))) :=
    .directed (by decide) (by decide) (by decide) (by decide) (by decide)
  have hsecond : Renders ⟨.expression "2", false⟩
      ([] ++ ("2".toList ++ ([' '] ++ ("ASC".toList ++ [' '])))) :=
    .directed (by decide) (by decide) (by decide) (by decide) (by decide)
  refine (sortOfText_eq_ok_iff _ _).2 ⟨?_, [[], _, _, []], .blank (by decide)
    (.item hfirst (.item hsecond (.blank (by decide) .nil))), by decide⟩
  rintro item hi
  simp only [List.mem_cons, List.not_mem_nil, or_false] at hi
  obtain rfl | rfl := hi
  · exact .column ⟨by decide, by decide⟩ (by decide) (by decide)
  · exact .expression (by decide) (by decide)

end GridQuery
