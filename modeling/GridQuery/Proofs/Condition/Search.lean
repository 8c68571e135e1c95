import GridQuery.Proofs.Condition.Run
import Mathlib.Data.List.Infix

/-! # Searching for a text

A pattern operator puts wildcards around its text and leaves the text as it is. So the text is
read as a pattern itself: the operator looks for a part of the column that matches it. It looks
for the text exactly if the text has no wildcard of its own. -/

namespace GridQuery

section Matches
variable (InClass : List Char → Char → Prop)

/-- The pattern matches the text. Which characters are in a class is left open; a bracket that is
not closed is a character like any other. -/
inductive Matches : List Char → List Char → Prop where
  | nil : Matches [] []
  | run (skipped : List Char) {p x : List Char} : Matches p x → Matches ('%' :: p) (skipped ++ x)
  | one (c : Char) {p x : List Char} : Matches p x → Matches ('_' :: p) (c :: x)
  | oneOf {between p x : List Char} {c : Char} : ']' ∉ between → InClass between c →
      Matches p x → Matches ('[' :: (between ++ ']' :: p)) (c :: x)
  | literal {c : Char} {p x : List Char} : c ≠ '%' → c ≠ '_' → (c = '[' → ']' ∉ p) →
      Matches p x → Matches (c :: p) (c :: x)

/-- The text has no wildcard, so as a pattern it stands for itself. -/
structure IsPlain (s : List Char) : Prop where
  run : '%' ∉ s
  one : '_' ∉ s
  oneOf : ∀ before after, s = before ++ '[' :: after → ']' ∉ after

variable {InClass} {p q s x y : List Char} {c : Char}

theorem isPlain_nil : IsPlain [] := ⟨by simp, by simp, by simp⟩

theorem isPlain_cons_iff :
    IsPlain (c :: s) ↔ c ≠ '%' ∧ c ≠ '_' ∧ (c = '[' → ']' ∉ s) ∧ IsPlain s := by
  constructor
  · rintro ⟨hr, ho, hc⟩
    rw [List.mem_cons, not_or] at hr ho
    refine ⟨Ne.symm hr.1, Ne.symm ho.1, fun hb => hc [] s (by rw [hb]; rfl), hr.2, ho.2, ?_⟩
    rintro before after rfl
    exact hc (c :: before) after rfl
  · rintro ⟨hp, hu, hb, hr, ho, hc⟩
    refine ⟨by simp [hr, Ne.symm hp], by simp [ho, Ne.symm hu], fun before after h => ?_⟩
    cases before with
    | nil =>
      cases h
      exact hb rfl
    | cons d before =>
      cases h
      exact hc before after rfl

theorem Matches.append (hq : ']' ∉ q) (hp : Matches InClass p x) (h : Matches InClass q y) :
    Matches InClass (p ++ q) (x ++ y) := by
  induction hp with
  | nil => exact h
  | run skipped _ ih => simpa using ih.run skipped
  | one c _ ih => exact ih.one c
  | oneOf hb hc _ ih => simpa using ih.oneOf hb hc
  | literal hp hu hb _ ih => exact ih.literal hp hu fun hc => by simp [hb hc, hq]

theorem Matches.split (hq : ']' ∉ q) (h : Matches InClass (p ++ q) x) :
    ∃ y z, x = y ++ z ∧ Matches InClass p y ∧ Matches InClass q z := by
  generalize hr : p ++ q = r at h
  induction h generalizing p with
  | nil =>
    obtain ⟨rfl, rfl⟩ := List.append_eq_nil_iff.1 hr
    exact ⟨[], [], rfl, .nil, .nil⟩
  | run skipped h ih =>
    obtain ⟨rfl, rfl⟩ | ⟨p, rfl, rfl⟩ := List.append_eq_cons_iff.1 hr
    · exact ⟨[], _, rfl, .nil, h.run skipped⟩
    · obtain ⟨y, z, rfl, hy, hz⟩ := ih rfl
      exact ⟨skipped ++ y, z, by simp, hy.run skipped, hz⟩
  | one c h ih =>
    obtain ⟨rfl, rfl⟩ | ⟨p, rfl, rfl⟩ := List.append_eq_cons_iff.1 hr
    · exact ⟨[], _, rfl, .nil, h.one c⟩
    · obtain ⟨y, z, rfl, hy, hz⟩ := ih rfl
      exact ⟨c :: y, z, rfl, hy.one c, hz⟩
  | oneOf hb hc h ih =>
    obtain ⟨rfl, rfl⟩ | ⟨p, rfl, hr'⟩ := List.append_eq_cons_iff.1 hr
    · exact ⟨[], _, rfl, .nil, h.oneOf hb hc⟩
    -- the bracket that closes the class is not in `q`, so the class ends in front of it
    · obtain ⟨rest, rfl, hq'⟩ | ⟨rest, rfl, hb'⟩ := List.append_eq_append_iff.1 hr'.symm
      · simp [hq'] at hq
      · obtain ⟨rfl, rfl⟩ | ⟨rest, rfl, rfl⟩ := List.append_eq_cons_iff.1 hb'.symm
        · simp at hq
        · obtain ⟨y, z, rfl, hy, hz⟩ := ih rfl
          exact ⟨_ :: y, z, rfl, hy.oneOf hb hc, hz⟩
  | literal hp hu hb h ih =>
    obtain ⟨rfl, rfl⟩ | ⟨p, rfl, rfl⟩ := List.append_eq_cons_iff.1 hr
    · exact ⟨[], _, rfl, .nil, h.literal hp hu hb⟩
    · obtain ⟨y, z, rfl, hy, hz⟩ := ih rfl
      exact ⟨_ :: y, z, rfl, hy.literal hp hu fun hc hm => hb hc (by simp [hm]), hz⟩

theorem matches_run_iff :
    Matches InClass ('%' :: p) x ↔ ∃ y, y <:+ x ∧ Matches InClass p y := by
  constructor
  · intro h
    cases h with
    | run skipped h => exact ⟨_, ⟨skipped, rfl⟩, h⟩
    | literal hp => exact absurd rfl hp
  · rintro ⟨y, ⟨skipped, rfl⟩, h⟩
    exact h.run skipped

theorem matches_append_run_iff :
    Matches InClass (p ++ ['%']) x ↔ ∃ y, y <+: x ∧ Matches InClass p y := by
  constructor
  · intro h
    obtain ⟨y, z, rfl, hy, -⟩ := h.split (by simp)
    exact ⟨y, ⟨z, rfl⟩, hy⟩
  · rintro ⟨y, ⟨z, rfl⟩, hy⟩
    exact hy.append (by simp) (by simpa using Matches.nil.run z)

theorem IsPlain.matches_iff (hs : IsPlain s) : Matches InClass s y ↔ y = s := by
  constructor
  · intro h
    induction h with
    | nil => rfl
    | run => exact absurd rfl (isPlain_cons_iff.1 hs).1
    | one => exact absurd rfl (isPlain_cons_iff.1 hs).2.1
    | oneOf => simpa using (isPlain_cons_iff.1 hs).2.2.1 rfl
    | literal _ _ _ _ ih => rw [ih (isPlain_cons_iff.1 hs).2.2.2]
  · rintro rfl
    induction y with
    | nil => exact .nil
    | cons c y ih =>
      obtain ⟨hp, hu, hb, hy⟩ := isPlain_cons_iff.1 hs
      exact (ih hy).literal hp hu hb

/-- A pattern that matches anything matches a text that is no longer than the pattern, and it is
this text only if it is plain. -/
theorem Matches.exists_short (h : Matches InClass s x) :
    ∃ y, Matches InClass s y ∧ y.length ≤ s.length ∧ (y = s → IsPlain s) := by
  induction h with
  | nil => exact ⟨[], .nil, le_rfl, fun _ => isPlain_nil⟩
  | run skipped _ ih =>
    obtain ⟨y, hy, hl, -⟩ := ih
    refine ⟨y, hy.run [], Nat.le_succ_of_le hl, fun h => ?_⟩
    rw [h, List.length_cons] at hl
    omega
  | one c _ ih =>
    obtain ⟨y, hy, hl, -⟩ := ih
    refine ⟨'a' :: y, hy.one 'a', Nat.succ_le_succ hl, fun h => ?_⟩
    exact absurd (List.cons.inj h).1 (by decide)
  | oneOf hb hc _ ih =>
    obtain ⟨y, hy, hl, -⟩ := ih
    refine ⟨_ :: y, hy.oneOf hb hc, ?_, fun h => ?_⟩
    · simp only [List.length_cons, List.length_append]
      omega
    · have hlen := congrArg List.length h
      simp only [List.length_cons, List.length_append] at hlen
      omega
  | literal hp hu hb _ ih =>
    obtain ⟨y, hy, hl, hplain⟩ := ih
    refine ⟨_ :: y, hy.literal hp hu hb, Nat.succ_le_succ hl, fun h => ?_⟩
    exact isPlain_cons_iff.2 ⟨hp, hu, hb, hplain (List.cons.inj h).2⟩

end Matches

namespace Comparison

/-- What the operators of patterns are named for. -/
def Finds (op : Comparison) (s x : List Char) : Prop :=
  match op with
  | contains => s <:+: x
  | notContains => ¬ s <:+: x
  | startsWith => s <+: x
  | endsWith => s <:+ x
  | _ => False

section Selects
variable (InClass : List Char → Char → Prop) {op : Comparison} {s : String} {x : List Char}

/-- What the operator of a condition says of a text and of the pattern behind it. -/
def Meets (operator : String) (pattern x : List Char) : Prop :=
  match operator with
  | "LIKE" => Matches InClass pattern x
  | "NOT LIKE" => ¬ Matches InClass pattern x
  | _ => False

def Selects (op : Comparison) (s : String) (x : List Char) : Prop :=
  Meets InClass op.sqlOperator (op.pattern s).toList x

theorem selects_notContains :
    notContains.Selects InClass s x ↔ ¬ contains.Selects InClass s x :=
  .rfl

theorem selects_contains :
    contains.Selects InClass s x ↔ ∃ y, y <:+: x ∧ Matches InClass s.toList y := by
  have hp : (contains.pattern s).toList = '%' :: (s.toList ++ ['%']) := by
    simp [pattern, String.toList_append]
  show Matches InClass (contains.pattern s).toList x ↔ _
  simp only [hp, matches_run_iff, matches_append_run_iff, List.infix_iff_prefix_suffix]
  constructor
  · rintro ⟨z, hz, y, hy, h⟩
    exact ⟨y, ⟨z, hy, hz⟩, h⟩
  · rintro ⟨y, ⟨z, hy, hz⟩, h⟩
    exact ⟨z, hz, y, hy, h⟩

theorem selects_startsWith :
    startsWith.Selects InClass s x ↔ ∃ y, y <+: x ∧ Matches InClass s.toList y := by
  have hp : (startsWith.pattern s).toList = s.toList ++ ['%'] := by
    simp [pattern, String.toList_append]
  show Matches InClass (startsWith.pattern s).toList x ↔ _
  rw [hp, matches_append_run_iff]

theorem selects_endsWith :
    endsWith.Selects InClass s x ↔ ∃ y, y <:+ x ∧ Matches InClass s.toList y := by
  have hp : (endsWith.pattern s).toList = '%' :: s.toList := by
    simp [pattern, String.toList_append]
  show Matches InClass (endsWith.pattern s).toList x ↔ _
  rw [hp, matches_run_iff]

/-- A pattern operator other than `notContains` finds any text that the string matches. -/
theorem selects_iff (hop : op.isPattern = true) (hn : op ≠ notContains) :
    op.Selects InClass s x ↔ ∃ y, op.Finds y x ∧ Matches InClass s.toList y := by
  cases op with
  | contains => exact selects_contains InClass
  | startsWith => exact selects_startsWith InClass
  | endsWith => exact selects_endsWith InClass
  | notContains => exact absurd rfl hn
  | eq | ne | lt | le | gt | ge => cases hop

theorem finds_self (hop : op.isPattern = true) (hn : op ≠ notContains) : op.Finds x x := by
  cases op with
  | contains => exact List.infix_rfl
  | startsWith => exact List.prefix_rfl
  | endsWith => exact List.suffix_rfl
  | notContains => exact absurd rfl hn
  | eq | ne | lt | le | gt | ge => cases hop

theorem infix_of_finds {y : List Char} (hn : op ≠ notContains) (h : op.Finds y x) : y <:+: x := by
  cases op with
  | contains => exact h
  | startsWith => exact h.isInfix
  | endsWith => exact h.isInfix
  | notContains => exact absurd rfl hn
  | eq | ne | lt | le | gt | ge => exact h.elim

theorem isPlain_of_selects (hop : op.isPattern = true) (hn : op ≠ notContains)
    (h : ∀ x, op.Selects InClass s x ↔ op.Finds s.toList x) : IsPlain s.toList := by
  by_cases hm : ∃ y, Matches InClass s.toList y
  · obtain ⟨_, hm⟩ := hm
    obtain ⟨y, hy, hl, hplain⟩ := hm.exists_short
    have hs : op.Selects InClass s y := (selects_iff InClass hop hn).2 ⟨y, finds_self hop hn, hy⟩
    have hi : s.toList <:+: y := infix_of_finds hn ((h y).1 hs)
    exact hplain (hi.eq_of_length (hi.length_le.antisymm hl)).symm
  · obtain ⟨y, -, hy⟩ := (selects_iff InClass hop hn).1 ((h s.toList).2 (finds_self hop hn))
    exact absurd ⟨y, hy⟩ hm

theorem selects_iff_of_isPlain (hop : op.isPattern = true) (hn : op ≠ notContains)
    (hs : IsPlain s.toList) : op.Selects InClass s x ↔ op.Finds s.toList x := by
  rw [selects_iff InClass hop hn]
  simp only [hs.matches_iff, exists_eq_right]

theorem isPlain_iff_selects (hop : op.isPattern = true) :
    IsPlain s.toList ↔ ∀ x, op.Selects InClass s x ↔ op.Finds s.toList x := by
  by_cases hn : op = notContains
  · subst hn
    have hc (x : List Char) : (notContains.Selects InClass s x ↔ notContains.Finds s.toList x) ↔
        (contains.Selects InClass s x ↔ contains.Finds s.toList x) := not_iff_not
    simp only [hc]
    exact ⟨fun hs _ => selects_iff_of_isPlain InClass rfl nofun hs,
      isPlain_of_selects InClass rfl nofun⟩
  · exact ⟨fun hs _ => selects_iff_of_isPlain InClass hop hn hs,
      isPlain_of_selects InClass hop hn⟩

end Selects

end Comparison

namespace Filter
open Comparison

theorem condition_search {op : Comparison} (hop : op.isPattern = true) (name s : String)
    (b : Bindings) :
    ((column name).compare op (literal (.string s))).condition b =
      (.ok (identifier name ++ (" " ++ op.sqlOperator ++ " " ++ placeholder b.size)),
        (b.bind (.string (op.pattern s))).2) := by
  have hp : patternOf op (literal (.string s)) = .ok (.string (op.pattern s)) := rfl
  refine condition_eq_ok_iff.2 ⟨by simp [failure?, hop, hp], ?_, ?_⟩
  · simp [conditionText, isLeaf, Literal.isNull, literalCount, operatorText_of_isPattern hop,
      Binding.enclose]
  · simp [boundLiterals, hop, hp, Except.toOption, Bindings.bind]

/-- A comparison of a column with a string is written as an operator and one bound pattern. Its
pattern selects the texts that have a part which the string itself matches as a pattern, and
`notContains` selects what `contains` does not. So each operator finds exactly what it is named for
if the string is plain, and only then. -/
theorem selects_search (InClass : List Char → Char → Prop) (s : String) :
    (∀ op : Comparison, op.isPattern = true → ∀ name b,
      ((column name).compare op (literal (.string s))).condition b =
        (.ok (identifier name ++ (" " ++ op.sqlOperator ++ " " ++ placeholder b.size)),
          (b.bind (.string (op.pattern s))).2)) ∧
    (∀ x, (contains.Selects InClass s x ↔ ∃ y, y <:+: x ∧ Matches InClass s.toList y) ∧
      (startsWith.Selects InClass s x ↔ ∃ y, y <+: x ∧ Matches InClass s.toList y) ∧
      (endsWith.Selects InClass s x ↔ ∃ y, y <:+ x ∧ Matches InClass s.toList y) ∧
      (notContains.Selects InClass s x ↔ ¬ contains.Selects InClass s x)) ∧
    ∀ op : Comparison, op.isPattern = true →
      (IsPlain s.toList ↔ ∀ x, op.Selects InClass s x ↔ op.Finds s.toList x) :=
  ⟨fun _ hop name b => condition_search hop name s b,
    fun _ => ⟨selects_contains InClass, selects_startsWith InClass, selects_endsWith InClass,
      selects_notContains InClass⟩,
    fun _ hop => isPlain_iff_selects InClass hop⟩

theorem selects_search_openBracket :
    startsWith.isPattern = true ∧ IsPlain "a]b[c".toList ∧
      startsWith.Selects (fun between c => c ∈ between) "a]b[c" "a]b[cd".toList := by
  have hs : IsPlain "a]b[c".toList := by
    simp [isPlain_cons_iff, isPlain_nil]
  have h := (selects_search (fun between c => c ∈ between) "a]b[c").2.2 startsWith rfl
  exact ⟨rfl, hs, (h.1 hs _).2 ⟨['d'], rfl⟩⟩

/-- A text without an underscore contains one, as the statement has it. -/
theorem not_finds_underscore :
    ((column "A").compare contains (literal (.string "_"))).condition {} =
      (.ok "[A] LIKE @0", ⟨[.string "%_%"]⟩) ∧
    (∀ InClass, contains.Selects InClass "_" "a".toList) ∧
      ¬ contains.Finds "_".toList "a".toList := by
  refine ⟨condition_search rfl "A" "_" {}, fun InClass => ?_, ?_⟩
  · exact (selects_contains InClass).2 ⟨['a'], List.infix_rfl, .one 'a' .nil⟩
  · show ¬ ['_'] <:+: ['a']
    decide

end Filter
end GridQuery
