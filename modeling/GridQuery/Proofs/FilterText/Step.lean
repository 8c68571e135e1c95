import GridQuery.Proofs.FilterText.Complete
import Mathlib.Logic.Relation

/-! # The steps of the scanner

A step of the scanner takes one of the tokens that are expected next (`Scan.takes_of_step`), and a
run goes from step to step up to the end of the text (`Scan.exists_last_of_run`). What holds along
every run follows from these two, by cases on the token. -/

namespace GridQuery.Filter
open Text

namespace Scan
variable {s rest : List Char} {scopes : List Scope} {f : Filter} {scan last next : Scan}

inductive Takes : Scan → Scan → Prop where
  | leftParen (rest : List Char) (scopes : List Scope) :
      Takes ⟨'(' :: rest, scopes, .operand⟩ ⟨rest, {} :: scopes, .operand⟩
  | negation {s s₁ rest : List Char} (scopes : List Scope) : Spells "not" s s₁ →
      Skips s₁ ('(' :: rest) →
      Takes ⟨s, scopes, .operand⟩ ⟨rest, { negated := true } :: scopes, .operand⟩
  | name {run s rest : List Char} (scopes : List Scope) : Run isWord run s rest →
      Takes ⟨s, scopes, .operand⟩ ⟨rest, scopes, .comparison (String.ofList run)⟩
  | comparison {s rest : List Char} (name : String) (op : Comparison) (scopes : List Scope) :
      Keyword op.keyword s rest →
      Takes ⟨s, scopes, .comparison name⟩ ⟨rest, scopes, .value name op⟩
  | value {s rest : List Char} {v : Literal} (name : String) (op : Comparison) (g : Scope)
      (outer : List Scope) : readValue s = .ok (v, rest) →
      Takes ⟨s, g :: outer, .value name op⟩
        ⟨rest, g.attach (compare (column name) op (literal v)) :: outer, .connective⟩
  | rightParen {g : Scope} {f : Filter} (rest : List Char) (outer : Scope)
      (others : List Scope) : g.finish? = some f →
      Takes ⟨')' :: rest, g :: outer :: others, .connective⟩
        ⟨rest, outer.attach f :: others, .connective⟩
  | connective {s rest : List Char} {g : Scope} {l : Filter} (op : Connective)
      (outer : List Scope) : Keyword (connectiveKeyword op) s rest → g.condition = some l →
      Takes ⟨s, g :: outer, .connective⟩
        ⟨rest, { g with condition := none, pending := some (l, op) } :: outer, .operand⟩

theorem takes_of_readOperand (h : readOperand s scopes = .ok next) :
    Takes ⟨s, scopes, .operand⟩ next := by
  unfold readOperand at h
  split at h
  · cases h
    exact .leftParen _ scopes
  · split at h
    · rename_i hn
      cases h
      obtain ⟨s₁, hw, hp⟩ := readNegation?_eq_some_iff.1 hn
      exact .negation scopes hw hp
    · split at h
      · rename_i hn
        cases h
        exact .name scopes (readName?_eq_some_iff.1 hn)
      · cases h

theorem takes_of_readComparison {name : String} (h : readComparison s scopes name = .ok next) :
    Takes ⟨s, scopes, .comparison name⟩ next := by
  unfold readComparison at h
  split at h
  · rename_i w rest hk
    split at h
    · rename_i op ho
      cases h
      obtain ⟨-, hs, he⟩ := readKeyword?_eq_some hk
      exact .comparison name op scopes ⟨⟨w, ofKeyword?_eq_some_iff.1 ho, hs⟩, he⟩
    · cases h
  · cases h

theorem takes_of_readOperandValue {name : String} {op : Comparison}
    (h : readOperandValue s scopes name op = .ok next) :
    Takes ⟨s, scopes, .value name op⟩ next := by
  unfold readOperandValue at h
  split at h
  · rename_i v rest hv
    split at h
    · cases h
      exact .value name op _ _ hv
    · cases h
  · cases h

theorem takes_of_closeGroup (h : closeGroup rest scopes = .ok next) :
    Takes ⟨')' :: rest, scopes, .connective⟩ next := by
  unfold closeGroup at h
  split at h
  · split at h
    · rename_i hf
      cases h
      exact .rightParen rest _ _ hf
    · cases h
  · cases h

theorem takes_of_openConnective {op : Connective} (h : openConnective rest op scopes = .ok next)
    (hk : Keyword (connectiveKeyword op) s rest) : Takes ⟨s, scopes, .connective⟩ next := by
  unfold openConnective at h
  split at h
  · cases h
  · split at h
    · rename_i hl
      cases h
      exact .connective op _ hk hl
    · cases h

theorem takes_of_readConnective (h : readConnective s scopes = .ok next) :
    Takes ⟨s, scopes, .connective⟩ next := by
  unfold readConnective at h
  split at h
  · exact takes_of_closeGroup h
  · split at h
    · rename_i w rest hk
      split at h
      · rename_i op ho
        obtain ⟨-, hs, he⟩ := readKeyword?_eq_some hk
        exact takes_of_openConnective h ⟨⟨w, connective_ofKeyword?_eq_some_iff.1 ho, hs⟩, he⟩
      · cases h
    · cases h

theorem takes_of_step (h : step scan = .ok next) : Takes scan next := by
  obtain ⟨s, scopes, expected⟩ := scan
  cases expected with
  | operand => exact takes_of_readOperand h
  | comparison name => exact takes_of_readComparison h
  | value name op => exact takes_of_readOperandValue h
  | connective => exact takes_of_readConnective h

theorem finish_eq_ok (h : finish scan = .ok f) :
    ∃ rest g, scan = ⟨rest, [g], .connective⟩ ∧ g.finish? = some f := by
  obtain ⟨rest, scopes, expected⟩ := scan
  unfold finish at h
  split at h
  · cases h
  · rename_i g hg hx
    cases hg
    cases hx
    split at h
    · rename_i hf
      cases h
      exact ⟨rest, g, rfl, hf⟩
    · cases h
  · cases h
  · cases h

/-- The scanner skips white space and takes a token. -/
def Advances (scan next : Scan) : Prop := step { scan with rest := trimLeft scan.rest } = .ok next

theorem run_of_advances (h : Advances scan next) : run scan = run next := by
  -- a step takes something away, so that the text is not at its end
  have hlt := length_lt_of_step h
  have hne : ¬ (trimLeft scan.rest).isEmpty = true := by
    intro he
    rw [List.isEmpty_iff.1 he] at hlt
    exact absurd hlt (Nat.not_lt_zero _)
  rw [Advances] at h
  rw [run_eq, if_neg hne, h]

theorem run_of_reaches (h : Relation.ReflTransGen Advances scan last) :
    run scan = run last := by
  induction h with
  | refl => rfl
  | tail _ h ih => exact ih.trans (run_of_advances h)

theorem exists_last_of_run (h : run scan = .ok f) :
    ∃ last, Relation.ReflTransGen Advances scan last ∧ Skips last.rest [] ∧
      finish last = .ok f := by
  fun_induction run scan with
  | case1 scan rest he =>
    have hb : Skips scan.rest rest := skips_trimLeft scan.rest
    rw [List.isEmpty_iff.1 he] at hb
    exact ⟨scan, .refl, hb, h⟩
  | case2 scan rest _ next hstep ih =>
    obtain ⟨last, hr, hb, hf⟩ := ih h
    exact ⟨last, .head hstep hr, hb, hf⟩
  | case3 => cases h

end Scan
end GridQuery.Filter
