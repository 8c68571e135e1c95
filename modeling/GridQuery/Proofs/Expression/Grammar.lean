import GridQuery.Filter.Operator
import GridQuery.Proofs.Expression.Token

/-! # The grammar of expressions

A comparison binds tighter than `NOT`, `NOT` tighter than `AND`, and `AND` tighter than `OR`.
Connectives of one level join from the left, and parentheses group. The grammar is unambiguous:
tokens are read as one expression at most. -/

namespace GridQuery

inductive Expression.Operator where
  | eq
  | ne
  | lt
  | le
  | gt
  | ge
  | is
  | isNot
  | like
  | notLike
  deriving DecidableEq

/-- An expression. Parentheses leave no trace in it. -/
inductive Expression where
  | name (n : String)
  | placeholder (n : String)
  | null
  | compare (left : Expression) (op : Expression.Operator) (right : Expression)
  | combine (left : Expression) (op : Connective) (right : Expression)
  | not (inner : Expression)
  deriving DecidableEq

namespace Expression

def Operator.tokens : Operator → List Token
  | eq => [.equal]
  | ne => [.unequal]
  | lt => [.less]
  | le => [.lessEqual]
  | gt => [.greater]
  | ge => [.greaterEqual]
  | is => [.is]
  | isNot => [.is, .not]
  | like => [.like]
  | notLike => [.not, .like]

/-- The levels of the grammar, from the tightest on. -/
inductive Level where
  | operand
  | comparison
  | negation
  | conjunction
  | disjunction

/-- The connectives that bind looser than the level. -/
def Level.looser : Level → List Token
  | operand | comparison | negation => [.and, .or]
  | conjunction => [.or]
  | disjunction => []

inductive Reads : Level → List Token → Expression → Prop where
  | name (n : String) : Reads .operand [.name n] (.name n)
  | placeholder (n : String) : Reads .operand [.placeholder n] (.placeholder n)
  | null : Reads .operand [.null] .null
  | group {ts : List Token} {e : Expression} : Reads .disjunction ts e →
      Reads .operand (.leftParen :: (ts ++ [.rightParen])) e
  | operand {ts : List Token} {e : Expression} : Reads .operand ts e → Reads .comparison ts e
  | compare {ls rs : List Token} {l r : Expression} (op : Operator) : Reads .operand ls l →
      Reads .operand rs r → Reads .comparison (ls ++ (op.tokens ++ rs)) (.compare l op r)
  | comparison {ts : List Token} {e : Expression} : Reads .comparison ts e → Reads .negation ts e
  | not {ts : List Token} {e : Expression} : Reads .negation ts e →
      Reads .negation (.not :: ts) (.not e)
  | negation {ts : List Token} {e : Expression} : Reads .negation ts e → Reads .conjunction ts e
  | and {ls rs : List Token} {l r : Expression} : Reads .conjunction ls l → Reads .negation rs r →
      Reads .conjunction (ls ++ .and :: rs) (.combine l .and r)
  | conjunction {ts : List Token} {e : Expression} : Reads .conjunction ts e →
      Reads .disjunction ts e
  | or {ls rs : List Token} {l r : Expression} : Reads .disjunction ls l →
      Reads .conjunction rs r → Reads .disjunction (ls ++ .or :: rs) (.combine l .or r)

/-- How many parentheses the tokens leave open. -/
def nesting : List Token → Int
  | [] => 0
  | .leftParen :: ts => nesting ts + 1
  | .rightParen :: ts => nesting ts - 1
  | _ :: ts => nesting ts

section nesting
variable {t : Token} {as bs ts us ls ls' rs rs' : List Token}

@[simp] theorem nesting_nil : nesting [] = 0 := rfl

@[simp] theorem nesting_leftParen : nesting (.leftParen :: ts) = nesting ts + 1 := rfl

@[simp] theorem nesting_rightParen : nesting (.rightParen :: ts) = nesting ts - 1 := rfl

@[simp] theorem nesting_append : nesting (ts ++ us) = nesting ts + nesting us := by
  induction ts with
  | nil => simp
  | cons t ts ih =>
    cases t <;> simp only [List.cons_append, nesting, ih] <;> omega

/-- The token only stands between parentheses. -/
def OnlyGrouped (t : Token) (ts : List Token) : Prop :=
  ∀ as bs, ts = as ++ t :: bs → 0 < nesting as

/-- No parenthesis is left open, and none is closed that is not open. -/
structure Balanced (ts : List Token) : Prop where
  nesting_eq : nesting ts = 0
  nesting_nonneg : ∀ as bs, ts = as ++ bs → 0 ≤ nesting as

theorem OnlyGrouped.of_not_mem (h : t ∉ ts) : OnlyGrouped t ts := by
  rintro as bs rfl
  simp at h

theorem OnlyGrouped.append (ht : OnlyGrouped t ts) (h0 : nesting ts = 0)
    (hu : OnlyGrouped t us) : OnlyGrouped t (ts ++ us) := by
  intro as bs h
  obtain ⟨cs, rfl, hc⟩ | ⟨cs, rfl, hc⟩ := List.append_eq_append_iff.1 h
  · rw [nesting_append, h0]
    have := hu cs bs hc
    omega
  · cases cs with
    | nil => exact absurd (hu [] bs (by simpa using hc.symm)) (by simp)
    | cons c cs =>
      obtain ⟨rfl, -⟩ := List.cons.inj hc
      exact ht as cs rfl

theorem Balanced.of_forall (h : ∀ t ∈ ts, t ≠ .leftParen ∧ t ≠ .rightParen) : Balanced ts := by
  have h0 (us : List Token) (hu : ∀ t ∈ us, t ≠ .leftParen ∧ t ≠ .rightParen) :
      nesting us = 0 := by
    induction us with
    | nil => rfl
    | cons t us ih =>
      have := ih fun u hm => hu u (List.mem_cons_of_mem t hm)
      have := hu t (List.mem_cons_self ..)
      cases t <;> simp_all [nesting]
  refine ⟨h0 ts h, ?_⟩
  rintro as bs rfl
  exact Int.le_of_eq (h0 as fun t hm => h t (List.mem_append_left bs hm)).symm

theorem Balanced.append (ht : Balanced ts) (hu : Balanced us) : Balanced (ts ++ us) := by
  refine ⟨by rw [nesting_append, ht.nesting_eq, hu.nesting_eq, Int.add_zero], fun as bs h => ?_⟩
  obtain ⟨cs, rfl, hc⟩ | ⟨cs, rfl, hc⟩ := List.append_eq_append_iff.1 h
  · rw [nesting_append, ht.nesting_eq, Int.zero_add]
    exact hu.nesting_nonneg cs bs hc
  · exact ht.nesting_nonneg as cs rfl

/-- An opening parenthesis stays open up to the closing one at the end. -/
theorem nesting_pos_of_group (h : Balanced ts)
    (he : .leftParen :: (ts ++ [.rightParen]) = as ++ bs) (ha : as ≠ []) (hb : bs ≠ []) :
    0 < nesting as := by
  cases as with
  | nil => exact absurd rfl ha
  | cons a as =>
    obtain ⟨rfl, ht⟩ := List.cons.inj he
    rw [nesting_leftParen]
    obtain ⟨cs, rfl, hc⟩ | ⟨cs, rfl, -⟩ := List.append_eq_append_iff.1 ht
    · obtain ⟨rfl, -⟩ | ⟨-, rfl⟩ := List.singleton_eq_append_iff.1 hc
      · rw [List.append_nil, h.nesting_eq]
        omega
      · exact absurd rfl hb
    · have := h.nesting_nonneg as cs rfl
      omega

theorem Balanced.group (h : Balanced ts) : Balanced (.leftParen :: (ts ++ [.rightParen])) := by
  have h0 : nesting (.leftParen :: (ts ++ [.rightParen])) = 0 := by
    rw [nesting_leftParen, nesting_append, h.nesting_eq]
    rfl
  refine ⟨h0, fun as bs he => ?_⟩
  rcases eq_or_ne as [] with rfl | ha
  · exact Int.le_refl 0
  rcases eq_or_ne bs [] with rfl | hb
  · rw [List.append_nil] at he
    exact Int.le_of_eq (he ▸ h0).symm
  · exact Int.le_of_lt (nesting_pos_of_group h he ha hb)

theorem OnlyGrouped.group (h : Balanced ts) (hl : t ≠ .leftParen) :
    OnlyGrouped t (.leftParen :: (ts ++ [.rightParen])) := by
  intro as bs he
  refine nesting_pos_of_group h he ?_ (List.cons_ne_nil t bs)
  rintro rfl
  exact hl (List.cons.inj he).1.symm

/-- The last `t` outside of parentheses parts the tokens in one way only. -/
theorem OnlyGrouped.append_inj (hr : OnlyGrouped t rs) (hr' : OnlyGrouped t rs')
    (hl : nesting ls = 0) (hl' : nesting ls' = 0) (ht : nesting [t] = 0)
    (h : ls ++ t :: rs = ls' ++ t :: rs') : ls = ls' ∧ rs = rs' := by
  -- where the left parts differ, the shorter one is followed by a `t` inside the other right part
  have not_longer {ls cs rs rs' : List Token} (hr : OnlyGrouped t rs) (hl : nesting ls = 0)
      (hl' : nesting (ls ++ cs) = 0) (hc : t :: rs = cs ++ t :: rs') : cs = [] := by
    cases cs with
    | nil => rfl
    | cons c cs =>
      obtain ⟨rfl, rfl⟩ := List.cons.inj hc
      have := hr cs rs' rfl
      rw [← List.singleton_append, nesting_append, nesting_append] at hl'
      omega
  obtain ⟨cs, rfl, hc⟩ | ⟨cs, rfl, hc⟩ := List.append_eq_append_iff.1 h
  · obtain rfl := not_longer hr hl hl' hc
    exact ⟨(List.append_nil ls).symm, (List.cons.inj hc).2⟩
  · obtain rfl := not_longer hr' hl' hl hc
    exact ⟨List.append_nil ls', (List.cons.inj hc).2.symm⟩

end nesting

theorem balanced_tokens (op : Operator) : Balanced op.tokens :=
  .of_forall (by cases op <;> decide)

theorem balanced_singleton {t : Token} (hl : t ≠ .leftParen) (hr : t ≠ .rightParen) :
    Balanced [t] :=
  .of_forall (by simp [hl, hr])

namespace Reads
variable {level : Level} {ts : List Token} {e e' : Expression}

theorem disjunction_of (h : Reads level ts e) : Reads .disjunction ts e := by
  cases level with
  | operand => exact .conjunction (.negation (.comparison (.operand h)))
  | comparison => exact .conjunction (.negation (.comparison h))
  | negation => exact .conjunction (.negation h)
  | conjunction => exact .conjunction h
  | disjunction => exact h

theorem balanced (h : Reads level ts e) : Balanced ts := by
  induction h with
  | name | placeholder | null => exact .of_forall (by simp)
  | group _ ih => exact ih.group
  | operand _ ih | comparison _ ih | negation _ ih | conjunction _ ih => exact ih
  | compare op _ _ ihl ihr => exact ihl.append ((balanced_tokens op).append ihr)
  | not _ ih => exact (balanced_singleton (t := .not) nofun nofun).append ih
  | and _ _ ihl ihr =>
    exact ihl.append ((balanced_singleton (t := .and) nofun nofun).append ihr)
  | or _ _ ihl ihr => exact ihl.append ((balanced_singleton (t := .or) nofun nofun).append ihr)

theorem nesting_eq (h : Reads level ts e) : nesting ts = 0 := h.balanced.nesting_eq

theorem onlyGrouped {t : Token} (h : Reads level ts e) (ht : t ∈ level.looser) :
    OnlyGrouped t ts := by
  have outside (us : List Token) (hu : t ∉ us) (h0 : nesting us = 0) {vs : List Token}
      (hv : OnlyGrouped t vs) : OnlyGrouped t (us ++ vs) := (OnlyGrouped.of_not_mem hu).append h0 hv
  have hk : t = .and ∨ t = .or := by cases level <;> simp_all [Level.looser]
  induction h with
  | name | placeholder | null => exact .of_not_mem (by rcases hk with rfl | rfl <;> simp)
  | group hd _ => exact .group hd.balanced (by rcases hk with rfl | rfl <;> simp)
  | operand _ ih | comparison _ ih => exact ih ht
  | negation _ ih => exact ih (by simp_all [Level.looser])
  | compare op hl hr ihl ihr =>
    have hop : t ∉ op.tokens := by rcases hk with rfl | rfl <;> cases op <;> decide
    exact (ihl ht).append hl.nesting_eq (outside _ hop (balanced_tokens op).nesting_eq (ihr ht))
  | not _ ih => exact outside [.not] (by rcases hk with rfl | rfl <;> simp) rfl (ih ht)
  | and hl _ ihl ihr =>
    obtain rfl : t = .or := by simpa [Level.looser] using ht
    exact (ihl ht).append hl.nesting_eq
      (outside [.and] (by simp) rfl (ihr (by simp [Level.looser])))
  | conjunction | or => simp [Level.looser] at ht

theorem ne_nil (h : Reads level ts e) : ts ≠ [] := by
  induction h <;> simp_all

theorem nesting_pos (h : Reads .operand ts e) {as bs : List Token} (he : ts = as ++ bs)
    (ha : as ≠ []) (hb : bs ≠ []) : 0 < nesting as := by
  cases h with
  | name | placeholder | null =>
    obtain ⟨rfl, -⟩ | ⟨-, rfl⟩ := List.singleton_eq_append_iff.1 he
    · exact absurd rfl ha
    · exact absurd rfl hb
  | group hd => exact nesting_pos_of_group hd.balanced he ha hb

theorem append_eq_nil {us : List Token} {e' : Expression} (h : Reads .operand ts e)
    (h' : Reads .operand (ts ++ us) e') : us = [] := by
  by_contra hu
  have := h'.nesting_pos rfl h.ne_nil hu
  rw [h.nesting_eq] at this
  omega

theorem operand_append_inj {ls ls' us us' : List Token} {l l' : Expression}
    (h : Reads .operand ls l) (h' : Reads .operand ls' l') (he : ls ++ us = ls' ++ us') :
    ls = ls' ∧ us = us' := by
  obtain ⟨cs, rfl, hc⟩ | ⟨cs, rfl, hc⟩ := List.append_eq_append_iff.1 he
  · obtain rfl := h.append_eq_nil h'
    exact ⟨(List.append_nil ls).symm, hc⟩
  · obtain rfl := h'.append_eq_nil h
    exact ⟨List.append_nil ls', hc.symm⟩

theorem ne_not_cons {us : List Token} (h : Reads .operand ts e) : ts ≠ .not :: us := by
  cases h <;> simp

theorem comparison_ne_not_cons {us : List Token} (h : Reads .comparison ts e) :
    ts ≠ .not :: us := by
  cases h with
  | operand h => exact h.ne_not_cons
  | compare op hl =>
    cases hl <;> simp

theorem tokens_append_inj {op op' : Operator} {rs rs' : List Token} {r r' : Expression}
    (h : Reads .operand rs r) (h' : Reads .operand rs' r')
    (he : op.tokens ++ rs = op'.tokens ++ rs') : op = op' ∧ rs = rs' := by
  have hn (us : List Token) : rs ≠ .not :: us := h.ne_not_cons
  have hn' (us : List Token) : rs' ≠ .not :: us := h'.ne_not_cons
  cases op <;> cases op' <;> simp only [Operator.tokens] at he <;> grind

theorem operand_ne_compare {op : Operator} {ls rs : List Token} {l r : Expression}
    (h : Reads .operand ts e) (hl : Reads .operand ls l) (hr : Reads .operand rs r) :
    ts ≠ ls ++ (op.tokens ++ rs) := by
  intro he
  have := h.nesting_pos he hl.ne_nil (by simp [hr.ne_nil])
  rw [hl.nesting_eq] at this
  omega

theorem ne_looser {level' : Level} {t : Token} {ls rs : List Token} {l : Expression}
    (h : Reads level ts e) (ht : t ∈ level.looser) (hl : Reads level' ls l) :
    ts ≠ ls ++ t :: rs := by
  intro he
  have := h.onlyGrouped ht ls rs he
  rw [hl.nesting_eq] at this
  omega

/-- Tokens are read as one expression at most. -/
theorem unique (h : Reads level ts e) (h' : Reads level ts e') : e = e' := by
  -- both readings part at the same token: the operator behind the first operand, or the last
  -- connective of the level outside of all parentheses
  induction h generalizing e' with
  | name | placeholder | null =>
    cases h'
    rfl
  | group _ ih =>
    generalize hs : Token.leftParen :: (_ ++ [Token.rightParen]) = s at h'
    cases h' with
    | name | placeholder | null => simp at hs
    | group h' =>
      obtain rfl : _ = _ := by simpa using hs
      exact ih h'
  | operand h ih =>
    cases h' with
    | operand h' => exact ih h'
    | compare op hl hr => exact absurd rfl (h.operand_ne_compare hl hr)
  | compare op hl hr ihl ihr =>
    generalize hs : _ ++ (op.tokens ++ _) = s at h'
    cases h' with
    | operand h' => exact absurd hs.symm (h'.operand_ne_compare hl hr)
    | compare op' hl' hr' =>
      obtain ⟨rfl, ht⟩ := hl.operand_append_inj hl' hs
      obtain ⟨rfl, rfl⟩ := hr.tokens_append_inj hr' ht
      rw [ihl hl', ihr hr']
  | comparison h ih =>
    cases h' with
    | comparison h' => exact ih h'
    | not h' => exact absurd rfl h.comparison_ne_not_cons
  | not h ih =>
    cases h' with
    | comparison h' => exact absurd rfl h'.comparison_ne_not_cons
    | not h' => rw [ih h']
  | negation h ih =>
    cases h' with
    | negation h' => exact ih h'
    | and hl hr =>
      exact absurd rfl (h.ne_looser (by simp [Level.looser]) hl)
  | and hl hr ihl ihr =>
    generalize hs : _ ++ Token.and :: _ = s at h'
    cases h' with
    | negation h' =>
      exact absurd hs.symm (h'.ne_looser (by simp [Level.looser]) hl)
    | and hl' hr' =>
      obtain ⟨rfl, rfl⟩ := OnlyGrouped.append_inj (hr.onlyGrouped (by simp [Level.looser]))
        (hr'.onlyGrouped (by simp [Level.looser])) hl.nesting_eq hl'.nesting_eq rfl hs
      rw [ihl hl', ihr hr']
  | conjunction h ih =>
    cases h' with
    | conjunction h' => exact ih h'
    | or hl hr =>
      exact absurd rfl (h.ne_looser (by simp [Level.looser]) hl)
  | or hl hr ihl ihr =>
    generalize hs : _ ++ Token.or :: _ = s at h'
    cases h' with
    | conjunction h' =>
      exact absurd hs.symm (h'.ne_looser (by simp [Level.looser]) hl)
    | or hl' hr' =>
      obtain ⟨rfl, rfl⟩ := OnlyGrouped.append_inj (hr.onlyGrouped (by simp [Level.looser]))
        (hr'.onlyGrouped (by simp [Level.looser])) hl.nesting_eq hl'.nesting_eq rfl hs
      rw [ihl hl', ihr hr']

end Reads

end Expression
end GridQuery
