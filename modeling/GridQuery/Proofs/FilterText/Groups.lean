import GridQuery.Proofs.FilterText.Spelling

/-! # The groups of the scanner

Of the open groups only the innermost one can have a condition, and it has one exactly where a
connective is expected. Every step keeps this, so that the scanner never lacks a group or a
condition that it needs. Every step also takes characters from the text, so that a run has no more
steps than the text has characters. -/

namespace GridQuery.Filter
open Text

def Expected.causes : Expected → List ScanCause
  | .operand => [.expectedOperand]
  | .comparison _ => [.expectedComparison]
  | .value _ _ => [.expectedValue, .numberOutOfRange]
  | .connective => [.expectedConnective, .unbalancedClose]

namespace Scan

/-- The innermost group holds what was read before the next token, and the others wait. -/
structure WellGrouped (scan : Scan) : Prop where
  ne_nil : scan.scopes ≠ []
  outer : ∀ g ∈ scan.scopes.tail, g.condition = none
  connective_iff : ∀ g ∈ scan.scopes.head?,
    scan.expected = .connective ↔ g.condition ≠ none ∧ g.pending = none
  waits : ∀ g ∈ scan.scopes.head?, scan.expected ≠ .connective → g.condition = none

inductive ReachesIn : Nat → Scan → Scan → Prop where
  | refl (scan : Scan) : ReachesIn 0 scan scan
  | head {n : Nat} {scan middle last : Scan} : Advances scan middle → ReachesIn n middle last →
      ReachesIn (n + 1) scan last

/-- What the scanner gives if no step follows: at the end of the text, or at a token that is
refused. -/
inductive Ends (scan : Scan) : Except FilterError Filter → Prop where
  | finished : trimLeft scan.rest = [] → Ends scan scan.finish
  | refused {e : FilterError} : trimLeft scan.rest ≠ [] →
      step { scan with rest := trimLeft scan.rest } = .error e → Ends scan (.error e)

/-- The byte of the text at which its rest starts. -/
def cursor (text : String) (scan : Scan) : String.Pos.Raw :=
  ⟨text.utf8ByteSize - (String.ofList scan.rest).utf8ByteSize⟩

variable {s rest : List Char} {g : Scope} {outer scopes : List Scope} {expected : Expected}
  {scan last next : Scan} {text : String} {f : Filter} {e : FilterError} {n : Nat}

section WellGrouped

@[simp] theorem pending_attach (g : Scope) (f : Filter) : (g.attach f).pending = none := by
  unfold Scope.attach
  split
  · rfl
  · assumption

@[simp] theorem condition_attach_ne_none (g : Scope) (f : Filter) :
    (g.attach f).condition ≠ none := by
  unfold Scope.attach
  split <;> simp

theorem WellGrouped.forall_waits (hi : WellGrouped ⟨rest, scopes, expected⟩)
    (he : expected ≠ .connective) : ∀ g ∈ scopes, g.condition = none := by
  cases scopes with
  | nil => nofun
  | cons g outer => exact List.forall_mem_cons.2 ⟨hi.waits g rfl he, hi.outer⟩

theorem wellGrouped_of_waits (hg : ∀ o ∈ g :: outer, o.condition = none)
    (he : expected ≠ .connective) : WellGrouped ⟨rest, g :: outer, expected⟩ := by
  obtain ⟨hg, ho⟩ := List.forall_mem_cons.1 hg
  refine ⟨List.cons_ne_nil g outer, ho, ?_, ?_⟩
  · rintro _ ⟨⟩
    exact ⟨fun h => absurd h he, fun h => absurd hg h.1⟩
  · rintro _ ⟨⟩ -
    exact hg

theorem wellGrouped_of_attach (g : Scope) (f : Filter)
    (ho : ∀ o ∈ outer, o.condition = none) :
    WellGrouped ⟨rest, g.attach f :: outer, .connective⟩ := by
  refine ⟨List.cons_ne_nil _ outer, ho, ?_, ?_⟩
  · rintro _ ⟨⟩
    simp
  · rintro _ ⟨⟩ h
    exact absurd rfl h

theorem WellGrouped.of_same (hi : WellGrouped ⟨s, scopes, expected⟩) {expected' : Expected}
    (he : expected ≠ .connective) (he' : expected' ≠ .connective) :
    WellGrouped ⟨rest, scopes, expected'⟩ := by
  obtain ⟨g, outer, rfl⟩ := List.exists_cons_of_ne_nil hi.ne_nil
  exact wellGrouped_of_waits (hi.forall_waits he) he'

theorem wellGrouped_start (s : List Char) : WellGrouped ⟨s, [{}], .operand⟩ :=
  wellGrouped_of_waits (by simp) nofun

theorem wellGrouped_of_takes (h : Takes scan next) (hi : WellGrouped scan) :
    WellGrouped next := by
  cases h with
  | leftParen rest scopes =>
    exact wellGrouped_of_waits (List.forall_mem_cons.2 ⟨rfl, hi.forall_waits nofun⟩) nofun
  | negation scopes =>
    exact wellGrouped_of_waits (List.forall_mem_cons.2 ⟨rfl, hi.forall_waits nofun⟩) nofun
  | name scopes => exact hi.of_same nofun nofun
  | comparison name op scopes => exact hi.of_same nofun nofun
  | value name op g outer => exact wellGrouped_of_attach g _ hi.outer
  | rightParen rest outer others =>
    exact wellGrouped_of_attach outer _ (List.forall_mem_cons.1 hi.outer).2
  | connective op outer =>
    exact wellGrouped_of_waits (List.forall_mem_cons.2 ⟨rfl, hi.outer⟩) nofun

theorem WellGrouped.withRest (hi : WellGrouped scan) (rest : List Char) :
    WellGrouped { scan with rest } :=
  ⟨hi.ne_nil, hi.outer, hi.connective_iff, hi.waits⟩

theorem wellGrouped_of_advances (h : Advances scan next) (hi : WellGrouped scan) :
    WellGrouped next :=
  wellGrouped_of_takes (takes_of_step h) (hi.withRest _)

theorem wellGrouped_of_reachesIn (h : ReachesIn n scan last) (hi : WellGrouped scan) :
    WellGrouped last := by
  induction h with
  | refl => exact hi
  | head h _ ih => exact ih (wellGrouped_of_advances h hi)

end WellGrouped

section Progress

theorem suffix_of_takes (h : Takes scan next) : next.rest <:+ scan.rest := by
  cases h with
  | leftParen rest | rightParen rest => exact List.suffix_cons _ rest
  | negation _ hn hp => exact (List.suffix_cons '(' _).trans (hp.suffix.trans hn.suffix)
  | name _ hr => exact hr.suffix
  | comparison _ _ _ hk => exact hk.1.suffix
  | value _ _ _ _ hv => exact (readAs_of_readValue hv).suffix
  | connective _ _ hk => exact hk.1.suffix

theorem exists_taken_of_advances (h : Advances scan next) :
    ∃ taken, taken ≠ [] ∧ trimLeft scan.rest = taken ++ next.rest := by
  obtain ⟨taken, ht⟩ := suffix_of_takes (takes_of_step h)
  refine ⟨taken, ?_, ht.symm⟩
  rintro rfl
  have hlt := length_lt_of_step h
  rw [← ht] at hlt
  exact absurd hlt (Nat.lt_irrefl _)

theorem suffix_of_advances (h : Advances scan next) : next.rest <:+ scan.rest := by
  obtain ⟨taken, -, ht⟩ := exists_taken_of_advances h
  exact (ht ▸ List.suffix_append taken next.rest).trans (List.dropWhile_suffix isBlank)

theorem length_lt_of_advances (h : Advances scan next) :
    next.rest.length < scan.rest.length :=
  Nat.lt_of_lt_of_le (length_lt_of_step h) (length_trimLeft_le scan.rest)

theorem suffix_of_reachesIn (h : ReachesIn n scan last) : last.rest <:+ scan.rest := by
  induction h with
  | refl => exact List.suffix_rfl
  | head h _ ih => exact ih.trans (suffix_of_advances h)

/-- Every step of a run has at least one character of its own. -/
theorem add_length_le_of_reachesIn (h : ReachesIn n scan last) :
    n + last.rest.length ≤ scan.rest.length := by
  induction h with
  | refl => exact Nat.le_of_eq (Nat.zero_add _)
  | head h _ ih =>
    have := length_lt_of_advances h
    omega

theorem cursor_eq {read : List Char} (h : text.toList = read ++ scan.rest) :
    scan.cursor text = (String.ofList read).rawEndPos := by
  have ht : text = String.ofList read ++ String.ofList scan.rest := by
    rw [← String.ofList_append, ← h, String.ofList_toList]
  rw [cursor, ht, String.utf8ByteSize_append, Nat.add_sub_cancel]
  rfl

theorem isValid_cursor (h : scan.rest <:+ text.toList) : (scan.cursor text).IsValid text := by
  obtain ⟨read, hr⟩ := h
  rw [String.Pos.Raw.isValid_iff_exists_append]
  refine ⟨String.ofList read, String.ofList scan.rest, ?_, cursor_eq hr.symm⟩
  rw [← String.ofList_append, hr, String.ofList_toList]

theorem cursor_lt_of_advances (hs : scan.rest <:+ text.toList) (h : Advances scan next) :
    scan.cursor text < next.cursor text := by
  obtain ⟨read, hr⟩ := hs
  obtain ⟨taken, hne, ht⟩ := exists_taken_of_advances h
  have hnext : text.toList = (read ++ scan.rest.takeWhile isBlank ++ taken) ++ next.rest := by
    rw [List.append_assoc, ← ht, List.append_assoc, trimLeft, List.takeWhile_append_dropWhile, hr]
  have hpos : 0 < (String.ofList taken).utf8ByteSize := by
    rw [Nat.pos_iff_ne_zero, ne_eq, String.utf8ByteSize_eq_zero_iff, String.ofList_eq_empty_iff]
    exact hne
  rw [cursor_eq hr.symm, cursor_eq hnext, String.Pos.Raw.lt_iff]
  simp only [String.ofList_append, String.byteIdx_rawEndPos, String.utf8ByteSize_append]
  omega

theorem ReachesIn.reaches (h : ReachesIn n scan last) :
    Relation.ReflTransGen Advances scan last := by
  induction h with
  | refl => exact .refl
  | head h _ ih => exact .head h ih

theorem exists_ends (scan : Scan) : ∃ n last, ReachesIn n scan last ∧ Ends last (run scan) := by
  fun_induction run scan with
  | case1 scan rest he => exact ⟨0, scan, .refl scan, .finished (List.isEmpty_iff.1 he)⟩
  | case2 scan rest _ next hstep ih =>
    obtain ⟨n, last, hr, he⟩ := ih
    exact ⟨n + 1, last, .head hstep hr, he⟩
  | case3 scan rest hne e hstep =>
    exact ⟨0, scan, .refl scan, .refused (fun h => hne (List.isEmpty_iff.2 h)) hstep⟩

end Progress

section Failure

theorem cause_of_readValue {cause : ScanCause} (h : readValue s = .error cause) :
    cause ∈ [ScanCause.expectedValue, .numberOutOfRange] := by
  have hbare {s : List Char} (h : readBareValue s = .error cause) :
      cause ∈ [ScanCause.expectedValue, .numberOutOfRange] := by
    unfold readBareValue at h
    split at h
    · cases h
    · split at h
      · split at h <;> cases h
        simp
      · cases h
        simp
  unfold readValue at h
  split at h
  · split at h
    · cases h
    · exact hbare h
  · exact hbare h

theorem cause_of_readOperand (h : readOperand s scopes = .error e) :
    ∃ cause ∈ Expected.operand.causes, ∃ fragment, e = .scan cause fragment := by
  unfold readOperand at h
  split at h
  · cases h
  · split at h
    · cases h
    · split at h <;> cases h
      exact ⟨_, List.mem_singleton_self _, _, rfl⟩

theorem cause_of_readComparison {name : String}
    (h : readComparison s scopes name = .error e) :
    ∃ cause ∈ (Expected.comparison name).causes, ∃ fragment, e = .scan cause fragment := by
  unfold readComparison at h
  split at h
  · split at h <;> cases h
    exact ⟨_, List.mem_singleton_self _, _, rfl⟩
  · cases h
    exact ⟨_, List.mem_singleton_self _, _, rfl⟩

theorem cause_of_readOperandValue {name : String} {op : Comparison}
    (h : readOperandValue s (g :: outer) name op = .error e) :
    ∃ cause ∈ (Expected.value name op).causes, ∃ fragment, e = .scan cause fragment := by
  unfold readOperandValue at h
  split at h
  · cases h
  · rename_i cause hv
    cases h
    exact ⟨cause, cause_of_readValue hv, _, rfl⟩

theorem finish?_ne_none (hg : g.condition ≠ none) : g.finish? ≠ none := by
  obtain ⟨f, hf⟩ := Option.ne_none_iff_exists'.1 hg
  simp [Scope.finish?, hf]

/-- Closing fails only at the outermost group. -/
theorem cause_of_closeGroup (hg : g.condition ≠ none)
    (h : closeGroup rest (g :: outer) = .error e) :
    ∃ fragment, e = .scan .unbalancedClose fragment := by
  unfold closeGroup at h
  split at h
  · rename_i hs
    cases hs
    split at h
    · cases h
    · rename_i hf
      exact absurd hf (finish?_ne_none hg)
  · cases h
    exact ⟨_, rfl⟩

theorem openConnective_ne_error {op : Connective} (hg : g.condition ≠ none) :
    openConnective rest op (g :: outer) ≠ .error e := by
  obtain ⟨f, hf⟩ := Option.ne_none_iff_exists'.1 hg
  simp [openConnective, hf]

theorem cause_of_readConnective (hg : g.condition ≠ none)
    (h : readConnective s (g :: outer) = .error e) :
    ∃ cause ∈ Expected.connective.causes, ∃ fragment, e = .scan cause fragment := by
  unfold readConnective at h
  split at h
  · obtain ⟨fragment, rfl⟩ := cause_of_closeGroup hg h
    exact ⟨_, by simp [Expected.causes], fragment, rfl⟩
  · split at h
    · split at h
      · exact absurd h (openConnective_ne_error hg)
      · cases h
        exact ⟨_, by simp [Expected.causes], _, rfl⟩
    · cases h
      exact ⟨_, by simp [Expected.causes], _, rfl⟩

theorem cause_of_step (hi : WellGrouped scan) (h : step scan = .error e) :
    ∃ cause ∈ scan.expected.causes, ∃ fragment, e = .scan cause fragment := by
  obtain ⟨s, scopes, expected⟩ := scan
  obtain ⟨g, outer, rfl⟩ := List.exists_cons_of_ne_nil hi.ne_nil
  cases expected with
  | operand => exact cause_of_readOperand h
  | comparison name => exact cause_of_readComparison h
  | value name op => exact cause_of_readOperandValue h
  | connective =>
    have hg := ((hi.connective_iff g rfl).1 rfl).1
    exact cause_of_readConnective hg h

theorem cause_of_finish (hi : WellGrouped scan) (h : finish scan = .error e) :
    ∃ cause ∈ [ScanCause.unbalancedOpen, .unexpectedEnd], e = .scan cause "" := by
  obtain ⟨rest, scopes, expected⟩ := scan
  unfold finish at h
  split at h
  · cases h
    exact ⟨_, by simp, rfl⟩
  · rename_i g hs he
    cases hs
    cases he
    split at h
    · cases h
    · rename_i hf
      exact absurd hf (finish?_ne_none ((hi.connective_iff g rfl).1 rfl).1)
  · rename_i hs _
    exact absurd hs hi.ne_nil
  · cases h
    exact ⟨_, by simp, rfl⟩

theorem causes_disjoint (expected : Expected) : ∀ cause ∈ expected.causes,
    cause ∉ [ScanCause.noOpenGroup, .noLeftOperand, .emptyGroup, .emptyFilter] := by
  cases expected <;> simp [Expected.causes]

theorem cause_of_ends (hi : WellGrouped scan) (h : Ends scan (.error e)) :
    ∃ cause fragment, e = .scan cause fragment ∧
      cause ∉ [ScanCause.noOpenGroup, .noLeftOperand, .emptyGroup, .emptyFilter] := by
  generalize hr : Except.error e = r at h
  cases h with
  | finished =>
    obtain ⟨cause, hc, rfl⟩ := cause_of_finish hi hr.symm
    have hends : ∀ cause ∈ [ScanCause.unbalancedOpen, .unexpectedEnd],
        cause ∉ [ScanCause.noOpenGroup, .noLeftOperand, .emptyGroup, .emptyFilter] := by decide
    exact ⟨cause, "", rfl, hends cause hc⟩
  | refused _ h =>
    cases hr
    obtain ⟨cause, hc, fragment, rfl⟩ := cause_of_step (hi.withRest _) h
    exact ⟨cause, fragment, rfl, causes_disjoint _ cause hc⟩

end Failure
end Scan

/-- On the way through any text the innermost group has a condition, and nothing that waits, exactly
where a connective is expected, and no other group has one. A step goes on by at least one character
of the text, so that the run ends after at most as many steps as the text has characters, and it
never fails for want of a group, of a left operand or of a condition. -/
theorem wellGrouped_ofText (text : String) :
    (∀ n scan, Scan.ReachesIn n ⟨text.toList, [{}], .operand⟩ scan →
      scan.WellGrouped ∧ n + scan.rest.length ≤ text.length ∧ (scan.cursor text).IsValid text ∧
      ∀ next, Scan.Advances scan next → (next.cursor text).IsValid text ∧
        scan.cursor text < next.cursor text ∧
        ∃ taken, taken ≠ [] ∧ trimLeft scan.rest = taken ++ next.rest) ∧
    (∃ n last, n ≤ text.length ∧ Scan.ReachesIn n ⟨text.toList, [{}], .operand⟩ last ∧
      last.Ends (ofText text)) ∧
    ∀ e, ofText text = .error e → ∃ cause fragment, e = .scan cause fragment ∧
      cause ∉ [ScanCause.noOpenGroup, .noLeftOperand, .emptyGroup, .emptyFilter] := by
  have hreached {n : Nat} {scan : Scan}
      (h : Scan.ReachesIn n ⟨text.toList, [{}], .operand⟩ scan) :
      scan.WellGrouped ∧ n + scan.rest.length ≤ text.length ∧ scan.rest <:+ text.toList :=
    ⟨Scan.wellGrouped_of_reachesIn h (Scan.wellGrouped_start _),
      String.length_toList ▸ Scan.add_length_le_of_reachesIn h, Scan.suffix_of_reachesIn h⟩
  obtain ⟨n, last, hr, he⟩ := Scan.exists_ends ⟨text.toList, [{}], .operand⟩
  obtain ⟨hi, hn, -⟩ := hreached hr
  refine ⟨fun n scan h => ?_, ⟨n, last, by omega, hr, he⟩, fun e h => ?_⟩
  · obtain ⟨hi, hn, hs⟩ := hreached h
    refine ⟨hi, hn, Scan.isValid_cursor hs, fun next ha => ⟨?_, ?_, ?_⟩⟩
    · exact Scan.isValid_cursor ((Scan.suffix_of_advances ha).trans hs)
    · exact Scan.cursor_lt_of_advances hs ha
    · exact Scan.exists_taken_of_advances ha
  · exact Scan.cause_of_ends hi (h ▸ he)

theorem wellGrouped_ofText_refused :
    let held : Scope := { condition := some (compare (column "A") .eq (literal (.string "é"))) }
    Scan.ReachesIn 4 ⟨"(A eq 'é')x".toList, [{}], .operand⟩
      ⟨")x".toList, [held, {}], .connective⟩ ∧
    Scan.WellGrouped ⟨")x".toList, [held, {}], .connective⟩ ∧
    ofText "(A eq 'é')x" = .error (.scan .expectedConnective "x") ∧
    ∃ cause fragment, FilterError.scan .expectedConnective "x" = .scan cause fragment ∧
      cause ∉ [ScanCause.noOpenGroup, .noLeftOperand, .emptyGroup, .emptyFilter] := by
  intro held
  have hr : Scan.ReachesIn 4 ⟨"(A eq 'é')x".toList, [{}], .operand⟩
      ⟨")x".toList, [held, {}], .connective⟩ :=
    .head rfl (.head rfl (.head rfl (.head rfl (.refl _))))
  have he : ofText "(A eq 'é')x" = .error (.scan .expectedConnective "x") := by
    rw [ofText, Scan.run_of_reaches (hr.reaches.tail rfl), Scan.run_eq]
    rfl
  obtain ⟨hi, -, hc⟩ := wellGrouped_ofText "(A eq 'é')x"
  exact ⟨hr, (hi 4 _ hr).1, he, hc _ he⟩

end GridQuery.Filter
