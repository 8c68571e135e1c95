import GridQuery.Proofs.Request.LastPair
import GridQuery.Proofs.Settings.Directory
import GridQuery.Request.Body

/-! # The size of a page

The size of a page comes from the query string, from the request or from the settings. Valid
settings never give an empty page, so a page is empty exactly if the caller asks for no rows. -/

namespace GridQuery

namespace Request
variable {r r' : Request} {query : String}

/-- The caller asks for no rows: by the last size that the query string gives or, where it gives
none, by the size in the request. -/
def AsksForNone (r : Request) (query : String) : Prop :=
  match lastValue? (Form.pairs (bareQuery query)) "$take" with
  | some value => readCount? (Text.trim value.toList) = some 0
  | none => r.take = some 0

theorem countOf_eq_ok_iff {option value : String} {n : UInt64} :
    countOf option value = .ok n ↔ readCount? (Text.trim value.toList) = some n := by
  unfold countOf
  cases readCount? (Text.trim value.toList) <;> simp

theorem take_eq_zero_iff (h : r.applyQuery query = (none, r')) :
    r'.take = some 0 ↔ r.AsksForNone query := by
  have ht := (applyPairs_eq_none_iff.1 h).2.take
  unfold SetByLast at ht
  unfold AsksForNone
  cases hl : lastValue? (Form.pairs (bareQuery query)) "$take" with
  | none =>
    simp only [hl] at ht
    rw [ht]
  | some value =>
    simp only [hl] at ht
    obtain ⟨n, hn, ht⟩ := map_eq_ok_iff.1 ht
    simp [countOf_eq_ok_iff.1 hn, ← ht]

end Request

namespace Batch
variable {s : Settings} {d : Directory} {r r' : Request} {query : String} {target : Target}
  {bindings : Bindings} {b : Batch}

/-- Valid settings give no empty page, so a page is empty only if the request asks for no rows. -/
theorem one_le_size_iff (hv : s.validate = .ok d) {page : Nat × Nat}
    (hp : page ∈ r.page? s.options) : 1 ≤ page.2 ↔ r.take ≠ some 0 := by
  have hd : s.defaultTake ≠ 0 := (Settings.validate_eq_ok_iff.1 hv).1
  have hpos (n : UInt64) : 1 ≤ n.toNat ↔ n ≠ 0 := by
    rw [Nat.one_le_iff_ne_zero, ne_eq, ne_eq, ← UInt64.toNat_inj]
    rfl
  unfold Request.page? at hp
  split_ifs at hp
  · cases hp
    cases r.take with
    | none => simpa [hpos, Settings.options] using hd
    | some n => simp [hpos]
  · cases hp

/-- The page of a batch that is compiled with valid settings. Its clause ends the statement for the
rows, and it takes at least one row exactly if the caller does not ask for none. -/
theorem size_page_compile (hv : s.validate = .ok d) (hq : r.applyQuery query = (none, r'))
    (hc : compile s.options r' target bindings = .ok b) :
    ∃ condition, b.sql = (r'.clauses s.options target.source.text condition).text ++
        (if r'.showTotal then (totalClauses target.source.text condition).text else "") ∧
      ∀ page ∈ (r'.clauses s.options target.source.text condition).page,
        (∃ before, (r'.clauses s.options target.source.text condition).text =
          before ++ Clauses.clauseText "OFFSET" (some (Clauses.pageText page)) ++ ";\n\n") ∧
        (1 ≤ page.2 ↔ ¬ r.AsksForNone query) := by
  obtain ⟨-, condition, -, hs⟩ := compile_eq_ok_iff_clauses.1 hc
  refine ⟨condition, hs, fun page hp => ⟨?_, ?_⟩⟩
  · obtain ⟨order, ho, -⟩ := exists_order hp target.source.text condition
    exact ⟨_, text_of_page ho hp⟩
  · rw [one_le_size_iff hv hp, ne_eq, Request.take_eq_zero_iff hq]

def ordersView : Target := ⟨⟨"dbo", "Orders"⟩, .view, []⟩

theorem size_page_compile_skipping :
    ∃ d r' b condition page, ({ defaultTake := 25 } : Settings).validate = .ok d ∧
      ({} : Request).applyQuery "$skip=40" = (none, r') ∧
      compile (Settings.options { defaultTake := 25 }) r' ordersView {} = .ok b ∧
      page ∈ (r'.clauses (Settings.options { defaultTake := 25 }) ordersView.source.text
        condition).page ∧ 1 ≤ page.2 := by
  obtain ⟨d, hd⟩ : ∃ d, ({ defaultTake := 25 } : Settings).validate = .ok d := ⟨_, rfl⟩
  have hq : ({} : Request).applyQuery "$skip=40" = (none, { skip := some 40 }) := rfl
  obtain ⟨b, hb⟩ : ∃ b, compile (Settings.options { defaultTake := 25 }) { skip := some 40 }
      ordersView {} = .ok b := ⟨_, rfl⟩
  obtain ⟨condition, -, h⟩ := size_page_compile hd hq hb
  have hn : ¬ ({} : Request).AsksForNone "$skip=40" := by
    rw [← Request.take_eq_zero_iff hq]
    nofun
  exact ⟨d, _, b, condition, (40, 25), hd, hq, hb, rfl, (h _ rfl).2.2 hn⟩

/-- A page without rows, which the body of a request asks for. -/
theorem fetches_none_zeroTake :
    ∃ r d b, Request.ofBody "\x7b\"take\":0\x7d" = .ok r ∧ r.applyQuery "" = (none, r) ∧
      ({} : Settings).validate = .ok d ∧
      compile (Settings.options {}) r ordersView {} = .ok b ∧
      b.sql = "SELECT [$Type] = 'Result', RESULTS.*\nFROM [dbo].[Orders] RESULTS\n" ++
        "ORDER BY 1 ASC\nOFFSET 0 ROWS FETCH NEXT 0 ROWS ONLY;\n\n" :=
  ⟨{ take := some 0 }, _, _, rfl, rfl, rfl, rfl, by decide +kernel⟩

end Batch
end GridQuery
