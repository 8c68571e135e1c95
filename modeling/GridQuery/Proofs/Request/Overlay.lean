import GridQuery.Proofs.Assoc
import GridQuery.Proofs.Batch.Placeholders
import GridQuery.Proofs.Result
import GridQuery.Request.QueryString

/-! # Query strings and the arguments of functions

A plain pair of a query string sets a value under its key as it is spelled, and a parameter takes
the first value whose key names it. So a parameter is bound to the last value that was given under
the key that names it first: that of the query string if it is spelled like that, and otherwise
the one that the request had before. -/

namespace GridQuery
open Text

/-- Whether a key names a parameter: they are equal without leading `@` signs, in any ASCII
case. -/
def namesParameter (parameter key : String) : Bool :=
  equalIgnoringCase (parameterName key) (parameterName parameter)

def firstKey? (values : Assoc String Literal) (parameter : String) : Option String :=
  (values.map Prod.fst).find? (namesParameter parameter)

theorem valueFor?_eq (values : Assoc String Literal) (parameter : String) :
    valueFor? values parameter = (firstKey? values parameter).bind (values.lookup ·) :=
  Assoc.map_snd_find? values (namesParameter parameter)

theorem firstKey?_putAll (values entries : Assoc String Literal) (parameter : String) :
    firstKey? (values.putAll entries) parameter =
      firstKey? (values ++ entries) parameter :=
  Assoc.find?_keys_putAll values entries _

theorem mem_keys_of_firstKey? {values : Assoc String Literal} {parameter key : String}
    (h : firstKey? values parameter = some key) : key ∈ values.map Prod.fst :=
  List.mem_of_find?_eq_some h

theorem exists_firstKey? {values : Assoc String Literal} {parameter : String}
    (h : ∃ e ∈ values, namesParameter parameter e.1 = true) :
    ∃ key, firstKey? values parameter = some key := by
  obtain ⟨e, he, hn⟩ := h
  exact Option.isSome_iff_exists.1
    (List.find?_isSome.2 ⟨e.1, List.mem_map_of_mem he, hn⟩)

/-- Among values of which some were put later, a parameter has the last value of the key that
names it first. -/
theorem valueFor?_putAll (values entries : Assoc String Literal) (parameter : String) :
    valueFor? (values.putAll entries) parameter =
      (firstKey? (values ++ entries) parameter).bind fun key =>
        (entries.reverse.lookup key).or (values.lookup key) := by
  rw [valueFor?_eq, firstKey?_putAll]
  congr 1
  funext key
  exact Assoc.lookup_putAll values entries key

/-- The values that the plain pairs of a query string set: those whose keys are no options. -/
def plainValues (pairs : List (String × String)) : Assoc String Literal :=
  (pairs.filter fun p => p.1.toList.head? != some '$').map fun p => (p.1, .string p.2)

def queryValues (query : String) : Assoc String Literal :=
  plainValues (Form.pairs (Request.bareQuery query))

namespace Request
variable {r r' : Request} {pairs : List (String × String)} {key value query : String}

def options : List String :=
  ["$take", "$skip", "$filter", "$orderby", "$select", "$inlinecount", "$expand", "$format"]

theorem head?_of_mem_options : ∀ option ∈ options, option.toList.head? = some '$' := by decide

theorem applyPair_of_plain (hk : key.toList.head? ≠ some '$') :
    r.applyPair key value = .ok (r.withValue key (.string value)) := by
  have hne : ∀ option ∈ options, key ≠ option := by
    rintro _ ho rfl
    exact hk (head?_of_mem_options _ ho)
  simp only [options, List.forall_mem_cons] at hne
  simp [applyPair, hne, hk]

theorem userData_of_applyPair (hk : key.toList.head? = some '$')
    (h : r.applyPair key value = .ok r') : r'.userData = r.userData := by
  have of_bind {α : Type} {x : Except QueryError α} {f : α → Request}
      (h : (do pure (f (← x))) = Except.ok r') (hf : ∀ a, (f a).userData = r.userData) :
      r'.userData = r.userData := by
    obtain ⟨a, -, he⟩ := bind_eq_ok_iff.1 h
    cases he
    exact hf a
  unfold applyPair at h
  split_ifs at h
  · exact of_bind h fun _ => rfl
  · exact of_bind h fun _ => rfl
  · exact of_bind h fun _ => rfl
  · exact of_bind h fun _ => rfl
  · cases h
    rfl
  · exact of_bind h fun _ => rfl

theorem userData_of_applyPairs (h : r.applyPairs pairs = (none, r')) :
    r'.userData = r.userData.putAll (plainValues pairs) := by
  induction pairs generalizing r with
  | nil =>
    cases h
    rfl
  | cons p pairs ih =>
    obtain ⟨key, value⟩ := p
    rw [applyPairs] at h
    split at h
    · rename_i next hn
      rw [ih h]
      by_cases hk : key.toList.head? = some '$'
      · simp [userData_of_applyPair hk hn, plainValues, hk]
      · rw [applyPair_of_plain hk] at hn
        cases hn
        simp [withValue, plainValues, hk, Assoc.putAll]
    · cases h

theorem applyPairs_of_plain (h : ∀ p ∈ pairs, p.1.toList.head? ≠ some '$') :
    r.applyPairs pairs = (none, { r with userData := r.userData.putAll (plainValues pairs) }) := by
  induction pairs generalizing r with
  | nil => rfl
  | cons p pairs ih =>
    obtain ⟨key, value⟩ := p
    obtain ⟨hk, hp⟩ := List.forall_mem_cons.1 h
    rw [applyPairs, applyPair_of_plain hk]
    simp [ih hp, withValue, plainValues, show key.toList.head? ≠ some '$' from hk, Assoc.putAll]

theorem applyQuery_of_plain (h : ∀ p ∈ Form.pairs (bareQuery query), p.1.toList.head? ≠ some '$') :
    r.applyQuery query = (none, { r with userData := r.userData.putAll (queryValues query) }) :=
  applyPairs_of_plain h

end Request

namespace Batch
variable {describe : Describe} {object parameter query : String} {r r' : Request}
  {options : Options} {b : Batch} {name : ObjectName} {info : ObjectInfo} {i : Nat} {v : Literal}

/-- The argument at some place of a call is a placeholder that is bound to a literal. -/
def BindsArgument (target : Target) (bindings : Bindings) (i : Nat) (v : Literal) : Prop :=
  ∃ p, target.arguments[i]? = some (.placeholder p) ∧ bindings.get? p = some v

theorem BindsArgument.unique {target : Target} {bindings : Bindings} {w : Literal}
    (h : BindsArgument target bindings i v) (h' : BindsArgument target bindings i w) : v = w := by
  obtain ⟨p, ha, hv⟩ := h
  obtain ⟨p', ha', hv'⟩ := h'
  obtain rfl : p = p' := Argument.placeholder.inj (Option.some.inj (ha.symm.trans ha'))
  exact Option.some.inj (hv.symm.trans hv')

theorem bindsArgument_ofRequest (hb : ofRequest describe object r options = .ok b)
    (hn : ObjectName.parse? object options.defaultSchema = some name)
    (hd : describe name = .ok (some info)) (hf : info.kind = .function)
    (hp : info.parameters[i]? = some parameter) (hv : valueFor? r.userData parameter = some v) :
    BindsArgument (targetOf name info r).1 b.bindings i v := by
  obtain ⟨name', info', hn', hd', hc⟩ := ofRequest_eq_ok_iff.1 hb
  obtain rfl : name = name' := Option.some.inj (hn.symm.trans hn')
  obtain rfl : info = info' := Option.some.inj (Except.ok.inj (hd.symm.trans hd'))
  obtain ⟨-, page, -, rfl⟩ := compile_eq_ok_iff.1 hc
  have ha := getElem?_numberedArguments (fun p => (valueFor? r.userData p).isSome) 0 hp
    (by simp [hv])
  refine ⟨_, by simpa [targetOf, hf, resolveArguments_eq, Bindings.size] using ha, ?_⟩
  have hg := getElem?_parameterValues r.userData hp hv
  rw [Bindings.get?_placeholder, values_targetOf, ObjectInfo.argumentValues, hf]
  simpa [List.getElem?_append_left (List.getElem?_eq_some_iff.1 hg).1] using hg

/-- A parameter that a query string names is bound to the last value under the key that names it
first, be it a key of the request or of the query string: the value of the query string if it has
one under this key, and that of the request otherwise. It is the last value that the query string
has for the parameter if this one's key is spelled like the first. -/
theorem bindsArgument_applyQuery (hq : r.applyQuery query = (none, r'))
    (hb : ofRequest describe object r' options = .ok b)
    (hn : ObjectName.parse? object options.defaultSchema = some name)
    (hd : describe name = .ok (some info)) (hf : info.kind = .function)
    (hp : info.parameters[i]? = some parameter)
    (hk : ∃ e ∈ queryValues query, namesParameter parameter e.1 = true) :
    ∃ key v, firstKey? (r.userData ++ queryValues query) parameter = some key ∧
      ((queryValues query).reverse.lookup key).or (r.userData.lookup key) = some v ∧
      BindsArgument (targetOf name info r').1 b.bindings i v ∧
      (firstKey? (queryValues query).reverse parameter = some key →
        valueFor? (queryValues query).reverse parameter = some v) := by
  have hu : r'.userData = r.userData.putAll (queryValues query) :=
    Request.userData_of_applyPairs hq
  obtain ⟨key, hkey⟩ : ∃ key, firstKey? (r.userData ++ queryValues query) parameter = some key := by
    obtain ⟨e, he, hn⟩ := hk
    exact exists_firstKey? ⟨e, List.mem_append_right _ he, hn⟩
  obtain ⟨v, hv⟩ := Assoc.exists_or_lookup r.userData (queryValues query)
    (mem_keys_of_firstKey? hkey)
  have hvalue : valueFor? r'.userData parameter = some v := by
    simp only [hu, valueFor?_putAll, hkey, Option.bind_some, hv]
  refine ⟨key, v, hkey, hv, bindsArgument_ofRequest hb hn hd hf hp hvalue, fun hs => ?_⟩
  rw [valueFor?_eq, hs, Option.bind_some]
  obtain ⟨w, hw⟩ := Option.ne_none_iff_exists'.1
    (mt (Assoc.lookup_eq_none_iff_notMem _ key).1 (not_not.2 (mem_keys_of_firstKey? hs)))
  rw [hw] at hv
  exact hw.trans hv

def ordersOf : ObjectInfo := ⟨.function, ["Region", "@CustomerId"]⟩

theorem exists_ofRequest_ordersOf (values : Assoc String Literal) :
    ∃ b, ofRequest (fun _ => .ok (some ordersOf)) "sales.Orders" { userData := values } {} =
      .ok b :=
  exists_ofRequest_iff.2 ⟨⟨⟨"sales", "Orders"⟩, ordersOf, by decide, rfl⟩, by simp, ⟨none, rfl⟩⟩

theorem bindsArgument_applyQuery_ordersOf :
    ∃ r' b, ({ userData := [("customerId", .int 1)] } : Request).applyQuery
        "?CustomerId=2&customerId=4" = (none, r') ∧
      ofRequest (fun _ => .ok (some ordersOf)) "sales.Orders" r' {} = .ok b ∧
      BindsArgument (targetOf ⟨"sales", "Orders"⟩ ordersOf r').1 b.bindings 1 (.string "4") := by
  have hp : Form.pairs (Request.bareQuery "?CustomerId=2&customerId=4") =
      [("CustomerId", "2"), ("customerId", "4")] := by decide +kernel
  have hv : queryValues "?CustomerId=2&customerId=4" =
      [("CustomerId", .string "2"), ("customerId", .string "4")] := by
    rw [queryValues, hp]
    rfl
  obtain ⟨b, hb⟩ := exists_ofRequest_ordersOf
    (Assoc.putAll [("customerId", .int 1)] (queryValues "?CustomerId=2&customerId=4"))
  have hq := Request.applyQuery_of_plain (r := { userData := [("customerId", .int 1)] })
    (show ∀ p ∈ Form.pairs (Request.bareQuery "?CustomerId=2&customerId=4"),
      p.1.toList.head? ≠ some '$' by rw [hp]; decide)
  obtain ⟨key, v, hk, hl, hbind, -⟩ := bindsArgument_applyQuery hq hb
    (by decide : _ = some (⟨"sales", "Orders"⟩ : ObjectName)) rfl rfl
    (rfl : ordersOf.parameters[1]? = some "@CustomerId")
    ⟨("customerId", .string "4"), by simp [hv], by decide⟩
  have hkey : firstKey? [("customerId", .int 1), ("CustomerId", .string "2"),
      ("customerId", .string "4")] "@CustomerId" = some "customerId" := by decide +kernel
  have hlast : List.lookup "customerId" [("customerId", .string "4"), ("CustomerId", .string "2")] =
      some (Literal.string "4") := rfl
  rw [hv] at hk hl
  obtain rfl : key = "customerId" := Option.some.inj (hk.symm.trans hkey)
  simp only [List.reverse_cons, List.reverse_nil, List.nil_append, List.cons_append, hlast,
    Option.some_or, Option.some.injEq] at hl
  exact ⟨_, b, hq, hb, hl ▸ hbind⟩

/-- A value of the request stays if the query string spells its key in another way, though the
function has no other value for the parameter. -/
theorem not_bindsArgument_otherSpelling :
    ∃ r' b, ({ userData := [("customerid", .string "1")] } : Request).applyQuery
        "CustomerId=2" = (none, r') ∧
      ofRequest (fun _ => .ok (some ordersOf)) "sales.Orders" r' {} = .ok b ∧
      valueFor? (queryValues "CustomerId=2").reverse "@CustomerId" = some (.string "2") ∧
      ¬ BindsArgument (targetOf ⟨"sales", "Orders"⟩ ordersOf r').1 b.bindings 1 (.string "2") := by
  have hp : Form.pairs (Request.bareQuery "CustomerId=2") = [("CustomerId", "2")] := by
    decide +kernel
  have hv : queryValues "CustomerId=2" = [("CustomerId", .string "2")] := by
    rw [queryValues, hp]
    rfl
  obtain ⟨b, hb⟩ := exists_ofRequest_ordersOf
    (Assoc.putAll [("customerid", .string "1")] (queryValues "CustomerId=2"))
  have hq := Request.applyQuery_of_plain (r := { userData := [("customerid", .string "1")] })
    (show ∀ p ∈ Form.pairs (Request.bareQuery "CustomerId=2"), p.1.toList.head? ≠ some '$' by
      rw [hp]; decide)
  have hkey : firstKey? [("customerid", .string "1"), ("CustomerId", .string "2")]
      "@CustomerId" = some "customerid" := by decide +kernel
  have hkey' : firstKey? [("CustomerId", .string "2")] "@CustomerId" = some "CustomerId" := by
    decide +kernel
  have hold : BindsArgument _ b.bindings 1 (.string "1") := bindsArgument_ofRequest hb
    (by decide : _ = some (⟨"sales", "Orders"⟩ : ObjectName)) rfl rfl
    (rfl : ordersOf.parameters[1]? = some "@CustomerId")
    (by simp [hv, valueFor?_putAll, hkey, List.lookup_cons])
  have hnew : valueFor? (queryValues "CustomerId=2").reverse "@CustomerId" =
      some (.string "2") := by simp [hv, valueFor?_eq, hkey']
  refine ⟨_, b, hq, hb, hnew, fun hbinds => ?_⟩
  simpa using hold.unique hbinds

end Batch
end GridQuery
