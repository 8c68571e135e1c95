import GridQuery.Proofs.Assoc
import GridQuery.Proofs.Batch.Clauses
import GridQuery.Settings.Basic
import Mathlib.Data.List.Dedup

/-! # The objects of settings

Keys that name the same object, whatever their brackets, blanks, case and missing schemas, share
one place in the directory, and the last of them has it. So every key of valid settings is known,
and no object is lost exactly if no two keys name the same one. -/

namespace GridQuery

namespace Assoc
variable {κ β : Type} [BEq κ] [LawfulBEq κ]

/-- As many keys are there as different ones were put. -/
theorem length_putAll_nil [DecidableEq κ] (entries : Assoc κ β) :
    (putAll [] entries).length = (entries.map Prod.fst).dedup.length := by
  have hp : ((putAll [] entries).map Prod.fst).Perm (entries.map Prod.fst).dedup := by
    rw [List.perm_ext_iff_of_nodup (nodup_keys_putAll (by simp) entries) (List.nodup_dedup _)]
    intro k
    rw [mem_keys_putAll, List.mem_dedup, List.nil_append]
  simpa using hp.length_eq

end Assoc

structure ObjectSettings.Describes (o : ObjectSettings) (info : ObjectInfo) : Prop where
  kind : ObjectKind.named? o.kind = some info.kind
  parameters : info.parameters = o.parameters

namespace Settings
variable {s : Settings} {d : Directory} {key : String} {o : ObjectSettings} {name : ObjectName}
  {info : ObjectInfo}

theorem validate_eq_ok_iff :
    s.validate = .ok d ↔
      s.defaultTake ≠ 0 ∧ Text.trim s.defaultSchema.toList ≠ [] ∧ s.directory = .ok d := by
  unfold validate
  by_cases ht : s.defaultTake = 0
  · simp [ht]
  · by_cases hs : Text.trim s.defaultSchema.toList = [] <;> simp [ht, hs]

theorem objectInfo_eq_ok (h : s.objectInfo key o = .ok (name, info)) :
    ObjectName.parse? key s.defaultSchema = some name ∧ o.Describes info := by
  unfold objectInfo at h
  split at h
  · cases h
  · rename_i n hn
    split at h
    · cases h
    · rename_i hk
      split_ifs at h with hp
      cases h
      exact ⟨hn, hk, (List.isEmpty_iff.1 hp).symm⟩
    · rename_i hk
      cases h
      exact ⟨hn, hk, rfl⟩

/-- The directory knows the objects of the settings, put one after the other. -/
theorem directory_eq_ok_iff :
    s.directory = .ok d ↔ ∃ known, s.objects.mapM (fun e => s.objectInfo e.1 e.2) = .ok known ∧
      d.objects = Assoc.putAll [] (known.map fun e => (Directory.key e.1, e.2)) := by
  have hf : s.directory = s.objects.foldlM (fun d e => do
      pure ((fun d (e : ObjectName × ObjectInfo) => Directory.insert d e.1 e.2) d
        (← s.objectInfo e.1 e.2))) {} := rfl
  have hi (known : List (ObjectName × ObjectInfo)) (d : Directory) :
      known.foldl (fun d e => d.insert e.1 e.2) d =
        ⟨d.objects.putAll (known.map fun e => (Directory.key e.1, e.2))⟩ := by
    induction known generalizing d with
    | nil => rfl
    | cons e known ih => exact ih _
  rw [hf, foldlM_bind_eq_ok_iff]
  obtain ⟨objects⟩ := d
  simp only [hi, Directory.mk.injEq, eq_comm]

def objectKey? (s : Settings) (key : String) : Option ObjectName :=
  (ObjectName.parse? key s.defaultSchema).map Directory.key

/-- The last entry for the object that is known under a name. -/
def lastEntry? (s : Settings) (known : ObjectName) : Option (String × ObjectSettings) :=
  s.objects.reverse.find? fun e => s.objectKey? e.1 = some known

def Distinct (s : Settings) : Prop := (s.objects.map fun e => s.objectKey? e.1).Nodup

theorem objectKey?_of_objectInfo (h : s.objectInfo key o = .ok (name, info)) :
    s.objectKey? key = some (Directory.key name) := by
  rw [objectKey?, (objectInfo_eq_ok h).1]
  rfl

theorem find?_known {entries : List (String × ObjectSettings)}
    {known : List (ObjectName × ObjectInfo)}
    (h : List.Forall₂ (fun e f => s.objectInfo e.1 e.2 = .ok f) entries known) (k : ObjectName) :
    Option.Rel (fun e info => e.2.Describes info)
      (entries.find? fun e => s.objectKey? e.1 = some k)
      ((known.map fun e => (Directory.key e.1, e.2)).lookup k) := by
  induction h with
  | nil => exact .none
  | @cons e f _ _ hf _ ih =>
    have hk := objectKey?_of_objectInfo hf
    by_cases hn : Directory.key f.1 = k
    · simpa [hk, hn] using Option.Rel.some (objectInfo_eq_ok hf).2
    · simpa [Assoc.lookup_cons_of_ne _ _ (Ne.symm hn), hk, hn] using ih

theorem map_objectKey? {entries : List (String × ObjectSettings)}
    {known : List (ObjectName × ObjectInfo)}
    (h : List.Forall₂ (fun e f => s.objectInfo e.1 e.2 = .ok f) entries known) :
    (entries.map fun e => s.objectKey? e.1) = (known.map fun e => Directory.key e.1).map some := by
  induction h with
  | nil => rfl
  | cons hf _ ih => simp [objectKey?_of_objectInfo hf, ← ih]

theorem find?_directory (h : s.directory = .ok d) (name : ObjectName) :
    Option.Rel (fun e info => e.2.Describes info) (s.lastEntry? (Directory.key name))
      (d.find? name) := by
  obtain ⟨known, hk, hd⟩ := directory_eq_ok_iff.1 h
  have hr := List.forall₂_reverse_iff.2 (mapM_eq_ok_iff.1 hk)
  rw [Directory.find?, hd, Assoc.lookup_putAll, ← List.map_reverse, List.lookup_nil, Option.or_none]
  exact find?_known hr (Directory.key name)

theorem size_directory (h : s.directory = .ok d) :
    d.size = (s.objects.map fun e => s.objectKey? e.1).dedup.length := by
  obtain ⟨known, hk, hd⟩ := directory_eq_ok_iff.1 h
  rw [Directory.size, hd, Assoc.length_putAll_nil, map_objectKey? (mapM_eq_ok_iff.1 hk),
    List.dedup_map_of_injective (fun _ _ h => Option.some.inj h)]
  simp [Function.comp_def]

theorem size_directory_eq_length_iff (h : s.directory = .ok d) :
    d.size = s.objects.length ↔ s.Distinct := by
  rw [size_directory h, Distinct, ← List.dedup_eq_self]
  constructor
  · intro hl
    exact (List.dedup_sublist _).eq_of_length (by simpa using hl)
  · intro he
    rw [he, List.length_map]

theorem lastEntry?_of_distinct {known : ObjectName} {e last : String × ObjectSettings}
    (hs : s.Distinct) (he : e ∈ s.objects) (hk : s.objectKey? e.1 = some known)
    (hl : s.lastEntry? known = some last) : last = e := by
  have hkey : s.objectKey? last.1 = some known := by simpa using List.find?_some hl
  have hmem : last ∈ s.objects := List.mem_reverse.1 (List.mem_of_find?_eq_some hl)
  exact List.inj_on_of_nodup_map hs hmem he (hkey.trans hk.symm)

theorem exists_lastEntry? {known : ObjectName} {e : String × ObjectSettings} (he : e ∈ s.objects)
    (hk : s.objectKey? e.1 = some known) : ∃ last, s.lastEntry? known = some last := by
  rw [← Option.isSome_iff_exists, lastEntry?, List.find?_isSome]
  exact ⟨e, by simpa using he, by simpa using hk⟩

theorem ofRequest_of_describe {describe : Describe} {options : Options}
    (hn : ObjectName.parse? key options.defaultSchema = some name)
    (hd : describe name = .ok (some info)) (r : Request) :
    Batch.ofRequest describe key r options =
      Batch.compile options r (Batch.targetOf name info r).1 (Batch.targetOf name info r).2 := by
  simp [Batch.ofRequest, hn, hd]

theorem compile_ne_objectNotFound (options : Options) (r : Request) (target : Target)
    (bindings : Bindings) (n : ObjectName) :
    Batch.compile options r target bindings ≠ .error (.objectNotFound n) := by
  intro h
  obtain hc | ⟨-, page, -, ⟨-, he⟩ | ⟨-, -, he⟩⟩ := Batch.compile_eq_error_iff.1 h
  · obtain ⟨_, _, _, -, -, he⟩ := Batch.conditionOf_eq_error_iff.1 hc
    cases he
  · cases he
  · cases he

/-- What valid settings know of the object of each key. It is what the last entry for the object
says, whichever key this one has, and requests against the key are compiled with it. The directory
holds as many objects as the keys name. So it holds one for each key exactly if no two keys name the
same object, and then every key is described by its own entry. -/
theorem describe_objects (h : s.validate = .ok d) :
    (∀ e ∈ s.objects, ∃ name last info,
      ObjectName.parse? e.1 s.defaultSchema = some name ∧
      s.lastEntry? (Directory.key name) = some last ∧ last.2.Describes info ∧
      d.describe name = .ok (some info) ∧ (s.Distinct → last = e) ∧
      ∀ r, Batch.ofRequest d.describe e.1 r s.options =
          Batch.compile s.options r (Batch.targetOf name info r).1 (Batch.targetOf name info r).2 ∧
        ∀ n, Batch.ofRequest d.describe e.1 r s.options ≠ .error (.objectNotFound n)) ∧
    d.size = (s.objects.map fun e => s.objectKey? e.1).dedup.length ∧
    (d.size = s.objects.length ↔ s.Distinct) := by
  obtain ⟨-, -, hd⟩ := validate_eq_ok_iff.1 h
  refine ⟨fun e he => ?_, size_directory hd, size_directory_eq_length_iff hd⟩
  obtain ⟨known, hk, -⟩ := directory_eq_ok_iff.1 hd
  obtain ⟨⟨name, own⟩, -, ho⟩ := exists_mem_of_forall₂ (mapM_eq_ok_iff.1 hk) he
  have hn := (objectInfo_eq_ok ho).1
  have hkey := objectKey?_of_objectInfo ho
  obtain ⟨last, hl⟩ := exists_lastEntry? he hkey
  have hr := find?_directory hd name
  rw [hl] at hr
  generalize hf : d.find? name = found at hr
  cases hr with
  | @some _ info hi =>
    have hdesc : d.describe name = .ok (some info) := congrArg Except.ok hf
    have hc (r : Request) : Batch.ofRequest d.describe e.1 r s.options =
        Batch.compile s.options r (Batch.targetOf name info r).1 (Batch.targetOf name info r).2 :=
      ofRequest_of_describe hn hdesc r
    exact ⟨name, last, info, hn, hl, hi, hdesc, fun hs => lastEntry?_of_distinct hs he hkey hl,
      fun r => ⟨hc r, fun n => hc r ▸ compile_ne_objectNotFound _ _ _ _ n⟩⟩

def salesObjects : Settings where
  objects := [("[sales].[Open Orders]", ⟨"View", []⟩), ("orders", ⟨"tvf", ["Region"]⟩)]

theorem describe_objects_sales :
    ∃ d info, salesObjects.validate = .ok d ∧ d.size = 2 ∧
      d.describe ⟨"dbo", "orders"⟩ = .ok (some info) ∧
      (⟨"tvf", ["Region"]⟩ : ObjectSettings).Describes info := by
  obtain ⟨d, hd⟩ : ∃ d, salesObjects.validate = .ok d := ⟨_, rfl⟩
  have hs : salesObjects.Distinct := by
    unfold Distinct
    decide +kernel
  obtain ⟨hall, -, hsize⟩ := describe_objects hd
  obtain ⟨name, last, info, hn, -, hi, hdesc, hl, -⟩ :=
    hall ("orders", ⟨"tvf", ["Region"]⟩) (by simp [salesObjects])
  have hname : ObjectName.parse? "orders" salesObjects.defaultSchema = some ⟨"dbo", "orders"⟩ := by
    decide +kernel
  obtain rfl := Option.some.inj (hn.symm.trans hname)
  rw [hl hs] at hi
  exact ⟨d, info, hd, hsize.2 hs, hdesc, hi⟩

def ambiguousObjects : Settings where
  objects := [("DBO.orders", ⟨"view", []⟩), ("dbo.Orders", ⟨"function", ["Region"]⟩)]

theorem not_describes_ambiguous :
    ∃ d info, ambiguousObjects.validate = .ok d ∧
      ("DBO.orders", ⟨"view", []⟩) ∈ ambiguousObjects.objects ∧
      ObjectName.parse? "DBO.orders" ambiguousObjects.defaultSchema = some ⟨"DBO", "orders"⟩ ∧
      d.describe ⟨"DBO", "orders"⟩ = .ok (some info) ∧
      ¬ (⟨"view", []⟩ : ObjectSettings).Describes info ∧
      d.size < ambiguousObjects.objects.length := by
  obtain ⟨d, hd, hsize, hf⟩ : ∃ d, ambiguousObjects.validate = .ok d ∧ d.size = 1 ∧
      d.find? ⟨"DBO", "orders"⟩ = some ⟨.function, ["Region"]⟩ :=
    ⟨_, rfl, by decide +kernel, by decide +kernel⟩
  refine ⟨d, _, hd, by simp [ambiguousObjects], by decide +kernel, congrArg Except.ok hf, ?_,
    by simp [hsize, ambiguousObjects]⟩
  rintro ⟨-, hp⟩
  cases hp

end Settings
end GridQuery
