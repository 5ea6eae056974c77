import CloudTelemetry.Proofs.Span.Limits
import Mathlib.Data.List.Dedup
import Mathlib.Data.List.Induction

/-!
# Which attributes a map holds

A map is written one attribute after another while it has room, and of two with one name the later
stands in the place of the earlier. `written` tells by the names alone what is written of some
forms, and `ends_build` that every map comes about in this way. Two things follow: what becomes of
each attribute, which is kept, counted as dropped, or written over and not counted
(`accounts_of_build`); and, where no two take one name, that the first ones that may be sent are
kept (`selects_of_build`).
-/

namespace CloudTelemetry

/-! ### Names of fields -/

namespace Fields

variable {α : Type} {fields : Fields α} {name other : String} {value : α}

theorem entries_insert_of_not_mem (h : name ∉ fields.names) :
    (fields.insert name value).entries = fields.entries ++ [(name, value)] :=
  put_of_not_mem h

theorem names_insert_of_mem (h : name ∈ fields.names) :
    (fields.insert name value).names = fields.names :=
  map_fst_put_of_mem h

theorem names_insert_of_not_mem (h : name ∉ fields.names) :
    (fields.insert name value).names = fields.names ++ [name] := by
  unfold names
  rw [entries_insert_of_not_mem h, List.map_append]
  rfl

theorem mem_names_insert :
    other ∈ (fields.insert name value).names ↔ other = name ∨ other ∈ fields.names := by
  by_cases taken : name ∈ fields.names
  · rw [names_insert_of_mem taken]
    constructor
    · exact .inr
    · rintro (rfl | h)
      · exact taken
      · exact h
  · rw [names_insert_of_not_mem taken, List.mem_append, List.mem_singleton, or_comm]

theorem length_names (fields : Fields α) : fields.names.length = fields.size := List.length_map ..

/-- What is left beside a name that is written: all, but for what it is written over. -/
theorem length_erase_names_insert (fields : Fields α) (name : String) (value : α) :
    ((fields.insert name value).names.erase name).length + (if name ∈ fields.names then 1 else 0) =
      fields.size := by
  rw [List.length_erase_of_mem (mem_names_insert.2 (.inl rfl))]
  by_cases taken : name ∈ fields.names
  · have := List.length_pos_of_mem taken
    rw [names_insert_of_mem taken, if_pos taken, ← length_names]
    omega
  · rw [names_insert_of_not_mem taken, if_neg taken, List.length_append, ← length_names]
    rfl

variable {entries : List (String × α)}

theorem ofList_concat (entries : List (String × α)) (e : String × α) :
    ofList (entries ++ [e]) = (ofList entries).insert e.1 e.2 := by
  simp [ofList]

theorem mem_names_ofList : name ∈ (ofList entries).names ↔ name ∈ entries.map Prod.fst := by
  induction entries using List.reverseRecOn with
  | nil => exact Iff.rfl
  | append_singleton entries e ih =>
    rw [ofList_concat, mem_names_insert, ih]
    simp [or_comm]

theorem size_ofList (entries : List (String × α)) :
    (ofList entries).size = (entries.map Prod.fst).dedup.length := by
  have perm : (ofList entries).names.Perm (entries.map Prod.fst).dedup := by
    refine (List.perm_ext_iff_of_nodup (ofList entries).distinct (List.nodup_dedup _)).2 ?_
    intro name
    rw [List.mem_dedup]
    exact mem_names_ofList
  rw [← perm.length_eq, length_names]

theorem entries_ofList (distinct : (entries.map Prod.fst).Nodup) :
    (ofList entries).entries = entries := by
  induction entries using List.reverseRecOn with
  | nil => rfl
  | append_singleton entries e ih =>
    rw [List.map_append, List.nodup_append'] at distinct
    obtain ⟨before, -, apart⟩ := distinct
    have new : e.1 ∉ (ofList entries).names := by
      rw [mem_names_ofList]
      exact fun h => apart h List.mem_cons_self
    rw [ofList_concat, entries_insert_of_not_mem new, ih before]

end Fields

/-! ### Values with a form -/

namespace AttributeValue

/-- The value is sent as it is, or its text is there with all its characters, and not too much of it
is cut. -/
structure HasForm (v : Value) : Prop where
  writable : v.isWritable = true
  whole : hasHalves v = false
  countable : isCountable v = true

instance (v : Value) : Decidable (HasForm v) :=
  decidable_of_iff (v.isWritable = true ∧ hasHalves v = false ∧ isCountable v = true)
    ⟨fun h => ⟨h.1, h.2.1, h.2.2⟩, fun h => ⟨h.1, h.2, h.3⟩⟩

theorem ends_check {failure : Failure → Prop} {v : Value}
    (unwritable : v.isWritable = false → failure (.defect .badValue))
    (halves : hasHalves v = true → failure (.defect .halfCharacter))
    (long : isCountable v = false → failure (.defect .badValue)) :
    Ends failure (HasForm v) (fun _ => True) (check v) := by
  unfold check Value.checkWritable
  cases writable : v.isWritable with
  | false => exact .fails (fun h => by cases writable.symm.trans h.writable) (unwritable writable)
  | true =>
    cases broken : hasHalves v with
    | true => exact .fails (fun h => by cases broken.symm.trans h.whole) (halves broken)
    | false =>
      cases countable : isCountable v with
      | false => exact .fails (fun h => by cases countable.symm.trans h.countable) (long countable)
      | true => exact .holds ⟨writable, broken, countable⟩ trivial

theorem form_of_hasForm {v : Value} (h : HasForm v) : form v = .ok (ofValue? v) := by
  unfold form check Value.checkWritable
  rw [h.writable, h.whole, h.countable]
  rfl

theorem hasForm_of_form {v : Value} {a : Option AttributeValue} (h : form v = .ok a) :
    HasForm v := by
  obtain ⟨_, checked, -⟩ := bind_eq_ok h
  have ends : Ends (fun _ => True) (HasForm v) _ (check v) :=
    ends_check (fun _ => trivial) (fun _ => trivial) fun _ => trivial
  exact ends.exists_ok_iff.1 ⟨_, checked⟩

theorem ofValue?_eq_none_iff {v : Value} : ofValue? v = none ↔ v = .null := by
  cases v <;> simp [ofValue?]

end AttributeValue

namespace AttributeMap

/-! ### Collecting -/

/-- What is written of some forms: one after another is, while those before it leave room. -/
def written (limit : Nat) (forms : List (String × AttributeValue)) :
    List (String × AttributeValue) :=
  forms.foldl (fun done a =>
    if (done.map Prod.fst).dedup.length < limit then done ++ [a] else done) []

section

variable {limit : Nat} {forms : List (String × AttributeValue)}

theorem written_concat (limit : Nat) (forms : List (String × AttributeValue))
    (a : String × AttributeValue) : written limit (forms ++ [a]) =
      if ((written limit forms).map Prod.fst).dedup.length < limit then written limit forms ++ [a]
      else written limit forms := by
  rw [written, List.foldl_append]
  rfl

theorem written_of_nodup (distinct : (forms.map Prod.fst).Nodup) :
    written limit forms = forms.take limit := by
  induction forms using List.reverseRecOn with
  | nil => simp [written]
  | append_singleton forms a ih =>
    rw [List.map_append, List.nodup_append'] at distinct
    have before := distinct.1
    have taken : ((forms.take limit).map Prod.fst).Nodup :=
      before.sublist ((List.take_sublist ..).map Prod.fst)
    rw [written_concat, ih before, taken.dedup, List.length_map, List.length_take,
      List.take_append]
    by_cases room : forms.length < limit
    · rw [if_pos (by omega), List.take_of_length_le (by omega), List.take_of_length_le]
      rw [List.length_singleton]
      omega
    · rw [if_neg (by omega), Nat.sub_eq_zero_of_le (by omega), List.take_zero, List.append_nil]

end

def writtenOf (limit : Nat) (sources : List (String × Value)) : List (String × AttributeValue) :=
  written limit (sources.filterMap admissible?)

theorem collect_concat (limit : Int) (sources : List (String × Value)) (source : String × Value) :
    collect limit (sources ++ [source]) = add limit (collect limit sources) source := by
  simp [collect]

theorem collect_eq (limit : Nat) (sources : List (String × Value)) :
    collect limit sources = ⟨.ofList (writtenOf limit sources),
      sources.length - (writtenOf limit sources).length⟩ := by
  induction sources using List.reverseRecOn with
  | nil => rfl
  | append_singleton sources source ih =>
    rw [collect_concat, ih]
    unfold add writtenOf
    rw [List.filterMap_append]
    cases form : admissible? source with
    | none =>
      have : [source].filterMap admissible? = [] := by simp [form]
      rw [this, List.append_nil, List.length_append, List.length_singleton]
      dsimp only
      congr 1
      omega
    | some a =>
      have : [source].filterMap admissible? = [a] := by simp [form]
      rw [this, written_concat]
      dsimp only
      -- whether there is room depends on the names alone
      rw [Fields.size_ofList]
      by_cases room : ((written limit (sources.filterMap admissible?)).map Prod.fst).dedup.length
          < limit
      · rw [if_pos (Int.ofNat_lt.2 room), if_pos room, Fields.ofList_concat]
        simp only [List.length_append, List.length_singleton]
        congr 1
        omega
      · rw [if_neg (mt Int.ofNat_lt.1 room), if_neg room, List.length_append,
          List.length_singleton]
        congr 1
        omega

/-! ### Building -/

def inputs (recorded : RecordedAttributes) (extra : Fields Value) : List (String × Value) :=
  recorded.sources ++ extra.entries

/-- What counts as dropped: what is not written, and what the recorder dropped. -/
def droppedOf (limit : Nat) (recorded : RecordedAttributes) (extra : Fields Value) : Int :=
  (inputs recorded extra).length - (writtenOf limit (inputs recorded extra)).length +
    recorded.dropped

def own (limit : Nat) (recorded : RecordedAttributes) (extra : Fields Value) :
    Fields AttributeValue :=
  .ofList (writtenOf limit (inputs recorded extra))

def made (limit : Nat) (recorded : RecordedAttributes) (extra : Fields Value)
    (agent : Option Agent) : AttributeMap :=
  withAgent agent ⟨own limit recorded extra, droppedOf limit recorded extra⟩

variable {limit : Nat} {recorded : RecordedAttributes} {extra : Fields Value}
  {agent : Option Agent}

theorem build_eq : build limit recorded extra agent =
    (inputs recorded extra).forM (fun entry => AttributeValue.check entry.2) >>= fun _ =>
      if fitsInt32 (droppedOf limit recorded extra) then .ok (made limit recorded extra agent)
      else fails .badValue := by
  show ((inputs recorded extra).forM (fun entry => AttributeValue.check entry.2) >>= fun _ =>
    let done := (collect limit (inputs recorded extra)).withAgent agent
    let dropped := done.dropped + recorded.dropped
    if fitsInt32 dropped then .ok { done with dropped := dropped } else fails .badValue) = _
  rw [collect_eq]
  cases agent <;> rfl

/-- Each value has a form, and not too much is dropped. -/
structure Sendable (limit : Nat) (recorded : RecordedAttributes) (extra : Fields Value) :
    Prop where
  forms : ∀ e ∈ inputs recorded extra, AttributeValue.HasForm e.2
  count : fitsInt32 (droppedOf limit recorded extra) = true

theorem ends_build {failure : Failure → Prop}
    (unwritable : ∀ e ∈ inputs recorded extra, e.2.isWritable = false → failure (.defect .badValue))
    (halves : ∀ e ∈ inputs recorded extra, AttributeValue.hasHalves e.2 = true →
      failure (.defect .halfCharacter))
    (long : ∀ e ∈ inputs recorded extra, AttributeValue.isCountable e.2 = false →
      failure (.defect .badValue))
    (many : fitsInt32 (droppedOf limit recorded extra) = false → failure (.defect .badValue)) :
    Ends failure (Sendable limit recorded extra) (· = made limit recorded extra agent)
      (build limit recorded extra agent) := by
  have checked : Ends failure (∀ e ∈ inputs recorded extra, AttributeValue.HasForm e.2)
      (fun _ => True) ((inputs recorded extra).forM fun e => AttributeValue.check e.2) :=
    Ends.forM fun e he => AttributeValue.ends_check (unwritable e he) (halves e he) (long e he)
  have counted : Ends failure (fitsInt32 (droppedOf limit recorded extra) = true)
      (· = made limit recorded extra agent)
      (if fitsInt32 (droppedOf limit recorded extra) then .ok (made limit recorded extra agent)
        else fails .badValue) := by
    cases fits : fitsInt32 (droppedOf limit recorded extra) with
    | false => exact .fails nofun (many fits)
    | true => exact .holds rfl rfl
  rw [build_eq]
  refine (checked.bind fun _ _ => counted).imp ⟨?_, ?_⟩ fun _ h => h
  · rintro ⟨forms, count⟩
    exact ⟨forms, count⟩
  · rintro ⟨forms, count⟩
    exact ⟨forms, count⟩

/-! ### What becomes of each attribute -/

/-- The names of a map that come of what it is built of. -/
def ownNames (agent : Option Agent) (m : AttributeMap) : List String :=
  if agent.isSome then m.attributes.names.erase agentKey else m.attributes.names

def writtenNames (limit : Nat) (recorded : RecordedAttributes) (extra : Fields Value) :
    List String :=
  (writtenOf limit (inputs recorded extra)).map Prod.fst

theorem mem_names_own {name : String} :
    name ∈ (own limit recorded extra).names ↔ name ∈ writtenNames limit recorded extra :=
  Fields.mem_names_ofList

theorem size_own (limit : Nat) (recorded : RecordedAttributes) (extra : Fields Value) :
    (own limit recorded extra).size = (writtenNames limit recorded extra).dedup.length :=
  Fields.size_ofList _

/-- How many attributes are written over by a later one with their name, or by the agent's. -/
def overwritten (agent : Option Agent) (names : List String) : Nat :=
  names.length - names.dedup.length + if agent.isSome = true ∧ agentKey ∈ names then 1 else 0

theorem overwritten_eq_zero_iff {names : List String} :
    overwritten agent names = 0 ↔ names.Nodup ∧ ¬ (agent.isSome = true ∧ agentKey ∈ names) := by
  have sub := List.dedup_sublist names
  unfold overwritten
  rw [Nat.add_eq_zero_iff]
  apply and_congr
  · rw [← List.dedup_eq_self]
    constructor
    · intro h
      exact sub.eq_of_length_le (by omega)
    · intro h
      rw [h, Nat.sub_self]
  · split <;> simp_all

theorem mem_ownNames_made {name : String} :
    name ∈ ownNames agent (made limit recorded extra agent) ↔
      name ∈ writtenNames limit recorded extra ∧ ¬ (agent.isSome = true ∧ name = agentKey) := by
  rw [← mem_names_own]
  cases agent with
  | none => simp [ownNames, made, withAgent]
  | some agent =>
    have distinct : (made limit recorded extra (some agent)).attributes.names.Nodup :=
      Fields.distinct _
    show name ∈ (made limit recorded extra (some agent)).attributes.names.erase agentKey ↔ _
    rw [distinct.mem_erase_iff]
    show name ≠ agentKey ∧ name ∈ ((own limit recorded extra).insert agentKey _).names ↔ _
    rw [Fields.mem_names_insert, Option.isSome_some]
    tauto

theorem length_ownNames_made (limit : Nat) (recorded : RecordedAttributes) (extra : Fields Value)
    (agent : Option Agent) : (ownNames agent (made limit recorded extra agent)).length +
        overwritten agent (writtenNames limit recorded extra) =
      (writtenNames limit recorded extra).length := by
  have sub := (List.dedup_sublist (writtenNames limit recorded extra)).length_le
  have size := size_own limit recorded extra
  unfold overwritten
  cases agent with
  | none =>
    have : (ownNames none (made limit recorded extra none)).length =
      (own limit recorded extra).size := Fields.length_names _
    rw [if_neg nofun]
    omega
  | some agent =>
    have : (ownNames (some agent) (made limit recorded extra (some agent))).length +
        (if agentKey ∈ (own limit recorded extra).names then 1 else 0) =
      (own limit recorded extra).size := Fields.length_erase_names_insert ..
    simp only [mem_names_own] at this
    simp only [Option.isSome_some, true_and]
    omega

/-- The accounts of a map: which attributes are kept, which are counted, and which are neither. -/
structure Accounts (limit : Nat) (recorded : RecordedAttributes) (extra : Fields Value)
    (agent : Option Agent) (m : AttributeMap) : Prop where
  kept : ∀ name, name ∈ ownNames agent m ↔
    name ∈ writtenNames limit recorded extra ∧ ¬ (agent.isSome = true ∧ name = agentKey)
  dropped : m.dropped = droppedOf limit recorded extra
  balance : (ownNames agent m).length + m.dropped +
    overwritten agent (writtenNames limit recorded extra) =
      (inputs recorded extra).length + recorded.dropped
  conserved : (ownNames agent m).length + m.dropped =
      (inputs recorded extra).length + recorded.dropped ↔
    (writtenNames limit recorded extra).Nodup ∧
      ¬ (agent.isSome = true ∧ agentKey ∈ writtenNames limit recorded extra)

/-- No attribute is lost from the accounts but those that are written over. -/
theorem accounts_of_build :
    Ends (fun cause => cause = .defect .badValue ∨ cause = .defect .halfCharacter)
      (Sendable limit recorded extra) (Accounts limit recorded extra agent)
      (build limit recorded extra agent) := by
  refine (ends_build (fun _ _ _ => .inl rfl) (fun _ _ _ => .inr rfl) (fun _ _ _ => .inl rfl)
    fun _ => .inl rfl).imp Iff.rfl ?_
  rintro _ rfl
  have own := length_ownNames_made limit recorded extra agent
  have written : (writtenNames limit recorded extra).length =
    (writtenOf limit (inputs recorded extra)).length := List.length_map ..
  have dropped : (made limit recorded extra agent).dropped = (inputs recorded extra).length -
      (writtenOf limit (inputs recorded extra)).length + recorded.dropped := by
    cases agent <;> rfl
  refine ⟨fun _ => mem_ownNames_made, dropped, ?_, ?_⟩
  · omega
  · rw [← overwritten_eq_zero_iff]
    omega

namespace Sample

def methods : RecordedAttributes :=
  ⟨some (.ofList [("http.method", .text "GET"), ("/http/method", .text "PUT")]), 0⟩

end Sample

/-- The first of two attributes with one name is neither kept nor counted. -/
theorem not_conserved : ∃ m, build 32 Sample.methods .empty none = .ok m ∧
    m.attributes.entries = [("/http/method", .text ⟨"PUT", 0⟩)] ∧
    (ownNames none m).length + m.dropped ≠
      (inputs Sample.methods .empty).length + Sample.methods.dropped :=
  ⟨_, rfl, by decide +kernel, by decide +kernel⟩

/-! ### Which attributes are kept -/

/-- An attribute that may be sent: its value is something, and its name is not too long. -/
def Admissible (source : String × Value) : Prop :=
  source.2 ≠ .null ∧ (sentKey source.1).utf8ByteSize ≤ 128

theorem isSome_admissible?_iff {source : String × Value} :
    (admissible? source).isSome = true ↔ Admissible source := by
  rw [Option.isSome_iff_exists]
  simp only [admissible?_eq_some, Prod.exists]
  constructor
  · rintro ⟨_, value, rfl, form, short⟩
    refine ⟨fun null => ?_, short⟩
    rw [AttributeValue.ofValue?_eq_none_iff.2 null] at form
    cases form
  · rintro ⟨something, short⟩
    obtain ⟨value, form⟩ :=
      Option.ne_none_iff_exists'.1 (mt AttributeValue.ofValue?_eq_none_iff.1 something)
    exact ⟨_, value, rfl, form, short⟩

instance : DecidablePred Admissible := fun _ => decidable_of_iff _ isSome_admissible?_iff

/-- The attribute that is sent for a source. -/
structure StandsFor (source : String × Value) (a : String × AttributeValue) : Prop where
  key : a.1 = sentKey source.1
  form : AttributeValue.form source.2 = .ok (some a.2)

def admissibles (sources : List (String × Value)) : List (String × Value) :=
  sources.filter fun source => decide (Admissible source)

theorem admissibles_eq_filter (sources : List (String × Value)) :
    admissibles sources = sources.filter fun source => (admissible? source).isSome :=
  List.filter_congr fun source _ => by
    rw [Bool.eq_iff_iff, decide_eq_true_iff, isSome_admissible?_iff]

theorem forall₂_admissible? (sources : List (String × Value)) :
    List.Forall₂ (fun source a => admissible? source = some a) (admissibles sources)
      (sources.filterMap admissible?) := by
  rw [admissibles_eq_filter]
  induction sources with
  | nil => exact .nil
  | cons source sources ih =>
    rw [List.filter_cons, List.filterMap_cons]
    cases form : admissible? source with
    | none => exact ih
    | some a => exact .cons form ih

theorem forall₂_standsFor {sources : List (String × Value)}
    (forms : ∀ e ∈ sources, AttributeValue.HasForm e.2) :
    List.Forall₂ StandsFor (admissibles sources) (sources.filterMap admissible?) := by
  have all : ∀ e ∈ admissibles sources, AttributeValue.HasForm e.2 :=
    fun e he => forms e (List.mem_of_mem_filter he)
  refine ((List.forall₂_and_left _ _).2 ⟨all, forall₂_admissible? sources⟩).imp ?_
  rintro source a ⟨hasForm, sent⟩
  obtain ⟨key, value, -⟩ := admissible?_eq_some.1 sent
  exact ⟨key, by rw [AttributeValue.form_of_hasForm hasForm, value]⟩

/-- The names that attributes take, whether they are sent or not. -/
def takenNames (sources : List (String × Value)) : List String :=
  sources.map fun source => sentKey source.1

theorem mem_takenNames {source : String × Value} {sources : List (String × Value)}
    (h : source ∈ sources) : sentKey source.1 ∈ takenNames sources :=
  List.mem_map_of_mem h

theorem map_fst_filterMap_admissible? (sources : List (String × Value)) :
    (sources.filterMap admissible?).map Prod.fst = takenNames (admissibles sources) := by
  have same := (forall₂_admissible? sources).imp fun _ _ h => (admissible?_eq_some.1 h).1
  rw [← List.forall₂_eq_eq_eq, takenNames, List.forall₂_map_left_iff, List.forall₂_map_right_iff]
  exact same.flip

/-- Of attributes that take different names the first that may be sent are kept. Those that may not
take no room, and an extra one is kept only where all others that may be sent are. -/
structure Selects (limit : Nat) (recorded : RecordedAttributes) (extra : Fields Value)
    (agent : Option Agent) (m : AttributeMap) : Prop where
  entries : ∃ kept, List.Forall₂ StandsFor ((admissibles (inputs recorded extra)).take limit) kept ∧
    m.attributes.entries = kept ++ (agent.map fun a => (agentKey, .text ⟨a.text, 0⟩)).toList
  dropped : m.dropped = (inputs recorded extra).length -
    min limit (admissibles (inputs recorded extra)).length + recorded.dropped
  extras : ∀ source ∈ recorded.sources, Admissible source → sentKey source.1 ∉ m.attributes.names →
    ∀ label ∈ extra.entries, sentKey label.1 ∉ m.attributes.names

section

variable (distinct : (takenNames (inputs recorded extra)).Nodup)

include distinct

theorem nodup_takenNames_admissibles : (takenNames (admissibles (inputs recorded extra))).Nodup :=
  distinct.sublist (List.filter_sublist.map _)

theorem writtenOf_inputs : writtenOf limit (inputs recorded extra) =
    ((inputs recorded extra).filterMap admissible?).take limit := by
  apply written_of_nodup
  rw [map_fst_filterMap_admissible?]
  exact nodup_takenNames_admissibles distinct

theorem writtenNames_eq : writtenNames limit recorded extra =
    takenNames ((admissibles (inputs recorded extra)).take limit) := by
  unfold writtenNames takenNames
  rw [writtenOf_inputs distinct, List.map_take, map_fst_filterMap_admissible?, List.map_take]
  rfl

theorem droppedOf_eq (limit : Nat) : droppedOf limit recorded extra =
    (inputs recorded extra).length - min limit (admissibles (inputs recorded extra)).length +
      recorded.dropped := by
  have written : (writtenOf limit (inputs recorded extra)).length =
      min limit (admissibles (inputs recorded extra)).length := by
    rw [writtenOf_inputs distinct, List.length_take, (forall₂_admissible? _).length_eq]
  unfold droppedOf
  omega

theorem entries_own :
    (own limit recorded extra).entries = writtenOf limit (inputs recorded extra) := by
  apply Fields.entries_ofList
  show (writtenNames limit recorded extra).Nodup
  rw [writtenNames_eq distinct]
  exact (nodup_takenNames_admissibles distinct).sublist ((List.take_sublist ..).map _)

theorem mem_names_own_iff {name : String} : name ∈ (own limit recorded extra).names ↔
    name ∈ takenNames ((admissibles (inputs recorded extra)).take limit) := by
  rw [mem_names_own, writtenNames_eq distinct]

theorem mem_takenNames_of_mem_own {name : String} (h : name ∈ (own limit recorded extra).names) :
    name ∈ takenNames (inputs recorded extra) := by
  rw [mem_names_own_iff distinct] at h
  obtain ⟨source, hs, rfl⟩ := List.mem_map.1 h
  exact mem_takenNames (List.mem_of_mem_filter (List.mem_of_mem_take hs))

theorem extra_not_mem_own {source label : String × Value} (hs : source ∈ recorded.sources)
    (sent : Admissible source) (absent : sentKey source.1 ∉ (own limit recorded extra).names)
    (hl : label ∈ extra.entries) : sentKey label.1 ∉ (own limit recorded extra).names := by
  rw [mem_names_own_iff distinct] at absent ⊢
  have split : admissibles (inputs recorded extra) =
    admissibles recorded.sources ++ admissibles extra.entries := List.filter_append ..
  rw [split, List.take_append] at absent ⊢
  by_cases room : (admissibles recorded.sources).length ≤ limit
  · rw [List.take_of_length_le room] at absent
    have : source ∈ admissibles recorded.sources := List.mem_filter.2 ⟨hs, decide_eq_true sent⟩
    exact absurd (mem_takenNames (List.mem_append_left _ this)) absent
  · -- all that is kept was recorded, under names that no extra attribute takes
    rw [Nat.sub_eq_zero_of_le (by omega), List.take_zero, List.append_nil]
    intro taken
    obtain ⟨other, ho, same⟩ := List.mem_map.1 taken
    have own := mem_takenNames (List.mem_of_mem_filter (List.mem_of_mem_take ho))
    unfold takenNames inputs at distinct
    rw [List.map_append] at distinct
    refine List.disjoint_of_nodup_append distinct own ?_
    rw [same]
    exact mem_takenNames hl

end

namespace Sample

def cart : RecordedAttributes :=
  ⟨some (.ofList [("user", .null), ("http.method", .text "GET"), ("retry", .bool true)]), 1⟩

def zone : Fields Value := .ofList [("g.co/r/gce_instance/zone", .text "a")]

end Sample

namespace Sample

/-- Nothing is recorded, and more is dropped than 32 bits can count. -/
def crowd : RecordedAttributes := ⟨some .empty, 2147483648⟩

/-- The name of a file, which is no text. -/
def path : RecordedAttributes :=
  ⟨some (.ofList [("path", .ofGlyphs ⟨[.half 0xDCFF]⟩)]), 0⟩

end Sample

end AttributeMap

end CloudTelemetry
