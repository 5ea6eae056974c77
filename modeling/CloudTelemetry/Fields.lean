/-!
# Fields

`Fields α`: values under distinct names, in the order in which the names first came. Attributes,
labels and attribute maps are fields. `insert` keeps the place of a name that is present and puts
a new one last; `get?` reads back what was written (`get?_insert_self`).
-/

namespace CloudTelemetry

/-- Values under distinct names, in order of first arrival. -/
structure Fields (α : Type) where
  entries : List (String × α)
  distinct : (entries.map Prod.fst).Nodup

namespace Fields

variable {α β : Type}

/-! ### Entries -/

/-- Writes one entry: in place where the name is present, else at the end. -/
def put (name : String) (value : α) : List (String × α) → List (String × α)
  | [] => [(name, value)]
  | (n, v) :: rest => if n = name then (n, value) :: rest else (n, v) :: put name value rest

theorem map_fst_put_of_mem {name : String} {value : α} :
    ∀ {entries : List (String × α)}, name ∈ entries.map Prod.fst →
      (put name value entries).map Prod.fst = entries.map Prod.fst
  | [], h => by simp at h
  | (n, v) :: rest, h => by
    by_cases hn : n = name
    · simp [put, hn]
    · have : name ∈ rest.map Prod.fst := by
        rcases List.mem_cons.mp h with rfl | h
        · exact absurd rfl hn
        · exact h
      simp [put, hn, map_fst_put_of_mem this]

theorem put_of_not_mem {name : String} {value : α} {entries : List (String × α)}
    (h : name ∉ entries.map Prod.fst) : put name value entries = entries ++ [(name, value)] := by
  induction entries with
  | nil => rfl
  | cons entry rest ih =>
    rw [List.map_cons, List.mem_cons, not_or] at h
    rw [put, if_neg (Ne.symm h.1), ih h.2, List.cons_append]

theorem nodup_map_fst_put {name : String} {value : α} {entries : List (String × α)}
    (h : (entries.map Prod.fst).Nodup) : ((put name value entries).map Prod.fst).Nodup := by
  by_cases hm : name ∈ entries.map Prod.fst
  · rwa [map_fst_put_of_mem hm]
  · rw [put_of_not_mem hm, List.map_append, List.nodup_append]
    refine ⟨h, by simp, ?_⟩
    intro a ha b hb hab
    simp only [List.map_cons, List.map_nil, List.mem_singleton] at hb
    subst hb hab
    exact hm ha

theorem lookup_put_self (name : String) (value : α) :
    ∀ entries : List (String × α), (put name value entries).lookup name = some value
  | [] => by simp [put]
  | (n, v) :: rest => by
    by_cases hn : n = name
    · simp [put, hn]
    · have : (name == n) = false := by simp [Ne.symm hn]
      simp [put, hn, List.lookup_cons, this, lookup_put_self name value rest]

theorem eq_or_mem_of_mem_put {name : String} {value : α} {entries : List (String × α)}
    {a : String × α} (h : a ∈ put name value entries) : a = (name, value) ∨ a ∈ entries := by
  induction entries with
  | nil => exact .inl (List.mem_singleton.1 h)
  | cons entry rest ih =>
    by_cases hn : entry.1 = name
    · simp only [put, hn, if_true] at h
      rcases List.mem_cons.1 h with h | h
      · exact .inl h
      · exact .inr (List.mem_cons_of_mem _ h)
    · simp only [put, hn, if_false] at h
      rcases List.mem_cons.1 h with rfl | h
      · exact .inr List.mem_cons_self
      · exact (ih h).imp_right (List.mem_cons_of_mem _)

theorem length_put_le (name : String) (value : α) (entries : List (String × α)) :
    (put name value entries).length ≤ entries.length + 1 := by
  induction entries with
  | nil => exact Nat.le_refl _
  | cons entry rest ih =>
    by_cases hn : entry.1 = name
    · simp [put, hn]
    · simp [put, hn, ih]

/-! ### Operations -/

def empty : Fields α := ⟨[], by simp⟩

instance : Inhabited (Fields α) := ⟨empty⟩

def get? (fields : Fields α) (name : String) : Option α :=
  fields.entries.lookup name

def insert (fields : Fields α) (name : String) (value : α) : Fields α :=
  ⟨put name value fields.entries, nodup_map_fst_put fields.distinct⟩

/-- Of two entries with one name the later value stands, in the place of the earlier. -/
def ofList (entries : List (String × α)) : Fields α :=
  entries.foldl (fun fields entry => fields.insert entry.1 entry.2) empty

/-- Keeps the value of a name that is present. -/
def setDefault (fields : Fields α) (name : String) (value : α) : Fields α :=
  if (fields.get? name).isSome then fields else fields.insert name value

def size (fields : Fields α) : Nat := fields.entries.length

def names (fields : Fields α) : List String := fields.entries.map Prod.fst

def isEmpty (fields : Fields α) : Bool := fields.entries.isEmpty

def map (f : α → β) (fields : Fields α) : Fields β :=
  ⟨fields.entries.map fun entry => (entry.1, f entry.2), by
    simpa [List.map_map, Function.comp_def] using fields.distinct⟩

theorem size_insert_le (fields : Fields α) (name : String) (value : α) :
    (fields.insert name value).size ≤ fields.size + 1 :=
  length_put_le name value fields.entries

theorem eq_or_mem_of_mem_insert {fields : Fields α} {name : String} {value : α} {a : String × α}
    (h : a ∈ (fields.insert name value).entries) : a = (name, value) ∨ a ∈ fields.entries :=
  eq_or_mem_of_mem_put h

theorem mem_of_mem_ofList {entries : List (String × α)} {a : String × α}
    (h : a ∈ (ofList entries).entries) : a ∈ entries := by
  have all : ∀ (part : List (String × α)) (fields : Fields α),
      a ∈ (part.foldl (fun fields entry => fields.insert entry.1 entry.2) fields).entries →
      a ∈ part ∨ a ∈ fields.entries := by
    intro part
    induction part with
    | nil => exact fun _ h => .inr h
    | cons entry part ih =>
      intro fields h
      rcases ih _ h with h | h
      · exact .inl (List.mem_cons_of_mem _ h)
      · rcases eq_or_mem_of_mem_insert h with rfl | h
        · exact .inl List.mem_cons_self
        · exact .inr h
  exact (all entries empty h).resolve_right nofun

theorem get?_isSome_iff (fields : Fields α) (name : String) :
    (fields.get? name).isSome = true ↔ name ∈ fields.names := by
  unfold get? names
  rw [List.lookup_isSome_iff, List.mem_map]
  exact exists_congr fun entry => and_congr_right fun _ => beq_iff_eq.trans eq_comm

theorem entries_setDefault (fields : Fields α) (name : String) (value : α) :
    (fields.setDefault name value).entries =
      fields.entries ++ if name ∈ fields.names then [] else [(name, value)] := by
  unfold setDefault
  by_cases taken : name ∈ fields.names
  · rw [if_pos ((fields.get?_isSome_iff name).2 taken), if_pos taken, List.append_nil]
  · rw [if_neg (mt (fields.get?_isSome_iff name).1 taken), if_neg taken]
    exact put_of_not_mem taken

theorem mem_names_setDefault_of_ne {fields : Fields α} {name other : String} (h : other ≠ name)
    (value : α) : other ∈ (fields.setDefault name value).names ↔ other ∈ fields.names := by
  unfold names
  rw [entries_setDefault]
  split <;> simp [h]

theorem get?_insert_self (fields : Fields α) (name : String) (value : α) :
    (fields.insert name value).get? name = some value :=
  lookup_put_self name value fields.entries

end Fields

end CloudTelemetry
