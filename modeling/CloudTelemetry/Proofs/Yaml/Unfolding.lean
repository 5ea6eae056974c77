import CloudTelemetry.Proofs.Config.References
import CloudTelemetry.Yaml.Data
import Mathlib.Data.Finset.Card

/-!
# Documents that come to an end

What is part of itself is unfolded until it comes round again, and in which value it does depends on
where the unfolding began and on how it is seen. A node of which nothing comes round is within some
depth (`Settles`), and is unfolded to one value from everywhere (`unfold_of_settles`). There is
enough fuel to tell (`settles_of_unfold`).
-/

namespace CloudTelemetry.Yaml.Data

variable {data : Data} {n fuel : Nat} {sight : Sight} {trail : List Spot} {id : NodeId}

def parts (data : Data) (id : NodeId) : List NodeId :=
  match data.getD id none with
  | some (.list items) => items
  | some (.map entries) => entries.map Prod.snd
  | some (.pairs entries) => entries.flatMap fun entry => [entry.1, entry.2]
  | _ => []

/-- Every way down from the node ends within a depth. -/
def Settles (data : Data) : Nat → NodeId → Prop
  | 0, _ => False
  | depth + 1, id => ∀ part ∈ data.parts id, data.Settles depth part

/-- The value of a node down to a depth. -/
def plain (data : Data) : Nat → NodeId → Value
  | 0, _ => .null
  | depth + 1, id =>
    match data.getD id none with
    | none => .null
    | some (.scalar key) => key.value
    | some (.set items) => .set (items.map Key.value)
    | some (.list items) => .list (items.map (data.plain depth))
    | some (.map entries) => .map (entries.map fun entry => (entry.1.value, data.plain depth entry.2))
    | some (.pairs entries) =>
      .list (entries.map fun entry => .tuple [data.plain depth entry.1, data.plain depth entry.2])

/-! ### One step -/

theorem unfold_list {items : List NodeId} (found : data.getD id none = some (.list items)) :
    data.unfold (fuel + 1) sight trail id =
      if trail.contains (id, 0) then .enclosing .list
      else .list (items.map (data.unfold fuel sight ((id, 0) :: trail))) := by
  rw [unfold, found]

theorem unfold_map {entries : List (Key × NodeId)}
    (found : data.getD id none = some (.map entries)) :
    data.unfold (fuel + 1) sight trail id =
      if trail.contains (id, 0) then .enclosing .map
      else .map (entries.map fun entry =>
        (entry.1.value, data.unfold fuel sight ((id, 0) :: trail) entry.2)) := by
  rw [unfold, found]

def inside (sight : Sight) (tuple here : Spot) (trail : List Spot) : List Spot :=
  match sight with
  | .copied => [tuple]
  | .direct => tuple :: here :: trail

theorem unfold_pairs {entries : List Entry} (found : data.getD id none = some (.pairs entries)) :
    data.unfold (fuel + 1) sight trail id =
      if trail.contains (id, 0) then .enclosing .list
      else .list (entries.zipIdx.map fun entry =>
        if trail.contains (id, entry.2 + 1) then .enclosing .tuple
        else .tuple [
          data.unfold fuel .direct (inside sight (id, entry.2 + 1) (id, 0) trail) entry.1.1,
          data.unfold fuel .direct (inside sight (id, entry.2 + 1) (id, 0) trail) entry.1.2]) := by
  rw [unfold, found]
  rfl

/-! ### One value -/

theorem Settles.succ (h : data.Settles n id) : data.Settles (n + 1) id := by
  induction n generalizing id with
  | zero => exact h.elim
  | succ n ih => exact fun part hp => ih (h part hp)

theorem mem_parts_fst {entries : List Entry} {entry : Entry}
    (found : data.getD id none = some (.pairs entries)) (h : entry ∈ entries) :
    entry.1 ∈ data.parts id := by
  rw [parts, found]
  exact List.mem_flatMap.2 ⟨entry, h, List.mem_cons_self⟩

theorem mem_parts_snd {entries : List Entry} {entry : Entry}
    (found : data.getD id none = some (.pairs entries)) (h : entry ∈ entries) :
    entry.2 ∈ data.parts id := by
  rw [parts, found]
  exact List.mem_flatMap.2 ⟨entry, h, List.mem_cons_of_mem _ List.mem_cons_self⟩

theorem plain_succ (h : data.Settles n id) : data.plain (n + 1) id = data.plain n id := by
  induction n generalizing id with
  | zero => exact h.elim
  | succ n ih =>
    rw [plain, plain]
    cases found : data.getD id none with
    | none => rfl
    | some datum =>
      cases datum with
      | scalar | set => rfl
      | list items =>
        have parts : ∀ item ∈ items, data.Settles n item := fun item hi =>
          h item (by rwa [Data.parts, found])
        exact congrArg Value.list (List.map_congr_left fun item hi => ih (parts item hi))
      | map entries =>
        have parts : ∀ entry ∈ entries, data.Settles n entry.2 := fun entry he =>
          h entry.2 (by rw [Data.parts, found]; exact List.mem_map_of_mem he)
        refine congrArg Value.map (List.map_congr_left fun entry he => ?_)
        rw [ih (parts entry he)]
      | pairs entries =>
        refine congrArg Value.list (List.map_congr_left fun entry he => ?_)
        rw [ih (h _ (mem_parts_fst found he)), ih (h _ (mem_parts_snd found he))]

/-- A node that settles is unfolded to one value, wherever it is come upon: nothing inside of it is
part of the trail. -/
theorem unfold_of_settles (h : data.Settles n id) (enough : n ≤ fuel)
    (apart : ∀ spot ∈ trail, ¬ data.Settles n spot.1) :
    data.unfold fuel sight trail id = data.plain n id := by
  induction n generalizing fuel sight trail id with
  | zero => exact h.elim
  | succ n ih =>
    by_cases sooner : data.Settles n id
    · rw [plain_succ sooner]
      exact ih sooner (by omega) fun spot hs settles => apart spot hs settles.succ
    · obtain ⟨fuel, rfl⟩ : ∃ less, fuel = less + 1 := ⟨fuel - 1, by omega⟩
      have less : n ≤ fuel := Nat.le_of_succ_le_succ enough
      have fresh (k : Nat) : ¬ trail.contains (id, k) = true := by
        rw [List.contains_iff_mem]
        exact fun seen => apart _ seen h
      -- the node settles later than its parts, so that it is not met again inside of them
      have here (k : Nat) : ¬ data.Settles n ((id, k) : Spot).1 := sooner
      have earlier : ∀ spot ∈ trail, ¬ data.Settles n spot.1 :=
        fun spot hs settles => apart spot hs settles.succ
      have below : ∀ spot ∈ ((id, 0) :: trail : List Spot), ¬ data.Settles n spot.1 :=
        List.forall_mem_cons.2 ⟨here 0, earlier⟩
      cases found : data.getD id none with
      | none => rw [unfold, plain, found]
      | some datum =>
        cases datum with
        | scalar | set => rw [unfold, plain, found]
        | list items =>
          rw [unfold_list found, if_neg (fresh 0), plain, found]
          refine congrArg Value.list (List.map_congr_left fun item hi => ?_)
          exact ih (h item (by rwa [parts, found])) less below
        | map entries =>
          rw [unfold_map found, if_neg (fresh 0), plain, found]
          refine congrArg Value.map (List.map_congr_left fun entry he => ?_)
          have settles : data.Settles n entry.2 :=
            h entry.2 (by rw [parts, found]; exact List.mem_map_of_mem he)
          rw [ih settles less below]
        | pairs entries =>
          have apart' (k : Nat) :
              ∀ spot ∈ inside sight (id, k) (id, 0) trail, ¬ data.Settles n spot.1 := by
            cases sight with
            | copied => exact List.forall_mem_cons.2 ⟨here k, nofun⟩
            | direct => exact List.forall_mem_cons.2 ⟨here k, below⟩
          have tuples : entries.map (fun entry =>
              Value.tuple [data.plain n entry.1, data.plain n entry.2]) =
              entries.zipIdx.map fun entry =>
                .tuple [data.plain n entry.1.1, data.plain n entry.1.2] := by
            conv_lhs => rw [← List.zipIdx_map_fst 0 entries, List.map_map]
            rfl
          rw [unfold_pairs found, if_neg (fresh 0), plain, found]
          dsimp only
          rw [tuples]
          refine congrArg Value.list (List.map_congr_left fun entry he => ?_)
          have member := List.fst_mem_of_mem_zipIdx he
          rw [if_neg (fresh _), ih (h _ (mem_parts_fst found member)) less (apart' _),
            ih (h _ (mem_parts_snd found member)) less (apart' _)]

/-! ### Enough fuel -/

/-- How many nodes are not on the trail. -/
def free (data : Data) (trail : List Spot) : Nat :=
  ((Finset.range data.size).filter fun i => (i, 0) ∉ trail).card

/-- How much fuel does for what may be seen. -/
def need (data : Data) : Sight → List Spot → Nat
  | .direct, trail => data.free trail + 1
  | .copied, trail => data.free trail + data.size + 2

theorem free_le (data : Data) (trail : List Spot) : data.free trail ≤ data.size :=
  (Finset.card_filter_le _ _).trans (Finset.card_range _).le

theorem free_cons_le (data : Data) (spot : Spot) (trail : List Spot) :
    data.free (spot :: trail) ≤ data.free trail := by
  refine Finset.card_le_card (Finset.monotone_filter_right _ fun i _ hi => ?_)
  exact fun seen => hi (List.mem_cons_of_mem _ seen)

theorem lt_size {datum : Datum} (found : data.getD id none = some datum) : id < data.size := by
  by_contra outside
  rw [Array.getD_eq_getD_getElem?, Array.getElem?_eq_none (Nat.le_of_not_lt outside)] at found
  cases found

theorem free_cons_lt (inside : id < data.size) (fresh : (id, 0) ∉ trail) :
    data.free ((id, 0) :: trail) < data.free trail := by
  refine Finset.card_lt_card ⟨fun i hi => ?_, fun all => ?_⟩
  · rw [Finset.mem_filter] at hi ⊢
    exact ⟨hi.1, fun seen => hi.2 (List.mem_cons_of_mem _ seen)⟩
  · have here := all (Finset.mem_filter.2 ⟨Finset.mem_range.2 inside, fresh⟩)
    exact (Finset.mem_filter.1 here).2 List.mem_cons_self

theorem need_cons (inside : id < data.size) (fresh : (id, 0) ∉ trail)
    (enough : data.need sight trail ≤ fuel + 1) : data.need sight ((id, 0) :: trail) ≤ fuel := by
  have less := free_cons_lt inside fresh
  cases sight <;> simp only [need] at enough ⊢ <;> omega

theorem need_inside (bound : id < data.size) (fresh : (id, 0) ∉ trail) (k : Nat)
    (enough : data.need sight trail ≤ fuel + 1) :
    data.need .direct (inside sight (id, k) (id, 0) trail) ≤ fuel := by
  cases sight with
  | copied =>
    have most := data.free_le [(id, k)]
    simp only [need, inside] at enough ⊢
    omega
  | direct =>
    have less := free_cons_lt bound fresh
    have most := data.free_cons_le (id, k) ((id, 0) :: trail)
    simp only [need, inside] at enough ⊢
    omega

/-- Where an unfolding with enough fuel is not cut short, the node settles. -/
theorem settles_of_unfold (ends : (data.unfold fuel sight trail id).isEndless = false)
    (enough : data.need sight trail ≤ fuel) : data.Settles fuel id := by
  induction fuel generalizing sight trail id with
  | zero => cases sight <;> simp [need] at enough
  | succ fuel ih =>
    intro part hp
    rw [parts] at hp
    cases found : data.getD id none with
    | none => rw [found] at hp; cases hp
    | some datum =>
      rw [found] at hp
      have bound := lt_size found
      cases datum with
      | scalar | set => cases hp
      | list items =>
        rw [unfold_list found] at ends
        split at ends
        · cases ends
        · rename_i fresh
          rw [Value.isEndless, Value.anyEndless_eq_any, List.any_map, List.any_eq_false] at ends
          rw [List.contains_iff_mem] at fresh
          exact ih (Bool.not_eq_true _ ▸ ends part hp) (need_cons bound fresh enough)
      | map entries =>
        rw [unfold_map found] at ends
        split at ends
        · cases ends
        · rename_i fresh
          rw [Value.isEndless, Value.anyEntryEndless_eq_any, List.any_map,
            List.any_eq_false] at ends
          obtain ⟨entry, he, rfl⟩ := List.mem_map.1 hp
          rw [List.contains_iff_mem] at fresh
          exact ih (Bool.not_eq_true _ ▸ ends entry he) (need_cons bound fresh enough)
      | pairs entries =>
        rw [unfold_pairs found] at ends
        split at ends
        · cases ends
        · rename_i fresh
          rw [Value.isEndless, Value.anyEndless_eq_any, List.any_map, List.any_eq_false] at ends
          rw [List.contains_iff_mem] at fresh
          obtain ⟨entry, he, hp⟩ := List.mem_flatMap.1 hp
          obtain ⟨k, hk⟩ := List.mem_iff_getElem?.1 he
          have tuple := ends (entry, k) (List.mk_mem_zipIdx_iff_getElem?.2 hk)
          have less := need_inside bound fresh (k + 1) enough
          rw [Function.comp_apply, Bool.not_eq_true] at tuple
          split at tuple
          · cases tuple
          · rw [Value.isEndless, Value.anyEndless_eq_any, List.any_cons, List.any_cons,
              Bool.or_eq_false_iff, Bool.or_eq_false_iff] at tuple
            obtain ⟨key, item, -⟩ := tuple
            rcases List.mem_cons.1 hp with rfl | hp
            · exact ih key less
            · obtain rfl := List.mem_singleton.1 hp
              exact ih item less

end CloudTelemetry.Yaml.Data
