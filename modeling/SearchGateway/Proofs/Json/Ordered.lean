import SearchGateway.Json.Basic
import SearchGateway.Proofs.Json.Numeral
import SearchGateway.Proofs.Keyed

/-!
# Nesting, numbers and the order of keys

A document that is read has the fields of its objects sorted. `ordered v` is the value with sorted
fields; it nests no deeper than the value and has no other numbers.
-/

namespace SearchGateway.Json

mutual

/-- The levels of arrays and objects inside each other. -/
def nesting : Json → Nat
  | .array items => nestingItems items + 1
  | .object fields => nestingFields fields + 1
  | _ => 0

/-- The levels inside the deepest item. -/
def nestingItems : List Json → Nat
  | [] => 0
  | v :: vs => max (nesting v) (nestingItems vs)

/-- The levels inside the deepest field. -/
def nestingFields : List (String × Json) → Nat
  | [] => 0
  | (_, v) :: fs => max (nesting v) (nestingFields fs)

end

mutual

/-- Every number is an integer that is kept exactly. -/
def IsExact : Json → Prop
  | .int n => IsInt64 n
  | .float _ => False
  | .array items => ExactItems items
  | .object fields => ExactFields fields
  | _ => True

/-- Every number of the items is an integer that is kept exactly. -/
def ExactItems : List Json → Prop
  | [] => True
  | v :: vs => IsExact v ∧ ExactItems vs

/-- Every number of the fields is an integer that is kept exactly. -/
def ExactFields : List (String × Json) → Prop
  | [] => True
  | (_, v) :: fs => IsExact v ∧ ExactFields fs

end

mutual

/-- The value with the fields of every object sorted by key, of equal keys the last one. -/
def ordered : Json → Json
  | .array items => .array (orderedItems items)
  | .object fields => .ofKeyed (.ofList (orderedFields fields))
  | leaf => leaf

/-- The items, each of them with sorted fields. -/
def orderedItems : List Json → List Json
  | [] => []
  | v :: vs => ordered v :: orderedItems vs

/-- The fields in the order they have, each value with sorted fields. -/
def orderedFields : List (String × Json) → List (String × Json)
  | [] => []
  | (k, v) :: fs => (k, ordered v) :: orderedFields fs

end

mutual

/-- The fields of every object are sorted by key, each key once. -/
def IsOrdered : Json → Prop
  | .array items => OrderedItems items
  | .object fields => (fields.Pairwise fun a b => a.1 < b.1) ∧ OrderedFields fields
  | _ => True

/-- The fields in every item are sorted by key. -/
def OrderedItems : List Json → Prop
  | [] => True
  | v :: vs => IsOrdered v ∧ OrderedItems vs

/-- The fields in every value are sorted by key. -/
def OrderedFields : List (String × Json) → Prop
  | [] => True
  | (_, v) :: fs => IsOrdered v ∧ OrderedFields fs

end

/-! ## Sorted values -/

mutual

/-- Sorting the fields changes nothing where they are sorted. -/
theorem ordered_of_isOrdered {v : Json} (h : v.IsOrdered) : v.ordered = v := by
  match v with
  | .null | .bool _ | .int _ | .float _ | .string _ => rfl
  | .array items => rw [ordered, orderedItems_of_orderedItems h]
  | .object fields =>
      rw [ordered, orderedFields_of_orderedFields h.2, ofKeyed]
      exact congrArg (fun m => Json.object m.entries) (Keyed.ofList_entries ⟨fields, h.1⟩)

theorem orderedItems_of_orderedItems {vs : List Json} (h : OrderedItems vs) :
    orderedItems vs = vs := by
  match vs with
  | [] => rfl
  | v :: vs => rw [orderedItems, ordered_of_isOrdered h.1, orderedItems_of_orderedItems h.2]

theorem orderedFields_of_orderedFields {fs : List (String × Json)} (h : OrderedFields fs) :
    orderedFields fs = fs := by
  match fs with
  | [] => rfl
  | (k, v) :: fs =>
      rw [orderedFields, ordered_of_isOrdered h.1, orderedFields_of_orderedFields h.2]

end

/-! ## Items and fields one by one -/

variable {vs : List Json} {fs : List (String × Json)} {v : Json}

theorem nestingItems_le_iff {n : Nat} : nestingItems vs ≤ n ↔ ∀ v ∈ vs, v.nesting ≤ n := by
  induction vs with
  | nil => simp [nestingItems]
  | cons v vs ih => rw [nestingItems, Nat.max_le, ih, List.forall_mem_cons]

theorem exactItems_iff : ExactItems vs ↔ ∀ v ∈ vs, v.IsExact := by
  induction vs with
  | nil => simp [ExactItems]
  | cons v vs ih => rw [ExactItems, ih, List.forall_mem_cons]

theorem orderedItems_iff : OrderedItems vs ↔ ∀ v ∈ vs, v.IsOrdered := by
  induction vs with
  | nil => simp [OrderedItems]
  | cons v vs ih => rw [OrderedItems, ih, List.forall_mem_cons]

theorem nestingFields_le_iff {n : Nat} :
    nestingFields fs ≤ n ↔ ∀ e ∈ fs, e.2.nesting ≤ n := by
  induction fs with
  | nil => simp [nestingFields]
  | cons e fs ih => rw [nestingFields, Nat.max_le, ih, List.forall_mem_cons]

theorem exactFields_iff : ExactFields fs ↔ ∀ e ∈ fs, e.2.IsExact := by
  induction fs with
  | nil => simp [ExactFields]
  | cons e fs ih => rw [ExactFields, ih, List.forall_mem_cons]

theorem orderedFields_iff : OrderedFields fs ↔ ∀ e ∈ fs, e.2.IsOrdered := by
  induction fs with
  | nil => simp [OrderedFields]
  | cons e fs ih => rw [OrderedFields, ih, List.forall_mem_cons]

/-! ## Sorting the fields -/

mutual

theorem nesting_ordered_le (v : Json) : v.ordered.nesting ≤ v.nesting := by
  match v with
  | .null | .bool _ | .int _ | .float _ | .string _ => exact Nat.le_refl _
  | .array vs => exact Nat.succ_le_succ (nestingItems_ordered_le vs)
  | .object fs =>
      refine Nat.succ_le_succ (nestingFields_le_iff.2 fun e he => ?_)
      exact nestingFields_le_iff.1 (nestingFields_ordered_le fs) e (Keyed.mem_of_mem_ofList he)

theorem nestingItems_ordered_le (vs : List Json) :
    nestingItems (orderedItems vs) ≤ nestingItems vs := by
  match vs with
  | [] => exact Nat.le_refl _
  | v :: vs =>
      have := nesting_ordered_le v
      have := nestingItems_ordered_le vs
      simp only [orderedItems, nestingItems]
      omega

theorem nestingFields_ordered_le (fs : List (String × Json)) :
    nestingFields (orderedFields fs) ≤ nestingFields fs := by
  match fs with
  | [] => exact Nat.le_refl _
  | (k, v) :: fs =>
      have := nesting_ordered_le v
      have := nestingFields_ordered_le fs
      simp only [orderedFields, nestingFields]
      omega

end

mutual

theorem IsExact.ordered {v : Json} (h : v.IsExact) : v.ordered.IsExact := by
  match v with
  | .null | .bool _ | .int _ | .string _ => exact h
  | .float _ => exact h.elim
  | .array vs => exact ExactItems.ordered h
  | .object fs =>
      refine exactFields_iff.2 fun e he => ?_
      exact exactFields_iff.1 (ExactFields.ordered h) e (Keyed.mem_of_mem_ofList he)

theorem ExactItems.ordered {vs : List Json} (h : ExactItems vs) :
    ExactItems (orderedItems vs) := by
  match vs with
  | [] => trivial
  | v :: vs => exact ⟨IsExact.ordered h.1, ExactItems.ordered h.2⟩

theorem ExactFields.ordered {fs : List (String × Json)} (h : ExactFields fs) :
    ExactFields (orderedFields fs) := by
  match fs with
  | [] => trivial
  | (k, v) :: fs => exact ⟨IsExact.ordered h.1, ExactFields.ordered h.2⟩

end

mutual

theorem isOrdered_ordered (v : Json) : v.ordered.IsOrdered := by
  match v with
  | .null | .bool _ | .int _ | .float _ | .string _ => trivial
  | .array vs => exact orderedItems_ordered vs
  | .object fs =>
      refine ⟨Keyed.sorted _, orderedFields_iff.2 fun e he => ?_⟩
      exact orderedFields_iff.1 (orderedFields_ordered fs) e (Keyed.mem_of_mem_ofList he)

theorem orderedItems_ordered (vs : List Json) : OrderedItems (orderedItems vs) := by
  match vs with
  | [] => trivial
  | v :: vs => exact ⟨isOrdered_ordered v, orderedItems_ordered vs⟩

theorem orderedFields_ordered (fs : List (String × Json)) : OrderedFields (orderedFields fs) := by
  match fs with
  | [] => trivial
  | (k, v) :: fs => exact ⟨isOrdered_ordered v, orderedFields_ordered fs⟩

end

@[simp] theorem ordered_ordered (v : Json) : v.ordered.ordered = v.ordered :=
  ordered_of_isOrdered (isOrdered_ordered v)

/-! ## Looking up fields -/

theorem orderedFields_eq_map (fs : List (String × Json)) :
    orderedFields fs = fs.map fun e => (e.1, e.2.ordered) := by
  induction fs with
  | nil => rfl
  | cons e fs ih => rw [orderedFields, ih, List.map_cons]

theorem field?_object (fs : List (String × Json)) (key : String) :
    (object fs).field? key = (Keyed.ofList fs).get? key :=
  Keyed.get?_ofList_eq_find?.symm

/-- A field is found wherever it stands; sorting moves it and sorts what it holds. -/
theorem field?_ordered (v : Json) (key : String) :
    v.ordered.field? key = (v.field? key).map ordered := by
  cases v with
  | object fs =>
      rw [ordered, ofKeyed, field?_object, Keyed.ofList_entries, Keyed.get?_ofList_eq_find?,
        orderedFields_eq_map, ← List.map_reverse, List.find?_map, field?]
      simp only [Option.map_map, Function.comp_def]
  | _ => rfl

end SearchGateway.Json
