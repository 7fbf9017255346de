import TaskQuery.Value.Basic

namespace TaskQuery

/-- Whether a value is a dictionary that may hold others. -/
def Value.isNode (v : Value) : Bool :=
  v.hasKey "conditions" || v.hasKey "groups"

/-- The items under `groups` or, where that key is missing, under `conditions`. -/
def Value.children (v : Value) : List Value :=
  match if v.hasKey "groups" then v.get "groups" else v.get "conditions" with
  | .list items => items
  | _ => []

def Value.childNodes (v : Value) : List Value :=
  v.children.filter Value.isNode

theorem sizeOf_lookup? {key : String} {entries : List (String × Value)} {v : Value}
    (h : lookup? key entries = some v) : sizeOf v < sizeOf entries := by
  induction entries with
  | nil => nomatch h
  | cons entry entries ih =>
    obtain ⟨k, w⟩ := entry
    unfold lookup? at h
    split at h
    · cases h
      simp only [List.cons.sizeOf_spec, Prod.mk.sizeOf_spec]
      omega
    · have := ih h
      simp only [List.cons.sizeOf_spec]
      omega

theorem Value.sizeOf_get {v : Value} {key : String} {items : List Value} (h : v.get key = .list items) :
    sizeOf items < sizeOf v := by
  unfold Value.get at h
  split at h
  · rename_i entries
    cases found : lookup? key entries with
    | none => simp [found] at h
    | some w =>
      have := sizeOf_lookup? found
      simp only [found, Option.getD_some] at h
      subst h
      simp only [Value.list.sizeOf_spec] at this
      simp only [Value.dict.sizeOf_spec]
      omega
  · nomatch h

noncomputable def totalSize : List Value → Nat
  | [] => 0
  | v :: vs => sizeOf v + totalSize vs

theorem totalSize_append (vs ws : List Value) : totalSize (vs ++ ws) = totalSize vs + totalSize ws := by
  induction vs with
  | nil => simp [totalSize]
  | cons v vs ih =>
    simp only [List.cons_append, totalSize, ih]
    omega

theorem totalSize_reverse (vs : List Value) : totalSize vs.reverse = totalSize vs := by
  induction vs with
  | nil => rfl
  | cons v vs ih =>
    simp only [List.reverse_cons, totalSize_append, totalSize, ih]
    omega

theorem totalSize_filter_le (p : Value → Bool) (vs : List Value) : totalSize (vs.filter p) ≤ sizeOf vs := by
  induction vs with
  | nil => simp [totalSize]
  | cons v vs ih =>
    by_cases h : p v <;> simp only [totalSize, List.filter_cons, h, if_true, Bool.false_eq_true, if_false,
      List.cons.sizeOf_spec] <;> omega

theorem Value.sizeOf_pos (v : Value) : 0 < sizeOf v := by
  cases v with
  | null => exact Nat.zero_lt_one
  | bool | int | float | str | date | datetime | list | dict | record => exact Nat.lt_add_right _ Nat.zero_lt_one

/-- The children of a node are together smaller than the node. -/
theorem Value.totalSize_childNodes_lt (v : Value) : totalSize v.childNodes < sizeOf v := by
  unfold Value.childNodes Value.children
  split
  · rename_i items h
    have smaller : sizeOf items < sizeOf v := by
      split at h
      · exact sizeOf_get h
      · exact sizeOf_get h
    have := totalSize_filter_le Value.isNode items
    omega
  · simpa [totalSize] using v.sizeOf_pos

/-- The nodes below `v`, which is at some depth, with their depths, last first. -/
def Value.nodesBelow (v : Value) (depth : Nat) : List (Value × Nat) :=
  v.childNodes.reverse.map fun child => (child, depth + 1)

theorem Value.totalSize_nodesBelow_lt (v : Value) (depth : Nat) :
    totalSize ((v.nodesBelow depth).map Prod.fst) < sizeOf v := by
  have : (v.nodesBelow depth).map Prod.fst = v.childNodes.reverse := by simp [nodesBelow, Function.comp_def]
  rw [this, totalSize_reverse]
  exact v.totalSize_childNodes_lt

/-- Walks on to the deepest node until a depth exceeds the limit. The nodes to be visited are kept in a list, so that no
nesting is too deep for the walk. -/
def deepestFrom (limit : Int) (deepest : Nat) (pending : List (Value × Nat)) : Nat :=
  match pending with
  | [] => deepest
  | (node, depth) :: pending =>
    if limit < (max deepest depth : Nat) then max deepest depth
    else deepestFrom limit (max deepest depth) (node.nodesBelow depth ++ pending)
termination_by totalSize (pending.map Prod.fst)
decreasing_by
  have := node.totalSize_nodesBelow_lt depth
  rw [List.map_append, totalSize_append]
  simp only [List.map_cons, totalSize] at this ⊢
  omega

/-- The depth of nesting of a wire form; the walk ends at the first depth that exceeds the limit. -/
def nestingDepth (limit : Int) (v : Value) : Nat :=
  deepestFrom limit 0 [(v, 1)]

/-- Walks on and adds up the children that are no nodes. -/
def countFrom (total : Nat) (pending : List Value) : Nat :=
  match pending with
  | [] => total
  | node :: pending =>
    countFrom (total + (node.children.filter (!·.isNode)).length) (node.childNodes.reverse ++ pending)
termination_by totalSize pending
decreasing_by
  have := node.totalSize_childNodes_lt
  rw [totalSize_append, totalSize_reverse]
  simp only [totalSize] at this ⊢
  omega

def conditionCount (v : Value) : Nat :=
  countFrom 0 [v]

end TaskQuery
