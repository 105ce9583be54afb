import FacetSearch.Json.Basic

/-!
# The values nested in a document

An object is a collection of members under keys, and the order in which they are listed says
nothing.  `Same` holds of two documents that differ in this order only.  The keys of an object are
distinct; reading JSON also puts them in ascending order.
-/

namespace FacetSearch.Json

mutual

/-- A document and all values nested in it, each before its parts. -/
def values : Json → List Json
  | .scalar s => [.scalar s]
  | .list items => .list items :: valuesOfItems items
  | .object members => .object members :: valuesOfMembers members

/-- The values of items and those nested in them. -/
def valuesOfItems : List Json → List Json
  | [] => []
  | v :: r => values v ++ valuesOfItems r

/-- The values of members and those nested in them. -/
def valuesOfMembers : List (String × Json) → List Json
  | [] => []
  | (_, v) :: r => values v ++ valuesOfMembers r

end

/-- The keys of every object, in the order in which its members are listed, are as `P` says. -/
def EachObject (P : List String → Prop) (v : Json) : Prop :=
  ∀ members, .object members ∈ v.values → P (members.map Prod.fst)

/-- In every object the keys are distinct. -/
def KeysDistinct (v : Json) : Prop :=
  v.EachObject List.Nodup

/-- In every object the keys are in ascending order, each once. -/
def KeysAscending (v : Json) : Prop :=
  v.EachObject (List.Pairwise (· < ·))

mutual

/-- The same document, but for the order of members. -/
inductive Same : Json → Json → Prop where
  | scalar (s : Scalar) : Same (.scalar s) (.scalar s)
  | list {items items' : List Json} : SameItems items items' → Same (.list items) (.list items')
  | object {members listed members' : List (String × Json)} :
      members.Perm listed → SameMembers listed members' → Same (.object members) (.object members')

/-- The same items in the same order. -/
inductive SameItems : List Json → List Json → Prop where
  | nil : SameItems [] []
  | cons {v w : Json} {r r' : List Json} : Same v w → SameItems r r' → SameItems (v :: r) (w :: r')

/-- Members with the same keys in the same order, and with the same values. -/
inductive SameMembers : List (String × Json) → List (String × Json) → Prop where
  | nil : SameMembers [] []
  | cons {v w : Json} {r r' : List (String × Json)} (key : String) :
      Same v w → SameMembers r r' → SameMembers ((key, v) :: r) ((key, w) :: r')

end

/-- Induction on a document: the parts of a list are its items, and those of an object
the values of its members. -/
@[elab_as_elim, induction_eliminator]
theorem induct {motive : Json → Prop} (scalar : ∀ s, motive (.scalar s))
    (list : ∀ items, (∀ v ∈ items, motive v) → motive (.list items))
    (object : ∀ members, (∀ m ∈ members, motive m.2) → motive (.object members)) :
    ∀ v, motive v
  | .scalar s => scalar s
  | .list items => list items fun v _ => induct scalar list object v
  | .object members => object members fun m hm => by
      have hsmaller : sizeOf m.2 < sizeOf members := by
        have := List.sizeOf_lt_of_mem hm
        cases m
        simp at this ⊢
        omega
      exact induct scalar list object m.2

/-! ## Parts -/

variable {P : List String → Prop} {v : Json} {items : List Json} {members : List (String × Json)}

theorem valuesOfItems_eq_flatMap (items : List Json) :
    valuesOfItems items = items.flatMap values := by
  induction items with
  | nil => rfl
  | cons v r ih => rw [valuesOfItems, ih, List.flatMap_cons]

theorem valuesOfMembers_eq_flatMap (members : List (String × Json)) :
    valuesOfMembers members = members.flatMap fun m => m.2.values := by
  induction members with
  | nil => rfl
  | cons m r ih => rw [valuesOfMembers, ih, List.flatMap_cons]

theorem eachObject_scalar (P : List String → Prop) (s : Scalar) : EachObject P (.scalar s) := by
  intro members hmem
  cases List.mem_singleton.mp hmem

theorem eachObject_list_iff : EachObject P (.list items) ↔ ∀ v ∈ items, EachObject P v := by
  simp only [EachObject, values, valuesOfItems_eq_flatMap, List.mem_cons, List.mem_flatMap]
  constructor
  · intro h v hv members hmem
    exact h members (.inr ⟨v, hv, hmem⟩)
  · rintro h members (hself | ⟨v, hv, hmem⟩)
    · cases hself
    · exact h v hv members hmem

theorem eachObject_object_iff : EachObject P (.object members) ↔
    P (members.map Prod.fst) ∧ ∀ m ∈ members, EachObject P m.2 := by
  simp only [EachObject, values, valuesOfMembers_eq_flatMap, List.mem_cons, List.mem_flatMap]
  constructor
  · intro h
    refine ⟨h members (.inl rfl), fun m hm members' hmem => ?_⟩
    exact h members' (.inr ⟨m, hm, hmem⟩)
  · rintro ⟨hkeys, h⟩ members' (hself | ⟨m, hm, hmem⟩)
    · cases hself
      exact hkeys
    · exact h m hm members' hmem

end FacetSearch.Json
