import FacetSearch.Json.Parser
import FacetSearch.Proofs.Json.Nested
import Mathlib.Data.String.Basic

/-!
# Documents that were read

`putMember` keeps members in ascending order, and the reader of objects puts every member with it.
Hence in every document that was read the keys of each object ascend (`keysAscending_of_parse?`),
whatever order they had in the text.

The readers of values, items and members call each other on ever shorter texts.  For each of them
one lemma lists the ways in which it can succeed, and what it has read from then on follows by
induction on the length of the text.
-/

namespace FacetSearch.Json

variable {depth : Nat} {s : List UInt8} {v : Json}

/-! ## Putting a member in its place -/

section Members

variable {α : Type} {key : String} {value : α} {members : List (String × α)}

theorem mem_putMember {m : String × α} (h : m ∈ putMember key value members) :
    m = (key, value) ∨ m ∈ members := by
  induction members with
  | nil => exact .inl (List.mem_singleton.mp h)
  | cons p r ih =>
      obtain ⟨k, w⟩ := p
      rw [putMember] at h
      split at h
      · exact List.mem_cons.mp h
      · split at h
        · rename_i hkey
          rcases List.mem_cons.mp h with rfl | h
          · exact .inl (by rw [hkey])
          · exact .inr (List.mem_cons_of_mem _ h)
        · rcases List.mem_cons.mp h with rfl | h
          · exact .inr List.mem_cons_self
          · exact (ih h).imp_right (List.mem_cons_of_mem _)

theorem pairwise_putMember (h : members.Pairwise fun a b => a.1 < b.1) :
    (putMember key value members).Pairwise fun a b => a.1 < b.1 := by
  induction members with
  | nil => exact List.pairwise_singleton _ _
  | cons p r ih =>
      obtain ⟨k, w⟩ := p
      obtain ⟨hfirst, hrest⟩ := List.pairwise_cons.mp h
      rw [putMember]
      split
      · rename_i hlt
        refine List.pairwise_cons.mpr ⟨fun m hm => ?_, h⟩
        rcases List.mem_cons.mp hm with rfl | hm
        · exact hlt
        · exact lt_trans hlt (hfirst m hm)
      · rename_i hnot
        split
        · exact List.pairwise_cons.mpr ⟨hfirst, hrest⟩
        · rename_i hne
          refine List.pairwise_cons.mpr ⟨fun m hm => ?_, ih hrest⟩
          rcases mem_putMember hm with rfl | hm
          · exact lt_of_le_of_ne (not_lt.mp hnot) (Ne.symm hne)
          · exact hfirst m hm

end Members

/-! ## How readers succeed -/

theorem ok_of_bind {α β : Type} {x : Except Fault α} {f : α → Except Fault β} {b : β}
    (h : (x >>= f) = .ok b) : ∃ a, x = .ok a ∧ f a = .ok b := by
  cases x with
  | error e => cases h
  | ok a => exact ⟨a, rfl, h⟩

theorem value_cases {r : Rest s} (h : value depth s = .ok (v, r)) :
    (∃ x, v = .scalar x) ∨ v = .list [] ∨ v = .object [] ∨
      (∃ depth' q r' vs, q.length < s.length ∧ items depth' [] q = .ok (vs, r') ∧ v = .list vs) ∨
      ∃ depth' q r' ms, q.length < s.length ∧ members depth' [] q = .ok (ms, r') ∧
        v = .object ms := by
  have hscalar : ∀ {α : Type} {x : Except Fault α} {f : α → Scalar} {rest : α → Rest s},
      (x >>= fun a => .ok (.scalar (f a), rest a)) = .ok (v, r) → ∃ y, v = .scalar y := by
    intro α x f rest hx
    obtain ⟨a, -, ha⟩ := ok_of_bind hx
    cases ha
    exact ⟨_, rfl⟩
  rw [value] at h
  split at h
  · cases h
  rename_i b after hblank
  have hlength : after.length < s.length := by
    have := length_skipBlank_le s
    rwa [hblank] at this
  have hshorter : ∀ q : Rest (b :: after), q.1.length < s.length :=
    fun q => lt_of_le_of_lt (Nat.le_of_lt_succ q.2) hlength
  -- the first byte decides: a string, a number, one of three words, a list or an object
  split at h
  · exact .inl (hscalar h)
  split at h
  · exact .inl (hscalar h)
  split at h
  · exact .inl (hscalar h)
  split at h
  · exact .inl (hscalar h)
  split at h
  · exact .inl (hscalar h)
  split at h
  · split at h
    · cases h
    · obtain ⟨⟨more, q⟩, -, h⟩ := ok_of_bind h
      cases more with
      | true =>
          obtain ⟨⟨vs, t⟩, hitems, h⟩ := ok_of_bind h
          cases h
          exact .inr (.inr (.inr (.inl ⟨_, q.1, t, vs, hshorter q, hitems, rfl⟩)))
      | false =>
          cases h
          exact .inr (.inl rfl)
  split at h
  · split at h
    · cases h
    · obtain ⟨⟨more, q⟩, -, h⟩ := ok_of_bind h
      cases more with
      | true =>
          obtain ⟨⟨ms, t⟩, hmembers, h⟩ := ok_of_bind h
          cases h
          exact .inr (.inr (.inr (.inr ⟨_, q.1, t, ms, hshorter q, hmembers, rfl⟩)))
      | false =>
          cases h
          exact .inr (.inr (.inl rfl))
  · cases h

theorem items_cases {done vs : List Json} {r : Rest s} (h : items depth done s = .ok (vs, r)) :
    ∃ v q, value depth s = .ok (v, q) ∧
      (vs = (v :: done).reverse ∨
        ∃ t r', t.length < s.length ∧ items depth (v :: done) t = .ok (vs, r')) := by
  rw [items] at h
  obtain ⟨⟨v, q⟩, hv, h⟩ := ok_of_bind h
  obtain ⟨⟨more, t⟩, -, h⟩ := ok_of_bind h
  refine ⟨v, q, hv, ?_⟩
  cases more with
  | true =>
      obtain ⟨⟨ws, u⟩, hitems, h⟩ := ok_of_bind h
      cases h
      exact .inr ⟨t.1, u, Nat.lt_trans t.2 q.2, hitems⟩
  | false =>
      cases h
      exact .inl rfl

theorem members_cases {done ms : List (String × Json)} {r : Rest s}
    (h : members depth done s = .ok (ms, r)) :
    ∃ key v q r', q.length < s.length ∧ value depth q = .ok (v, r') ∧
      (ms = putMember key v done ∨
        ∃ t r'', t.length < s.length ∧ members depth (putMember key v done) t = .ok (ms, r'')) := by
  rw [members] at h
  obtain ⟨⟨key, k⟩, -, h⟩ := ok_of_bind h
  obtain ⟨⟨_, c⟩, -, h⟩ := ok_of_bind h
  obtain ⟨⟨v, q⟩, hv, h⟩ := ok_of_bind h
  obtain ⟨⟨more, t⟩, -, h⟩ := ok_of_bind h
  refine ⟨key, v, c.1, q, (k.trans c).2, hv, ?_⟩
  cases more with
  | true =>
      obtain ⟨⟨ws, u⟩, hmembers, h⟩ := ok_of_bind h
      cases h
      exact .inr ⟨t.1, u, (k.trans (c.trans (q.trans t))).2, hmembers⟩
  | false =>
      cases h
      exact .inl rfl

/-! ## What was read -/

/-- Members that a reader of objects has put in their places. -/
structure Placed (ms : List (String × Json)) : Prop where
  ascending : ms.Pairwise fun a b => a.1 < b.1
  values : ∀ m ∈ ms, m.2.KeysAscending

theorem Placed.putMember {ms : List (String × Json)} (h : Placed ms) (key : String)
    (hv : v.KeysAscending) :
    Placed (putMember key v ms) := by
  refine ⟨pairwise_putMember h.ascending, fun m hm => ?_⟩
  rcases mem_putMember hm with rfl | hm
  · exact hv
  · exact h.values m hm

theorem Placed.keysAscending {ms : List (String × Json)} (h : Placed ms) :
    (Json.object ms).KeysAscending :=
  eachObject_object_iff.mpr ⟨List.pairwise_map.mpr h.ascending, h.values⟩

/-- What the three readers have read from a text of this length. -/
structure ReadsAscending (n : Nat) : Prop where
  value : ∀ depth (s : List UInt8) v r, s.length = n → value depth s = .ok (v, r) → v.KeysAscending
  items : ∀ depth done (s : List UInt8) vs r, s.length = n → (∀ v ∈ done, v.KeysAscending) →
    items depth done s = .ok (vs, r) → ∀ v ∈ vs, v.KeysAscending
  members : ∀ depth done (s : List UInt8) ms r, s.length = n → Placed done →
    members depth done s = .ok (ms, r) → Placed ms

theorem readsAscending (n : Nat) : ReadsAscending n := by
  induction n using Nat.strongRecOn with
  | _ n ih =>
      -- items begin with a value that is read from the same text, so values come first
      have hvalue : ∀ depth (s : List UInt8) v r, s.length = n → value depth s = .ok (v, r) →
          v.KeysAscending := by
        intro depth s v r hs h
        rcases value_cases h with ⟨x, rfl⟩ | rfl | rfl | ⟨depth', q, r', vs, hq, hitems, rfl⟩ |
          ⟨depth', q, r', ms, hq, hmembers, rfl⟩
        · exact eachObject_scalar (List.Pairwise (· < ·)) x
        · exact eachObject_list_iff.mpr (List.forall_mem_nil _)
        · exact Placed.keysAscending ⟨.nil, List.forall_mem_nil _⟩
        · exact eachObject_list_iff.mpr
            ((ih q.length (hs ▸ hq)).items depth' [] q vs r' rfl (List.forall_mem_nil _) hitems)
        · exact ((ih q.length (hs ▸ hq)).members depth' [] q ms r' rfl ⟨.nil, List.forall_mem_nil _⟩
            hmembers).keysAscending
      refine ⟨hvalue, ?_, ?_⟩
      · intro depth done s vs r hs hdone h
        obtain ⟨v, q, hv, hrest⟩ := items_cases h
        have hread : ∀ w ∈ v :: done, w.KeysAscending :=
          List.forall_mem_cons.mpr ⟨hvalue depth s v q hs hv, hdone⟩
        rcases hrest with rfl | ⟨t, r', ht, hitems⟩
        · intro w hw
          exact hread w (List.mem_reverse.mp hw)
        · exact (ih t.length (hs ▸ ht)).items depth _ t vs r' rfl hread hitems
      · intro depth done s ms r hs hdone h
        obtain ⟨key, v, q, r', hq, hv, hrest⟩ := members_cases h
        have hread := hdone.putMember key ((ih q.length (hs ▸ hq)).value depth q v r' rfl hv)
        rcases hrest with rfl | ⟨t, r'', ht, hmembers⟩
        · exact hread
        · exact (ih t.length (hs ▸ ht)).members depth _ t ms r'' rfl hread hmembers

/-- In every document that was read the keys of each object ascend. -/
theorem keysAscending_of_parse? {text : String} (h : parse? text = .ok v) : v.KeysAscending := by
  rw [parse?, readAll] at h
  split at h
  · rename_i hread
    cases h
    obtain ⟨⟨w, r⟩, hvalue, hend⟩ := ok_of_bind hread
    obtain ⟨_, -, hend⟩ := ok_of_bind hend
    cases hend
    exact (readsAscending _).value maxDepth _ v r rfl hvalue
  · cases h

end FacetSearch.Json
