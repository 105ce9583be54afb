import FacetSearch.Proofs.Form.Identifier
import Mathlib.Data.List.Induction

/-!
# Fields with an empty name

Choosing the empty field leaves a clause without one.  Loading does not: a token that begins with
`=` gives its clause a field, and this field has the empty name.  Such a clause is labelled like
one without a field, but it is submitted.

The main statement is `empty_key_iff`, which says which clauses these are.  A clause has the field
that it was given last, because no other edit touches it; only loading and choosing give a field,
and choosing never gives the empty one.  So the clause was read from a query, and its field was
not chosen since.  Identifiers tell that it is the same clause all along, as none is given twice.
-/

namespace FacetSearch.Form

open FacetSearch.Text

variable {f : Form} {c : Clause} {e : Edit} {id : Nat} {d : Directory}

/-- Whether an edit can give the clause with this identifier a field. -/
def givesKey (id : Nat) : Edit → Bool
  | .load _ => true
  | .setKey i _ => i == id
  | _ => false

/-! ## One edit -/

/-- Without a field given to it, a clause has the field of before, or it is new and blank. -/
theorem key_of_edit (hc : c ∈ (f.edit e).clauses) (he : givesKey c.id e = false) :
    (∃ b ∈ f.clauses, b.id = c.id ∧ b.key = c.key) ∨ c = Clause.blank f.nextId := by
  cases origin_of_edit hc with
  | kept hc => exact .inl ⟨c, hc, rfl, rfl⟩
  | added => exact .inr rfl
  | template id => cases he
  | loaded id hp => cases he
  | keyed key hb => exact absurd he (by simp [givesKey, Clause.withKey])
  | offered values hb _ => exact .inl ⟨_, hb, rfl, rfl⟩
  | picked value hb => exact .inl ⟨_, hb, rfl, rfl⟩
  | typed value hb => exact .inl ⟨_, hb, rfl, rfl⟩

theorem key_withKey_ne (d : Directory) (key : String) (c : Clause) :
    (c.withKey d key).key ≠ some "" := by
  rw [Clause.withKey]
  split
  · intro h
    cases h
  · rename_i hkey
    intro h
    cases h
    exact hkey rfl

/-- Choosing a field never leaves the clause with the empty one. -/
theorem key_setKey_ne (hids : f.ids.Nodup) {key : String}
    (hc : c ∈ (f.edit (.setKey c.id key)).clauses) : c.key ≠ some "" := by
  rw [edit, edit?, setKey] at hc
  by_cases hid : c.id ∈ f.ids
  · rw [modify_eq_map hids hid] at hc
    obtain ⟨b, -, hb⟩ := List.mem_map.mp hc
    split at hb
    · rw [← hb]
      exact key_withKey_ne f.directory key b
    · rename_i hne
      exact absurd (congrArg Clause.id hb) hne
  · have hnone : f.modify c.id (.withKey f.directory key) = none := by
      rw [← Option.not_isSome_iff_eq_none, isSome_modify]
      exact hid
    rw [hnone] at hc
    exact absurd (List.mem_map_of_mem hc) hid

/-! ## Loading -/

theorem zip_ids_clausesOf (d : Directory) (id : Nat) (ps : List Query.Parameter) :
    ((clausesOf d id ps).map (·.id)).zip ps =
      (clausesOf d id ps).filterMap fun c => (toParameter? c).map fun p => (c.id, p) := by
  induction ps generalizing id with
  | nil => rfl
  | cons p ps ih =>
      rw [clausesOf, List.map_cons, List.zip_cons_cons, ih]
      rfl

/-- The clauses that have a field after loading stand for the criteria, in order. -/
theorem zip_ids_load (f : Form) (query : String) :
    (f.load query).ids.zip (criteria query) =
      (f.load query).clauses.filterMap fun c => (toParameter? c).map fun p => (c.id, p) := by
  rw [ids]
  by_cases h : criteria query = []
  · obtain ⟨id, hid⟩ := clauses_load_of_nil (f := f) h
    rw [hid, h]
    rfl
  · obtain ⟨id, hid⟩ := clauses_load_of_ne_nil (f := f) h
    rw [hid]
    exact zip_ids_clausesOf f.directory id (criteria query)

theorem toParameter?_eq_some_iff {p : Query.Parameter} :
    toParameter? c = some p ↔ c.key = some p.key ∧ c.value = p.value := by
  rw [toParameter?, Option.map_eq_some_iff]
  constructor
  · rintro ⟨k, hk, rfl⟩
    exact ⟨hk, rfl⟩
  · rintro ⟨hkey, hvalue⟩
    exact ⟨p.key, hkey, by rw [hvalue]⟩

theorem mem_zip_ids_load {query key : String} :
    (∃ value, (id, ⟨key, value⟩) ∈ (f.load query).ids.zip (criteria query)) ↔
      ∃ c ∈ (f.load query).clauses, c.id = id ∧ c.key = some key := by
  rw [zip_ids_load]
  constructor
  · rintro ⟨value, h⟩
    obtain ⟨c, hc, hpair⟩ := List.mem_filterMap.mp h
    obtain ⟨p, hp, hpair⟩ := Option.map_eq_some_iff.mp hpair
    cases hpair
    exact ⟨c, hc, rfl, (toParameter?_eq_some_iff.mp hp).1⟩
  · rintro ⟨c, hc, rfl, hkey⟩
    have hparam : toParameter? c = some ⟨key, c.value⟩ := toParameter?_eq_some_iff.mpr ⟨hkey, rfl⟩
    exact ⟨c.value, List.mem_filterMap.mpr ⟨c, hc, by rw [hparam]; rfl⟩⟩

/-! ## Runs -/

/-- The last edit that could give the clause with this identifier a field was a load, and the
criterion that the clause was made from has the empty name. -/
def ReadEmpty (d : Directory) (es : List Edit) (id : Nat) : Prop :=
  ∃ before query after, es = before ++ .load query :: after ∧ (∀ e ∈ after, givesKey id e = false) ∧
    ∃ value, (id, ⟨"", value⟩) ∈ (((new d).edits before).load query).ids.zip (criteria query)

theorem key_of_edits {es : List Edit} (hc : c ∈ (f.edits es).clauses) (hid : c.id < f.nextId)
    (hes : ∀ e ∈ es, givesKey c.id e = false) : ∃ b ∈ f.clauses, b.id = c.id ∧ b.key = c.key := by
  induction es generalizing f with
  | nil => exact ⟨c, hc, rfl, rfl⟩
  | cons e es ih =>
      have hlt : c.id < (f.edit e).nextId := Nat.lt_of_lt_of_le hid (advances_edit f e).nextId_le
      obtain ⟨b, hb, hbid, hbkey⟩ := ih hc hlt fun e' he' => hes e' (List.mem_cons_of_mem _ he')
      have he : givesKey b.id e = false := hbid ▸ hes e List.mem_cons_self
      rcases key_of_edit hb he with ⟨a, ha, haid, hakey⟩ | rfl
      · exact ⟨a, ha, haid.trans hbid, hakey.trans hbkey⟩
      · -- the counter has passed the identifier, so the clause is not a new one
        exact absurd hbid (Nat.ne_of_gt hid)

theorem ReadEmpty.concat {es : List Edit} (h : ReadEmpty d es id) (he : givesKey id e = false) :
    ReadEmpty d (es ++ [e]) id := by
  obtain ⟨before, query, after, rfl, hafter, hzip⟩ := h
  refine ⟨before, query, after ++ [e], by simp, fun e' he' => ?_, hzip⟩
  rcases List.mem_append.mp he' with he' | he'
  · exact hafter e' he'
  · rw [List.mem_singleton.mp he']
    exact he

theorem reachable_run (d : Directory) (es : List Edit) : ((new d).edits es).Reachable :=
  reachable_edits (.new d) es

theorem edits_concat (f : Form) (es : List Edit) (e : Edit) :
    f.edits (es ++ [e]) = (f.edits es).edit e :=
  edits_append f es [e]

theorem readEmpty_of_key {es : List Edit} (hc : c ∈ ((new d).edits es).clauses)
    (hkey : c.key = some "") :
    ReadEmpty d es c.id := by
  induction es using List.reverseRecOn generalizing c with
  | nil =>
      rw [List.mem_singleton.mp hc] at hkey
      cases hkey
  | append_singleton es e ih =>
      rw [edits_concat] at hc
      cases he : givesKey c.id e with
      | false =>
          rcases key_of_edit hc he with ⟨b, hb, hid, hb'⟩ | rfl
          · exact (hid ▸ ih hb (hb'.trans hkey)).concat he
          · cases hkey
      | true =>
          cases e with
          | load query =>
              exact ⟨es, query, [], rfl, fun _ h => absurd h List.not_mem_nil,
                mem_zip_ids_load.mpr ⟨c, hc, rfl, hkey⟩⟩
          | setKey i key =>
              cases beq_iff_eq.mp he
              exact absurd hkey (key_setKey_ne (nodup_ids (reachable_run d es)) hc)
          | addClause | removeClause _ | putMenu _ _ _ | pickValue _ _ | setValue _ _ => cases he

theorem key_of_readEmpty {es : List Edit} (hc : c ∈ ((new d).edits es).clauses)
    (h : ReadEmpty d es c.id) :
    c.key = some "" := by
  obtain ⟨before, query, after, rfl, hafter, hzip⟩ := h
  obtain ⟨a, ha, haid, hakey⟩ := mem_zip_ids_load.mp hzip
  have hloaded : (((new d).edits before).load query).Reachable :=
    .edit (.load query) (reachable_run d before)
  have hlt : c.id < (((new d).edits before).load query).nextId :=
    lt_nextId hloaded (haid ▸ List.mem_map_of_mem ha)
  have hrun : c ∈ ((((new d).edits before).load query).edits after).clauses := by
    rw [edits_append] at hc
    exact hc
  obtain ⟨b, hb, hbid, hbkey⟩ := key_of_edits hrun hlt hafter
  have hab : b = a := List.inj_on_of_nodup_map (nodup_ids hloaded) hb ha (hbid.trans haid.symm)
  rw [← hbkey, hab, hakey]

/-! ## Submission -/

theorem parse_submission (f : Form) :
    Query.parse f.submission = f.clauses.filterMap toParameter? := by
  rw [submission, Query.parse, Query.tokens_build, Query.map_ofToken_render]
  rfl

theorem mem_parse_submission {key : String} :
    (∃ value, ⟨key, value⟩ ∈ Query.parse f.submission) ↔ ∃ c ∈ f.clauses, c.key = some key := by
  rw [parse_submission]
  constructor
  · rintro ⟨value, h⟩
    obtain ⟨c, hc, hparam⟩ := List.mem_filterMap.mp h
    exact ⟨c, hc, (toParameter?_eq_some_iff.mp hparam).1⟩
  · rintro ⟨c, hc, hkey⟩
    exact ⟨c.value, List.mem_filterMap.mpr ⟨c, hc, toParameter?_eq_some_iff.mpr ⟨hkey, rfl⟩⟩⟩

/-! ## Tokens -/

theorem key_ofToken_eq_empty_iff {token : List Char} :
    (Query.Parameter.ofToken token).key = "" ↔ token = [] ∨ token.head? = some '=' := by
  rw [← cut_fst_eq_nil_iff, ← Percent.decode_eq_nil_iff]
  exact String.ofList_eq_empty_iff

/-- A clause gets an empty field only from a token that begins with `=`. -/
theorem ReadEmpty.exists_token {es : List Edit} (h : ReadEmpty d es id) :
    ∃ query, .load query ∈ es ∧ ∃ t ∈ tokens (· == '&') query.toList, t.head? = some '=' := by
  obtain ⟨before, query, after, rfl, -, value, hzip⟩ := h
  have hcriterion : ⟨"", value⟩ ∈ Query.parse query :=
    List.mem_of_mem_filter (List.of_mem_zip hzip).2
  obtain ⟨t, ht, hparam⟩ := List.mem_map.mp hcriterion
  refine ⟨query, by simp, t, ht, ?_⟩
  rcases key_ofToken_eq_empty_iff.mp (congrArg Query.Parameter.key hparam) with hnil | hhead
  · exact absurd hnil (token_spec ht).1
  · exact hhead

theorem label_of_empty_key (hf : f.Reachable) (hc : c ∈ f.clauses) (h : c.key.getD "" = "") :
    c.label = Directory.chooseLabel := by
  rw [labelled_of_reachable hf c hc, h]
  rfl

/-- The clauses with the empty field are those that were read from a query with it and whose
field was not chosen since.  They are labelled like clauses without a field, but only those are
left out of the submission.  If no token of a loaded query begins with `=`, then there are no
clauses with the empty field. -/
theorem empty_key_iff (d : Directory) (es : List Edit) :
    let f := (new d).edits es
    (∀ c ∈ f.clauses, (c.key = some "" ↔ ReadEmpty d es c.id) ∧
      (c.key = none ∨ c.key = some "" → c.label = Directory.chooseLabel)) ∧
    Query.parse f.submission = f.clauses.filterMap toParameter? ∧
    ((∃ value, ⟨"", value⟩ ∈ Query.parse f.submission) ↔ ∃ c ∈ f.clauses, ReadEmpty d es c.id) ∧
    ((∀ query, .load query ∈ es → ∀ t ∈ tokens (· == '&') query.toList, t.head? ≠ some '=') →
      ∀ c ∈ f.clauses, c.key ≠ some "") := by
  intro f
  have hkey : ∀ c ∈ f.clauses, (c.key = some "" ↔ ReadEmpty d es c.id) :=
    fun c hc => ⟨readEmpty_of_key hc, key_of_readEmpty hc⟩
  refine ⟨fun c hc => ⟨hkey c hc, fun h => ?_⟩, parse_submission f, ?_, fun h c hc hempty => ?_⟩
  · refine label_of_empty_key (reachable_run d es) hc ?_
    rcases h with h | h
    · rw [h]
      rfl
    · rw [h]
      rfl
  · rw [mem_parse_submission]
    exact exists_congr fun c => and_congr_right (hkey c)
  · obtain ⟨query, hload, t, ht, hhead⟩ := ((hkey c hc).mp hempty).exists_token
    exact h query hload t ht hhead

/-- Two clauses are read with the empty field, and it is chosen for the first of them. -/
theorem chosen_anew_is_skipped :
    let es : List Edit := [.load "=v&=w", .setKey 1 ""]
    let f := (new .empty).edits es
    (∃ c ∈ f.clauses, c.id = 2 ∧ ReadEmpty .empty es 2 ∧ c.key = some "" ∧ c.label = "Choose...") ∧
      ¬ ReadEmpty .empty es 1 ∧
      Query.parse f.submission = [⟨"", "w"⟩] ∧
      ∀ c ∈ ((new .empty).edits [.load "env=a", .setKey 1 ""]).clauses, c.key ≠ some "" := by
  intro es f
  obtain ⟨hkey, hsubmission, -, -⟩ := empty_key_iff .empty es
  obtain ⟨-, -, -, hnone⟩ := empty_key_iff .empty [.load "env=a", .setKey 1 ""]
  have hfirst : ⟨1, none, "Choose...", "v", none⟩ ∈ f.clauses := by decide +kernel
  have hsecond : ⟨2, some "", "Choose...", "w", none⟩ ∈ f.clauses := by decide +kernel
  obtain ⟨hread, hlabel⟩ := hkey _ hsecond
  refine ⟨⟨_, hsecond, rfl, hread.mp rfl, rfl, hlabel (.inr rfl)⟩, ?_, ?_, hnone ?_⟩
  · intro h
    cases (hkey _ hfirst).1.mpr h
  · exact hsubmission.trans (by decide +kernel)
  · intro query hload
    have hquery : query = "env=a" := by simpa using hload
    subst hquery
    decide +kernel

/-- A location is loaded, and at once a clause without a chosen field is submitted. -/
theorem empty_name_submitted :
    let f := ofQuery .empty "=v"
    f.Reachable ∧ f.clauses = [⟨1, some "", "Choose...", "v", none⟩] ∧ f.submission = "=v" ∧
      ¬ ∀ c ∈ f.clauses, c.key ≠ some "" := by
  intro f
  have hclauses : f.clauses = [⟨1, some "", "Choose...", "v", none⟩] := by decide +kernel
  refine ⟨.ofQuery _ _, hclauses, by decide +kernel, fun h => ?_⟩
  exact h ⟨1, some "", "Choose...", "v", none⟩
    (by rw [hclauses]; exact List.mem_singleton_self _) rfl

end FacetSearch.Form
