import FacetSearch.Proofs.Form.Identifier

/-!
# Loading forgets what the form was

The main statement is `rows_of_load`.  Whatever edits came before, loading a query makes a clause
of each criterion in it and answers how many there are, and without criteria it leaves one blank
clause.  What the rows show is a function of the directory and the query.

Only the identifiers tell what the form was.  The blank clause has that of the clause that was
first; the clauses of criteria have numbers that no clause had before, since the counter is above
all of them and never falls.
-/

namespace FacetSearch

/-- What a row shows of a clause: all but its identifier. -/
def Clause.shown (c : Clause) : Option String × String × String × Option Menu :=
  (c.key, c.label, c.value, c.menu)

namespace Form

variable {f : Form} {query : String} {d : Directory}

/-- What the row of a criterion shows. -/
def shownOf (d : Directory) (p : Query.Parameter) : Option String × String × String × Option Menu :=
  (some p.key, d.labelFor p.key, p.value, none)

theorem map_shown_loadedClauses (f : Form) (query : String) :
    (f.loadedClauses query).map Clause.shown = (criteria query).map (shownOf f.directory) :=
  map_clausesOf (fun _ _ => rfl) _ _

theorem loadCount_eq (f : Form) (query : String) : f.loadCount query = (criteria query).length := by
  have h := congrArg List.length (map_shown_loadedClauses f query)
  rwa [List.length_map, List.length_map] at h

/-- Without criteria the blank clause takes the place, and the identifier, of
the clause that was first. -/
theorem clauses_load_of_none (h : criteria query = []) :
    ∃ id, (f.load query).clauses = [Clause.blank id] ∧ ∀ c ∈ f.clauses.head?, id = c.id := by
  unfold load
  rw [h]
  cases f.clauses with
  | nil => exact ⟨_, rfl, nofun⟩
  | cons c _ =>
      refine ⟨c.id, rfl, ?_⟩
      intro b hb
      cases hb
      rfl

theorem nextId_le_of_mem_loadedClauses {c : Clause} (hc : c ∈ f.loadedClauses query) :
    f.nextId ≤ c.id := by
  have hid := List.mem_map_of_mem (f := (·.id)) hc
  rw [loadedClauses, map_id_clausesOf, List.mem_range'_1] at hid
  have hstart := hid.1
  split at hstart
  · omega
  · exact hstart

theorem map_shown_load (f : Form) (query : String) :
    (f.load query).clauses.map Clause.shown =
      if criteria query = [] then [(Clause.blank 0).shown]
      else (criteria query).map (shownOf f.directory) := by
  split
  · rename_i h
    obtain ⟨id, hclauses, -⟩ := clauses_load_of_none (f := f) h
    rw [hclauses]
    rfl
  · rename_i h
    rw [clauses_load_eq_loadedClauses h, map_shown_loadedClauses]

/-- Loading a query after any edits makes a clause of every parameter that is not internal or
is the text search, in the order of the query, and answers their number.  If there is none
the form has one blank clause, with the identifier of the clause that was first.  What the
rows show does not depend on the edits, and the clauses that are made have identifiers that
no clause had at any time. -/
theorem rows_of_load (d : Directory) (es : List Edit) (query : String) :
    let f := (new d).edits es
    let params :=
      (Query.parse query).filter fun p => !Query.isInternal p.key || p.key == Query.searchKey
    f.loadCount query = params.length ∧
      (params ≠ [] →
        (f.load query).clauses.map Clause.shown =
            params.map (fun p => (some p.key, d.labelFor p.key, p.value, none)) ∧
          ∀ before, before <+: es → ∀ b ∈ ((new d).edits before).clauses,
            ∀ c ∈ (f.load query).clauses, c.id ≠ b.id) ∧
      (params = [] →
        ∃ id, (f.load query).clauses = [⟨id, none, "Choose...", "", none⟩] ∧
          ∀ c ∈ f.clauses.head?, id = c.id) ∧
      ∀ others, (((new d).edits others).load query).clauses.map Clause.shown =
        (f.load query).clauses.map Clause.shown := by
  intro f params
  have hdirectory : ∀ es, ((new d).edits es).directory = d := directory_edits (new d)
  refine ⟨loadCount_eq f query, fun h => ⟨?_, ?_⟩, clauses_load_of_none, ?_⟩
  · rw [clauses_load_eq_loadedClauses h, map_shown_loadedClauses, hdirectory es]
    rfl
  · intro before hbefore b hb c hc
    rw [clauses_load_eq_loadedClauses h] at hc
    have hold := lt_nextId_edits (.new d) hbefore (List.mem_map_of_mem hb)
    exact Nat.ne_of_gt (Nat.lt_of_lt_of_le hold (nextId_le_of_mem_loadedClauses hc))
  · intro others
    rw [map_shown_load, map_shown_load, hdirectory, hdirectory]

/-- The only clause has a menu and is taken out, and a query is loaded in which one key is
internal when decoded; and while the clause is there a query without criteria is loaded. -/
theorem rows_of_load_over_menu :
    let d : Directory := ⟨[⟨"env", "Environment"⟩]⟩
    let es : List Edit := [.setKey 0 "env", .putMenu 0 "env" ["b", "a"], .pickValue 0 "b"]
    let query := "%5Fx=1&env=a&&_search=q&env=%26"
    let f := (new d).edits (es ++ [.removeClause 0])
    f.loadCount query = 3 ∧
      (f.load query).clauses.map Clause.shown =
        [(some "env", "Environment", "a", none), (some "_search", "_search", "q", none),
          (some "env", "Environment", "&", none)] ∧
      (∀ c ∈ (f.load query).clauses, c.id ≠ 0) ∧
      (((new d).edits es).load "_limit=9").clauses = [⟨0, none, "Choose...", "", none⟩] := by
  intro d es query f
  obtain ⟨hcount, hmade, -, -⟩ := rows_of_load d (es ++ [.removeClause 0]) query
  obtain ⟨-, -, hblank, -⟩ := rows_of_load d es "_limit=9"
  have hparams :
      ((Query.parse query).filter fun p => !Query.isInternal p.key || p.key == Query.searchKey) =
      [⟨"env", "a"⟩, ⟨"_search", "q"⟩, ⟨"env", "&"⟩] := by decide +kernel
  rw [hparams] at hcount hmade
  obtain ⟨hshown, hfresh⟩ := hmade (List.cons_ne_nil _ _)
  refine ⟨hcount, hshown.trans rfl, ?_, ?_⟩
  · exact hfresh [] List.nil_prefix (Clause.blank 0) List.mem_cons_self
  · obtain ⟨id, hclauses, hfirst⟩ := hblank (by decide +kernel)
    have hid : id = 0 := hfirst _ rfl
    rw [hclauses, hid]

end Form

end FacetSearch
