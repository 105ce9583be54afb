import FacetSearch.Proofs.Field.Built
import FacetSearch.Proofs.Form.Reload
import FacetSearch.Proofs.Session.Replay

/-!
# A lucky search

The main statement is `lucky_has_one_effect`.  A lucky search either goes to the location
that it answers, and a form loaded there has one clause, with a field that has a catalog
and a value from this catalog; or it answers why it failed and shows the notice.  The form
and its rows stay as they are.

The random words decide which field and which value, and nothing else.  `Drawn` says what
is left when they are forgotten: the ways in which a draw can go.  A choice that returns
has read finitely many words, and these are the words of its source; from a list with an
element it always has an element.
-/

namespace FacetSearch

/-! ## Choosing from a list -/

namespace WordSource

theorem index_lt {n : Nat} (hn : 0 < n) (words : List UInt32) (used : Nat) :
    (index n words used).1 < n := by
  induction words generalizing used with
  | nil => exact hn
  | cons w r ih =>
      rw [index]
      split
      · -- the high half of `w * n` is below `n`, since `w` is below the size of a word
        have hw : w.toNat < UInt32.size := w.toNat_lt
        rw [Nat.div_lt_iff_lt_mul (by decide), Nat.mul_comm n]
        exact Nat.mul_lt_mul_of_pos_right hw hn
      · exact ih (used + 1)

theorem choose_of_ne_nil {α : Type} (s : WordSource) {xs : List α} (hxs : xs ≠ []) :
    ∃ x ∈ xs, ∃ s', s.choose xs = (some x, s') := by
  obtain ⟨y, r, rfl⟩ := List.exists_cons_of_ne_nil hxs
  have hlt := index_lt (Nat.succ_pos r.length) s.words s.used
  refine ⟨_, List.getElem_mem hlt, (index (y :: r).length s.words s.used).2, ?_⟩
  rw [← List.getElem?_eq_getElem hlt]
  rfl

end WordSource

namespace Lucky

/-! ## How a draw can go -/

/-- The ways in which a draw can go, whatever the random words are. -/
inductive Drawn (d : Directory) (catalog : Catalog) : Outcome → Prop where
  | noFields {s : WordSource} : d.catalogKeys = [] → Drawn d catalog ⟨none, .error .noFields, s⟩
  | failed {key : String} {e : CatalogError} {s : WordSource} : key ∈ d.catalogKeys →
      catalog key = .error e → Drawn d catalog ⟨some key, .error (.catalog e), s⟩
  | emptyCatalog {key : String} {s : WordSource} : key ∈ d.catalogKeys → catalog key = .ok [] →
      Drawn d catalog ⟨some key, .error (.emptyCatalog key), s⟩
  | found {key value : String} {values : List String} {s : WordSource} : key ∈ d.catalogKeys →
      catalog key = .ok values → value ∈ values →
      Drawn d catalog ⟨some key, .ok (location key value), s⟩

variable {d : Directory} {catalog : Catalog} {o : Outcome}

theorem drawn_drawValue {key : String} (hkey : key ∈ d.catalogKeys) (s : WordSource) :
    Drawn d catalog (drawValue catalog key s) := by
  unfold drawValue
  cases hcatalog : catalog key with
  | error e => exact .failed hkey hcatalog
  | ok values =>
      by_cases hvalues : values = []
      · subst hvalues
        exact .emptyCatalog hkey hcatalog
      · obtain ⟨value, hvalue, s', hchoose⟩ := s.choose_of_ne_nil hvalues
        dsimp only
        rw [hchoose]
        exact .found hkey hcatalog hvalue

theorem drawn_draw (d : Directory) (catalog : Catalog) (s : WordSource) :
    Drawn d catalog (draw d catalog s) := by
  unfold draw
  by_cases hkeys : d.catalogKeys = []
  · rw [hkeys]
    exact .noFields hkeys
  · obtain ⟨key, hkey, s', hchoose⟩ := s.choose_of_ne_nil hkeys
    rw [hchoose]
    exact drawn_drawValue hkey s'

section

variable (h : Drawn d catalog o)

include h

theorem Drawn.asked_eq_none_iff : o.asked = none ↔ d.catalogKeys = [] := by
  cases h with
  | noFields hnil => exact ⟨fun _ => hnil, fun _ => rfl⟩
  | failed hkey _ | emptyCatalog hkey _ | found hkey _ _ =>
      exact ⟨nofun, fun hnil => absurd hkey (hnil ▸ List.not_mem_nil)⟩

theorem Drawn.mem_of_asked {key : String} (hasked : o.asked = some key) : key ∈ d.catalogKeys := by
  cases h with
  | noFields _ => cases hasked
  | failed hkey _ | emptyCatalog hkey _ | found hkey _ _ =>
      cases hasked
      exact hkey

theorem Drawn.noFields_iff : o.result = .error .noFields ↔ d.catalogKeys = [] := by
  rw [← h.asked_eq_none_iff]
  cases h with
  | noFields _ => exact ⟨fun _ => rfl, fun _ => rfl⟩
  | failed _ _ | emptyCatalog _ _ | found _ _ _ => exact ⟨nofun, nofun⟩

theorem Drawn.catalog_iff {e : CatalogError} :
    o.result = .error (.catalog e) ↔ ∃ key, o.asked = some key ∧ catalog key = .error e := by
  cases h with
  | noFields _ => exact ⟨nofun, nofun⟩
  | failed _ hcatalog | emptyCatalog _ hcatalog | found _ hcatalog _ => simp [hcatalog]

theorem Drawn.emptyCatalog_iff {key : String} :
    o.result = .error (.emptyCatalog key) ↔ o.asked = some key ∧ catalog key = .ok [] := by
  cases h with
  | noFields _ => exact ⟨nofun, nofun⟩
  | failed _ hcatalog =>
      refine ⟨nofun, ?_⟩
      rintro ⟨hasked, hok⟩
      cases hasked
      cases hcatalog.symm.trans hok
  | emptyCatalog _ hcatalog =>
      constructor
      · intro hresult
        cases hresult
        exact ⟨rfl, hcatalog⟩
      · rintro ⟨hasked, -⟩
        cases hasked
        rfl
  | found _ hcatalog hvalue =>
      refine ⟨nofun, ?_⟩
      rintro ⟨hasked, hok⟩
      cases hasked
      cases hcatalog.symm.trans hok
      exact absurd hvalue List.not_mem_nil

end

/-! ## Where a lucky search leads -/

/-- Whatever the directory, a form that is loaded at the location has one clause, with
this field and this value. -/
def LeadsTo (location key value : String) : Prop :=
  ∃ query, location = "/?" ++ query ∧
    ∀ d, ∃ c, (Form.ofQuery d query).clauses = [c] ∧ c.key = some key ∧ c.value = value

theorem location_eq (key value : String) :
    location key value = "/?" ++ Query.build [⟨Query.luckyKey, "true"⟩, ⟨key, value⟩] := by
  have hflag : (⟨Query.luckyKey, "true"⟩ : Query.Parameter).render = Query.luckyKey ++ "=true" := by
    decide
  rw [location, Query.build, List.map_cons, hflag]
  apply String.toList_injective
  simp [Query.Parameter.render]

/-- The flag is not a criterion of the search, and the field is one. -/
theorem criteria_location {key : String} (hkey : Query.isInternal key = false) (value : String) :
    Form.criteria (Query.build [⟨Query.luckyKey, "true"⟩, ⟨key, value⟩]) = [⟨key, value⟩] := by
  have hflag : Query.isCriterion Query.luckyKey = false := by decide
  have hcriterion : Query.isCriterion key = true := by
    rw [Query.isCriterion, hkey]
    rfl
  rw [Form.criteria_build]
  simp [hflag, hcriterion]

theorem leadsTo_location {key : String} (hkey : Query.isInternal key = false) (value : String) :
    LeadsTo (location key value) key value := by
  refine ⟨_, location_eq key value, fun d => ?_⟩
  have hcriteria := criteria_location hkey value
  obtain ⟨id, hclauses⟩ := Form.clauses_load_of_ne_nil (f := Form.new d)
    (hcriteria ▸ List.cons_ne_nil _ _)
  rw [hcriteria] at hclauses
  exact ⟨_, hclauses, rfl, rfl⟩

theorem Drawn.leadsTo (h : Drawn d catalog o) {location : String} (hok : o.result = .ok location) :
    ∃ key values value, o.asked = some key ∧ key ∈ d.catalogKeys ∧ catalog key = .ok values ∧
      value ∈ values ∧ LeadsTo location key value := by
  cases h with
  | noFields _ | failed _ _ | emptyCatalog _ _ => cases hok
  | @found key value values _ hkey hcatalog hvalue =>
      cases hok
      have hinternal := (Directory.mem_catalogKeys.mp hkey).2
      exact ⟨key, values, value, rfl, hkey, hcatalog, hvalue, leadsTo_location hinternal value⟩

end Lucky

namespace Session

/-! ## The page -/

theorem feelLucky_spec (s : Session) (catalog : Catalog) (source : WordSource) :
    let o := (s.feelLucky catalog source).1
    let s' := (s.feelLucky catalog source).2
    o = Lucky.draw s.form.directory catalog source ∧ s'.fetches = s.fetches ++ o.asked.toList ∧
      ((∃ location, o.result = .ok location ∧
          s'.navigations = s.navigations ++ [location] ∧ s'.notices = s.notices) ∨
        ∃ error, o.result = .error error ∧
          s'.navigations = s.navigations ∧ s'.notices = s.notices ++ [Lucky.notice]) := by
  unfold feelLucky
  dsimp only
  cases hresult : (Lucky.draw s.form.directory catalog source).result with
  | ok location => exact ⟨rfl, rfl, .inl ⟨location, hresult, rfl, rfl⟩⟩
  | error error => exact ⟨rfl, rfl, .inr ⟨error, hresult, rfl, rfl⟩⟩

/-- A lucky search, in whatever state and with whatever catalog and random words, leaves the form
and the rows as they are and has one effect on the page.  Either it goes to the location that it
answers, which leads to a value of the catalog that it asked for, or it answers an error and shows
the notice.  Each error has exactly one cause. -/
theorem lucky_has_one_effect (d : Directory) (events : List Event) (catalog : Catalog)
    (source : WordSource) :
    let s := (new d).run events
    let o := (s.feelLucky catalog source).1
    let s' := (s.feelLucky catalog source).2
    (s'.form = s.form ∧ s'.published = s.published ∧ s'.publications = s.publications) ∧
      ((∃ location, o.result = .ok location ∧
          s'.navigations = s.navigations ++ [location] ∧ s'.notices = s.notices ∧
          ∃ key values value, o.asked = some key ∧ key ∈ d.catalogKeys ∧
            catalog key = .ok values ∧ value ∈ values ∧ Lucky.LeadsTo location key value) ∨
        ∃ error, o.result = .error error ∧
          s'.navigations = s.navigations ∧ s'.notices = s.notices ++ [Lucky.notice]) ∧
      (o.result = .error .noFields ↔ d.catalogKeys = []) ∧
      (∀ e, o.result = .error (.catalog e) ↔ ∃ key, o.asked = some key ∧ catalog key = .error e) ∧
      (∀ key, o.result = .error (.emptyCatalog key) ↔ o.asked = some key ∧ catalog key = .ok []) ∧
      ∀ key, o.asked = some key → key ∈ d.catalogKeys := by
  intro s o s'
  have hdirectory : s.form.directory = d := directory_run d events
  obtain ⟨hdraw, -, heffect⟩ := feelLucky_spec s catalog source
  have hdrawn : Lucky.Drawn d catalog o := by
    rw [show o = _ from hdraw, hdirectory]
    exact Lucky.drawn_draw d catalog source
  refine ⟨?_, ?_, hdrawn.noFields_iff, fun _ => hdrawn.catalog_iff,
    fun _ => hdrawn.emptyCatalog_iff, fun _ => hdrawn.mem_of_asked⟩
  · obtain ⟨_, _, _, hpage⟩ := feelLucky_eq s catalog source
    rw [show s' = _ from hpage]
    exact ⟨rfl, rfl, rfl⟩
  · rcases heffect with ⟨location, hok, hnavigations, hnotices⟩ | herror
    · exact .inl ⟨location, hok, hnavigations, hnotices, hdrawn.leadsTo hok⟩
    · exact .inr herror

/-- The first word is refused.  The field and the value that are drawn hold separators, and the
form has been edited before. -/
theorem lucky_search_with_separators :
    let d : Directory := ⟨[⟨"_search", "Text Search"⟩, ⟨"a&b", "A & B"⟩]⟩
    let catalog : Catalog := fun _ => .ok ["", "50%"]
    let source : WordSource := .ofList [4294967295, 0, 2147483648]
    let events : List Event := [.addClause, .selectKey 1 "a&b"]
    let o := (((new d).run events).feelLucky catalog source).1
    let s' := (((new d).run events).feelLucky catalog source).2
    (o.asked = some "a&b" ∧ "a&b" ∈ d.catalogKeys) ∧
      s'.form = ((new d).run events).form ∧
      s'.navigations = ["/?_imfeelinglucky=true&a%26b=50%25"] ∧ s'.notices = [] ∧
      ∃ key value, Lucky.LeadsTo "/?_imfeelinglucky=true&a%26b=50%25" key value := by
  intro d catalog source events
  obtain ⟨⟨hform, -⟩, heffect, -, -, -, hmem⟩ := lucky_has_one_effect d events catalog source
  have hresult : (((new d).run events).feelLucky catalog source).1.result
      = .ok "/?_imfeelinglucky=true&a%26b=50%25" := by decide +kernel
  have hasked : (((new d).run events).feelLucky catalog source).1.asked = some "a&b" := by
    decide +kernel
  refine ⟨⟨hasked, hmem "a&b" hasked⟩, hform, ?_⟩
  rcases heffect with ⟨location, hok, hnavigations, hnotices, key, _, value, -, -, -, -, hleads⟩ |
      ⟨_, herror, -⟩
  · cases hresult.symm.trans hok
    exact ⟨hnavigations, hnotices, key, value, hleads⟩
  · cases hresult.symm.trans herror

end Session

end FacetSearch
