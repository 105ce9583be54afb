import FacetSearch.Catalog.Server
import FacetSearch.Proofs.Query.RoundTrip
import FacetSearch.Proofs.Web.Resolution
import Mathlib.Logic.Function.Basic

/-!
# Where a request for a catalog goes

The main statement is `one_segment_below_endpoint`.  As a text, the address of a catalog is always
the base address with `/v0/catalog/` and one segment behind it, and the segment is the key in a
spelling that keeps every character out that ends a segment or a path.

The request goes to the path that the address is resolved to, and there a segment of dots is no
name: one dot stands for the path so far and two for the path above.  A dot is spelled as itself,
so the keys `.` and `..` are not asked for by name: the one asks for the endpoint and the other
for what is above it.  They are the only such keys.  To escape their dots would not help, since
`%2E` is resolved as a dot; the spelling of every other key is left alone.
-/

namespace FacetSearch

namespace Text

theorem toList_dropTrailing (c : Char) (s : String) :
    (dropTrailing c s).toList = s.toList.rdropWhile (· == c) :=
  String.toList_ofList

/-- Nothing but `c`s is taken off, and none is left at the end. -/
theorem dropTrailing_spec (c : Char) (s : String) :
    (∃ n, s = dropTrailing c s ++ String.ofList (List.replicate n c)) ∧
      (dropTrailing c s).toList.getLast? ≠ some c := by
  constructor
  · have htaken : ∀ x ∈ s.toList.rtakeWhile (· == c), x = c := fun _ hx =>
      eq_of_beq (List.mem_rtakeWhile_imp (p := (· == c)) hx)
    refine ⟨(s.toList.rtakeWhile (· == c)).length, String.toList_injective ?_⟩
    rw [String.toList_append, String.toList_ofList, toList_dropTrailing,
      ← List.eq_replicate_of_mem htaken, List.rdropWhile_append_rtakeWhile]
  · rw [toList_dropTrailing]
    intro hlast
    have hne : s.toList.rdropWhile (· == c) ≠ [] := by
      intro hnil
      rw [hnil] at hlast
      cases hlast
    refine List.rdropWhile_last_not (· == c) s.toList hne ?_
    exact beq_of_eq ((List.getLast_eq_iff_getLast?_eq_some hne).mpr hlast)

end Text

open Text

namespace Query

theorem isComponentChar_ascii {c : Char} (h : isComponentChar c = true) : c.toNat < 0x80 := by
  have hle : c ≤ '~' := by
    simp only [isComponentChar, isPlain, Bool.or_eq_true, Bool.and_eq_true, decide_eq_true_eq,
      List.contains_iff_mem] at h
    rcases h with ((⟨-, h⟩ | ⟨-, h⟩) | ⟨-, h⟩) | h
    · exact Char.le_trans h (by decide)
    · exact Char.le_trans h (by decide)
    · exact Char.le_trans h (by decide)
    · have hall : ['-', '_', '.', '!', '~', '*', '\'', '(', ')'].all (· ≤ '~') = true := by decide
      exact of_decide_eq_true (List.all_eq_true.mp hall c h)
  exact Nat.lt_of_le_of_lt hle (by decide)

theorem isPathChar_of_isComponentChar {c : Char} (h : isComponentChar c = true) :
    Web.Url.isPathChar c = true := by
  have hall : ∀ n < 0x80, isComponentChar (Char.ofNat n) = true →
      Web.Url.isPathChar (Char.ofNat n) = true := by
    decide
  have hc := hall c.toNat (isComponentChar_ascii h)
  rw [Char.ofNat_toNat] at hc
  exact hc h

/-- A path keeps every character of an encoded component. -/
theorem isPathChar_of_mem {text : String} {c : Char} (h : c ∈ (encodeComponent text).toList) :
    Web.Url.isPathChar c = true := by
  rcases mem_encodeComponent h with hc | rfl
  · exact isPathChar_of_isComponentChar hc
  · rfl

theorem ne_of_mem_encodeComponent {text : String} {c sep : Char}
    (h : c ∈ (encodeComponent text).toList)
    (hsep : isComponentChar sep = false) (hpct : sep ≠ '%') : c ≠ sep := by
  rintro rfl
  exact not_mem_encodeComponent hsep hpct text h

theorem encodeComponent_injective : Function.Injective encodeComponent :=
  Function.LeftInverse.injective decodeComponent_encodeComponent

end Query

namespace Web

/-- A character that may stand in a path is no blank and does not end the path. -/
theorem Url.spec_of_isPathChar {c : Char} (h : isPathChar c = true) :
    isMargin c = false ∧ c ≠ '?' ∧ c ≠ '#' := by
  refine ⟨?_, ?_, ?_⟩
  · simp only [isPathChar, Bool.and_eq_true, decide_eq_true_eq] at h
    exact decide_eq_false (Char.not_le.mpr h.1.1)
  · rintro rfl
    cases h
  · rintro rfl
    cases h

theorem prepare_eq_ok_iff {text : String} {address : Url} :
    prepare text = .ok address ↔ Url.parse? text = some address ∧ address.isWeb = true := by
  rw [prepare]
  cases Url.parse? text with
  | none => simp
  | some u =>
      by_cases hweb : u.isWeb = true
      · simp only [hweb, if_true, Except.ok.injEq, Option.some.injEq]
        exact ⟨fun h => ⟨h, h ▸ hweb⟩, And.left⟩
      · simp only [hweb, if_false, reduceCtorEq, Option.some.injEq, false_iff]
        rintro ⟨rfl, h⟩
        exact hweb h

end Web

namespace Catalog

open Web

/-- Where below the base path a request for the catalog of a field goes. -/
def route (key : String) : String :=
  if key = "." then "/v0/catalog/"
  else if key = ".." then "/v0/"
  else "/v0/catalog/" ++ Query.encodeComponent key

/-! ## The last segment -/

theorem pieces_endpoint (key : String) :
    pieces Url.isSlash ("v0/catalog/".toList ++ (Query.encodeComponent key).toList)
      = ["v0".toList, "catalog".toList] ++ [(Query.encodeComponent key).toList] := by
  have hfree : ∀ c ∈ (Query.encodeComponent key).toList, Url.isSlash c = false := by
    intro c hc
    rw [Url.isSlash, Bool.or_eq_false_iff, beq_eq_false_iff_ne, beq_eq_false_iff_ne]
    exact ⟨Query.ne_of_mem_encodeComponent hc rfl (by decide),
      Query.ne_of_mem_encodeComponent hc rfl (by decide)⟩
  have hone : pieces Url.isSlash (Query.encodeComponent key).toList
      = [(Query.encodeComponent key).toList] := by
    rw [pieces_eq_splitOnP, List.splitOnP_eq_singleton hfree]
  calc pieces Url.isSlash ("v0/catalog/".toList ++ (Query.encodeComponent key).toList)
      = "v0".toList :: "catalog".toList
          :: pieces Url.isSlash (Query.encodeComponent key).toList := rfl
    _ = _ := by rw [hone]; rfl

/-- Only dots are spelled as a segment of dots. -/
theorem dots?_encodeComponent {key : String} {n : Nat} :
    Url.dots? (Query.encodeComponent key).toList = some n ↔
      key = String.ofList (List.replicate n '.') := by
  rw [Query.toList_encodeComponent, Url.dots?_escape_eq_some_iff rfl rfl, ← String.toList_inj,
    String.toList_ofList]

/-- The path that a request goes to, from the segments of the base path. -/
theorem spell_endpoint (kept : List (List Char)) (key : String) :
    String.ofList (Url.spell (Url.resolve kept
        (pieces Url.isSlash ("v0/catalog/".toList ++ (Query.encodeComponent key).toList))))
      = String.ofList (Url.spell kept.reverse) ++ route key := by
  have hone : Url.dots? (Query.encodeComponent key).toList = some 1 ↔ key = "." :=
    dots?_encodeComponent
  have htwo : Url.dots? (Query.encodeComponent key).toList = some 2 ↔ key = ".." :=
    dots?_encodeComponent
  have hpassed : Url.passed kept ["v0".toList, "catalog".toList]
      = "catalog".toList :: "v0".toList :: kept := rfl
  have hescape : Percent.escape Url.isPathChar (Query.encodeComponent key).toList
      = (Query.encodeComponent key).toList :=
    Percent.escape_of_forall fun _ => Query.isPathChar_of_mem
  rw [pieces_endpoint, Url.resolve_append (List.cons_ne_nil _ _), hpassed, Url.resolve_singleton,
    hescape]
  refine String.toList_injective ?_
  simp only [hone, htwo, route, String.toList_append, String.toList_ofList]
  split
  · simp [Url.spell]
  · split
    · simp [Url.spell]
    · simp [Url.spell]

/-- A base address that can be asked for takes every request for a catalog, at a path
that begins with its own. -/
theorem prepare_url {base : String} {address : Url}
    (h : prepare (dropTrailing '/' base) = .ok address)
    (hquery : address.query = none) (hfragment : address.fragment = none)
    (hlast : ∀ c ∈ (dropTrailing '/' base).toList.getLast?, ' ' < c) :
    ∃ path, (address.path = path ∨ address.path = path ++ "/") ∧
      ∀ key, prepare (url base key) = .ok { address with path := path ++ route key } := by
  obtain ⟨hparse, hweb⟩ := prepare_eq_ok_iff.mp h
  have hmargin : ∀ c ∈ (dropTrailing '/' base).toList.getLast?, Url.isMargin c = false :=
    fun c hc => decide_eq_false (Char.not_le.mpr (hlast c hc))
  obtain ⟨kept, hkept, happend⟩ := Url.parse?_append hparse hquery hfragment hmargin
  refine ⟨String.ofList (Url.spell kept.reverse), hkept,
    fun key => prepare_eq_ok_iff.mpr ⟨?_, hweb⟩⟩
  have hpath : ∀ c ∈ "v0/catalog/".toList ++ (Query.encodeComponent key).toList,
      Url.isMargin c = false ∧ c ≠ '?' ∧ c ≠ '#' := by
    intro c hc
    have hendpoint : "v0/catalog/".toList.all Url.isPathChar = true := by decide
    rcases List.mem_append.mp hc with hc | hc
    · exact Url.spec_of_isPathChar (List.all_eq_true.mp hendpoint c hc)
    · exact Url.spec_of_isPathChar (Query.isPathChar_of_mem hc)
  have hurl : url base key
      = dropTrailing '/' base ++ String.ofList
          ('/' :: ("v0/catalog/".toList ++ (Query.encodeComponent key).toList)) := by
    refine String.toList_injective ?_
    simp only [url, String.toList_append, String.toList_ofList, List.append_assoc]
    rfl
  rw [hurl, happend _ hpath, spell_endpoint]

/-- The address of a catalog is the base address without the slashes at its end, then the endpoint
and one segment that stands for the key.  If the base address can be asked for, and has no query,
no fragment and no blank at its end, a request goes below it by `route`: to that segment, unless
it is one of the two that are no names. -/
theorem one_segment_below_endpoint (base : String) :
    ((∃ n, base = dropTrailing '/' base ++ String.ofList (List.replicate n '/')) ∧
      (dropTrailing '/' base).toList.getLast? ≠ some '/') ∧
    (∀ key, ∃ segment, url base key = dropTrailing '/' base ++ "/v0/catalog/" ++ segment ∧
      (∀ c ∈ segment.toList, c ≠ '/' ∧ c ≠ '?' ∧ c ≠ '#') ∧ Query.decodeComponent segment = key ∧
      (segment = "." ↔ key = ".") ∧ (segment = ".." ↔ key = "..")) ∧
    Function.Injective (url base) ∧
    ∀ address, prepare (dropTrailing '/' base) = .ok address → address.query = none →
      address.fragment = none → (∀ c ∈ (dropTrailing '/' base).toList.getLast?, ' ' < c) →
        ∃ path, (address.path = path ∨ address.path = path ++ "/") ∧
          ∀ key, prepare (url base key) = .ok { address with path := path ++ route key } := by
  refine ⟨dropTrailing_spec '/' base, fun key => ⟨Query.encodeComponent key, rfl, ?_, ?_, ?_, ?_⟩,
    ?_, ?_⟩
  · intro c hc
    have hfree : ∀ sep, Query.isComponentChar sep = false → sep ≠ '%' → c ≠ sep := fun _ =>
      Query.ne_of_mem_encodeComponent hc
    exact ⟨hfree '/' rfl (by decide), hfree '?' rfl (by decide), hfree '#' rfl (by decide)⟩
  · exact Query.decodeComponent_encodeComponent key
  · exact Query.encodeComponent_injective.eq_iff' rfl
  · exact Query.encodeComponent_injective.eq_iff' rfl
  · intro key key' h
    exact Query.encodeComponent_injective (String.append_right_inj _ |>.mp h)
  · intro address h hquery hfragment hlast
    exact prepare_url h hquery hfragment hlast

/-- A key with slashes and dots is one name below a base path, whose own dots are resolved. -/
theorem escaped_slashes_stay_below :
    let base := "http://Db.local/x/../api//"
    (∃ segment, url base "a/../b" = "http://Db.local/x/../api" ++ "/v0/catalog/" ++ segment ∧
      Query.decodeComponent segment = "a/../b") ∧
    prepare (url base "a/../b")
      = .ok ⟨"http", "db.local", "/api/v0/catalog/a%2F..%2Fb", none, none⟩ ∧
    prepare (url base "...") = .ok ⟨"http", "db.local", "/api/v0/catalog/...", none, none⟩ := by
  intro base
  have hstem : dropTrailing '/' base = "http://Db.local/x/../api" := by decide +kernel
  obtain ⟨-, hsegment, -, hrequest⟩ := one_segment_below_endpoint base
  simp only [hstem] at hsegment hrequest
  obtain ⟨segment, hurl, -, hdecode, -⟩ := hsegment "a/../b"
  have hlast : "http://Db.local/x/../api".toList.getLast? = some 'i' := by decide +kernel
  obtain ⟨path, hpath, hgo⟩ :=
    hrequest ⟨"http", "db.local", "/api", none, none⟩ (by rfl) rfl rfl fun c hc => by
    obtain rfl : 'i' = c := Option.some.inj (hlast.symm.trans hc)
    decide
  -- the base path ends in no slash, so it is the path that the endpoint is below
  obtain rfl : "/api" = path := hpath.resolve_right fun h => by
    have hlast := congrArg (fun s : String => s.toList.getLast?) h
    simp at hlast
  exact ⟨⟨segment, hurl, hdecode⟩, hgo "a/../b", hgo "..."⟩

/-- The key of two dots is asked for above the endpoint: its segment is the dots
that resolution takes away. -/
theorem dots_leave_endpoint :
    let base := "http://hostdb.local/"
    url base ".." = "http://hostdb.local/v0/catalog/.." ∧
      (¬∃ segment, url base ".." = dropTrailing '/' base ++ "/v0/catalog/" ++ segment ∧
        Query.decodeComponent segment = ".." ∧ segment ≠ "." ∧ segment ≠ "..") ∧
      prepare (url base "..") = .ok ⟨"http", "hostdb.local", "/v0/", none, none⟩ := by
  refine ⟨by decide +kernel, ?_, by rfl⟩
  rintro ⟨segment, hurl, -, -, hdots⟩
  exact hdots (((String.append_right_inj _).mp hurl).symm)

end Catalog

end FacetSearch
