import FacetSearch.Proofs.Text.Percent
import FacetSearch.Proofs.Text.Splitting
import FacetSearch.Query.Parameter

/-!
# A query that was built is read back

The main statement is `parse_build`: parsing undoes building, whatever the keys and values hold.  It
rests on two facts about one parameter.

* Encoding leaves no `&` and no `=`, so the built text falls apart at exactly the
  `&` that `build` put between parameters, and each part at exactly the `=` that
  `render` put between key and value.
* Both sides of that `=` are decoded to what was encoded.

A parameter with an empty key and an empty value is written `=`, which is a token and not the empty
text; that is why no parameter is lost.
-/

namespace FacetSearch.Query

open FacetSearch.Text

/-! ## Components -/

theorem toList_encodeComponent (text : String) :
    (encodeComponent text).toList = Percent.escape isComponentChar text.toList :=
  String.toList_ofList

theorem isComponentChar_hexDigit : ∀ n < 16, isComponentChar (hexDigit n) = true := by
  decide

theorem mem_encodeComponent {text : String} {c : Char} (h : c ∈ (encodeComponent text).toList) :
    isComponentChar c = true ∨ c = '%' := by
  rw [toList_encodeComponent] at h
  rcases Percent.mem_escape h with hc | rfl | ⟨n, hn, rfl⟩
  · exact .inl hc
  · exact .inr rfl
  · exact .inl (isComponentChar_hexDigit n hn)

/-- No character with a meaning in a location occurs in an encoded component. -/
theorem not_mem_encodeComponent {sep : Char} (hsep : isComponentChar sep = false) (hpct : sep ≠ '%')
    (text : String) : sep ∉ (encodeComponent text).toList := by
  intro h
  rcases mem_encodeComponent h with hc | rfl
  · rw [hsep] at hc
    cases hc
  · exact hpct rfl

theorem decode_encodeComponent (text : String) :
    Percent.decode (encodeComponent text).toList = text.toList := by
  rw [toList_encodeComponent]
  exact Percent.decode_escape rfl text.toList

theorem decodeComponent_encodeComponent (text : String) :
    decodeComponent (encodeComponent text) = text := by
  rw [decodeComponent, decode_encodeComponent, String.ofList_toList]

/-! ## One parameter -/

theorem Parameter.toList_render (p : Parameter) :
    p.render.toList
      = (encodeComponent p.key).toList ++ '=' :: (encodeComponent p.value).toList := by
  simp [Parameter.render]

theorem Parameter.render_spec (p : Parameter) : p.render.toList ≠ [] ∧ '&' ∉ p.render.toList := by
  rw [Parameter.toList_render]
  constructor
  · exact List.append_ne_nil_of_right_ne_nil _ (List.cons_ne_nil _ _)
  · have hfree : ∀ text, '&' ∉ (encodeComponent text).toList :=
      not_mem_encodeComponent rfl (by decide)
    exact not_mem_append_sep (hfree p.key) (by decide) (hfree p.value)

theorem Parameter.ofToken_render (p : Parameter) : Parameter.ofToken p.render.toList = p := by
  have hkey : '=' ∉ (encodeComponent p.key).toList := not_mem_encodeComponent rfl (by decide) _
  rw [Parameter.toList_render, Parameter.ofToken, cut_append hkey]
  simp only [decode_encodeComponent, String.ofList_toList]

/-! ## Whole queries -/

/-- Texts that are tokens are read back as such when `&` stands between them. -/
theorem tokens_amp_intercalate {ts : List String}
    (h : ∀ t ∈ ts, t.toList ≠ [] ∧ '&' ∉ t.toList) :
    tokens (· == '&') ("&".intercalate ts).toList = ts.map String.toList := by
  rw [String.toList_intercalate]
  refine tokens_intercalate (by decide) fun t ht => ?_
  obtain ⟨s, hs, rfl⟩ := List.mem_map.mp ht
  obtain ⟨hne, hfree⟩ := h s hs
  refine ⟨hne, fun c hc => beq_eq_false_iff_ne.mpr ?_⟩
  rintro rfl
  exact hfree hc

theorem parse_intercalate {ts : List String}
    (h : ∀ t ∈ ts, t.toList ≠ [] ∧ '&' ∉ t.toList) :
    parse ("&".intercalate ts) = ts.map fun t => Parameter.ofToken t.toList := by
  rw [parse, tokens_amp_intercalate h, List.map_map]
  rfl

theorem tokens_build (params : List Parameter) :
    tokens (· == '&') (build params).toList = params.map fun p => p.render.toList := by
  have h : ∀ t ∈ params.map Parameter.render, t.toList ≠ [] ∧ '&' ∉ t.toList := by
    intro t ht
    obtain ⟨p, -, rfl⟩ := List.mem_map.mp ht
    exact p.render_spec
  rw [build, tokens_amp_intercalate h, List.map_map]
  rfl

theorem map_ofToken_render (params : List Parameter) :
    (params.map fun p => p.render.toList).map Parameter.ofToken = params := by
  simp only [List.map_map, Function.comp_def, Parameter.ofToken_render, List.map_id']

/-- Parsing undoes building: no parameter is lost, changed or moved. -/
theorem parse_build (params : List Parameter) : parse (build params) = params := by
  rw [parse, tokens_build, map_ofToken_render]

/-- Keys and values may be empty or hold the separators themselves. -/
example : build [⟨"", ""⟩, ⟨"a&b", "=%"⟩] = "=&a%26b=%3D%25" := by decide

end FacetSearch.Query
