import FacetSearch.Proofs.Text.Percent
import FacetSearch.Proofs.Text.Splitting
import FacetSearch.Web.Url
import Mathlib.Data.List.DropRight

/-!
# What is put behind an address

The main statement is `parse?_append`: to put a path behind an address that has no query and no
fragment changes nothing in scheme and authority, and the path of the longer address is the path
of the shorter one with the new segments resolved behind it.

It rests on the two ways in which the reader of addresses goes through a text.  Both ends are
cleaned, and the scheme, the slashes and the authority are taken off the front, each up to its
first end: none of these looks beyond the authority, and a path begins with a slash, which ends
one.  Then the segments are resolved from left to right: what the ones in front leave behind
(`passed`) is all that the later ones can see.  It is the later ones that may take it back: a
segment of two dots, plain or escaped, drops what was kept last, wherever that came from.
-/

namespace FacetSearch

/-! ## The first end of a text -/

namespace Text

variable {p : Char → Bool} {c sep : Char}

theorem takeWhile_append_stop (hc : p c = false) (s t : List Char) :
    (s ++ c :: t).takeWhile p = s.takeWhile p := by
  induction s with
  | nil => exact List.takeWhile_cons_of_neg (by simp [hc])
  | cons x s ih => simp only [List.cons_append, List.takeWhile_cons, ih]

theorem dropWhile_append_stop (hc : p c = false) (s t : List Char) :
    (s ++ c :: t).dropWhile p = s.dropWhile p ++ c :: t := by
  induction s with
  | nil => exact List.dropWhile_cons_of_neg (by simp [hc])
  | cons x s ih =>
      simp only [List.cons_append, List.dropWhile_cons, ih]
      split <;> rfl

theorem cut?_append_of_eq_some {s before after : List Char} (h : cut? sep s = some (before, after))
    (t : List Char) :
    cut? sep (s ++ t) = some (before, after ++ t) := by
  obtain ⟨rfl, hfree⟩ := cut?_eq_some_iff.mp h
  rw [List.append_assoc, List.cons_append, cut?_append hfree]

end Text

namespace Web.Url

open Text

/-! ## Dots -/

theorem dots?_replicate (n : Nat) : dots? (List.replicate n '.') = some n := by
  induction n with
  | zero => rfl
  | succ n ih =>
      rw [List.replicate_succ, dots?, ih]
      rfl

/-- A segment of nothing but dots, plain or escaped, stands for as many dots. -/
theorem unescape_of_dots? {s : List Char} {n : Nat} (h : dots? s = some n) :
    Percent.unescape s = Utf8.encode (List.replicate n '.') := by
  fun_induction dots? s generalizing n with
  | case1 =>
      cases h
      rfl
  | case2 r ih =>
      obtain ⟨m, hm, rfl⟩ := Option.map_eq_some_iff.mp h
      rw [Percent.unescape_cons (by decide), ih hm, List.replicate_succ, Utf8.encode_cons]
  | case3 r ih | case4 r ih =>
      obtain ⟨m, hm, rfl⟩ := Option.map_eq_some_iff.mp h
      rw [Percent.unescape, ih hm, List.replicate_succ, Utf8.encode_cons]
      rfl
  | case5 => cases h

theorem decode_of_dots? {s : List Char} {n : Nat} (h : dots? s = some n) :
    Percent.decode s = List.replicate n '.' := by
  rw [Percent.decode, unescape_of_dots? h, Utf8.decodeLossy_encode]

/-- A text whose dots stay dots is spelled as a segment of dots only if it is nothing but dots. -/
theorem dots?_escape_eq_some_iff {keep : Char → Bool} (hpct : keep '%' = false)
    (hdot : keep '.' = true) {s : List Char} {n : Nat} :
    dots? (Percent.escape keep s) = some n ↔ s = List.replicate n '.' := by
  constructor
  · intro h
    rw [← Percent.decode_escape hpct s, decode_of_dots? h]
  · rintro rfl
    rw [Percent.escape_of_forall fun c hc => List.eq_of_mem_replicate hc ▸ hdot, dots?_replicate]

/-! ## Segments -/

/-- The segments as they stand in a path, each with a slash before it. -/
def spell (segments : List (List Char)) : List Char :=
  segments.flatMap fun segment => '/' :: segment

theorem spell_append (xs ys : List (List Char)) : spell (xs ++ ys) = spell xs ++ spell ys :=
  List.flatMap_append

/-- What is kept, last first, of segments that others follow. -/
def passed (kept : List (List Char)) : List (List Char) → List (List Char)
  | [] => kept
  | s :: r =>
    if dots? s = some 1 then passed kept r
    else if dots? s = some 2 then passed (kept.drop 1) r
    else passed (Percent.escape isPathChar s :: kept) r

/-- Later segments see only what the earlier ones left. -/
theorem resolve_append {ys : List (List Char)} (hys : ys ≠ []) (kept xs : List (List Char)) :
    resolve kept (xs ++ ys) = resolve (passed kept xs) ys := by
  induction xs generalizing kept with
  | nil => rfl
  | cons x xs ih =>
      have hlast : (xs ++ ys).isEmpty = false := by simp [hys]
      rw [List.cons_append, resolve, passed]
      simp only [hlast, Bool.false_eq_true, if_false]
      split
      · exact ih _
      · split
        · exact ih _
        · exact ih _

theorem resolve_singleton (kept : List (List Char)) (s : List Char) :
    resolve kept [s] =
      (if dots? s = some 1 then [] :: kept
        else if dots? s = some 2 then [] :: kept.drop 1
        else Percent.escape isPathChar s :: kept).reverse := by
  rw [resolve]
  split
  · rfl
  · split
    · rfl
    · rfl

/-- A path is what its segments leave for others, or ends with a slash after that. -/
theorem resolve_eq_passed (kept xs : List (List Char)) :
    resolve kept xs = (passed kept xs).reverse ∨
      resolve kept xs = (passed kept xs).reverse ++ [[]] := by
  induction xs generalizing kept with
  | nil => exact .inl rfl
  | cons x xs ih =>
      rw [resolve, passed]
      cases xs with
      | nil =>
          simp only [List.isEmpty_nil, if_true]
          split
          · exact .inr (List.reverse_cons)
          · split
            · exact .inr (List.reverse_cons)
            · exact .inl rfl
      | cons y ys =>
          simp only [List.isEmpty_cons, Bool.false_eq_true, if_false]
          split
          · exact ih _
          · split
            · exact ih _
            · exact ih _

/-! ## The parts in front of the path -/

theorem isDropped_eq_false {c : Char} (hc : isMargin c = false) : isDropped c = false := by
  simp only [isMargin, decide_eq_false_iff_not] at hc
  simp only [isDropped, Bool.or_eq_false_iff, beq_eq_false_iff_ne]
  refine ⟨⟨?_, ?_⟩, ?_⟩ <;> rintro rfl <;> exact hc (by decide)

/-- An address is cleaned up to its last character that is no blank; what
stands from there on stays. -/
theorem clean_append_cons {c : Char} (hc : isMargin c = false) (s : List Char) {t : List Char}
    (ht : ∀ x ∈ t, isMargin x = false) :
    clean (s ++ c :: t) = (s.dropWhile isMargin).filter (fun x => !isDropped x) ++ c :: t := by
  have hend : ∀ x ∈ c :: t, isMargin x = false := List.forall_mem_cons.mpr ⟨hc, ht⟩
  have htrim : (s.dropWhile isMargin ++ c :: t).rdropWhile isMargin
      = s.dropWhile isMargin ++ c :: t := by
    refine List.rdropWhile_eq_self_iff.mpr fun hne => Bool.eq_false_iff.mp ?_
    rw [List.getLast_append_of_ne_nil hne (List.cons_ne_nil c t)]
    exact hend _ (List.getLast_mem _)
  have hkept : (c :: t).filter (fun x => !isDropped x) = c :: t :=
    List.filter_eq_self.mpr fun x hx => by
      rw [isDropped_eq_false (hend x hx)]
      rfl
  rw [List.rdropWhile] at htrim
  rw [clean, dropWhile_append_stop hc, htrim, List.filter_append, hkept]

/-- What is put behind an address that ends in no blank stays as it is and
changes nothing in front of it. -/
theorem clean_append {s t : List Char} (hs : ∀ c ∈ s.getLast?, isMargin c = false) (hne : s ≠ [])
    (ht : ∀ c ∈ t, isMargin c = false) : clean (s ++ t) = clean s ++ t := by
  obtain ⟨init, c, rfl⟩ := (List.eq_nil_or_concat s).resolve_left hne
  rw [List.concat_eq_append] at hs ⊢
  have hc : isMargin c = false := hs c List.getLast?_concat
  rw [List.append_assoc, List.singleton_append, clean_append_cons hc init ht,
    clean_append_cons hc init (List.forall_mem_nil _), List.append_assoc, List.singleton_append]

theorem scheme?_append {s rest : List Char} {scheme : String} (h : scheme? s = some (scheme, rest))
    (t : List Char) :
    scheme? (s ++ t) = some (scheme, rest ++ t) := by
  rw [scheme?] at h
  split at h
  · rename_i c r after hcut
    rw [scheme?, cut?_append_of_eq_some hcut]
    simp only
    split at h
    · rename_i hletters
      cases h
      rw [if_pos hletters]
    · cases h
  · cases h

/-- An address without query and fragment, part by part. -/
theorem parse?_eq_some_iff {text scheme authority path : String} :
    parse? text = some ⟨scheme, authority, path, none, none⟩ ↔
      ∃ s, scheme? (clean text.toList) = some (scheme, s) ∧
        authority? scheme ((s.dropWhile isSlash).takeWhile fun c => !endsAuthority c)
          = some authority ∧
        '#' ∉ (s.dropWhile isSlash).dropWhile (fun c => !endsAuthority c) ∧
        '?' ∉ (s.dropWhile isSlash).dropWhile (fun c => !endsAuthority c) ∧
        pathOf ((s.dropWhile isSlash).dropWhile fun c => !endsAuthority c) = path := by
  simp only [parse?, bind, pure, Option.bind_eq_some_iff, Prod.exists]
  constructor
  · rintro ⟨scheme', s, hscheme, authority', hauthority, h⟩
    cases hfragment : cut? '#' ((s.dropWhile isSlash).dropWhile fun c => !endsAuthority c) with
    | some _ =>
        rw [hfragment] at h
        split at h <;> cases h
    | none =>
        rw [hfragment] at h
        cases hquery : cut? '?' ((s.dropWhile isSlash).dropWhile fun c => !endsAuthority c) with
        | some _ =>
            simp only [hquery] at h
            cases h
        | none =>
            simp only [hquery] at h
            cases h
            exact ⟨s, hscheme, hauthority, cut?_eq_none_iff.mp hfragment,
              cut?_eq_none_iff.mp hquery, rfl⟩
  · rintro ⟨s, hscheme, hauthority, hfragment, hquery, rfl⟩
    refine ⟨scheme, s, hscheme, authority, hauthority, ?_⟩
    simp only [cut?_eq_none_iff.mpr hfragment, cut?_eq_none_iff.mpr hquery]

theorem pathOf_cons (c : Char) (r : List Char) :
    pathOf (c :: r) = String.ofList (spell (resolve [] (pieces isSlash r))) :=
  rfl

/-- What stands behind an authority leaves some segments for a path that is put behind it. -/
theorem exists_pathOf_append (p : List Char) :
    ∃ kept : List (List Char),
      (pathOf p = String.ofList (spell kept.reverse) ∨
        pathOf p = String.ofList (spell kept.reverse) ++ "/") ∧
      ∀ t, pathOf (p ++ '/' :: t) = String.ofList (spell (resolve kept (pieces isSlash t))) := by
  cases p with
  | nil => exact ⟨[], .inr rfl, fun t => rfl⟩
  | cons c r =>
      refine ⟨passed [] (pieces isSlash r), ?_, fun t => ?_⟩
      · rw [pathOf_cons]
        rcases resolve_eq_passed [] (pieces isSlash r) with h | h
        · exact .inl (by rw [h])
        · refine .inr ?_
          rw [h, spell_append, String.ofList_append]
          rfl
      · have hne : pieces isSlash t ≠ [] :=
          pieces_eq_splitOnP isSlash t ▸ List.splitOnP_ne_nil isSlash t
        rw [List.cons_append, pathOf_cons, pieces_append_sep rfl, resolve_append hne]

/-- The reader of addresses finds the parts of an address again when a path is put behind it. -/
theorem parse?_append {text : String} {address : Url} (h : parse? text = some address)
    (hquery : address.query = none) (hfragment : address.fragment = none)
    (hlast : ∀ c ∈ text.toList.getLast?, isMargin c = false) :
    ∃ kept : List (List Char),
      (address.path = String.ofList (spell kept.reverse) ∨
        address.path = String.ofList (spell kept.reverse) ++ "/") ∧
      ∀ t : List Char, (∀ c ∈ t, isMargin c = false ∧ c ≠ '?' ∧ c ≠ '#') →
        parse? (text ++ String.ofList ('/' :: t))
          = some { address with
              path := String.ofList (spell (resolve kept (pieces isSlash t))) } := by
  obtain ⟨scheme, authority, path, query, fragment⟩ := address
  obtain rfl : query = none := hquery
  obtain rfl : fragment = none := hfragment
  obtain ⟨s, hscheme, hauthority, hhash, hmark, hpath⟩ := parse?_eq_some_iff.mp h
  obtain ⟨kept, hkept, hgo⟩ :=
    exists_pathOf_append ((s.dropWhile isSlash).dropWhile fun c => !endsAuthority c)
  refine ⟨kept, hpath ▸ hkept, fun t ht => parse?_eq_some_iff.mpr ?_⟩
  have hne : text.toList ≠ [] := by
    intro hnil
    rw [hnil] at hscheme
    cases hscheme
  -- the authority is not empty, so the slashes before it end before the text does
  have hslashes : ((s ++ '/' :: t).dropWhile isSlash) = s.dropWhile isSlash ++ '/' :: t := by
    rw [List.dropWhile_append, if_neg]
    intro hnil
    rw [List.isEmpty_iff.mp hnil] at hauthority
    cases hauthority
  have hends : (!endsAuthority '/') = false := rfl
  have hclean : clean (text ++ String.ofList ('/' :: t)).toList
      = clean text.toList ++ '/' :: t := by
    rw [String.toList_append, String.toList_ofList]
    exact clean_append hlast hne (List.forall_mem_cons.mpr ⟨by decide, fun c hc => (ht c hc).1⟩)
  refine ⟨s ++ '/' :: t, hclean ▸ scheme?_append hscheme _, ?_⟩
  rw [hslashes, takeWhile_append_stop hends, dropWhile_append_stop hends]
  refine ⟨hauthority, ?_, ?_, hgo t⟩
  · exact not_mem_append_sep hhash (by decide) fun hmem => (ht _ hmem).2.2 rfl
  · exact not_mem_append_sep hmark (by decide) fun hmem => (ht _ hmem).2.1 rfl

end Web.Url

end FacetSearch
