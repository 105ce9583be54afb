import FacetSearch.Markup.Html
import FacetSearch.Proofs.Markup.Skeleton

/-!
# Reading rendered fragments

A reader of HTML sees a text, not a tree of elements.  `Html.read` finds the tags in a text: a
tag goes from a `<` to the next `>`, and what is between tags is read character by character.
Tags nest if every opening tag has its closing tag, and only whole elements and characters
stand between the two (`Nested`).

The main statement is `read_render`: from a rendered fragment exactly the tags of its elements are
read, however hostile its texts are.  So the tags of a fragment nest (`nested_read_render`).  The
fragment must have names without special characters, and no element without a closing tag.
-/

namespace FacetSearch.Markup.Html

/-- What is read from a text: tags, and the characters between them. -/
inductive Token where
  | opening (name attributes : String)
  | closing (name : String)
  | char (c : Char)
deriving DecidableEq, Repr

/-- The tag that stands between `<` and `>`.  Its name goes to the first blank, and
the rest are its attributes. -/
def Token.ofTag : List Char → Token
  | '/' :: name => .closing (String.ofList name)
  | s => .opening (String.ofList (s.takeWhile (· != ' '))) (String.ofList (s.dropWhile (· != ' ')))

/-- Reads on, between two tags, or inside one of which something was read before.  A tag that the
end cuts short is taken for an opening one. -/
def readFrom : Option (List Char) → List Char → List Token
  | none, [] => []
  | some inside, [] => [.opening (String.ofList inside) ""]
  | none, c :: r => if c = '<' then readFrom (some []) r else .char c :: readFrom none r
  | some inside, c :: r =>
    if c = '>' then Token.ofTag inside :: readFrom none r else readFrom (some (inside ++ [c])) r

/-- The tags and characters of a text. -/
def read (text : String) : List Token :=
  readFrom none text.toList

/-- Every opening tag has its closing tag, and elements do not overlap. -/
inductive Nested : List Token → Prop where
  | nil : Nested []
  | char (c : Char) {r : List Token} : Nested r → Nested (.char c :: r)
  | element (name attributes : String) {inner r : List Token} :
      Nested inner → Nested r →
      Nested (.opening name attributes :: inner ++ .closing name :: r)

/-! ## The tags of a fragment -/

/-- The attributes of a tag as they are written. -/
def attributeText (attributes : List (String × String)) : String :=
  String.join (attributes.map renderAttribute)

mutual

/-- The tags and characters of a fragment. -/
def tokens : Html → List Token
  | text s => (escape s).toList.map .char
  | entity name => ("&" ++ name ++ ";").toList.map .char
  | element name attributes children =>
    .opening name (attributeText attributes) :: tokensOfAll children ++ [.closing name]
  | void name attributes => [.opening name (attributeText attributes)]

/-- The tags and characters of fragments one after another. -/
def tokensOfAll : List Html → List Token
  | [] => []
  | h :: r => tokens h ++ tokensOfAll r

end

/-- A name with no character that means something in a tag. -/
def IsName (name : String) : Prop :=
  ∀ c ∈ name.toList, c ≠ '<' ∧ c ≠ '>' ∧ c ≠ '/' ∧ c ≠ ' '

mutual

/-- The names in a fragment are names, and all of its elements are closed. -/
def Closed : Html → Prop
  | text _ => True
  | entity name => IsName name
  | element name attributes children =>
    IsName name ∧ (∀ a ∈ attributes, IsName a.1) ∧ AllClosed children
  | void _ _ => False

/-- The fragments are all such. -/
def AllClosed : List Html → Prop
  | [] => True
  | h :: r => Closed h ∧ AllClosed r

end

/-! ## Characters between tags -/

theorem readFrom_chars {s : List Char} (h : '<' ∉ s) (r : List Char) :
    readFrom none (s ++ r) = s.map .char ++ readFrom none r := by
  induction s with
  | nil => rfl
  | cons c s ih =>
      have hc : c ≠ '<' := Ne.symm (List.ne_of_not_mem_cons h)
      rw [List.cons_append, readFrom, if_neg hc, ih (List.not_mem_of_not_mem_cons h), List.map_cons,
        List.cons_append]

theorem isMarkup_of_mem_escape {text : String} {c : Char} (h : c ∈ (escape text).toList) :
    isMarkup c = false := by
  rw [escape, String.toList_ofList] at h
  obtain ⟨x, -, hx⟩ := List.mem_flatMap.mp h
  exact not_isMarkup_of_mem_escapeChar x c hx

/-! ## Tags -/

theorem readFrom_inside {s : List Char} (h : '>' ∉ s) (inside r : List Char) :
    readFrom (some inside) (s ++ '>' :: r) = Token.ofTag (inside ++ s) :: readFrom none r := by
  induction s generalizing inside with
  | nil => simp [readFrom]
  | cons c s ih =>
      have hc : c ≠ '>' := Ne.symm (List.ne_of_not_mem_cons h)
      rw [List.cons_append, readFrom, if_neg hc, ih (List.not_mem_of_not_mem_cons h),
        List.append_assoc, List.singleton_append]

theorem readFrom_tag {s : List Char} (h : '>' ∉ s) (r : List Char) :
    readFrom none ('<' :: (s ++ '>' :: r)) = Token.ofTag s :: readFrom none r := by
  rw [readFrom, if_pos rfl, readFrom_inside h, List.nil_append]

theorem toList_attributeText (attributes : List (String × String)) :
    (attributeText attributes).toList = attributes.flatMap fun a => (renderAttribute a).toList := by
  rw [attributeText, String.toList_join, List.flatMap_map]

theorem toList_renderAttribute (a : String × String) :
    (renderAttribute a).toList
      = ' ' :: (a.1.toList ++ '=' :: '"' :: ((escape a.2).toList ++ ['"'])) := by
  simp [renderAttribute]

theorem not_mem_attributeText {attributes : List (String × String)}
    (h : ∀ a ∈ attributes, IsName a.1) :
    '>' ∉ (attributeText attributes).toList := by
  rw [toList_attributeText]
  intro hmem
  obtain ⟨a, ha, hin⟩ := List.mem_flatMap.mp hmem
  have hname : '>' ∉ a.1.toList := fun hc => (h a ha _ hc).2.1 rfl
  have hvalue : '>' ∉ (escape a.2).toList := fun hc => Bool.noConfusion (isMarkup_of_mem_escape hc)
  rw [toList_renderAttribute] at hin
  simp [hname, hvalue] at hin

/-- There are no attributes, or a blank stands before them. -/
theorem attributeText_cases (attributes : List (String × String)) :
    (attributeText attributes).toList = [] ∨ ∃ r, (attributeText attributes).toList = ' ' :: r := by
  rw [toList_attributeText]
  cases attributes with
  | nil => exact .inl rfl
  | cons a r =>
      rw [List.flatMap_cons, toList_renderAttribute]
      exact .inr ⟨_, rfl⟩

/-- An opening tag is read as its name and its attributes. -/
theorem ofTag_opening {name : String} (hname : IsName name) (attributes : List (String × String)) :
    Token.ofTag (name.toList ++ (attributeText attributes).toList)
      = .opening name (attributeText attributes) := by
  have hplain : ∀ c ∈ name.toList, (c != ' ') = true :=
    fun c hc => bne_iff_ne.mpr (hname c hc).2.2.2
  rw [Token.ofTag]
  · rw [List.takeWhile_append_of_pos hplain, List.dropWhile_append_of_pos hplain]
    rcases attributeText_cases attributes with hattributes | ⟨r, hattributes⟩
    · have hempty : attributeText attributes = "" := String.toList_eq_nil_iff.mp hattributes
      simp [hempty]
    · have htext : attributeText attributes = String.ofList (' ' :: r) :=
        String.toList_inj.mp (by simpa)
      simp [htext]
  · -- neither a name nor what follows it begins with a slash
    intro s heq
    cases hchars : name.toList with
    | nil =>
        rw [hchars, List.nil_append] at heq
        rcases attributeText_cases attributes with hattributes | ⟨r, hattributes⟩
        · rw [hattributes] at heq
          cases heq
        · rw [hattributes] at heq
          cases heq
    | cons c r =>
        rw [hchars] at heq
        cases heq
        have hslash : '/' ∈ name.toList := hchars ▸ List.mem_cons_self
        exact (hname _ hslash).2.2.1 rfl

theorem readFrom_openTag {name : String} {attributes : List (String × String)} (hname : IsName name)
    (hattributes : ∀ a ∈ attributes, IsName a.1) (r : List Char) :
    readFrom none ((openTag name attributes).toList ++ r)
      = .opening name (attributeText attributes) :: readFrom none r := by
  have hfree : '>' ∉ name.toList ++ (attributeText attributes).toList := by
    intro hmem
    rcases List.mem_append.mp hmem with hc | hc
    · exact (hname _ hc).2.1 rfl
    · exact not_mem_attributeText hattributes hc
  have htext : (openTag name attributes).toList ++ r
      = '<' :: ((name.toList ++ (attributeText attributes).toList) ++ '>' :: r) := by
    simp [openTag, attributeText]
  rw [htext, readFrom_tag hfree, ofTag_opening hname]

theorem readFrom_closeTag {name : String} (hname : IsName name) (r : List Char) :
    readFrom none ((closeTag name).toList ++ r) = .closing name :: readFrom none r := by
  have hfree : '>' ∉ '/' :: name.toList := by
    intro hmem
    rcases List.mem_cons.mp hmem with hc | hc
    · cases hc
    · exact (hname _ hc).2.1 rfl
  have htext : (closeTag name).toList ++ r = '<' :: (('/' :: name.toList) ++ '>' :: r) := by
    simp [closeTag]
  rw [htext, readFrom_tag hfree, Token.ofTag, String.ofList_toList]

/-! ## Fragments -/

mutual

theorem readFrom_render : ∀ (h : Html), h.Closed → ∀ r : List Char,
    readFrom none (h.render.toList ++ r) = h.tokens ++ readFrom none r
  | text s, _, r => by
      have hfree : '<' ∉ (escape s).toList := fun hc => Bool.noConfusion (isMarkup_of_mem_escape hc)
      rw [render, tokens, readFrom_chars hfree]
  | entity name, hname, r => by
      have hfree : '<' ∉ ("&" ++ name ++ ";").toList := by
        intro hmem
        simp at hmem
        exact (hname _ hmem).1 rfl
      rw [render, tokens, readFrom_chars hfree]
  | element name attributes children, ⟨hname, hattributes, hchildren⟩, r => by
      rw [render, tokens, String.toList_append, String.toList_append, List.append_assoc,
        List.append_assoc, readFrom_openTag hname hattributes,
        readFrom_renderAll children hchildren, readFrom_closeTag hname]
      simp
  | void _ _, h, _ => h.elim

theorem readFrom_renderAll : ∀ (hs : List Html), AllClosed hs → ∀ r : List Char,
    readFrom none ((renderAll hs).toList ++ r) = tokensOfAll hs ++ readFrom none r
  | [], _, _ => rfl
  | h :: hs, ⟨hh, hhs⟩, r => by
      rw [renderAll, tokensOfAll, String.toList_append, List.append_assoc, readFrom_render h hh,
        readFrom_renderAll hs hhs, List.append_assoc]

end

/-- From a rendered fragment its own tags are read, and no others. -/
theorem read_render {h : Html} (hclosed : h.Closed) : read h.render = h.tokens := by
  have hread := readFrom_render h hclosed []
  rwa [List.append_nil, readFrom, List.append_nil] at hread

/-! ## Nesting -/

theorem Nested.append {s r : List Token} (hs : Nested s) (hr : Nested r) : Nested (s ++ r) := by
  induction hs with
  | nil => exact hr
  | char c _ ih => exact .char c ih
  | element name attributes hinner _ _ ih =>
      rw [List.append_assoc]
      exact .element name attributes hinner ih

theorem nested_chars (s : List Char) : Nested (s.map .char) := by
  induction s with
  | nil => exact .nil
  | cons c s ih => exact .char c ih

mutual

theorem nested_tokens : ∀ h : Html, h.Closed → Nested h.tokens
  | text _, _ => nested_chars _
  | entity _, _ => nested_chars _
  | element _ _ children, ⟨_, _, hchildren⟩ =>
      .element _ _ (nested_tokensOfAll children hchildren) .nil
  | void _ _, h => h.elim

theorem nested_tokensOfAll : ∀ hs : List Html, AllClosed hs → Nested (tokensOfAll hs)
  | [], _ => .nil
  | h :: r, ⟨hh, hr⟩ => (nested_tokens h hh).append (nested_tokensOfAll r hr)

end

/-- The tags of a rendered fragment nest. -/
theorem nested_read_render {h : Html} (hclosed : h.Closed) : Nested (read h.render) := by
  rw [read_render hclosed]
  exact nested_tokens h hclosed

end FacetSearch.Markup.Html
