import Formwright.Markup.Html

/-!
# Reading markup

Markup is a text; what a browser makes of it is decided by reading it a character at a time. This
file has such a reader, strict where a browser is lenient: a `<` always begins a tag, attributes
have a value between double quotes, and a value holds none of `<`, `>` and `"`. It then shows that
the text of a clean tree reads as the tags of that tree, in order, and that these are nested.

- `Reader.step`, `Reader.read`: the reader, one character at a time.
- `nested`: start and end tags match, `input` being the only element without an end tag.
- `Html.tags`: the tags of a tree.
- `Html.Clean`: the trees whose pieces keep to the places they stand in.
- `read_writeAll`, `nested_tags`: reading back what was written.
-/

namespace Formwright

/-- A tag of a text; attribute values are as they stand between their quotes. -/
inductive Tag where
  | start (name : String) (attrs : List (String × String))
  | finish (name : String)
  deriving DecidableEq, Repr

/-- The name of the element a tag belongs to. -/
def Tag.name : Tag → String
  | .start name _ => name
  | .finish name => name

/-- The attributes a tag has. -/
def Tag.attrs : Tag → List (String × String)
  | .start _ attrs => attrs
  | .finish _ => []

/-- The elements that templates are made of, but for `input`. -/
def elementTags : List String :=
  ["div", "li", "label", "abbr", "fieldset", "legend", "span", "ol", "select", "option", "textarea",
    "p", "h3", "template", "a"]

/-! ## The reader -/

namespace Reader

/-- A character of a tag name. -/
def isTagChar (c : Char) : Bool := c.isLower || c.isDigit

/-- A character that means nothing in text or between quotes. -/
def isInert (c : Char) : Bool := c != '<' && c != '>' && c != '"'

/-- A character of an attribute name: no blank and nothing that ends a name, a tag or a value. -/
def isNameChar (c : Char) : Bool :=
  isInert c && c != '\'' && c != '=' && c != '/' && c != ' ' && c != '\t' && c != '\n' && c != '\r'
    && c.toNat != 11 && c.toNat != 12

/-- Where in a text the reader is. Names and attributes are those read so far of the open tag. -/
inductive Place where
  | text
  /-- After `<`. -/
  | opened
  | startName (name : List Char)
  | endName (name : List Char)
  | attrName (tag : List Char) (attrs : List (String × String)) (name : List Char)
  /-- After `=`. -/
  | equals (tag : List Char) (attrs : List (String × String)) (name : List Char)
  | attrValue (tag : List Char) (attrs : List (String × String)) (name value : List Char)
  /-- After the quote that ends a value. -/
  | afterValue (tag : List Char) (attrs : List (String × String))

/-- Where the reader is, and the tags before. -/
structure State where
  place : Place
  tags : List Tag

/-- Reads one character; there is no next state where the character may not stand. -/
def step : State → Char → Option State
  | ⟨.text, tags⟩, c =>
    if c = '<' then some ⟨.opened, tags⟩ else if isInert c then some ⟨.text, tags⟩ else none
  | ⟨.opened, tags⟩, c =>
    if c = '/' then some ⟨.endName [], tags⟩
    else if isTagChar c then some ⟨.startName [c], tags⟩ else none
  | ⟨.startName name, tags⟩, c =>
    if isTagChar c then some ⟨.startName (name ++ [c]), tags⟩
    else if c = ' ' then some ⟨.attrName name [] [], tags⟩
    else if c = '>' then some ⟨.text, tags ++ [.start (String.ofList name) []]⟩ else none
  | ⟨.endName name, tags⟩, c =>
    if isTagChar c then some ⟨.endName (name ++ [c]), tags⟩
    else if c = '>' then some ⟨.text, tags ++ [.finish (String.ofList name)]⟩ else none
  | ⟨.attrName tag attrs name, tags⟩, c =>
    if c = '=' then some ⟨.equals tag attrs name, tags⟩
    else if isNameChar c then some ⟨.attrName tag attrs (name ++ [c]), tags⟩ else none
  | ⟨.equals tag attrs name, tags⟩, c =>
    if c = '"' then some ⟨.attrValue tag attrs name [], tags⟩ else none
  | ⟨.attrValue tag attrs name value, tags⟩, c =>
    if c = '"' then
      some ⟨.afterValue tag (attrs ++ [(String.ofList name, String.ofList value)]), tags⟩
    else if isInert c then some ⟨.attrValue tag attrs name (value ++ [c]), tags⟩ else none
  | ⟨.afterValue tag attrs, tags⟩, c =>
    if c = ' ' then some ⟨.attrName tag attrs [], tags⟩
    else if c = '>' then some ⟨.text, tags ++ [.start (String.ofList tag) attrs]⟩ else none

/-- Reads characters one after the other. -/
def run (s : State) (cs : List Char) : Option State := cs.foldlM step s

/-- The tags of a text, if it can be read to the end and does not end inside a tag. -/
def read (markup : String) : Option (List Tag) :=
  match run ⟨.text, []⟩ markup.toList with
  | some ⟨.text, tags⟩ => some tags
  | _ => none

@[simp] theorem run_nil (s : State) : run s [] = some s := rfl

@[simp] theorem run_cons (s : State) (c : Char) (cs : List Char) :
    run s (c :: cs) = (step s c).bind fun t => run t cs := rfl

theorem run_append (s : State) (cs ds : List Char) :
    run s (cs ++ ds) = (run s cs).bind fun t => run t ds := by
  simp [run, List.foldlM_append, bind]

end Reader

/-- End tags match the start tags that are open, the innermost first, and none is left open. An
`input` has no end tag. -/
def nested : List String → List Tag → Bool
  | opened, [] => opened.isEmpty
  | opened, .start name _ :: rest =>
    if name = "input" then nested opened rest else nested (name :: opened) rest
  | name :: opened, .finish other :: rest => name == other && nested opened rest
  | [], .finish _ :: _ => false

/-! ## Clean trees -/

/-- An attribute as it stands in its tag. -/
def Attr.written (a : Attr) : String × String := (a.name.write, writePieces a.value)

namespace Html

mutual

/-- The tags of a tree in document order. -/
def tags : Html → List Tag
  | .piece _ => []
  | .element tag attrs body =>
    .start tag (attrs.map Attr.written) :: (tagsAll body ++ [.finish tag])
  | .void tag attrs => [.start tag (attrs.map Attr.written)]

/-- The tags of trees in a row. -/
def tagsAll : List Html → List Tag
  | [] => []
  | h :: rest => h.tags ++ tagsAll rest

end

end Html

/-- Nothing in the text of the piece has a meaning in markup. -/
def Piece.Inert (p : Piece) : Prop := ∀ c ∈ p.write.toList, Reader.isInert c = true

/-- The attribute keeps to its place in the tag: its name ends where it should, and its value
stays between the quotes. -/
structure Attr.Clean (a : Attr) : Prop where
  name : ∀ c ∈ a.name.write.toList, Reader.isNameChar c = true
  value : ∀ p ∈ a.value, p.Inert

namespace Html

mutual

/-- The elements are those of templates, and all pieces keep to the places they stand in. -/
def Clean : Html → Prop
  | .piece p => p.Inert
  | .element tag attrs body => tag ∈ elementTags ∧ (∀ a ∈ attrs, a.Clean) ∧ CleanAll body
  | .void tag attrs => tag = "input" ∧ ∀ a ∈ attrs, a.Clean

/-- All trees are clean. -/
def CleanAll : List Html → Prop
  | [] => True
  | h :: rest => h.Clean ∧ CleanAll rest

end

theorem cleanAll_append {xs ys : List Html} :
    CleanAll (xs ++ ys) ↔ CleanAll xs ∧ CleanAll ys := by
  induction xs with
  | nil => simp [CleanAll]
  | cons x xs ih => simp [CleanAll, ih, and_assoc]

end Html

/-! ## Escaped text -/

/-- An escaped character is a reference, which may stand anywhere, or a character that needs
none. -/
theorem escapedChar_cases (c : Char) :
    (∀ d ∈ escapedChar c, Reader.isInert d = true ∧ Reader.isNameChar d = true) ∨
      (escapedChar c = [c] ∧ Reader.isInert c = true ∧ c ≠ '\'') := by
  have reference : ∀ {cs : List Char},
      (cs.all fun d => Reader.isInert d && Reader.isNameChar d) = true →
        ∀ d ∈ cs, Reader.isInert d = true ∧ Reader.isNameChar d = true := by
    intro cs all d mem
    exact Bool.and_eq_true_iff.mp (List.all_eq_true.mp all d mem)
  unfold escapedChar
  by_cases amp : c = '&'
  · subst amp; exact Or.inl (reference (by decide))
  by_cases lt : c = '<'
  · subst lt; exact Or.inl (reference (by decide))
  by_cases gt : c = '>'
  · subst gt; exact Or.inl (reference (by decide))
  by_cases quote : c = '"'
  · subst quote; exact Or.inl (reference (by decide))
  by_cases apostrophe : c = '\''
  · subst apostrophe; exact Or.inl (reference (by decide))
  · exact Or.inr (by simp [amp, lt, gt, quote, apostrophe, Reader.isInert])

/-- Escaped text means nothing in markup, whatever it was before. -/
theorem inert_text (s : String) : (Piece.text s).Inert := by
  intro d hd
  rw [Piece.write, escape, String.toList_ofList, List.mem_flatMap] at hd
  obtain ⟨c, -, hc⟩ := hd
  rcases escapedChar_cases c with references | ⟨unchanged, inert, -⟩
  · exact (references d hc).1
  · rw [unchanged, List.mem_singleton] at hc
    exact hc ▸ inert

theorem inert_writePieces {ps : List Piece} (h : ∀ p ∈ ps, p.Inert) :
    ∀ c ∈ (writePieces ps).toList, Reader.isInert c = true := by
  induction ps with
  | nil => simp [writePieces]
  | cons p ps ih =>
    intro c hc
    rw [writePieces, String.toList_append, List.mem_append] at hc
    rcases hc with hc | hc
    · exact h p List.mem_cons_self c hc
    · exact ih (fun q hq => h q (List.mem_cons_of_mem p hq)) c hc

/-! ## Reading back what was written -/

namespace Reader

theorem run_text {cs : List Char} (h : ∀ c ∈ cs, isInert c = true) (tags : List Tag) :
    run ⟨.text, tags⟩ cs = some ⟨.text, tags⟩ := by
  induction cs with
  | nil => rfl
  | cons c cs ih =>
    have inert : isInert c = true := h c List.mem_cons_self
    have other : c ≠ '<' := by rintro rfl; revert inert; decide
    rw [run_cons, step, if_neg other, if_pos inert]
    exact ih fun d hd => h d (List.mem_cons_of_mem c hd)

/-- Where every character is added to what was read, they all are. -/
theorem run_collect {place : List Char → Place} {tags : List Tag} {cs : List Char}
    (h : ∀ c ∈ cs, ∀ before, step ⟨place before, tags⟩ c = some ⟨place (before ++ [c]), tags⟩)
    (before : List Char) :
    run ⟨place before, tags⟩ cs = some ⟨place (before ++ cs), tags⟩ := by
  induction cs generalizing before with
  | nil => simp
  | cons c cs ih =>
    rw [run_cons, h c List.mem_cons_self, Option.bind_some]
    simpa using ih (fun d hd => h d (List.mem_cons_of_mem c hd)) (before ++ [c])

theorem run_startName {cs : List Char} (h : ∀ c ∈ cs, isTagChar c = true) (name : List Char)
    (tags : List Tag) : run ⟨.startName name, tags⟩ cs = some ⟨.startName (name ++ cs), tags⟩ :=
  run_collect (fun c hc _ => by rw [step, if_pos (h c hc)]) name

theorem run_endName {cs : List Char} (h : ∀ c ∈ cs, isTagChar c = true) (name : List Char)
    (tags : List Tag) : run ⟨.endName name, tags⟩ cs = some ⟨.endName (name ++ cs), tags⟩ :=
  run_collect (fun c hc _ => by rw [step, if_pos (h c hc)]) name

theorem run_attrName {cs : List Char} (h : ∀ c ∈ cs, isNameChar c = true) (tag : List Char)
    (attrs : List (String × String)) (name : List Char) (tags : List Tag) :
    run ⟨.attrName tag attrs name, tags⟩ cs = some ⟨.attrName tag attrs (name ++ cs), tags⟩ := by
  refine run_collect (fun c hc before => ?_) name
  have nameChar : isNameChar c = true := h c hc
  have other : c ≠ '=' := by rintro rfl; revert nameChar; decide
  rw [step, if_neg other, if_pos nameChar]

theorem run_attrValue {cs : List Char} (h : ∀ c ∈ cs, isInert c = true) (tag : List Char)
    (attrs : List (String × String)) (name value : List Char) (tags : List Tag) :
    run ⟨.attrValue tag attrs name value, tags⟩ cs =
      some ⟨.attrValue tag attrs name (value ++ cs), tags⟩ := by
  refine run_collect (fun c hc before => ?_) value
  have inert : isInert c = true := h c hc
  have other : c ≠ '"' := by rintro rfl; revert inert; decide
  rw [step, if_neg other, if_pos inert]

/-- A place between the attributes of an open tag: after its name, or after a value. -/
def Between (tag : List Char) (attrs : List (String × String)) (p : Place) : Prop :=
  (p = .startName tag ∧ attrs = []) ∨ p = .afterValue tag attrs

theorem step_blank {tag : List Char} {attrs : List (String × String)} {p : Place}
    (h : Between tag attrs p) (tags : List Tag) :
    step ⟨p, tags⟩ ' ' = some ⟨.attrName tag attrs [], tags⟩ := by
  rcases h with ⟨rfl, rfl⟩ | rfl
  · rfl
  · rfl

theorem step_close {tag : List Char} {attrs : List (String × String)} {p : Place}
    (h : Between tag attrs p) (tags : List Tag) :
    step ⟨p, tags⟩ '>' = some ⟨.text, tags ++ [.start (String.ofList tag) attrs]⟩ := by
  rcases h with ⟨rfl, rfl⟩ | rfl
  · rfl
  · rfl

/-- A clean attribute is read whole, and the reader is between attributes again. -/
theorem run_attr {a : Attr} (clean : a.Clean) {tag : List Char} {attrs : List (String × String)}
    {p : Place} (h : Between tag attrs p) (tags : List Tag) :
    run ⟨p, tags⟩ a.write.toList = some ⟨.afterValue tag (attrs ++ [a.written]), tags⟩ := by
  have parts : a.write.toList =
      ' ' :: (a.name.write.toList ++ '=' :: '"' :: ((writePieces a.value).toList ++ ['"'])) := by
    simp [Attr.write]
  rw [parts, run_cons, step_blank h, Option.bind_some, run_append, run_attrName clean.name,
    Option.bind_some, run_cons, step, if_pos rfl, Option.bind_some, run_cons, step, if_pos rfl,
    Option.bind_some, run_append, run_attrValue (inert_writePieces clean.value)]
  simp [step, Attr.written]

theorem run_attrs {as : List Attr} (clean : ∀ a ∈ as, a.Clean) {tag : List Char}
    {attrs : List (String × String)} {p : Place} (h : Between tag attrs p) (tags : List Tag) :
    ∃ q, Between tag (attrs ++ as.map Attr.written) q ∧
      run ⟨p, tags⟩ (writeAttrs as).toList = some ⟨q, tags⟩ := by
  induction as generalizing attrs p with
  | nil => exact ⟨p, by simpa using h, by simp [writeAttrs]⟩
  | cons a as ih =>
    have after : Between tag (attrs ++ [a.written]) (.afterValue tag (attrs ++ [a.written])) :=
      Or.inr rfl
    obtain ⟨q, between, ran⟩ := ih (fun b hb => clean b (List.mem_cons_of_mem a hb)) after
    refine ⟨q, by simpa using between, ?_⟩
    rw [writeAttrs, String.toList_append, run_append, run_attr (clean a List.mem_cons_self) h]
    exact ran

theorem tagChars_of_mem {tag : String} (h : tag ∈ "input" :: elementTags) :
    ∃ c cs, tag.toList = c :: cs ∧ isTagChar c = true ∧ c ≠ '/' ∧
      ∀ d ∈ cs, isTagChar d = true := by
  have all : ∀ t ∈ "input" :: elementTags, ∃ c cs, t.toList = c :: cs ∧ isTagChar c = true ∧
      c ≠ '/' ∧ ∀ d ∈ cs, isTagChar d = true := by
    intro t ht
    simp only [elementTags, List.mem_cons, List.not_mem_nil, or_false] at ht
    rcases ht with rfl | rfl | rfl | rfl | rfl | rfl | rfl | rfl | rfl | rfl | rfl | rfl | rfl |
      rfl | rfl | rfl
    all_goals exact ⟨_, _, rfl, by decide, by decide, List.all_eq_true.mp (by decide)⟩
  exact all tag h

theorem run_start {tag : String} (known : tag ∈ "input" :: elementTags) {as : List Attr}
    (clean : ∀ a ∈ as, a.Clean) (tags : List Tag) :
    run ⟨.text, tags⟩ ("<" ++ tag ++ writeAttrs as ++ ">").toList =
      some ⟨.text, tags ++ [.start tag (as.map Attr.written)]⟩ := by
  obtain ⟨c, cs, name, first, noSlash, rest⟩ := tagChars_of_mem known
  have between : Between tag.toList [] (.startName ([c] ++ cs)) := Or.inl ⟨by simp [name], rfl⟩
  obtain ⟨q, atEnd, ran⟩ := run_attrs clean between tags
  have parts : ("<" ++ tag ++ writeAttrs as ++ ">").toList =
      '<' :: c :: (cs ++ ((writeAttrs as).toList ++ ['>'])) := by
    simp [name]
  rw [parts, run_cons, step, if_pos rfl, Option.bind_some, run_cons, step, if_neg noSlash,
    if_pos first, Option.bind_some, run_append, run_startName rest, Option.bind_some, run_append,
    ran, Option.bind_some, run_cons, step_close atEnd, String.ofList_toList]
  rfl

theorem run_finish {tag : String} (known : tag ∈ "input" :: elementTags) (tags : List Tag) :
    run ⟨.text, tags⟩ ("</" ++ tag ++ ">").toList = some ⟨.text, tags ++ [.finish tag]⟩ := by
  obtain ⟨c, cs, name, first, -, rest⟩ := tagChars_of_mem known
  have chars : ∀ d ∈ c :: cs, isTagChar d = true := by
    intro d hd
    rcases List.mem_cons.mp hd with rfl | hd
    · exact first
    · exact rest d hd
  have parts : ("</" ++ tag ++ ">").toList = '<' :: '/' :: (tag.toList ++ ['>']) := by simp
  rw [parts, run_cons, step, if_pos rfl, Option.bind_some, run_cons, step, if_pos rfl,
    Option.bind_some, run_append, name, run_endName chars]
  simp [step, isTagChar, ← name]

mutual

/-- **Reading back.** The text of a clean tree is read as its tags. -/
theorem run_write : ∀ (h : Html), h.Clean → ∀ tags : List Tag,
    run ⟨.text, tags⟩ h.write.toList = some ⟨.text, tags ++ h.tags⟩
  | .piece p, clean, tags => by
    rw [Html.write, run_text clean, Html.tags, List.append_nil]
  | .void tag attrs, ⟨isInput, clean⟩, tags => by
    rw [Html.write, Html.tags]
    exact run_start (isInput ▸ List.mem_cons_self) clean tags
  | .element tag attrs body, ⟨known, clean, cleanBody⟩, tags => by
    have known := List.mem_cons_of_mem "input" known
    have parts : (Html.element tag attrs body).write.toList =
        ("<" ++ tag ++ writeAttrs attrs ++ ">").toList ++
          ((Html.writeAll body).toList ++ ("</" ++ tag ++ ">").toList) := by
      simp [Html.write]
    rw [parts, run_append, run_start known clean, Option.bind_some, run_append,
      run_writeAll body cleanBody, Option.bind_some, run_finish known, Html.tags]
    simp

theorem run_writeAll : ∀ (hs : List Html), Html.CleanAll hs → ∀ tags : List Tag,
    run ⟨.text, tags⟩ (Html.writeAll hs).toList = some ⟨.text, tags ++ Html.tagsAll hs⟩
  | [], _, tags => by simp [Html.writeAll, Html.tagsAll]
  | h :: rest, ⟨clean, cleanRest⟩, tags => by
    rw [Html.writeAll, String.toList_append, run_append, run_write h clean, Option.bind_some,
      run_writeAll rest cleanRest, Html.tagsAll, List.append_assoc]

end

theorem read_writeAll {hs : List Html} (clean : Html.CleanAll hs) :
    read (Html.writeAll hs) = some (Html.tagsAll hs) := by
  rw [read, run_writeAll hs clean []]
  rfl

end Reader

/-! ## Nesting -/

namespace Html

mutual

/-- The tags of a clean tree leave the open elements as they were. -/
theorem nested_tags : ∀ (h : Html), h.Clean → ∀ (opened : List String) (rest : List Tag),
    nested opened (h.tags ++ rest) = nested opened rest
  | .piece p, _, opened, rest => by simp [tags]
  | .void tag attrs, ⟨isInput, _⟩, opened, rest => by
    simp [tags, nested, isInput]
  | .element tag attrs body, ⟨known, _, cleanBody⟩, opened, rest => by
    have notInput : tag ≠ "input" := by
      rintro rfl
      revert known
      decide
    rw [tags, List.cons_append, nested, if_neg notInput, List.append_assoc,
      nested_tagsAll body cleanBody]
    simp [nested]

theorem nested_tagsAll : ∀ (hs : List Html), CleanAll hs → ∀ (opened : List String)
    (rest : List Tag), nested opened (tagsAll hs ++ rest) = nested opened rest
  | [], _, opened, rest => by simp [tagsAll]
  | h :: hs, ⟨clean, cleanRest⟩, opened, rest => by
    rw [tagsAll, List.append_assoc, nested_tags h clean, nested_tagsAll hs cleanRest]

end

mutual

/-- The tags of a clean tree are those of templates, and their values stay between the quotes. -/
theorem tags_clean : ∀ (h : Html), h.Clean → ∀ t ∈ h.tags,
    t.name ∈ "input" :: elementTags ∧
      ∀ a ∈ t.attrs, ∀ c ∈ a.2.toList, Reader.isInert c = true
  | .piece p, _, t, mem => by simp [tags] at mem
  | .void tag attrs, ⟨isInput, clean⟩, t, mem => by
    rw [tags, List.mem_singleton] at mem
    subst mem
    refine ⟨isInput ▸ List.mem_cons_self, ?_⟩
    rintro _ written
    obtain ⟨a, ha, rfl⟩ := List.mem_map.mp written
    exact inert_writePieces (clean a ha).value
  | .element tag attrs body, ⟨known, clean, cleanBody⟩, t, mem => by
    rw [tags, List.mem_cons, List.mem_append, List.mem_singleton] at mem
    rcases mem with rfl | mem | rfl
    · refine ⟨List.mem_cons_of_mem _ known, ?_⟩
      rintro _ written
      obtain ⟨a, ha, rfl⟩ := List.mem_map.mp written
      exact inert_writePieces (clean a ha).value
    · exact tagsAll_clean body cleanBody t mem
    · exact ⟨List.mem_cons_of_mem _ known, by simp [Tag.attrs]⟩

theorem tagsAll_clean : ∀ (hs : List Html), CleanAll hs → ∀ t ∈ tagsAll hs,
    t.name ∈ "input" :: elementTags ∧
      ∀ a ∈ t.attrs, ∀ c ∈ a.2.toList, Reader.isInert c = true
  | [], _, t, mem => by simp [tagsAll] at mem
  | h :: hs, ⟨clean, cleanRest⟩, t, mem => by
    rw [tagsAll, List.mem_append] at mem
    rcases mem with mem | mem
    · exact tags_clean h clean t mem
    · exact tagsAll_clean hs cleanRest t mem

end

end Html

end Formwright
