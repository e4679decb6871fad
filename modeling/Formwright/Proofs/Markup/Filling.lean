import Formwright.Markup.Theme
import Formwright.Proofs.Markup.Reading
import Formwright.Proofs.Outcome
import Formwright.Proofs.Value.Plain

/-!
# Filling templates with plain values

Which templates can be trusted with any plain value is a property of the template alone:
`Node.isSafe` asks that its elements and attribute names are known and that no filled fragment is
put between the quotes of an attribute. `fillAll_clean` shows that a safe template filled with plain
values and clean fragments is clean. The built-in templates are safe but for the one of scripts,
which is there to hold a text that is not escaped.
-/

namespace Formwright.Template

open Html Outcome

/-! ## Safe templates and scopes -/

/-- The variables that stand for filled fragments. -/
def fragmentNames : List String := ["body", "rows", "template"]

/-- What a variable of this name may stand for. -/
def Binding.Safe (name : String) : Binding → Prop
  | .undefined => True
  | .value v => v.isPlain = true
  | .fragment body => CleanAll body ∧ name ∈ fragmentNames

/-- All variables stand for what they may. -/
def SafeScope (scope : Scope) : Prop := ∀ e ∈ scope, e.2.Safe e.1

/-- The part stays between the quotes of an attribute. -/
def Part.isSafe : Part → Bool
  | .text _ => true
  | .reference s => s.toList.all Reader.isInert
  | .slot (.name n) => !fragmentNames.contains n
  | .slot _ => true

/-- The attribute has a proper name and a value that stays between the quotes. -/
def AttrSpec.isSafe : AttrSpec → Bool
  | .always name value => !name.toList.any isNameBreak && value.all Part.isSafe
  | .when _ name value => !name.toList.any isNameBreak && value.all Part.isSafe
  | .spread _ => true

mutual

/-- All elements of the template are known ones with safe attributes. -/
def Node.isSafe : Node → Bool
  | .text _ => true
  | .slot _ => true
  | .element tag attrs body =>
    elementTags.contains tag && attrs.all AttrSpec.isSafe && Node.areSafe body
  | .void tag attrs => tag == "input" && attrs.all AttrSpec.isSafe
  | .choose _ yes no => Node.areSafe yes && Node.areSafe no
  | .each _ _ body => Node.areSafe body

/-- All parts of the template are safe. -/
def Node.areSafe : List Node → Bool
  | [] => true
  | n :: rest => n.isSafe && Node.areSafe rest

end

/-! ## Expressions -/

/-- What an expression of a safe scope stands for: nothing, a plain value, or one of the clean
fragments, named directly. -/
inductive Result (e : Expr) : Binding → Prop where
  | undefined : Result e .undefined
  | value {v : Value} (plain : v.isPlain = true) : Result e (.value v)
  | fragment {body : List Html} {name : String} (named : e = .name name)
      (mem : name ∈ fragmentNames) (clean : CleanAll body) : Result e (.fragment body)

theorem Result.value_plain {e : Expr} {b : Binding} (h : Result e b) {v : Value}
    (found : b.value? = some v) : v.isPlain = true ∨ v.string?.isSome := by
  cases h with
  | undefined => cases found
  | value plain => cases found; exact Or.inl plain
  | fragment _ _ _ => cases found; exact Or.inr rfl

theorem sentence_eq_text {error : Value} (plain : error.isPlain = true) {p : Piece}
    (h : Errors.sentence error = .ok p) : ∃ s, p = .text s := by
  unfold Errors.sentence at h
  split at h
  · cases h; exact ⟨_, rfl⟩
  · cases plain
  · rename_i code detail
    obtain ⟨sentence, found, rfl⟩ := exceptMap_eq_ok.mp h
    have codePlain : code.isPlain = true := by
      have := Value.arePlain_iff.mp (Value.isPlain_tuple _ ▸ plain)
      exact this code List.mem_cons_self
    unfold Errors.pairSentence? at found
    split at found
    · obtain ⟨n, -, rfl⟩ := exceptMap_eq_ok.mp found
      exact ⟨_, rfl⟩
    · split at found
      · cases found; exact ⟨_, rfl⟩
      · split at found
        · cases found; exact ⟨_, rfl⟩
        · cases codePlain
        · cases found; exact ⟨_, rfl⟩
  · cases h; exact ⟨_, rfl⟩

theorem sentences_plain {v : Value} (plain : v.isPlain = true ∨ v.string?.isSome)
    {ps : List Piece} (h : Errors.sentencesOf v = .ok ps) :
    Value.arePlain (ps.map Errors.ofPiece) = true := by
  obtain ⟨errors, members, sentences⟩ := bind_eq_ok.mp h
  have errorsPlain := Value.isPlain_membersOrNone plain members
  clear h members
  induction errors generalizing ps with
  | nil => cases sentences; rfl
  | cons error errors ih =>
    rw [List.mapM_cons] at sentences
    obtain ⟨p, ofError, rest⟩ := bind_eq_ok.mp sentences
    obtain ⟨qs, ofErrors, rfl⟩ := map_eq_ok.mp rest
    obtain ⟨s, rfl⟩ := sentence_eq_text (errorsPlain error List.mem_cons_self) ofError
    simpa [Errors.ofPiece] using
      ih ofErrors fun e he => errorsPlain e (List.mem_cons_of_mem error he)

theorem eval_result {scope : Scope} (safe : SafeScope scope) {e : Expr} {b : Binding}
    (h : e.eval scope = .ok b) : Result e b := by
  induction e generalizing b with
  | name n =>
    simp only [Expr.eval] at h
    cases h
    cases found : scope.lookup n with
    | none => exact .undefined
    | some b =>
      obtain ⟨before, after, split, -⟩ := List.lookup_eq_some_iff.mp found
      have bound : b.Safe n := safe (n, b) (by simp [split])
      cases b with
      | undefined => exact .undefined
      | value v => exact .value bound
      | fragment body => exact .fragment rfl bound.2 bound.1
  | member of n ih =>
    obtain ⟨b', evaluated, h⟩ := bind_eq_ok.mp h
    have result := ih evaluated
    cases found : b'.value? with
    | none => simp [found] at h
    | some v =>
      simp only [found, pure_eq, Except.ok.injEq] at h
      subst h
      cases field : v.field? n with
      | none => exact .undefined
      | some w =>
        rcases result.value_plain found with plain | isText
        · exact .value (Value.isPlain_field? plain field)
        · -- a text has no fields
          cases v <;> simp [Value.string?, Value.field?, Value.attributes] at isText field
  | label of ih =>
    obtain ⟨b', -, h⟩ := bind_eq_ok.mp h
    cases h
    exact .value rfl
  | sentences of ih =>
    obtain ⟨b', evaluated, h⟩ := bind_eq_ok.mp h
    cases found : b'.value? with
    | none =>
      simp only [found, pure_eq, Except.ok.injEq] at h
      subst h
      exact .value rfl
    | some v =>
      simp only [found] at h
      obtain ⟨ps, sentences, h⟩ := bind_eq_ok.mp h
      cases h
      exact .value (sentences_plain ((ih evaluated).value_plain found) sentences)

/-! ## Attributes -/

theorem piece_inert {v : Value} (plain : v.isPlain = true) : v.piece.Inert := by
  cases v with
  | markup s => cases plain
  | _ => exact inert_text _

theorem pieces_inert {e : Expr} {b : Binding} (h : Result e b)
    (safe : (Part.slot e).isSafe = true) : ∀ p ∈ b.pieces true, p.Inert := by
  cases h with
  | undefined => simp [Binding.pieces, Binding.value?]
  | value plain => simpa [Binding.pieces, Binding.value?] using piece_inert plain
  | fragment named mem _ =>
    subst named
    simp [Part.isSafe, mem] at safe

theorem fillParts_inert {scope : Scope} (safe : SafeScope scope) {parts : List Part}
    (safeParts : parts.all Part.isSafe = true) {ps : List Piece}
    (h : fillParts scope true parts = .ok ps) : ∀ p ∈ ps, p.Inert := by
  induction parts generalizing ps with
  | nil => cases h; simp
  | cons part parts ih =>
    simp only [List.all_cons, Bool.and_eq_true] at safeParts
    obtain ⟨first, filled, h⟩ := bind_eq_ok.mp h
    obtain ⟨rest, filledRest, h⟩ := bind_eq_ok.mp h
    cases h
    intro p hp
    rcases List.mem_append.mp hp with hp | hp
    · cases part with
      | text s =>
        cases filled
        exact List.mem_singleton.mp hp ▸ inert_text s
      | reference s =>
        cases filled
        rw [List.mem_singleton.mp hp]
        exact List.all_eq_true.mp safeParts.1
      | slot e =>
        obtain ⟨b, evaluated, rfl⟩ := map_eq_ok.mp filled
        exact pieces_inert (eval_result safe evaluated) safeParts.1 p hp
    · exact ih safeParts.2 filledRest p hp

/-- A name without breaks is a proper attribute name when it is escaped. -/
theorem nameChars_of_noBreak {name : String} (h : name.toList.any isNameBreak = false) :
    ∀ c ∈ (Piece.text name).write.toList, Reader.isNameChar c = true := by
  intro d hd
  rw [Piece.write, escape, String.toList_ofList, List.mem_flatMap] at hd
  obtain ⟨c, hc, hd⟩ := hd
  rcases escapedChar_cases c with references | ⟨unchanged, inert, noApostrophe⟩
  · exact (references d hd).2
  · rw [unchanged, List.mem_singleton] at hd
    have noBreak := List.any_eq_false.mp h c hc
    subst hd
    simp only [isNameBreak, Bool.or_eq_true, beq_iff_eq, not_or] at noBreak
    simp [Reader.isNameChar, inert, noApostrophe, noBreak]

theorem spreadAttrs_clean {entries : List (Value × Value)}
    (plain : Value.entriesPlain entries = true) {attrs : List Attr}
    (h : spreadAttrs entries = .ok attrs) : ∀ a ∈ attrs, a.Clean := by
  induction entries generalizing attrs with
  | nil => cases h; simp
  | cons e entries ih =>
    obtain ⟨key, v⟩ := e
    simp only [Value.entriesPlain_cons, Bool.and_eq_true] at plain
    unfold spreadAttrs at h
    split at h
    · exact ih plain.2 h
    · split at h
      · cases h
      · rename_i name isText
        split at h
        · cases h
        · rename_i noBreak
          obtain ⟨-, -, h⟩ := bind_eq_ok.mp h
          obtain ⟨rest, spread, h⟩ := bind_eq_ok.mp h
          cases h
          have keyPiece : key.piece = .text name := by
            cases key <;> simp_all [Value.string?, Value.piece, Value.toText]
          intro a ha
          rcases List.mem_cons.mp ha with rfl | ha
          · refine ⟨?_, ?_⟩
            · rw [keyPiece]
              exact nameChars_of_noBreak (by simpa using noBreak)
            · simpa using piece_inert plain.1.2
          · exact ih plain.2 spread a ha

theorem attr_clean {name : String} {parts : List Part} {scope : Scope} (safe : SafeScope scope)
    (safeAttr : (!name.toList.any isNameBreak && parts.all Part.isSafe) = true) {ps : List Piece}
    (h : fillParts scope true parts = .ok ps) : Attr.Clean ⟨.text name, ps⟩ := by
  rw [Bool.and_eq_true, Bool.not_eq_true'] at safeAttr
  exact ⟨nameChars_of_noBreak safeAttr.1, fillParts_inert safe safeAttr.2 h⟩

theorem fillAttr_clean {scope : Scope} (safe : SafeScope scope) {a : AttrSpec}
    (safeAttr : a.isSafe = true) {attrs : List Attr} (h : a.fill scope true = .ok attrs) :
    ∀ a ∈ attrs, a.Clean := by
  cases a with
  | always name value =>
    obtain ⟨ps, filled, h⟩ := bind_eq_ok.mp h
    cases h
    simpa using attr_clean safe safeAttr filled
  | «when» c name value =>
    obtain ⟨holds, -, h⟩ := bind_eq_ok.mp h
    cases holds with
    | false => cases h; simp
    | true =>
      obtain ⟨ps, filled, h⟩ := bind_eq_ok.mp h
      cases h
      simpa using attr_clean safe safeAttr filled
  | spread e =>
    obtain ⟨b, evaluated, h⟩ := bind_eq_ok.mp h
    split at h
    · rename_i entries found
      rcases (eval_result safe evaluated).value_plain found with plain | isText
      · exact spreadAttrs_clean plain h
      · cases isText
    · cases h
    · cases h

theorem fillAttrs_clean {scope : Scope} (safe : SafeScope scope) {specs : List AttrSpec}
    (safeAttrs : specs.all AttrSpec.isSafe = true) {attrs : List Attr}
    (h : fillAttrs scope true specs = .ok attrs) : ∀ a ∈ attrs, a.Clean := by
  induction specs generalizing attrs with
  | nil => cases h; simp
  | cons spec specs ih =>
    rw [List.all_cons, Bool.and_eq_true] at safeAttrs
    obtain ⟨first, filled, h⟩ := bind_eq_ok.mp h
    obtain ⟨rest, filledRest, h⟩ := bind_eq_ok.mp h
    cases h
    intro a ha
    rcases List.mem_append.mp ha with ha | ha
    · exact fillAttr_clean safe safeAttrs.1 filled a ha
    · exact ih safeAttrs.2 filledRest a ha

/-! ## Nodes -/

theorem concatM_clean {α : Type} {f : α → Except Fault (List Html)} {items : List α}
    {hs : List Html} (h : concatM f items = .ok hs)
    (each : ∀ item ∈ items, ∀ part, f item = .ok part → CleanAll part) : CleanAll hs := by
  induction items generalizing hs with
  | nil => cases h; trivial
  | cons item items ih =>
    obtain ⟨first, filled, h⟩ := bind_eq_ok.mp h
    obtain ⟨rest, filledRest, h⟩ := bind_eq_ok.mp h
    cases h
    exact cleanAll_append.mpr ⟨each item List.mem_cons_self first filled,
      ih filledRest fun other mem => each other (List.mem_cons_of_mem item mem)⟩

theorem html_clean {e : Expr} {b : Binding} (h : Result e b) : CleanAll (b.html true) := by
  cases h with
  | undefined => trivial
  | value plain => exact ⟨piece_inert plain, trivial⟩
  | fragment _ _ clean => exact clean

theorem items_plain {e : Expr} {b : Binding} (h : Result e b) {items : List Value}
    (repeated : b.items = .ok items) : ∀ v ∈ items, v.isPlain = true := by
  unfold Binding.items at repeated
  split at repeated
  · cases repeated; simp
  · rename_i v found
    split at repeated
    · rename_i members
      cases repeated
      exact Value.isPlain_items? (h.value_plain found) members
    · cases repeated

mutual

theorem fill_clean : ∀ (n : Node), n.isSafe = true → ∀ {scope : Scope}, SafeScope scope →
    ∀ {hs : List Html}, Node.fill scope true n = .ok hs → CleanAll hs
  | .text s, _, scope, safe, hs, h => by
    cases h
    exact ⟨inert_text s, trivial⟩
  | .slot e, _, scope, safe, hs, h => by
    obtain ⟨b, evaluated, rfl⟩ := map_eq_ok.mp h
    exact html_clean (eval_result safe evaluated)
  | .element tag specs body, safeNode, scope, safe, hs, h => by
    simp only [Node.isSafe, Bool.and_eq_true, List.contains_iff_mem] at safeNode
    obtain ⟨attrs, filled, h⟩ := bind_eq_ok.mp h
    obtain ⟨inner, filledBody, h⟩ := bind_eq_ok.mp h
    cases h
    exact ⟨⟨safeNode.1.1, fillAttrs_clean safe safeNode.1.2 filled,
      fillAll_clean body safeNode.2 safe filledBody⟩, trivial⟩
  | .void tag specs, safeNode, scope, safe, hs, h => by
    simp only [Node.isSafe, Bool.and_eq_true, beq_iff_eq] at safeNode
    obtain ⟨attrs, filled, h⟩ := bind_eq_ok.mp h
    cases h
    exact ⟨⟨safeNode.1, fillAttrs_clean safe safeNode.2 filled⟩, trivial⟩
  | .choose c yes no, safeNode, scope, safe, hs, h => by
    simp only [Node.isSafe, Bool.and_eq_true] at safeNode
    obtain ⟨holds, -, h⟩ := bind_eq_ok.mp h
    cases holds with
    | false => exact fillAll_clean no safeNode.2 safe h
    | true => exact fillAll_clean yes safeNode.1 safe h
  | .each name e body, safeNode, scope, safe, hs, h => by
    obtain ⟨b, evaluated, h⟩ := bind_eq_ok.mp h
    obtain ⟨items, repeated, h⟩ := bind_eq_ok.mp h
    refine concatM_clean h fun v hv part filled => fillAll_clean body safeNode ?_ filled
    rintro entry (_ | ⟨_, mem⟩)
    · exact items_plain (eval_result safe evaluated) repeated v hv
    · exact safe entry mem

theorem fillAll_clean : ∀ (ns : List Node), Node.areSafe ns = true → ∀ {scope : Scope},
    SafeScope scope → ∀ {hs : List Html}, Node.fillAll scope true ns = .ok hs → CleanAll hs
  | [], _, _, _, _, h => by cases h; trivial
  | n :: rest, safeNodes, scope, safe, hs, h => by
    simp only [Node.areSafe, Bool.and_eq_true] at safeNodes
    obtain ⟨first, filled, h⟩ := bind_eq_ok.mp h
    obtain ⟨others, filledRest, h⟩ := bind_eq_ok.mp h
    cases h
    exact cleanAll_append.mpr ⟨fill_clean n safeNodes.1 safe filled,
      fillAll_clean rest safeNodes.2 safe filledRest⟩

end

end Formwright.Template

namespace Formwright.Theme

open Template

/-! ## The standard theme -/

/-- The standard theme fills the built-in template of a name. -/
theorem standard_fill (name : String) (body : List Node) (listed : (name, body) ∈ Template.builtIn)
    (scope : Scope) : standard.fill name scope = Node.fillAll scope true body := by
  simp only [Template.builtIn, List.mem_cons, List.not_mem_nil, or_false, Prod.mk.injEq] at listed
  rcases listed with ⟨rfl, rfl⟩ | ⟨rfl, rfl⟩ | ⟨rfl, rfl⟩ | ⟨rfl, rfl⟩ | ⟨rfl, rfl⟩ | ⟨rfl, rfl⟩ |
    ⟨rfl, rfl⟩ | ⟨rfl, rfl⟩ | ⟨rfl, rfl⟩ | ⟨rfl, rfl⟩ | ⟨rfl, rfl⟩ | ⟨rfl, rfl⟩ | ⟨rfl, rfl⟩ |
    ⟨rfl, rfl⟩
  all_goals rfl

end Formwright.Theme
