import Mathlib.Data.List.Basic
import Formwright.Markup.Theme
import Formwright.Render.Refresh

/-!
# Reading script literals

A reader of JavaScript string literals, and of the one call that puts markup in the place of a
control. A literal ends at the first quote of its kind that is not escaped, whatever follows; it has
no raw line feed or carriage return, and a backslash gives the next character a meaning. Escapes
that spell a character by its number are refused, and so are continued lines.

What `escapeScript` writes is read back with all line breaks as line feeds, in single and in double
quotes alike.

- `readLiteral`: the characters of a literal, and what follows it.
- `readLiteral_escape`, `readLiteral_plain`: escaped texts, and texts that need no escape.
- `readUpdate?`, `read_updateScript`: the call that refreshes a control.
-/

namespace Formwright

open Template

namespace Text

/-! ## Literals -/

/-- The meaning of a character after a backslash, where it does not start a number and does not end
the line. -/
def escapeMeaning? (c : Char) : Option Char :=
  if c = 'b' then some '\x08'
  else if c = 't' then some '\t'
  else if c = 'n' then some '\n'
  else if c = 'v' then some '\x0b'
  else if c = 'f' then some '\x0c'
  else if c = 'r' then some '\r'
  else if c = 'x' ∨ c = 'u' ∨ c.isDigit then none
  else if c = '\n' ∨ c = '\r' ∨ c = '\u2028' ∨ c = '\u2029' then none
  else some c

/-- Reads a literal behind its opening quote: the characters it stands for, and what follows its
closing quote. -/
def readLiteral (quote : Char) : List Char → Option (List Char × List Char)
  | [] => none
  | '\\' :: c :: cs => do
    let meaning ← escapeMeaning? c
    let (read, rest) ← readLiteral quote cs
    return (meaning :: read, rest)
  | c :: cs =>
    if c = quote then some ([], cs)
    else if c = '\n' ∨ c = '\r' then none
    else do
      let (read, rest) ← readLiteral quote cs
      return (c :: read, rest)

variable {quote : Char} {cs read rest rest' : List Char}

theorem readLiteral_close (unescaped : quote ≠ '\\') :
    readLiteral quote (quote :: rest) = some ([], rest) := by
  rw [readLiteral]
  · rw [if_pos rfl]
  · rintro c cs ⟨⟩
    exact absurd rfl unescaped

theorem readLiteral_escaped {c meaning : Char} (means : escapeMeaning? c = some meaning)
    (h : readLiteral quote cs = some (read, rest)) :
    readLiteral quote ('\\' :: c :: cs) = some (meaning :: read, rest) := by
  rw [readLiteral, means, h]
  rfl

theorem readLiteral_char {c : Char} (inside : c ≠ quote) (plain : c ≠ '\\') (noFeed : c ≠ '\n')
    (noReturn : c ≠ '\r') (h : readLiteral quote cs = some (read, rest)) :
    readLiteral quote (c :: cs) = some (c :: read, rest) := by
  rw [readLiteral]
  · rw [if_neg inside, if_neg (by simp [noFeed, noReturn]), h]
    rfl
  · rintro d ds ⟨⟩
    exact absurd rfl plain

theorem readLiteral_plain (unescaped : quote ≠ '\\')
    (plain : ∀ c ∈ cs, c ≠ quote ∧ c ≠ '\\' ∧ c ≠ '\n' ∧ c ≠ '\r') :
    readLiteral quote (cs ++ quote :: rest) = some (cs, rest) := by
  induction cs with
  | nil => exact readLiteral_close unescaped
  | cons c cs ih =>
    obtain ⟨inside, noEscape, noFeed, noReturn⟩ := plain c List.mem_cons_self
    have others := ih fun d hd => plain d (List.mem_cons_of_mem _ hd)
    exact readLiteral_char inside noEscape noFeed noReturn others

/-- **Escaping is undone by reading.** An escaped text ends where it should, in single quotes as in
double ones, and stands for its characters with all line breaks as line feeds. -/
theorem readLiteral_escape (isQuote : quote = '"' ∨ quote = '\'') (cs : List Char) :
    readLiteral quote (escapeScriptChars (fun c => [c]) cs ++ quote :: rest) =
      some (Segment.unixLines cs, rest) := by
  have unescaped : quote ≠ '\\' := by rcases isQuote with rfl | rfl <;> decide
  have inside : ∀ c, c ≠ '"' → c ≠ '\'' → c ≠ quote := by
    rintro c noDouble noSingle rfl
    rcases isQuote with rfl | rfl
    · exact noDouble rfl
    · exact noSingle rfl
  -- on the cases of escaping, in which a carriage return and its line feed are one step
  induction cs using escapeScriptChars.induct with
  | case1 => exact readLiteral_close unescaped
  | case2 cs ih => exact readLiteral_escaped rfl ih
  | case3 cs ih =>
    -- only the slash of a closing tag is escaped; what opens the tag is read as it is
    have slash := readLiteral_escaped (c := '/') rfl ih
    exact readLiteral_char (inside _ (by decide) (by decide)) (by decide) (by decide) (by decide)
      slash
  | case4 cs ih => exact readLiteral_escaped rfl ih
  | case5 cs single ih =>
    rw [escapeScriptChars.eq_5 _ cs single, Segment.unixLines.eq_2 cs single]
    exact readLiteral_escaped rfl ih
  | case6 cs ih => exact readLiteral_escaped rfl ih
  | case7 cs ih => exact readLiteral_escaped rfl ih
  | case8 cs ih => exact readLiteral_escaped rfl ih
  | case9 c cs noEscape noTag noBreak noReturn noFeed noDouble noSingle ih =>
    rw [escapeScriptChars.eq_9 _ c cs noEscape noTag noBreak noReturn noFeed noDouble noSingle,
      Segment.unixLines.eq_3 c cs noBreak noReturn]
    exact readLiteral_char (inside c noDouble noSingle) noEscape noFeed noReturn ih

end Text

/-! ## Calls -/

namespace Render

open Text

/-- A call `$(selector).html(markup);`. -/
structure Update where
  selector : String
  markup : String
  deriving DecidableEq, Repr

/-- Reads a script that is one such call and nothing else. -/
def readUpdate? (script : String) : Option Update := do
  let cs ← "$('".toList.isPrefixOf? script.toList
  let (selector, cs) ← readLiteral '\'' cs
  let cs ← ").html(\"".toList.isPrefixOf? cs
  let (markup, cs) ← readLiteral '"' cs
  if cs = ");".toList then return ⟨String.ofList selector, String.ofList markup⟩ else none

/-- A character that means itself in markup and in a script literal. -/
def isQuietChar (c : Char) : Bool :=
  !(['"', '\'', '\\', '\n', '\r', '<', '>', '&'].contains c)

/-- A name that needs no escape in markup and in a script literal. -/
def IsQuiet (name : String) : Prop := name.toList.all isQuietChar = true

instance (name : String) : Decidable (IsQuiet name) := inferInstanceAs (Decidable (_ = true))

theorem IsQuiet.append {a b : String} (ha : IsQuiet a) (hb : IsQuiet b) : IsQuiet (a ++ b) := by
  rw [IsQuiet, String.toList_append, List.all_append, Bool.and_eq_true]
  exact ⟨ha, hb⟩

/-- A quiet name is written in markup as it is. -/
theorem IsQuiet.escape {name : String} (h : IsQuiet name) : escape name = name := by
  have same : ∀ cs : List Char, cs.all isQuietChar = true → cs.flatMap escapedChar = cs := by
    intro cs quiet
    induction cs with
    | nil => rfl
    | cons c cs ih =>
      rw [List.all_cons, Bool.and_eq_true] at quiet
      obtain ⟨first, others⟩ := quiet
      have own : escapedChar c = [c] := by
        simp only [isQuietChar, List.contains_cons, List.contains_nil, Bool.or_false,
          Bool.not_eq_true', Bool.or_eq_false_iff] at first
        simp [escapedChar, first]
      rw [List.flatMap_cons, own, ih others, List.singleton_append]
  rw [Formwright.escape, same _ h, String.ofList_toList]

/-- The id of the box in which the control of a field is put anew. -/
def boxId (model field : String) : String := model ++ "_" ++ field ++ "-update"

theorem boxId_quiet {model field : String} (quietModel : IsQuiet model)
    (quietField : IsQuiet field) : IsQuiet (boxId model field) :=
  ((quietModel.append (by decide)).append quietField).append (by decide)

/-- **The script of a refresh.** It is one call: it selects the box of the field, and its argument
is the markup with all line breaks as line feeds. -/
theorem read_updateScript {model field : String} (quietModel : IsQuiet model)
    (quietField : IsQuiet field) (markup : String) :
    readUpdate? (updateScript model field markup) =
      some ⟨"#" ++ boxId model field, String.ofList (Segment.unixLines markup.toList)⟩ := by
  have quiet : IsQuiet ("#" ++ boxId model field) :=
    IsQuiet.append (by decide) (boxId_quiet quietModel quietField)
  have script : (updateScript model field markup).toList = "$('".toList ++
      (("#" ++ boxId model field).toList ++ '\'' :: (").html(\"".toList ++
        (escapeScriptChars (fun c => [c]) markup.toList ++ '"' :: ");".toList))) := by
    simp [updateScript, boxId, escapeScript, escapeScriptWith]
  have selector : ∀ rest, readLiteral '\'' (("#" ++ boxId model field).toList ++ '\'' :: rest) =
      some (("#" ++ boxId model field).toList, rest) := by
    intro rest
    refine readLiteral_plain (by decide) fun c hc => ?_
    have plain := List.all_eq_true.mp quiet c hc
    simp only [isQuietChar, List.contains_cons, List.contains_nil, Bool.or_false,
      Bool.not_eq_true', Bool.or_eq_false_iff, beq_eq_false_iff_ne] at plain
    obtain ⟨-, single, escape, feed, ret, -⟩ := plain
    exact ⟨single, escape, feed, ret⟩
  have skip : ∀ (text : String) (rest : List Char),
      text.toList.isPrefixOf? (text.toList ++ rest) = some rest :=
    fun _ _ => List.isPrefixOf?_eq_some_iff_append_eq.mpr rfl
  have argument : ∀ rest,
      readLiteral '"' (escapeScriptChars (fun c => [c]) markup.toList ++ '"' :: rest) =
        some (Segment.unixLines markup.toList, rest) :=
    fun _ => readLiteral_escape (.inl rfl) _
  simp only [readUpdate?, script, skip, selector, argument, Option.bind_eq_bind, Option.bind_some,
    if_pos, String.ofList_toList]
  rfl

end Render

end Formwright
