import Mathlib.Algebra.Ring.Parity
import Formwright.Proofs.Text.OpenText
import Formwright.Proofs.Text.ScriptLiteral

/-!
# Escaping for scripts

`escapeScript` goes over a text once. It does what seven replacements do one after the other, each
on what the ones before it wrote; their order matters, because what one of them writes must not be
found by the next.

What it writes is a sequence of escapes and of characters that mean themselves (`Escaped`). All that
is promised about it follows from this shape: no line break, no end tag, and no quote that a reader
could take for the end of the literal.

- `escapeScript_replacements`: the single pass is the chain of replacements.
- `escape_escaped`: the shape of what is written.
- `escapeScript_exact`: escaping is exact and never ends its literal.
-/

namespace Formwright.Text

/-! ## Seven replacements -/

/-- The replacements that escape a text, in their order: backslashes before all that write one, both
characters of a line break before each alone, and end tags before quotes. -/
def scriptReplacements : List (String × String) :=
  [("\\", "\\\\"), ("</", "<\\/"), ("\r\n", "\\n"), ("\n", "\\n"), ("\r", "\\n"), ("\"", "\\\""),
    ("'", "\\'")]

/-- Replacements, one after the other. -/
def replaceInOrder (replacements : List (String × String)) (s : String) : String :=
  replacements.foldl (fun text r => replaceAll r.1 r.2 text) s

theorem head?_ne {b : Char} {cs : List Char} (h : ∀ after, cs ≠ b :: after) :
    cs.head? ≠ some b := by
  intro first
  obtain ⟨after, rfl⟩ := List.head?_eq_some_iff.mp first
  exact h after rfl

section Replacing

variable {pattern new cs : List Char} {c p : Char}

theorem replaceAfter_pass (h : ¬ pattern <+: c :: cs) :
    replaceAfter pattern new 0 (c :: cs) = c :: replaceAfter pattern new 0 cs := by
  rw [replaceAfter, if_neg (mt List.isPrefixOf_iff_prefix.mp h)]

theorem replaceAfter_other (h : c ≠ p) :
    replaceAfter (p :: pattern) new 0 (c :: cs) = c :: replaceAfter (p :: pattern) new 0 cs :=
  replaceAfter_pass fun found => h (List.cons_prefix_cons.mp found).1.symm

/-- The first character of a pair is left alone without the second one. -/
theorem replaceAfter_alone {a b : Char} (h : cs.head? ≠ some b) :
    replaceAfter [a, b] new 0 (a :: cs) = a :: replaceAfter [a, b] new 0 cs := by
  refine replaceAfter_pass fun found => h ?_
  obtain ⟨after, rfl⟩ := (List.cons_prefix_cons.mp found).2
  rfl

/-- A replacement that begins as its pattern does leaves the beginning as it was. -/
theorem replaceAfter_head :
    (replaceAfter (p :: pattern) (p :: new) 0 cs).head? = cs.head? := by
  cases cs with
  | nil => rfl
  | cons c cs =>
    by_cases found : p :: pattern <+: c :: cs
    · obtain ⟨after, whole⟩ := found
      rw [← whole, OpenText.replaceAfter_found (List.cons_ne_nil _ _)]
      rfl
    · rw [replaceAfter_pass found, List.head?_cons, List.head?_cons]

end Replacing

/-- The characters that the replacements leave. -/
def replacedChars (cs : List Char) : List Char :=
  scriptReplacements.foldl (fun text r => replaceAfter r.1.toList r.2.toList 0 text) cs

theorem toList_replaceInOrder (s : String) :
    (replaceInOrder scriptReplacements s).toList = replacedChars s.toList := by
  have step : ∀ (rs : List (String × String)) (s : String),
      (replaceInOrder rs s).toList =
        rs.foldl (fun text r => replaceAfter r.1.toList r.2.toList 0 text) s.toList := by
    intro rs
    induction rs with
    | nil => exact fun _ => rfl
    | cons r rs ih =>
      intro s
      rw [List.foldl_cons, ← String.toList_ofList (l := replaceAfter _ _ _ _)]
      exact ih _
  exact step _ s

/-- The replacements, each on what the ones before it left. -/
theorem replacedChars_eq (cs : List Char) :
    replacedChars cs =
      (replaceAfter ['\''] ['\\', '\''] 0 <| replaceAfter ['"'] ['\\', '"'] 0 <|
        replaceAfter ['\r'] ['\\', 'n'] 0 <| replaceAfter ['\n'] ['\\', 'n'] 0 <|
        replaceAfter ['\r', '\n'] ['\\', 'n'] 0 <|
        replaceAfter ['<', '/'] ['<', '\\', '/'] 0 <| replaceAfter ['\\'] ['\\', '\\'] 0 cs) := by
  simp [replacedChars, scriptReplacements]

theorem escapeScriptChars_replaced (cs : List Char) :
    escapeScriptChars (fun c => [c]) cs = replacedChars cs := by
  rw [replacedChars_eq]
  have single : ∀ (a : Char) (new xs : List Char), replaceAfter [a] new 0 (a :: xs) =
      new ++ replaceAfter [a] new 0 xs :=
    fun _ => OpenText.replaceAfter_found (List.cons_ne_nil _ _)
  have pair : ∀ (a b : Char) (new xs : List Char), replaceAfter [a, b] new 0 (a :: b :: xs) =
      new ++ replaceAfter [a, b] new 0 xs :=
    fun _ _ => OpenText.replaceAfter_found (List.cons_ne_nil _ _)
  -- the replacements before it leave a line feed where it stands, and put none elsewhere
  have head : ∀ xs, (replaceAfter ['<', '/'] ['<', '\\', '/'] 0
      (replaceAfter ['\\'] ['\\', '\\'] 0 xs)).head? = xs.head? :=
    fun xs => replaceAfter_head.trans replaceAfter_head
  induction cs using escapeScriptChars.induct with
  | case1 => rfl
  | case2 cs ih | case6 cs ih | case7 cs ih | case8 cs ih =>
    simp [escapeScriptChars, replaceAfter_other, single, ih]
  | case3 cs ih | case4 cs ih => simp [escapeScriptChars, replaceAfter_other, pair, ih]
  | case5 cs alone ih =>
    have apart : (replaceAfter ['<', '/'] ['<', '\\', '/'] 0
        (replaceAfter ['\\'] ['\\', '\\'] 0 cs)).head? ≠ some '\n' := by
      rw [head]
      exact head?_ne alone
    rw [escapeScriptChars.eq_5 _ cs alone]
    simp [replaceAfter_other, single, replaceAfter_alone apart, ih]
  | case9 c cs noEscape noTag noBreak noReturn noFeed noDouble noSingle ih =>
    rw [escapeScriptChars.eq_9 _ c cs noEscape noTag noBreak noReturn noFeed noDouble noSingle, ih]
    have tag : replaceAfter ['<', '/'] ['<', '\\', '/'] 0
          (c :: replaceAfter ['\\'] ['\\', '\\'] 0 cs) =
        c :: replaceAfter ['<', '/'] ['<', '\\', '/'] 0
          (replaceAfter ['\\'] ['\\', '\\'] 0 cs) := by
      by_cases opens : c = '<'
      · subst opens
        apply replaceAfter_alone
        rw [replaceAfter_head]
        exact head?_ne fun after => noTag after rfl
      · exact replaceAfter_other opens
    rw [replaceAfter_other noEscape, tag, replaceAfter_other noReturn, replaceAfter_other noFeed,
      replaceAfter_other noReturn, replaceAfter_other noDouble, replaceAfter_other noSingle]

/-- **One pass is seven.** Escaping a text is the chain of replacements, each of which reads what
the ones before it wrote. -/
theorem escapeScript_replacements (s : String) :
    escapeScript s = replaceInOrder scriptReplacements s := by
  rw [← String.toList_inj, toList_replaceInOrder, ← escapeScriptChars_replaced]
  exact String.toList_ofList

/-! ## The shape of an escaped text -/

/-- Escapes, and characters that mean themselves: no quote, no backslash, no line break, and no `<`
right before a slash. -/
inductive Escaped : List Char → Prop
  | nil : Escaped []
  | escape (c : Char) {cs : List Char} (known : c ∈ ['\\', '/', 'n', '"', '\''])
      (rest : Escaped cs) : Escaped ('\\' :: c :: cs)
  | char (c : Char) {cs : List Char} (plain : c ∉ ['\\', '"', '\'', '\n', '\r'])
      (noTag : c = '<' → cs.head? ≠ some '/') (rest : Escaped cs) : Escaped (c :: cs)

/-- The backslashes at the end of a text. -/
def trailingBackslashes (cs : List Char) : Nat := (cs.reverse.takeWhile (· == '\\')).length

theorem trailingBackslashes_snoc_other (before : List Char) {c : Char} (h : c ≠ '\\') :
    trailingBackslashes (before ++ [c]) = 0 := by
  simp [trailingBackslashes, h]

theorem trailingBackslashes_snoc (before : List Char) :
    trailingBackslashes (before ++ ['\\']) = trailingBackslashes before + 1 := by
  simp [trailingBackslashes]

theorem escapeScriptChars_head {cs : List Char} (h : cs.head? ≠ some '/') :
    (escapeScriptChars (fun c => [c]) cs).head? ≠ some '/' := by
  fun_cases escapeScriptChars (fun c => [c]) cs with
  | case1 => simp
  | case9 c cs => exact h
  | _ => simp

theorem escape_escaped (cs : List Char) : Escaped (escapeScriptChars (fun c => [c]) cs) := by
  induction cs using escapeScriptChars.induct with
  | case1 => exact .nil
  | case2 cs ih | case4 cs ih | case6 cs ih | case7 cs ih | case8 cs ih =>
    exact .escape _ (by decide) ih
  | case3 cs ih => exact .char '<' (by decide) (by simp) (.escape _ (by decide) ih)
  | case5 cs alone ih =>
    rw [escapeScriptChars.eq_5 _ cs alone]
    exact .escape _ (by decide) ih
  | case9 c cs noEscape noTag noBreak noReturn noFeed noDouble noSingle ih =>
    rw [escapeScriptChars.eq_9 _ c cs noEscape noTag noBreak noReturn noFeed noDouble noSingle]
    refine .char c ?_ ?_ ih
    · simpa using ⟨noEscape, noDouble, noSingle, noFeed, noReturn⟩
    · exact fun opens => escapeScriptChars_head (head?_ne fun after => noTag after opens)

namespace Escaped

variable {cs : List Char}

theorem noBreak (h : Escaped cs) : '\n' ∉ cs ∧ '\r' ∉ cs := by
  induction h with
  | nil => simp
  | escape c known rest ih =>
    have other : c ≠ '\n' ∧ c ≠ '\r' := by
      constructor <;> rintro rfl <;> simp at known
    simpa [other.1.symm, other.2.symm] using ih
  | char c plain noTag rest ih =>
    simp only [List.mem_cons, List.not_mem_nil, or_false, not_or] at plain
    obtain ⟨-, -, -, noFeed, noReturn⟩ := plain
    simpa [Ne.symm noFeed, Ne.symm noReturn] using ih

theorem noEndTag (h : Escaped cs) : ¬ ['<', '/'] <:+: cs := by
  induction h with
  | nil => simp
  | escape c known rest ih =>
    have other : c ≠ '<' := by rintro rfl; simp at known
    rw [List.infix_cons_iff, List.infix_cons_iff]
    rintro (found | found | found)
    · simp at found
    · exact other (List.cons_prefix_cons.mp found).1.symm
    · exact ih found
  | char c plain noTag rest ih =>
    rw [List.infix_cons_iff]
    rintro (found | found)
    · obtain ⟨rfl, slash⟩ := List.cons_prefix_cons.mp found
      refine noTag rfl ?_
      obtain ⟨after, rfl⟩ := slash
      rfl
    · exact ih found

/-- Every quote is escaped: the backslashes before an escape are escapes themselves, so their number
is even, and a quote only stands in an escape. -/
theorem quote_odd (h : Escaped cs) {prior : List Char} (even : Even (trailingBackslashes prior))
    {before after : List Char} {quote : Char} (isQuote : quote = '"' ∨ quote = '\'')
    (stands : cs = before ++ quote :: after) : Odd (trailingBackslashes (prior ++ before)) := by
  -- `prior` is what was written before, and ends between two steps
  induction h generalizing prior before with
  | nil => simp at stands
  | @escape c cs known rest ih =>
    rcases before with _ | ⟨_, _ | ⟨_, before⟩⟩
    · obtain ⟨rfl, -⟩ := List.cons.inj stands
      simp at isQuote
    · obtain ⟨rfl, -⟩ := List.cons.inj stands
      rw [trailingBackslashes_snoc]
      exact even.add_one
    · obtain ⟨rfl, second⟩ := List.cons.inj stands
      obtain ⟨rfl, others⟩ := List.cons.inj second
      have between : Even (trailingBackslashes ((prior ++ ['\\']) ++ [c])) := by
        by_cases own : c = '\\'
        · subst own
          rw [trailingBackslashes_snoc, trailingBackslashes_snoc]
          exact even.add_one.add_one
        · rw [trailingBackslashes_snoc_other _ own]
          exact Even.zero
      simpa using ih between others
  | @char c cs plain noTag rest ih =>
    rcases before with _ | ⟨_, before⟩
    · obtain ⟨rfl, -⟩ := List.cons.inj stands
      rcases isQuote with rfl | rfl <;> simp at plain
    · obtain ⟨rfl, others⟩ := List.cons.inj stands
      have other : c ≠ '\\' := by rintro rfl; simp at plain
      have between : Even (trailingBackslashes (prior ++ [c])) := by
        rw [trailingBackslashes_snoc_other _ other]
        exact Even.zero
      simpa using ih between others

end Escaped

/-! ## Escaping is exact -/

theorem unixLines_head {cs : List Char} (h : cs.head? ≠ some '/') :
    (Segment.unixLines cs).head? ≠ some '/' := by
  fun_cases Segment.unixLines cs with
  | case3 c cs => exact h
  | _ => simp

/-- A text is escaped as what its line breaks are read as. -/
theorem escape_unixLines (cs : List Char) :
    escapeScriptChars (fun c => [c]) cs =
      escapeScriptChars (fun c => [c]) (Segment.unixLines cs) := by
  induction cs using escapeScriptChars.induct with
  | case1 => rfl
  | case2 cs ih | case3 cs ih | case4 cs ih | case6 cs ih | case7 cs ih | case8 cs ih =>
    simpa [escapeScriptChars, Segment.unixLines] using ih
  | case5 cs alone ih =>
    rw [escapeScriptChars.eq_5 _ cs alone, Segment.unixLines.eq_2 cs alone]
    simpa [escapeScriptChars] using ih
  | case9 c cs noEscape noTag noBreak noReturn noFeed noDouble noSingle ih =>
    rw [escapeScriptChars.eq_9 _ c cs noEscape noTag noBreak noReturn noFeed noDouble noSingle,
      Segment.unixLines.eq_3 c cs noBreak noReturn, ih, escapeScriptChars.eq_9 _ c _ noEscape ?_ ?_
        noReturn noFeed noDouble noSingle]
    · intro after opens starts
      have other : cs.head? ≠ some '/' := head?_ne fun after => noTag after opens
      exact unixLines_head other (by rw [starts]; rfl)
    · exact fun _ isReturn => absurd isReturn noReturn

/-- **Escaping is exact and never ends its literal.** The chain of replacements writes for a text no
line break, no end tag, and before every quote an odd number of backslashes. Between quotes of
either kind this is one literal, which ends at the quote that closes it and stands for the text with
all its line breaks as line feeds; its escapes are those of a backslash, a slash, a line feed and a
quote. So two texts are written alike if and only if they are the same up to line breaks. -/
theorem escapeScript_exact (s : String) :
    escapeScript s = replaceInOrder scriptReplacements s ∧
    '\n' ∉ (escapeScript s).toList ∧ '\r' ∉ (escapeScript s).toList ∧
    ¬ ['<', '/'] <:+: (escapeScript s).toList ∧
    Escaped (escapeScript s).toList ∧
    (∀ before quote after, (escapeScript s).toList = before ++ quote :: after →
      quote = '"' ∨ quote = '\'' → Odd (trailingBackslashes before)) ∧
    (∀ quote, quote = '"' ∨ quote = '\'' → ∀ rest,
      readLiteral quote ((escapeScript s).toList ++ quote :: rest) =
        some (Segment.unixLines s.toList, rest)) ∧
    ∀ s', escapeScript s = escapeScript s' ↔
      Segment.unixLines s.toList = Segment.unixLines s'.toList := by
  have written : ∀ s, (escapeScript s).toList = escapeScriptChars (fun c => [c]) s.toList :=
    fun _ => String.toList_ofList
  have escaped : Escaped (escapeScript s).toList := written s ▸ escape_escaped _
  have reads : ∀ s quote, quote = '"' ∨ quote = '\'' → ∀ rest,
      readLiteral quote ((escapeScript s).toList ++ quote :: rest) =
        some (Segment.unixLines s.toList, rest) := by
    intro s quote isQuote rest
    rw [written]
    exact readLiteral_escape isQuote _
  refine ⟨escapeScript_replacements s, escaped.noBreak.1, escaped.noBreak.2, escaped.noEndTag,
    escaped, ?_, reads s, fun s' => ⟨fun same => ?_, fun same => ?_⟩⟩
  · intro before quote after stands isQuote
    have start : Even (trailingBackslashes []) := Even.zero
    exact escaped.quote_odd start isQuote stands
  · -- what is written alike is read alike
    have both := reads s '"' (.inl rfl) []
    rw [same, reads s' '"' (.inl rfl) []] at both
    exact (Prod.mk.inj (Option.some.inj both)).1.symm
  · rw [← String.toList_inj, written, written, escape_unixLines s.toList, same,
      ← escape_unixLines]

end Formwright.Text
