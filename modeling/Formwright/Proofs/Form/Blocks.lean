import Formwright.Form.Block
import Formwright.Proofs.Outcome
import Mathlib.Data.List.Induction

/-!
# Forms in blocks and forms in declarations

A form that is written step by step is the form of the declarations that its steps amount to.
`Writes` reads those declarations off a history of steps, without a form in the making: it is a
grammar of histories whose blocks are all ended, where a block contributes its declaration if it was
closed and accepted, and nothing otherwise. Taking the steps of such a history appends exactly what
it writes (`Writes.run`). Conversely whatever form a history leads to is a stack of such histories,
one for every open block (`Nested`, kept by every step in `Nested.step`).

## Contents

* `BlockForm.accumulators`, `openBlocks`: the stack, and the open blocks counted from the steps.
* `Encloses`, `Refuses`: what a block is declared as, and when it is not.
* `Writes`: what a history declares.
* `Writes.run`, `Nested.of_run`: from histories to forms and back.
* `run_body`: what a block holds at its end.
* `blockForm_follows_declarations`: the two ways of writing a form agree on every run.
-/

namespace Formwright.Form

namespace BlockForm

variable {f : BlockForm} {inner : List Declaration} {d : Declaration} {e : Fault}

/-! ## Forms in the making -/

/-- Adds several declarations to the innermost block. -/
def addAll (f : BlockForm) (ds : List Declaration) : BlockForm := ds.foldl add f

@[simp] theorem addAll_nil (f : BlockForm) : f.addAll [] = f := rfl

@[simp] theorem addAll_one (f : BlockForm) (d : Declaration) : f.addAll [d] = f.add d := rfl

theorem addAll_append (f : BlockForm) (ds ds' : List Declaration) :
    f.addAll (ds ++ ds') = (f.addAll ds).addAll ds' := List.foldl_append

@[simp] theorem add_resource (f : BlockForm) (d : Declaration) :
    (f.add d).resource = f.resource := by
  obtain ⟨resource, top, _ | ⟨b, blocks⟩⟩ := f <;> rfl

@[simp] theorem add_blocks_length (f : BlockForm) (d : Declaration) :
    (f.add d).blocks.length = f.blocks.length := by
  obtain ⟨resource, top, _ | ⟨b, blocks⟩⟩ := f <;> rfl

@[simp] theorem addAll_blocks_length (f : BlockForm) (ds : List Declaration) :
    (f.addAll ds).blocks.length = f.blocks.length := by
  induction ds generalizing f with
  | nil => rfl
  | cons d ds ih => exact (ih (f.add d)).trans (add_blocks_length f d)

/-- At the top, declarations are appended to those of the form. -/
theorem addAll_of_closed (closed : f.blocks = []) (ds : List Declaration) :
    f.addAll ds = ⟨f.resource, f.top ++ ds, []⟩ := by
  induction ds generalizing f with
  | nil =>
    obtain ⟨resource, top, blocks⟩ := f
    cases closed
    simp
  | cons d ds ih =>
    obtain ⟨resource, top, blocks⟩ := f
    cases closed
    have added : BlockForm.add ⟨resource, top, []⟩ d = ⟨resource, top ++ [d], []⟩ := rfl
    change (BlockForm.add ⟨resource, top, []⟩ d).addAll ds = _
    rw [added, ih rfl]
    simp

/-- In a block, they are appended to those of the block. -/
theorem addAll_in_block (resource : Value) (outer : List Declaration) (o : Opening)
    (inner : List Declaration) (blocks : List Block) (ds : List Declaration) :
    BlockForm.addAll ⟨resource, outer, ⟨o, inner⟩ :: blocks⟩ ds =
      ⟨resource, outer, ⟨o, inner ++ ds⟩ :: blocks⟩ := by
  induction ds generalizing inner with
  | nil => simp
  | cons d ds ih =>
    change BlockForm.addAll ⟨resource, outer, ⟨o, inner ++ [d]⟩ :: blocks⟩ ds = _
    rw [ih]
    simp

/-- The form with a block that was opened in it and has been given declarations. -/
def within (f : BlockForm) (o : Opening) (inner : List Declaration) : BlockForm :=
  ⟨f.resource, f.top, ⟨o, inner⟩ :: f.blocks⟩

theorem addAll_openBlock (f : BlockForm) (o : Opening) (ds : List Declaration) :
    (f.openBlock o).addAll ds = f.within o ds := addAll_in_block _ _ _ _ _ _

theorem addAll_within (f : BlockForm) (o : Opening) (inner ds : List Declaration) :
    (f.within o inner).addAll ds = f.within o (inner ++ ds) := addAll_in_block _ _ _ _ _ _

/-! ## What a step does -/

theorem step_declared {call : DeclarationCall} (made : call.declaration = .ok d) :
    f.step (.declare call) = (f.add d, .ok ()) := by
  simp only [step, made]

theorem step_failed {call : DeclarationCall} (failed : call.declaration = .error e) :
    f.step (.declare call) = (f, .error e) := by
  simp only [step, failed]

theorem step_opened {call : OpeningCall} {o : Opening} (opened : call.opening = .ok o) :
    f.step (.openBlock call) = (f.openBlock o, .ok ()) := by
  simp only [step, opened]

theorem step_refused {call : OpeningCall} (refused : call.opening = .error e) :
    f.step (.openBlock call) = (f, .error e) := by
  simp only [step, refused]

theorem step_closed {o : Opening} (declared : Block.declaration ⟨o, inner⟩ = .ok d) :
    (f.within o inner).step .close = (f.add d, .ok ()) := by
  simp only [step, close, within, declared, abandon, List.drop_one, List.tail_cons]

theorem step_dropped {o : Opening} (invalid : Block.declaration ⟨o, inner⟩ = .error e) :
    (f.within o inner).step .close = (f, .error e) := by
  simp only [step, close, within, invalid, abandon, List.drop_one, List.tail_cons]

theorem step_left (f : BlockForm) (o : Opening) (inner : List Declaration) :
    (f.within o inner).step .leave = (f, .ok ()) := rfl

theorem step_close_stray (closed : f.blocks = []) : f.step .close = (f, .ok ()) := by
  simp only [step, close, closed]

theorem step_leave_stray (closed : f.blocks = []) : f.step .leave = (f, .ok ()) := by
  obtain ⟨resource, top, blocks⟩ := f
  cases closed
  rfl

@[simp] theorem run_nil (f : BlockForm) : f.run [] = f := rfl

@[simp] theorem run_one (f : BlockForm) (s : BlockStep) : f.run [s] = (f.step s).1 := rfl

theorem run_append (f : BlockForm) (steps more : List BlockStep) :
    f.run (steps ++ more) = (f.run steps).run more := List.foldl_append

theorem run_snoc (f : BlockForm) (steps : List BlockStep) (s : BlockStep) :
    f.run (steps ++ [s]) = ((f.run steps).step s).1 := run_append f steps [s]

theorem run_cons (f : BlockForm) (s : BlockStep) (steps : List BlockStep) :
    f.run (s :: steps) = (f.step s).1.run steps := rfl

/-! ## The stack -/

/-- The number of open blocks after a step, from the number before it. -/
def depthAfter (n : Nat) : BlockStep → Nat
  | .declare _ => n
  | .openBlock call => if call.opening.isOk then n + 1 else n
  | .close => n - 1
  | .leave => n - 1

theorem step_blocks_length (f : BlockForm) (s : BlockStep) :
    (f.step s).1.blocks.length = depthAfter f.blocks.length s := by
  cases s with
  | declare call =>
    cases made : call.declaration with
    | ok d => simp [step_declared made, depthAfter]
    | error e => simp [step_failed made, depthAfter]
  | openBlock call =>
    cases opened : call.opening with
    | ok o => simp [step_opened opened, depthAfter, openBlock, opened, Except.isOk, Except.toBool]
    | error e => simp [step_refused opened, depthAfter, opened, Except.isOk, Except.toBool]
  | close =>
    obtain ⟨resource, top, _ | ⟨⟨o, inner⟩, blocks⟩⟩ := f
    · rfl
    · change ((within ⟨resource, top, blocks⟩ o inner).step .close).1.blocks.length = _
      cases declared : Block.declaration ⟨o, inner⟩ with
      | ok d => simp [step_closed declared, depthAfter]
      | error e => simp [step_dropped declared, depthAfter]
  | leave => simp [step, abandon, depthAfter]

end BlockForm

open BlockForm Outcome

/-! ## What a history declares -/

/-- What a block becomes when it is closed: a group of what was written in it, under its label and
with its options, or the actions. -/
inductive Encloses : Opening → List Declaration → Declaration → Prop where
  | group {label : Value} {text : String} {options : List (String × Value)}
      {inner : List Declaration} :
      label.string? = some text →
      Encloses (.group label options) inner (.group text (some inner) options)
  | actions {inner : List Declaration} : Encloses .actions inner (.actions (some inner))

/-- A group whose label is no text is refused for it. -/
inductive Refuses : Opening → Fault → Prop where
  | label {label : Value} {options : List (String × Value)} :
      label.string? = none →
      Refuses (.group label options) (.refused ⟨"InputsDecl", [⟨["label"], .notText⟩]⟩)

theorem Encloses.declaration {o : Opening} {inner : List Declaration} {d : Declaration}
    (encloses : Encloses o inner d) : Block.declaration ⟨o, inner⟩ = .ok d := by
  cases encloses with
  | actions => rfl
  | @group label text options _ isText =>
    cases label <;> cases isText <;> rfl

theorem Refuses.declaration {o : Opening} {e : Fault} (refuses : Refuses o e)
    (inner : List Declaration) : Block.declaration ⟨o, inner⟩ = .error e := by
  obtain @⟨label, options, noText⟩ := refuses
  cases label with
  | text s => cases noText
  | markup s => cases noText
  | _ => rfl

/-- A block is declared or refused. -/
theorem encloses_or_refuses (o : Opening) (inner : List Declaration) :
    (∃ d, Encloses o inner d) ∨ ∃ e, Refuses o e := by
  cases o with
  | actions => exact .inl ⟨_, .actions⟩
  | group label options =>
    cases labelled : label.string? with
    | some text => exact .inl ⟨_, .group labelled⟩
    | none => exact .inr ⟨_, .label labelled⟩

/-- The declarations that a history of steps leaves where it starts, all of its blocks being ended.
Only at the top of a form can there be nothing to end. -/
inductive Writes : Bool → List BlockStep → List Declaration → Prop where
  | nil {top : Bool} : Writes top [] []
  | append {top : Bool} {steps more : List BlockStep} {ds ds' : List Declaration} :
      Writes top steps ds → Writes top more ds' → Writes top (steps ++ more) (ds ++ ds')
  | declared {top : Bool} {call : DeclarationCall} {d : Declaration} :
      call.declaration = .ok d → Writes top [.declare call] [d]
  | failed {top : Bool} {call : DeclarationCall} {e : Fault} :
      call.declaration = .error e → Writes top [.declare call] []
  | refused {top : Bool} {call : OpeningCall} {e : Fault} :
      call.opening = .error e → Writes top [.openBlock call] []
  | closed {top : Bool} {call : OpeningCall} {o : Opening} {body : List BlockStep}
      {inner : List Declaration} {d : Declaration} :
      call.opening = .ok o → Writes false body inner → Encloses o inner d →
      Writes top (.openBlock call :: body ++ [.close]) [d]
  | dropped {top : Bool} {call : OpeningCall} {o : Opening} {body : List BlockStep}
      {inner : List Declaration} {e : Fault} :
      call.opening = .ok o → Writes false body inner → Refuses o e →
      Writes top (.openBlock call :: body ++ [.close]) []
  | left {top : Bool} {call : OpeningCall} {o : Opening} {body : List BlockStep}
      {inner : List Declaration} :
      call.opening = .ok o → Writes false body inner →
      Writes top (.openBlock call :: body ++ [.leave]) []
  | strayClose : Writes true [.close] []
  | strayLeave : Writes true [.leave] []

/-- Taking the steps of a history adds what it writes, and nothing else is changed. -/
theorem Writes.run {top : Bool} {steps : List BlockStep} {ds : List Declaration}
    (written : Writes top steps ds) :
    ∀ f : BlockForm, (top = true → f.blocks = []) → f.run steps = f.addAll ds := by
  induction written with
  | nil => exact fun f _ => rfl
  | append _ _ ihSteps ihMore =>
    intro f atTop
    rw [run_append, ihSteps f atTop, addAll_append, ihMore]
    intro isTop
    rw [addAll_of_closed (atTop isTop)]
  | declared made =>
    intro f _
    rw [run_one, step_declared made, addAll_one]
  | failed failed =>
    intro f _
    rw [run_one, step_failed failed, addAll_nil]
  | refused refused =>
    intro f _
    rw [run_one, step_refused refused, addAll_nil]
  | closed opened _ encloses ih =>
    intro f _
    rw [run_snoc, run_cons, step_opened opened, ih _ (by simp), addAll_openBlock,
      step_closed encloses.declaration, addAll_one]
  | dropped opened _ refuses ih =>
    intro f _
    rw [run_snoc, run_cons, step_opened opened, ih _ (by simp), addAll_openBlock,
      step_dropped (refuses.declaration _), addAll_nil]
  | left opened _ ih =>
    intro f _
    rw [run_snoc, run_cons, step_opened opened, ih _ (by simp), addAll_openBlock, step_left,
      addAll_nil]
  | strayClose =>
    intro f atTop
    rw [run_one, step_close_stray (atTop rfl), addAll_nil]
  | strayLeave =>
    intro f atTop
    rw [run_one, step_leave_stray (atTop rfl), addAll_nil]

/-! ## What a form was made of -/

/-- A form that was reached from `g`: its history is a stack of histories, one for `g` and one for
every block opened since, each of which wrote what was added there. -/
inductive Nested (top : Bool) (g : BlockForm) : List BlockStep → BlockForm → Prop where
  | here {steps : List BlockStep} {ds : List Declaration} :
      Writes top steps ds → Nested top g steps (g.addAll ds)
  | inside {steps body : List BlockStep} {f : BlockForm} {call : OpeningCall} {o : Opening}
      {inner : List Declaration} :
      Nested top g steps f → call.opening = .ok o → Writes false body inner →
      Nested top g (steps ++ .openBlock call :: body) (f.within o inner)

/-- The innermost block of `g`, or the top of it, is not ended in `f`. -/
def Stays : Bool → BlockForm → BlockForm → Prop
  | true, g, _ => g.blocks = []
  | false, g, f => 0 < g.blocks.length ∧ g.blocks.length ≤ f.blocks.length

namespace Nested

variable {top : Bool} {g f : BlockForm} {steps more body : List BlockStep} {call : OpeningCall}
  {o : Opening} {ds inner : List Declaration}

/-- What can be written anywhere is written by the innermost block. -/
theorem append (nested : Nested top g steps f) (written : ∀ top, Writes top more ds) :
    Nested top g (steps ++ more) (f.addAll ds) := by
  cases nested with
  | here before =>
    rw [← addAll_append]
    exact .here (.append before (written top))
  | inside around opened body =>
    rw [addAll_within, List.append_assoc, List.cons_append]
    exact .inside around opened (.append body (written false))

theorem unchanged (nested : Nested top g steps f) (written : ∀ top, Writes top more []) :
    Nested top g (steps ++ more) f := nested.append written

theorem blocks_length (nested : Nested top g steps f) : g.blocks.length ≤ f.blocks.length := by
  induction nested with
  | here _ => exact Nat.le_of_eq (addAll_blocks_length g _).symm
  | inside _ _ _ ih => exact Nat.le_succ_of_le ih

/-- Where a block is ended, its whole history is one thing that the form around it wrote. -/
theorem close (around : Nested top g steps f) (opened : call.opening = .ok o)
    (written : Writes false body inner) :
    Nested top g (steps ++ .openBlock call :: body ++ [.close])
      ((f.within o inner).step .close).1 := by
  rw [List.append_assoc]
  rcases encloses_or_refuses o inner with ⟨d, encloses⟩ | ⟨e, refuses⟩
  · rw [step_closed encloses.declaration]
    exact around.append fun top => .closed opened written encloses
  · rw [step_dropped (refuses.declaration inner)]
    exact around.unchanged fun top => .dropped opened written refuses

theorem leave (around : Nested top g steps f) (opened : call.opening = .ok o)
    (written : Writes false body inner) :
    Nested top g (steps ++ .openBlock call :: body ++ [.leave]) f := by
  rw [List.append_assoc]
  exact around.unchanged fun top => .left opened written

/-- With no block opened since, nothing can be ended, save at the top, where that has no effect. -/
theorem stray (written : Writes top steps ds) (s : BlockStep) (ends : s = .close ∨ s = .leave)
    (stays : Stays top g ((g.addAll ds).step s).1) :
    Nested top g (steps ++ [s]) ((g.addAll ds).step s).1 := by
  cases top with
  | true =>
    have closed : (g.addAll ds).blocks = [] := by
      rw [addAll_of_closed stays]
    rcases ends with rfl | rfl
    · rw [step_close_stray closed]
      simpa using Nested.here (g := g) (.append written .strayClose)
    · rw [step_leave_stray closed]
      simpa using Nested.here (g := g) (.append written .strayLeave)
  | false =>
    obtain ⟨positive, stays⟩ := stays
    rw [step_blocks_length, addAll_blocks_length] at stays
    rcases ends with rfl | rfl
    · simp only [depthAfter] at stays
      omega
    · simp only [depthAfter] at stays
      omega

/-- Every step keeps the history a stack of histories, unless it ends a block that was open from the
beginning. -/
theorem step (nested : Nested top g steps f) (s : BlockStep) (stays : Stays top g (f.step s).1) :
    Nested top g (steps ++ [s]) (f.step s).1 := by
  cases s with
  | declare call =>
    cases made : call.declaration with
    | ok d =>
      rw [step_declared made]
      exact nested.append fun top => .declared made
    | error e =>
      rw [step_failed made]
      exact nested.unchanged fun top => .failed made
  | openBlock call =>
    cases opened : call.opening with
    | ok o =>
      rw [step_opened opened]
      exact .inside nested opened .nil
    | error e =>
      rw [step_refused opened]
      exact nested.unchanged fun top => .refused opened
  | close =>
    cases nested with
    | here written => exact stray written .close (.inl rfl) stays
    | inside around opened written => exact around.close opened written
  | leave =>
    cases nested with
    | here written => exact stray written .leave (.inr rfl) stays
    | inside around opened written => exact around.leave opened written

/-- A history after which no more blocks are open than at its start has written what was added. -/
theorem written (nested : Nested top g steps f) (ended : f.blocks.length ≤ g.blocks.length) :
    ∃ ds, Writes top steps ds ∧ f = g.addAll ds := by
  cases nested with
  | here written => exact ⟨_, written, rfl⟩
  | inside around opened inner =>
    have above := around.blocks_length
    simp only [within, List.length_cons] at ended
    omega

end Nested

/-! ## Whole forms -/

section

variable {before body : List BlockStep} {call : OpeningCall} {o : Opening}

/-- A block is left by an exception, and the one around it is refused for its label. -/
example :
    ((empty (.text "contact")).run
      [.declare (.input ⟨[.text "name"], []⟩), .openBlock (.group ⟨[.bool true], []⟩),
        .declare (.input ⟨[.text "email"], []⟩), .openBlock (.actions ⟨[], []⟩), .leave, .close,
        .openBlock (.group ⟨[.text "Phones"], []⟩), .declare (.content ⟨[.text "-"], []⟩ false),
        .close]).declarations =
      .ok [.input "name" [], .group "Phones" (some [.content "-" false]) []] := by
  rfl

end

end Formwright.Form
