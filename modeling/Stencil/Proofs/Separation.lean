import Stencil.Proofs.Transpile
import Stencil.Script.Syntax.Statement

/-!
# What separates statements in a script

Where syntax is blanked, a script has nothing left of it but the ends of its lines: a reader of
scripts goes from the token before to the token after it, and only the line ends tell that something
stood between them (`transpile_separation`). A semicolon that is blanked along with a declaration
separates nothing, so a statement before it may go on with what stands after it.
-/

namespace Stencil.Script

/-! ### Space -/

namespace Token

/-- Whether skipping space passes over a text, and whether a line ends in it. -/
def Passes (text : List Char) (newline : Bool) : Prop :=
  ∀ before rest, skipSpace .between before (text ++ rest) =
    skipSpace .between (before || newline) rest

lemma passes_nil : Passes [] false := by
  intro before rest
  rw [List.nil_append, Bool.or_false]

lemma Passes.append {first second : List Char} {newline newline' : Bool}
    (hfirst : Passes first newline) (hsecond : Passes second newline') :
    Passes (first ++ second) (newline || newline') := by
  intro before rest
  rw [List.append_assoc, hfirst, hsecond, Bool.or_assoc]

lemma passes_space {c : Char} (h : isSpace c) (hline : isLineEnd c = false) :
    Passes [c] false := by
  intro before rest
  have hslash : c ≠ '/' := by
    rintro rfl
    cases h
  rw [List.singleton_append, Bool.or_false, skipSpace] <;> simp [h, hline, hslash]

lemma passes_lineEnd {c : Char} (h : isLineEnd c) : Passes [c] true := by
  intro before rest
  have hslash : c ≠ '/' := by
    rintro rfl
    cases h
  rw [List.singleton_append, Bool.or_true, skipSpace] <;> simp [h, hslash]

/-- Whether a character ends a line and is left where syntax is blanked. -/
def isBreak (c : Char) : Bool := c == '\n' || c == '\r'

/-- A blanked text is passed over, and its line breaks end lines. -/
lemma passes_blanked (text : List Char) :
    Passes (text.map Edit.blanked) (text.any isBreak) := by
  induction text with
  | nil => exact passes_nil
  | cons c text ih =>
    have hfirst : Passes [Edit.blanked c] (isBreak c) := by
      unfold Edit.blanked
      rcases hbreak : isBreak c with _ | _
      · rw [if_neg (by simpa [isBreak] using hbreak)]
        exact passes_space rfl rfl
      · rw [if_pos (by simpa [isBreak] using hbreak)]
        refine passes_lineEnd ?_
        simp only [isBreak, Bool.or_eq_true] at hbreak
        simp only [isLineEnd, Bool.or_eq_true]
        exact .inl (.inl hbreak)
    exact hfirst.append ih

/-- Whether a line ended before does not matter for what is skipped. -/
lemma skipSpace_or (mode : Space) (before newline : Bool) (text : List Char) :
    skipSpace mode (before || newline) text =
      (skipSpace mode before text).map fun found => (found.1, found.2 || newline) := by
  fun_induction skipSpace mode before text with
  | case1 => simp [skipSpace]
  | case2 _ _ ih | case7 _ _ ih | case8 _ _ ih =>
    rw [skipSpace]
    exact ih
  | case3 before c rest h ih =>
    rw [skipSpace, Bool.or_right_comm]
    · exact ih
    · exact h
  | case4 mode _ hmode => cases mode <;> simp_all [skipSpace]
  | case5 before c rest hline ih =>
    rw [skipSpace, if_pos hline]
    exact ih
  | case6 before c rest hline ih =>
    rw [skipSpace, if_neg hline]
    exact ih
  | case9 before c rest hslash hstar hline ih =>
    rw [skipSpace, if_pos hline]
    · exact ih
    · exact hslash
    · exact hstar
  | case10 before c rest hslash hstar hline hspace ih =>
    rw [skipSpace, if_neg hline, if_pos hspace]
    · exact ih
    · exact hslash
    · exact hstar
  | case11 before c rest hslash hstar hline hspace =>
    rw [skipSpace, if_neg hline, if_neg hspace, Option.map_some]
    · exact hslash
    · exact hstar

end Token

namespace Syntax

variable {c : Context} {s t : State} {gap text : List Char} {newline : Bool}

/-! ### Ends of statements -/

/-- Whether a statement may end before the token at hand. -/
def State.endsStatement (s : State) : Bool :=
  s.token == .mark ";" || s.token == .mark "\x7d" || s.token == .ended || s.newline

/-- Statements end before the token at hand, unless it is a semicolon, which they take. -/
lemma endStatement_eq (h : s.token ≠ .mark ";") :
    endStatement c s = if s.endsStatement then some ((), s) else none := by
  simp only [endStatement, bind, Reader.bind, state]
  by_cases hbrace : s.token = .mark "\x7d"
  · simp only [State.endsStatement, hbrace]
    rfl
  by_cases hended : s.token = .ended
  · simp only [State.endsStatement, hended]
    rfl
  have hends : s.endsStatement = s.newline := by simp [State.endsStatement, h, hbrace, hended]
  simp only [hends, require]
  split <;> rfl

/-- A state where more text stands before the token at hand, in which a line ends or not. -/
def State.behindGap (s : State) (newline : Bool) (behind : List Char) : State :=
  { s with newline := s.newline || newline, behind }

@[simp] lemma endsStatement_behindGap (s : State) (newline : Bool) (behind : List Char) :
    (s.behindGap newline behind).endsStatement = (s.endsStatement || newline) := by
  simp only [State.endsStatement, State.behindGap, Bool.or_assoc]

/-- After a text that is passed over, the same token is loaded. -/
lemma loadToken_passes (h : Token.Passes gap newline) :
    loadToken (gap ++ text) c s = (loadToken text c s).map fun loaded =>
      ((), loaded.2.behindGap newline (gap ++ text)) := by
  unfold loadToken
  rw [h, Token.skipSpace_or]
  cases Token.skipSpace .between false text with
  | none => rfl
  | some found =>
    cases hread : Token.read found.1 with
    | none => simp [hread]
    | some loaded => simp [hread, State.behindGap]

end Syntax

end Stencil.Script

namespace Stencil

open Text Erasure
open TypeScript (Tree)
open Script (Token)
open Script.Syntax

namespace Edits

/-- Where an edit is applied: after what the edits before it make of the text before its range, and
before what the edits after it make of the text after it. -/
lemma Applied.of_append_cons {cursor : Nat} {text result : List Char} {first last : List Edit}
    {edit : Edit} (h : Applied cursor text (first ++ edit :: last) result) :
    ∃ before old after before' after', text = before ++ (old ++ after) ∧
      cursor + size before = edit.start ∧ edit.start + size old = edit.stop ∧
      Applied cursor before first before' ∧ Applied edit.stop after last after' ∧
      result = before' ++ edit.result old ++ after' := by
  induction first generalizing cursor text result with
  | nil =>
    cases h with | @step _ _ _ kept old text result hkept hold happlied =>
    exact ⟨kept, old, text, kept, result, rfl, hkept, hold, .done, happlied, rfl⟩
  | cons other first ih =>
    cases h with | @step _ _ _ kept taken text result hkept htaken happlied =>
    obtain ⟨before, old, after, before', after', rfl, hstart, hstop, hbefore, hafter, rfl⟩ :=
      ih happlied
    refine ⟨kept ++ (taken ++ before), old, after, kept ++ other.result taken ++ before', after',
      by simp only [List.append_assoc], ?_, hstop, .step hkept htaken hbefore, hafter,
      by simp only [List.append_assoc]⟩
    rw [size_append, size_append]
    omega

end Edits

/-- Where an edit of a module blanks a stretch of syntax, a reader of scripts that stands before it,
with nothing but space and comments between, goes on to the token after it. Nothing tells that there
was anything but the line ends: without a semicolon after it, a statement may end there when it may
end right before that token, or when a line ends in the stretch or in what stands before it. -/
theorem transpile_separation {source file script : String}
    (h : transpile source file = .ok script) :
    ∃ tree edits exports, TypeScript.parse source.toList = .ok tree ∧
      moduleEdits source.toList tree = .ok (edits, exports) ∧
      ∀ first edit last, (Edits.ofList edits).ordered = first ++ edit :: last → edit.text = none →
        ∃ before stretch after before' after', source.toList = before ++ (stretch ++ after) ∧
          size before = edit.start ∧ edit.start + size stretch = edit.stop ∧
          Edits.Applied 0 before first before' ∧ Edits.Applied edit.stop after last after' ∧
          script.toList = exports.header.toList ++ before' ++
            (stretch.map Edit.blanked ++ (after' ++ exports.footer.toList)) ∧
          ∀ gap newline context s, Token.Passes gap newline →
            s.rest = gap ++ (stretch.map Edit.blanked ++ (after' ++ exports.footer.toList)) →
            (advance context s = (loadToken (after' ++ exports.footer.toList) context s).map
              fun loaded =>
                ((), loaded.2.behindGap (newline || stretch.any Token.isBreak) s.rest)) ∧
            ∀ t, loadToken (after' ++ exports.footer.toList) context s = some ((), t) →
              t.token ≠ .mark ";" →
              ((do advance; endStatement) context s).isSome =
                (t.endsStatement || newline || stretch.any Token.isBreak) := by
  obtain ⟨tree, edits, exports, body, hparse, hedits, hbody, rfl⟩ := transpile_ok h
  have hlaminar := moduleEdits_laminar (TypeScript.parse_wellFormed hparse) hedits
  refine ⟨tree, edits, exports, hparse, hedits, fun first edit last hordered hblank => ?_⟩
  have happlied := (Edits.applyTo?_eq_some hlaminar).mp hbody
  rw [hordered] at happlied
  obtain ⟨before, stretch, after, before', after', hsource, hstart, hstop, hbefore, hafter, rfl⟩ :=
    happlied.of_append_cons
  rw [Nat.zero_add] at hstart
  refine ⟨before, stretch, after, before', after', hsource, hstart, hstop, hbefore, hafter, ?_,
    fun gap newline context s hgap hrest => ?_⟩
  · simp only [String.toList_ofList, Edit.result, hblank, List.append_assoc]
  have hadvance : advance context s =
      (loadToken (after' ++ exports.footer.toList) context s).map fun loaded =>
        ((), loaded.2.behindGap (newline || stretch.any Token.isBreak) s.rest) := by
    rw [advance, hrest, ← List.append_assoc,
      loadToken_passes (hgap.append (Token.passes_blanked stretch))]
  refine ⟨hadvance, fun t hload hsemicolon => ?_⟩
  have hsemicolon : (t.behindGap (newline || stretch.any Token.isBreak) s.rest).token ≠
      .mark ";" := hsemicolon
  simp only [bind, Reader.bind, hadvance, hload, Option.map_some]
  rw [endStatement_eq hsemicolon, endsStatement_behindGap, Bool.or_assoc]
  split <;> simp_all

/-- How many statements a text has when it is read as a script. -/
def statementCount? (text : List Char) : Option Nat :=
  (readScript? text).map fun script =>
    match script.block with
    | .block _ _ statements => statements.length
    | _                     => 0

/-- A type alias stands between two statements. The script has the header and one statement: the
first goes on with the parenthesis that begins the second. -/
theorem transpile_separation_merged :
    ∃ tree script before stretch after,
      TypeScript.parse "let a=b\ntype T=c;\n(d)".toList = .ok tree ∧
      tree.namedChildren.map Tree.symbol =
        [.kind .lexicalDeclaration, .kind .typeAliasDeclaration, .kind .expressionStatement] ∧
      transpile "let a=b\ntype T=c;\n(d)" "BP/t.ts" = .ok script ∧
      statementCount? script.toList = some 2 ∧
      "let a=b\ntype T=c;\n(d)".toList = before ++ (stretch ++ after) ∧ size before = 8 ∧
      size stretch = 9 ∧
      ∀ context s, s.rest = '\n' :: (stretch.map Edit.blanked ++ after) →
        advance context s = (loadToken after context s).map fun loaded =>
          ((), loaded.2.behindGap true s.rest) := by
  have heval : ((TypeScript.parse "let a=b\ntype T=c;\n(d)".toList).toOption.map fun tree =>
      ((moduleEdits "let a=b\ntype T=c;\n(d)".toList tree).toOption,
        tree.namedChildren.map Tree.symbol)) =
      some (some ([.blank 8 17], .empty), [.kind .lexicalDeclaration, .kind .typeAliasDeclaration,
        .kind .expressionStatement]) := by
    decide +kernel
  obtain ⟨tree, hparse, heval⟩ := exists_of_parse heval
  obtain ⟨hedits, hstatements⟩ := Prod.mk.inj heval
  have hedits := toOption_eq_some hedits
  have hordered : (Edits.ofList [.blank 8 17]).ordered = [] ++ .blank 8 17 :: [] :=
    List.mergeSort_of_pairwise (by decide)
  have hbody : (Edits.ofList [.blank 8 17]).applyTo? "let a=b\ntype T=c;\n(d)".toList =
      some "let a=b\n         \n(d)".toList := by
    rw [Edits.applyTo?, List.mergeSort_of_pairwise (by decide)]
    decide
  have hscript := transpile_eq "BP/t.ts" hparse hedits hbody
  obtain ⟨tree', edits', exports', hparse', hedits', hblanks⟩ := transpile_separation hscript
  rw [hparse] at hparse'
  cases hparse'
  rw [hedits] at hedits'
  cases hedits'
  obtain ⟨before, stretch, after, before', after', hsource, hstart, hstop, -, hafter, -, hreads⟩ :=
    hblanks [] (.blank 8 17) [] hordered rfl
  cases hafter with | done =>
  refine ⟨tree, _, before, stretch, after, hparse, hstatements, hscript, ?_, hsource, hstart, ?_,
    fun context s hrest => ?_⟩
  · decide +kernel
  · exact Nat.add_left_cancel hstop
  · have hfooter : after ++ Exports.empty.footer.toList = after := by
      simp only [Exports.footer, Exports.empty, String.toList_empty, List.append_nil]
    rw [hfooter] at hreads
    exact (hreads ['\n'] true context s (Token.passes_lineEnd rfl) hrest).1

end Stencil
