import Stencil.Proofs.Literals

/-!
# Numerals in scripts

A script reads a numeral as an expression, and the expression comes to its number
(`Numeral.denotes`). The member of an object that has it plus one comes to the number after it.
-/

namespace Stencil.Script

open Erasure (isScriptSpace)

/-! ### Reading -/

section Reading

open Token Syntax

variable {text blanks front rest : List Char} {x : Float} {n : Nat} {a b : Char} {mark : Char}
  {newline : Bool} {c : Context}

lemma read_minus (hsame : a ≠ '-') (hequals : a ≠ '=') :
    Token.read ('-' :: a :: rest) = some (.mark "-", a :: rest) := by
  have hsame := beq_eq_false_iff_ne.mpr hsame.symm
  have hequals := beq_eq_false_iff_ne.mpr hequals.symm
  have hlength : "-".length = 1 := rfl
  change readMark ('-' :: a :: rest) = _
  simp [readMark, Token.marks, List.find?, List.isPrefixOf, hsame, hequals, hlength]

lemma read_plus (hsame : a ≠ '+') (hequals : a ≠ '=') :
    Token.read ('+' :: a :: rest) = some (.mark "+", a :: rest) := by
  have hsame := beq_eq_false_iff_ne.mpr hsame.symm
  have hequals := beq_eq_false_iff_ne.mpr hequals.symm
  have hlength : "+".length = 1 := rfl
  change readMark ('+' :: a :: rest) = _
  simp [readMark, Token.marks, List.find?, List.isPrefixOf, hsame, hequals, hlength]

/-- White space is passed over. -/
lemma exists_passes (hblanks : ∀ a ∈ blanks, isScriptSpace a) :
    ∃ newline, Passes blanks newline := by
  induction blanks with
  | nil => exact ⟨false, passes_nil⟩
  | cons a blanks ih =>
    obtain ⟨ha, hblanks⟩ := List.forall_mem_cons.mp hblanks
    obtain ⟨newline, hpasses⟩ := ih hblanks
    rw [isScriptSpace] at ha
    rcases hline : isLineEnd a with _ | _
    · rw [hline, Bool.or_false] at ha
      exact ⟨_, (passes_space ha hline).append hpasses⟩
    · exact ⟨_, (passes_lineEnd hline).append hpasses⟩

namespace Numeral

/-- No white space and no comment begins a numeral. -/
lemma skipSpace_append (h : Numeral n text x) (newline : Bool) (rest : List Char) :
    skipSpace .between newline (text ++ rest) = some (text ++ rest, newline) := by
  obtain ⟨a, more, rfl, hhead⟩ := h.exists_head
  have hall : ∀ n < 58, 43 ≤ n →
      isLineEnd (Char.ofNat n) = false ∧ isSpace (Char.ofNat n) = false := by
    decide
  obtain ⟨hle, hlt, hslash⟩ := range_of_head hhead
  have hplain := hall _ hlt hle
  rw [Char.ofNat_toNat] at hplain
  rw [List.cons_append, skipSpace]
  · simp [hplain]
  all_goals
    intro rest heq
    exact absurd heq hslash

/-- What comes behind a sign begins neither an assignment nor, with the sign, another token. -/
lemma exists_cons (h : Numeral n text x) (hblanks : ∀ a ∈ blanks, isScriptSpace a) :
    ∃ a more, blanks ++ text = a :: more ∧ a ≠ '=' := by
  obtain ⟨a, more, rfl, hhead⟩ := h.exists_head
  cases blanks with
  | nil =>
    refine ⟨a, more, rfl, ?_⟩
    rintro rfl
    exact absurd hhead (by decide)
  | cons b blanks =>
    refine ⟨b, _, rfl, ?_⟩
    rintro rfl
    exact absurd (hblanks '=' List.mem_cons_self) (by decide)

/-- A numeral begins with its number or a sign. -/
lemma leads (h : Numeral n text x) (hmark : mark ∈ [';', ']'])
    (hskip : skipSpace .between false front = some (text ++ mark :: rest, newline)) :
    ∃ token more, Leads front newline token more ∧ beginsSigned c token := by
  cases h with
  | literal h =>
    have hmark : mark ∈ [' ', ';', '[', ']'] := by
      simp only [List.mem_cons, List.not_mem_nil, or_false] at hmark ⊢
      tauto
    exact ⟨_, _, ⟨_, hskip, h mark hmark rest⟩, .inl (.inr (.inr (.inr ⟨x, rfl⟩)))⟩
  | minus h hblanks hsign =>
    obtain ⟨a, more, heq, hequals⟩ := h.exists_cons hblanks
    rw [heq] at hskip hsign
    have hsame : a ≠ '-' := by simpa using hsign
    exact ⟨_, _, ⟨_, hskip, read_minus hsame hequals⟩, .inr (.inl rfl)⟩
  | plus h hblanks hsign =>
    obtain ⟨a, more, heq, hequals⟩ := h.exists_cons hblanks
    rw [heq] at hskip hsign
    have hsame : a ≠ '+' := by simpa using hsign
    exact ⟨_, _, ⟨_, hskip, read_plus hsame hequals⟩, .inr (.inr rfl)⟩

end Numeral

/-- Whether a text is that of an operand, also behind white space, where a semicolon or a closing
bracket comes behind it. -/
def IsOperand (c : Context) (text : List Char) (tree : Tree) : Prop :=
  ∃ least, ∀ fuel ≥ least, ∀ mark ∈ [';', ']'], ∀ rest front newline,
    skipSpace .between false front = some (text ++ mark :: rest, newline) →
      Reads (unary (read fuel)) c front (mark :: rest) tree

lemma isOperand_literal (h : IsLiteral text x) (hlimit : 0 < c.limit) :
    IsOperand c text (.literal (.number x)) := by
  refine ⟨0, fun fuel _ mark hmark rest front newline hskip => ?_⟩
  obtain ⟨token, hends, hafter⟩ := exists_leads_end hmark rest
  have hmark : mark ∈ [' ', ';', '[', ']'] := by
    simp only [List.mem_cons, List.not_mem_nil, or_false] at hmark ⊢
    tauto
  have hleads : Leads front newline (.number x false) (mark :: rest) :=
    ⟨_, hskip, h mark hmark rest⟩
  exact reads_operand hleads (.inr (.inr (.inr ⟨x, rfl⟩)))
    (reads_primary_number hleads hafter.lexes) hafter (endsOperand_of_endsAssignment hends) hlimit

/-- A sign before an operand. -/
lemma isOperand_sign {sign : Char} {token : Token} {op : UnaryOp} {tree : Tree}
    (h : Numeral n text x) (htree : IsOperand c text tree)
    (hblanks : ∀ a ∈ blanks, isScriptSpace a) (hop : unaryOp? token = some op)
    (hread : ∀ rest, Token.read (sign :: (blanks ++ text) ++ rest) =
      some (token, blanks ++ text ++ rest)) :
    IsOperand c (sign :: (blanks ++ text)) (.unary op tree) := by
  obtain ⟨least, htree⟩ := htree
  refine ⟨least + 1, fun fuel hfuel mark hmark rest front newline hskip => ?_⟩
  obtain ⟨fuel, rfl⟩ := Nat.exists_eq_add_one_of_ne_zero (Nat.ne_of_gt (Nat.zero_lt_of_lt hfuel))
  have hleads : Leads front newline token (blanks ++ text ++ mark :: rest) :=
    ⟨_, hskip, hread (mark :: rest)⟩
  obtain ⟨ends, hpasses⟩ := exists_passes hblanks
  have hinner : skipSpace .between false (blanks ++ text ++ mark :: rest) =
      some (text ++ mark :: rest, ends) := by
    rw [List.append_assoc, hpasses, Bool.false_or, h.skipSpace_append]
  obtain ⟨first, more, hfirst, -⟩ := h.leads (c := c) hmark hinner
  refine .bind_context (.bind_token hleads ?_)
  rw [hop]
  exact .bind (reads_advance hleads hfirst.lexes)
    (.bind (reads_unary_part (htree fuel (by omega) mark hmark rest _ _ hinner)) (.pure _))

/-- An operand is an expression by itself. -/
lemma IsOperand.denotes {tree : Tree} (htree : IsOperand c text tree) (h : Numeral n text x)
    (hvalue : isValue tree) (hlimit : 0 < c.limit) : Denotes c text tree := by
  obtain ⟨least, htree⟩ := htree
  refine ⟨least + 2, fun fuel hfuel mark hmark rest => ?_⟩
  obtain ⟨fuel, rfl⟩ := Nat.exists_eq_add_of_le' (Nat.le_trans (Nat.le_add_left 2 _) hfuel)
  obtain ⟨end', hends, hafter⟩ := exists_leads_end hmark rest
  have hskip := h.skipSpace_append false (mark :: rest)
  obtain ⟨token, more, hleads, hbegins⟩ := h.leads (c := c) hmark hskip
  exact ⟨hleads.lexes, reads_assignment_of_unary hleads hbegins
    (htree fuel (by omega) mark hmark rest _ _ hskip) hvalue hafter hends hlimit⟩

end Reading

/-! ### Evaluation -/

section Evaluation

variable {h : Host} {a : Activation} {m m' m₁ : Machine} {n k : Nat} {e d : Tree} {v w : Value}
  {op : UnaryOp} {owner : Utf16}

lemma computes_unary (hop : op ≠ .typeOf) (hoperand : Computes h n a e m v m₁)
    (hresult : unaryResult op v h m₁ = .ok w m') : Computes h (n + 2) a (.unary op e) m w m' := by
  intro b tasks hlike
  have hplan : Comes h 1 (b.plan (.evaluate (.unary op e) :: tasks)) m
      (b.plan (.evaluate e :: .unary op :: tasks)) m := by
    refine comes_step ?_
    cases op with
    | typeOf => exact absurd rfl hop
    | _ => rfl
  have happly : Comes h 1 ((b.push v).plan (.unary op :: tasks)) m₁ ((b.push w).plan tasks) m' := by
    refine comes_step ?_
    change (unaryResult op v >>= fun v => give (b.plan tasks) v) h m₁ = _
    rw [bind_ok hresult]
    rfl
  exact (hplan.trans ((hoperand b _ hlike).trans happly)).mono (by omega)

/-- The sum of two numbers. -/
lemma computes_add {x y : Float} (hleft : Computes h n a d m (.number x) m₁)
    (hright : Computes h k a e m₁ (.number y) m') :
    Computes h (n + k + 2) a (.binary .add d e) m (.number (x + y)) m' := by
  intro b tasks hlike
  have hplan : Comes h 1 (b.plan (.evaluate (.binary .add d e) :: tasks)) m
      (b.plan (.evaluate d :: .evaluate e :: .binary .add :: tasks)) m := comes_step rfl
  have happly : Comes h 1 (((b.push (.number x)).push (.number y)).plan (.binary .add :: tasks)) m'
      ((b.push (.number (x + y))).plan tasks) m' := comes_step rfl
  exact (hplan.trans ((hleft b _ hlike).trans
    ((hright _ _ (hlike.push _)).trans happly))).mono (by omega)

/-- A member of an object under a computed key. -/
lemma computes_member {r : Ref} (howner : m.Gives a.scope owner (.object r))
    (hkey : Computes h n a d m w m') (hload : loadMember (.object r) w h m' = .ok v m') :
    Computes h (n + 4) a (.member (.name owner) (.computed d) false) m v m' := by
  intro b tasks hlike
  have hplan : Comes h 1 (b.plan (.evaluate (.member (.name owner) (.computed d) false) :: tasks)) m
      (b.plan (.evaluate (.name owner) :: .evaluate (.computed d) :: .getMember :: tasks)) m :=
    comes_step rfl
  let b₁ := b.push (.object r)
  have hcomputed : Comes h 1 (b₁.plan (.evaluate (.computed d) :: .getMember :: tasks)) m
      (b₁.plan (.evaluate d :: .getMember :: tasks)) m := comes_step rfl
  have hget : Comes h 1 ((b₁.push w).plan (.getMember :: tasks)) m' ((b.push v).plan tasks) m' := by
    refine comes_step ?_
    change (loadMember (.object r) w >>= fun v => give (b.plan tasks) v) h m' = _
    rw [bind_ok hload]
    rfl
  exact (hplan.trans ((computes_name howner b _ hlike).trans (hcomputed.trans
    ((hkey b₁ _ (hlike.push _)).trans hget)))).mono (by omega)

/-- An expression comes to one value. -/
lemma Computes.unique {m'' : Machine} (hv : Computes h n a e m v m')
    (hw : Computes h k a e m w m'') : v = w ∧ m' = m'' := by
  let b : Activation := { a with tasks := [] }
  have hlike : a.Like b := ⟨rfl, rfl, rfl, rfl⟩
  have hv : run (n + k + 2) (b.plan [.evaluate e, .keepResult]) h m = .ok (.ended v) m' :=
    ((hv b [.keepResult] hlike).trans (comes_keepResult v)).run_eq_ended rfl (by omega)
  have hw : run (n + k + 2) (b.plan [.evaluate e, .keepResult]) h m = .ok (.ended w) m'' :=
    ((hw b [.keepResult] hlike).trans (comes_keepResult w)).run_eq_ended rfl (by omega)
  rw [hv] at hw
  cases hw
  exact ⟨rfl, rfl⟩

/-- An object gives what was written last under a name. -/
lemma Machine.Holds.loadMember_text {r : Ref} {o : Object} {name : Utf16} (hr : m.Holds r o)
    (hkey : m.property? r (.ofText name) = some (.plain v)) :
    loadMember (.object r) (.text name) h m = .ok v m := by
  rw [hr.property?_eq] at hkey
  exact get_of_owns hr.listed ⟨_, _, hkey, rfl⟩

end Evaluation

/-! ### Numerals -/

open Syntax

variable {text : List Char} {x : Float} {n : Nat} {c : Context} {tree tree' : Tree}

/-- A numeral is an operand that comes to its number. -/
lemma Numeral.isOperand (h : Numeral n text x) (hlimit : 0 < c.limit) :
    ∃ tree, isValue tree ∧ IsOperand c text tree ∧
      ∀ host a m, Computes host (2 * n + 1) a tree m (.number x) m := by
  induction h with
  | literal h =>
    exact ⟨_, rfl, isOperand_literal h hlimit, fun _ _ _ => computes_literal _⟩
  | minus h hblanks hsign ih =>
    obtain ⟨tree, -, htree, hcomputes⟩ := ih
    obtain ⟨a, more, heq, hequals⟩ := h.exists_cons hblanks
    have hsame : a ≠ '-' := by simpa [heq] using hsign
    have hop : unaryOp? (.mark "-") = some .minus := rfl
    refine ⟨.unary .minus tree, rfl, isOperand_sign h htree hblanks hop ?_,
      fun host a m => computes_unary nofun (hcomputes host a m) rfl⟩
    rw [heq]
    exact fun rest => read_minus hsame hequals
  | plus h hblanks hsign ih =>
    obtain ⟨tree, -, htree, hcomputes⟩ := ih
    obtain ⟨a, more, heq, hequals⟩ := h.exists_cons hblanks
    have hsame : a ≠ '+' := by simpa [heq] using hsign
    have hop : unaryOp? (.mark "+") = some .plus := rfl
    refine ⟨.unary .plus tree, rfl, isOperand_sign h htree hblanks hop ?_,
      fun host a m => computes_unary nofun (hcomputes host a m) rfl⟩
    rw [heq]
    exact fun rest => read_plus hsame hequals

/-- A numeral is an expression that comes to its number. -/
theorem Numeral.denotes (h : Numeral n text x) (hlimit : 0 < c.limit) :
    ∃ tree, Denotes c text tree ∧
      ∀ host a m, Computes host (2 * n + 1) a tree m (.number x) m := by
  obtain ⟨tree, hvalue, htree, hcomputes⟩ := h.isOperand (c := c) hlimit
  exact ⟨tree, htree.denotes h hvalue hlimit, hcomputes⟩

/-- A text is that of one expression. -/
lemma Syntax.Denotes.unique (h : Denotes c text tree) (h' : Denotes c text tree') :
    tree = tree' := by
  obtain ⟨least, h⟩ := h
  obtain ⟨least', h'⟩ := h'
  obtain ⟨hlexes, hreads⟩ := h (max least least') (Nat.le_max_left _ _) ';' (by decide) []
  obtain ⟨-, hreads'⟩ := h' (max least least') (Nat.le_max_right _ _) ';' (by decide) []
  obtain ⟨newline, token, rest, start, hskip, hread⟩ := hlexes
  let s : State := { State.initial text with token, newline, start, rest }
  have hs : s.Before (text ++ [';']) := ⟨hskip, hread, Nat.le_refl 0⟩
  obtain ⟨t, ht, -⟩ := hreads s hs
  obtain ⟨t', ht', -⟩ := hreads' s hs
  rw [ht] at ht'
  exact (Prod.mk.inj (Option.some.inj ht')).1

end Stencil.Script
