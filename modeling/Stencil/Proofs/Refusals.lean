import Mathlib.Data.List.DropRight
import Stencil.Proofs.Recognisers
import Stencil.Proofs.Tokens

/-!
# What is refused for a load

`Describes` says which texts a recogniser takes. From the texts of the four recognisers follows
what a refused template is told (`demandNoLoads_statement`): the line of the load, unless the load
is a call at the start of a line behind another one, of which nothing is told. A template without
any of the words of loads among its identifiers is refused just where a line begins with one of two
texts that look like a load (`demandNoLoads_identifiers`).
-/

namespace Stencil

namespace ModuleLoad

open Text

variable {recogniser other : Recogniser} {first middle last rest source : List Char}
  {holds : Char → Bool}

/-! ### Shapes -/

/-- What a recogniser may take, between the text before and the text behind. -/
abbrev Shape := List Char → List Char → List Char → Prop

/-- Whether a recogniser takes the texts of a shape and no others. -/
def Describes (shape : Shape) (recogniser : Recogniser) : Prop :=
  ∀ first rest later, later ∈ recogniser (between first rest) ↔
    ∃ middle last, rest = middle ++ last ∧ later = between (first ++ middle) last ∧
      shape first middle last

/-- Whether a line starts behind a text. -/
def AtLineStart (first : List Char) : Prop :=
  first.getLast? = none ∨ first.getLast? = some '\n'

/-- Whether a text consists of one or more characters of a class. -/
def IsRun (holds : Char → Bool) (text : List Char) : Prop :=
  text ≠ [] ∧ text.all holds

namespace Describes

variable {shape shape' : Shape}

lemma of_takes (htakes : ∀ first middle last, shape first middle last →
      Takes recogniser first middle last)
    (hends : ∀ first rest, ∀ later ∈ recogniser (between first rest), ∃ middle last,
      rest = middle ++ last ∧ later = between (first ++ middle) last ∧ shape first middle last) :
    Describes shape recogniser := by
  refine fun first rest later => ⟨hends first rest later, ?_⟩
  rintro ⟨middle, last, rfl, rfl, hshape⟩
  exact htakes first middle last hshape

lemma congr (h : Describes shape recogniser)
    (hshape : ∀ first middle last, shape first middle last ↔ shape' first middle last) :
    Describes shape' recogniser := by
  obtain rfl : shape = shape' := by
    funext first middle last
    exact propext (hshape first middle last)
  exact h

/-- A recogniser fits where a text of its shape stands. -/
lemma fits_iff (h : Describes shape recogniser) : recogniser (between first rest) ≠ [] ↔
    ∃ middle last, rest = middle ++ last ∧ shape first middle last := by
  rw [← List.isEmpty_eq_false_iff, List.isEmpty_eq_false_iff_exists_mem]
  constructor
  · rintro ⟨later, hlater⟩
    obtain ⟨middle, last, hrest, -, hshape⟩ := (h first rest later).mp hlater
    exact ⟨middle, last, hrest, hshape⟩
  · rintro ⟨middle, last, hrest, hshape⟩
    exact ⟨_, (h first rest _).mpr ⟨middle, last, hrest, rfl, hshape⟩⟩

lemma one : Describes (fun _ middle _ => ∃ c, middle = [c] ∧ holds c) (one holds) := by
  refine of_takes (fun first middle last => ?_) fun first rest later hlater => ?_
  · rintro ⟨c, rfl, hc⟩
    exact takes_one hc
  · rcases rest with _ | ⟨c, rest⟩
    · cases hlater
    · simp only [ModuleLoad.one, between] at hlater
      split at hlater
      next hc =>
        rw [List.mem_singleton.mp hlater]
        exact ⟨[c], rest, rfl, (between_append_singleton first rest c).symm, c, rfl, hc⟩
      next => cases hlater

lemma literal (text : List Char) : Describes (fun _ middle _ => middle = text) (literal text) := by
  refine of_takes (fun first middle last => ?_) fun first rest later hlater => ?_
  · rintro rfl
    exact takes_literal _
  · induction text generalizing first rest with
    | nil =>
      rw [List.mem_singleton.mp hlater]
      exact ⟨[], rest, rfl, by rw [List.append_nil], rfl⟩
    | cons c text ih =>
      rcases rest with _ | ⟨d, rest⟩
      · cases hlater
      · simp only [ModuleLoad.literal, between] at hlater
        split at hlater
        next heq =>
          subst heq
          rw [← between_append_singleton first] at hlater
          obtain ⟨middle, last, rfl, rfl, rfl⟩ := ih _ _ hlater
          exact ⟨c :: middle, last, rfl, by simp, rfl⟩
        next => cases hlater

lemma any : Describes (fun _ middle _ => middle.all holds) (any holds) := by
  refine of_takes (fun first middle last => takes_any) fun first rest later hlater => ?_
  have hstay (first rest : List Char) : ∃ middle last, rest = middle ++ last ∧
      between first rest = between (first ++ middle) last ∧ middle.all holds :=
    ⟨[], rest, rfl, by rw [List.append_nil], rfl⟩
  simp only [ModuleLoad.any, between] at hlater
  induction rest generalizing first with
  | nil =>
    rw [List.mem_singleton.mp hlater]
    exact hstay first []
  | cons c rest ih =>
    unfold anyFrom at hlater
    split at hlater
    next hc =>
      rcases List.mem_cons.mp hlater with rfl | hlater
      · exact hstay first (c :: rest)
      · have hlast : (first ++ [c]).getLast? = some c := by simp
        rw [← hlast] at hlater
        obtain ⟨middle, last, rfl, rfl, hall⟩ := ih _ hlater
        exact ⟨c :: middle, last, rfl, by simp, by rw [List.all_cons, hc, hall]; rfl⟩
    next =>
      rw [List.mem_singleton.mp hlater]
      exact hstay first (c :: rest)

lemma lineStart : Describes (fun first middle _ => AtLineStart first ∧ middle = []) lineStart := by
  refine of_takes (fun first middle last => ?_) fun first rest later hlater => ?_
  · rintro ⟨hstart, rfl⟩
    exact takes_lineStart hstart
  · unfold ModuleLoad.lineStart at hlater
    split at hlater
    next hstart =>
      rw [List.mem_singleton.mp hlater]
      exact ⟨[], rest, rfl, by rw [List.append_nil], hstart, rfl⟩
    next => cases hlater

lemma wordEnd : Describes (fun _ middle last => middle = [] ∧ ∀ c ∈ last.head?, isWord c = false)
    wordEnd := by
  refine of_takes (fun first middle last => ?_) fun first rest later hlater => ?_
  · rintro ⟨rfl, hend⟩
    exact takes_wordEnd hend
  · unfold ModuleLoad.wordEnd at hlater
    split at hlater
    next => cases hlater
    next hend =>
      rw [List.mem_singleton.mp hlater]
      refine ⟨[], rest, rfl, by rw [List.append_nil], rfl, fun c hc => ?_⟩
      rw [between, Option.mem_def.mp hc] at hend
      simpa using hend

lemma andThen (h : Describes shape recogniser) (hother : Describes shape' other) :
    Describes (fun first middle last => ∃ front back, middle = front ++ back ∧
      shape first front (back ++ last) ∧ shape' (first ++ front) back last)
      (andThen recogniser other) := by
  intro first rest later
  rw [ModuleLoad.andThen, List.mem_flatMap]
  constructor
  · rintro ⟨place, hplace, hlater⟩
    obtain ⟨front, last, rfl, rfl, hfront⟩ := (h first rest place).mp hplace
    obtain ⟨back, last, rfl, rfl, hback⟩ := (hother _ _ later).mp hlater
    exact ⟨front ++ back, last, by simp, by simp, front, back, rfl, hfront, hback⟩
  · rintro ⟨_, last, rfl, rfl, front, back, rfl, hfront, hback⟩
    exact ⟨_, (h _ _ _).mpr ⟨front, back ++ last, by simp, rfl, hfront⟩,
      (hother _ _ _).mpr ⟨back, last, rfl, by simp, hback⟩⟩

lemma either (h : Describes shape recogniser) (hother : Describes shape' other) :
    Describes (fun first middle last => shape first middle last ∨ shape' first middle last)
      (either recogniser other) := by
  intro first rest later
  rw [ModuleLoad.either, List.mem_append, h, hother]
  simp only [and_or_left, exists_or]

lemma nil : Describes (fun _ middle _ => middle = []) (sequence []) :=
  literal []

lemma maybe (h : Describes shape recogniser) :
    Describes (fun first middle last => shape first middle last ∨ middle = [])
      (maybe recogniser) :=
  h.either nil

lemma some1 : Describes (fun _ middle _ => IsRun holds middle) (some1 holds) := by
  refine congr (one.andThen any) fun first middle last => ⟨?_, ?_⟩
  · rintro ⟨_, back, rfl, ⟨c, rfl, hc⟩, hall⟩
    exact ⟨List.cons_ne_nil _ _, by rw [List.singleton_append, List.all_cons, hc, hall]; rfl⟩
  · rintro ⟨hne, hall⟩
    obtain ⟨c, middle, rfl⟩ := List.exists_cons_of_ne_nil hne
    rw [List.all_cons, Bool.and_eq_true] at hall
    exact ⟨[c], middle, rfl, ⟨c, rfl, hall.1⟩, hall.2⟩

end Describes

/-! ### Loads -/

/-- An import statement up to what it goes on with. -/
def IsImport : Shape := fun first middle _ =>
  AtLineStart first ∧ ∃ indent blank c, middle = indent ++ ("import".toList ++ (blank ++ [c])) ∧
    indent.all isTabOrSpace ∧ blank.all isBlank ∧
    (isIdentifierPart c ∨ c ∈ ['*', '\x7b', '"', '\''])

/-- A call of a name up to its parenthesis, with the character before. -/
def IsCall (name : String) : Shape := fun first middle _ =>
  ∃ lead blank, middle = lead ++ (name.toList ++ (blank ++ ['('])) ∧
    (AtLineStart first ∧ lead = [] ∨ ∃ c, lead = [c] ∧ isFree c) ∧ blank.all isBlank

/-- All that another module gives, or what a list in braces says. -/
def IsSubject (subject : List Char) : Prop :=
  subject = ['*'] ∨ ∃ inner, subject = '\x7b' :: (inner ++ ['\x7d']) ∧ inner.all (· != '\x7d')

/-- A new name for what is exported. -/
def IsAlias (called : List Char) : Prop :=
  ∃ gap name blank, called = "as".toList ++ (gap ++ (name ++ blank)) ∧ IsRun isBlank gap ∧
    IsRun isIdentifierPart name ∧ blank.all isBlank

/-- An export up to the word that says where it comes from. -/
def IsExportHead (head : List Char) : Prop :=
  ∃ gap type subject blank called,
    head = "export".toList ++ (gap ++ (type ++ (subject ++ (blank ++ called)))) ∧
    IsRun isBlank gap ∧ ((∃ gap, type = "type".toList ++ gap ∧ IsRun isBlank gap) ∨ type = []) ∧
    IsSubject subject ∧ blank.all isBlank ∧ (IsAlias called ∨ called = [])

/-- An export of what another module gives. -/
def IsReExport : Shape := fun first middle last =>
  AtLineStart first ∧ (∃ indent head, middle = indent ++ (head ++ "from".toList) ∧
    indent.all isTabOrSpace ∧ IsExportHead head) ∧ ∀ c ∈ last.head?, isWord c = false

lemma describes_importStatement : Describes IsImport importStatement := by
  refine .congr (.andThen .lineStart (.andThen .any (.andThen (.literal _) (.andThen .any
    (.andThen .one .nil))))) fun first middle last => ⟨?_, ?_⟩
  · rintro ⟨_, _, rfl, ⟨hstart, rfl⟩, indent, _, rfl, hindent, _, _, rfl, rfl, blank, _, rfl,
      hblank, _, _, rfl, ⟨c, rfl, hc⟩, rfl⟩
    exact ⟨hstart, indent, blank, c, rfl, hindent, hblank, by simpa [or_assoc] using hc⟩
  · rintro ⟨hstart, indent, blank, c, rfl, hindent, hblank, hc⟩
    exact ⟨[], _, rfl, ⟨hstart, rfl⟩, indent, _, rfl, hindent, _, _, rfl, rfl, blank, _, rfl,
      hblank, [c], [], rfl, ⟨c, rfl, by simpa [or_assoc] using hc⟩, rfl⟩

lemma describes_call (name : String) : Describes (IsCall name) (call name) := by
  refine .congr (.andThen (.either .lineStart .one) (.andThen (.literal _) (.andThen .any
    (.andThen .one .nil)))) fun first middle last => ⟨?_, ?_⟩
  · rintro ⟨lead, _, rfl, hlead, _, _, rfl, rfl, blank, _, rfl, hblank, _, _, rfl, ⟨c, rfl, hc⟩,
      rfl⟩
    rw [beq_iff_eq.mp hc]
    exact ⟨lead, blank, rfl, hlead, hblank⟩
  · rintro ⟨lead, blank, rfl, hlead, hblank⟩
    exact ⟨lead, _, rfl, hlead, _, _, rfl, rfl, blank, _, rfl, hblank, ['('], [], rfl,
      ⟨'(', rfl, rfl⟩, rfl⟩

lemma describes_subject : Describes (fun _ middle _ => IsSubject middle)
    (either (one (· == '*'))
      (sequence [one (· == '\x7b'), any (· != '\x7d'), one (· == '\x7d')])) := by
  refine .congr (.either .one (.andThen .one (.andThen .any (.andThen .one .nil))))
    fun first middle last => ⟨?_, ?_⟩
  · rintro (⟨c, rfl, hc⟩ | ⟨_, _, rfl, ⟨c, rfl, hc⟩, inner, _, rfl, hinner, _, _, rfl, ⟨d, rfl, hd⟩,
      rfl⟩)
    · exact .inl (by rw [beq_iff_eq.mp hc])
    · exact .inr ⟨inner, by rw [beq_iff_eq.mp hc, beq_iff_eq.mp hd]; rfl, hinner⟩
  · rintro (rfl | ⟨inner, rfl, hinner⟩)
    · exact .inl ⟨_, rfl, rfl⟩
    · exact .inr ⟨['\x7b'], _, rfl, ⟨_, rfl, rfl⟩, inner, ['\x7d'], rfl, hinner, ['\x7d'], [],
        rfl, ⟨_, rfl, rfl⟩, rfl⟩

lemma describes_alias : Describes (fun _ middle _ => IsAlias middle)
    (sequence [word "as", some1 isBlank, some1 isIdentifierPart, any isBlank]) := by
  refine .congr (.andThen (.literal _) (.andThen .some1 (.andThen .some1 (.andThen .any .nil))))
    fun first middle last => ⟨?_, ?_⟩
  · rintro ⟨_, _, rfl, rfl, gap, _, rfl, hgap, name, _, rfl, hname, blank, _, rfl, hblank, rfl⟩
    exact ⟨gap, name, blank, by simp, hgap, hname, hblank⟩
  · rintro ⟨gap, name, blank, rfl, hgap, hname, hblank⟩
    exact ⟨_, _, rfl, rfl, gap, _, rfl, hgap, name, blank, rfl, hname, blank, [], by simp, hblank,
      rfl⟩

lemma describes_reExport : Describes IsReExport reExport := by
  refine .congr (.andThen .lineStart (.andThen .any (.andThen (.literal _) (.andThen .some1
    (.andThen (.maybe (.andThen (.literal _) .some1)) (.andThen describes_subject (.andThen .any
      (.andThen describes_alias.maybe (.andThen (.literal _) (.andThen .wordEnd .nil))))))))))
    fun first middle last => ⟨?_, ?_⟩
  · rintro ⟨_, _, rfl, ⟨hstart, rfl⟩, indent, _, rfl, hindent, _, _, rfl, rfl, gap, _, rfl, hgap,
      type, _, rfl, htype, subject, _, rfl, hsubject, blank, _, rfl, hblank, called, _, rfl,
      hcalled, _, _, rfl, rfl, _, _, rfl, ⟨rfl, hend⟩, rfl⟩
    refine ⟨hstart, ⟨indent, _, by simp, hindent, gap, type, subject, blank, called, rfl, hgap, ?_,
      hsubject, hblank, hcalled⟩, hend⟩
    exact htype.imp_left fun ⟨_, gap, htype, hword, hgap⟩ => ⟨gap, by rw [htype, hword], hgap⟩
  · rintro ⟨hstart, ⟨indent, _, rfl, hindent, gap, type, subject, blank, called, rfl, hgap, htype,
      hsubject, hblank, hcalled⟩, hend⟩
    have htype : (∃ front back, type = front ++ back ∧ front = "type".toList ∧
        IsRun isBlank back) ∨ type = [] :=
      htype.imp_left fun ⟨gap, htype, hgap⟩ => ⟨_, gap, htype, rfl, hgap⟩
    exact ⟨[], _, rfl, ⟨hstart, rfl⟩, indent, _, rfl, hindent, "export".toList,
      gap ++ (type ++ (subject ++ (blank ++ (called ++ "from".toList)))), by simp, rfl, gap, _, rfl,
      hgap, type, _, rfl, htype, subject, _, rfl, hsubject, blank, _, rfl, hblank, called, _, rfl,
      hcalled, "from".toList, [], by simp, rfl, [], [], rfl, ⟨rfl, by simpa using hend⟩, rfl⟩

/-! ### The first load -/

/-- Whether a recogniser fits nowhere in a text. -/
def FitsNowhere (recogniser : Recogniser) (source : List Char) : Prop :=
  ∀ first rest, source = first ++ rest → recogniser (between first rest) = []

/-- Whether a recogniser fits behind the first of two parts of a text, and nowhere before. -/
structure FitsFirst (recogniser : Recogniser) (source first rest : List Char) : Prop where
  source_eq : source = first ++ rest
  fits : recogniser (between first rest) ≠ []
  earliest : ∀ front back, source = front ++ back → front.length < first.length →
    recogniser (between front back) = []

/-- What is found behind a text is where a recogniser fits first behind it. -/
lemma find?_getLast?_cases (recogniser : Recogniser) (done source : List Char) :
    (find? recogniser done.getLast? source = none ∧
      ∀ first rest, source = first ++ rest → recogniser (between (done ++ first) rest) = []) ∨
    ∃ first rest, find? recogniser done.getLast? source = some rest ∧ source = first ++ rest ∧
      recogniser (between (done ++ first) rest) ≠ [] ∧
      ∀ front back, source = front ++ back → front.length < first.length →
        recogniser (between (done ++ front) back) = [] := by
  induction source generalizing done with
  | nil =>
    unfold find?
    split
    next hnone =>
      refine .inl ⟨rfl, fun first rest heq => ?_⟩
      obtain ⟨rfl, rfl⟩ := List.nil_eq_append_iff.mp heq
      rw [List.append_nil]
      exact List.isEmpty_iff.mp hnone
    next hfits =>
      refine .inr ⟨[], [], rfl, rfl, ?_, fun _ _ _ h => absurd h (Nat.not_lt_zero _)⟩
      rw [List.append_nil]
      exact fun hnone => hfits (List.isEmpty_iff.mpr hnone)
  | cons c source ih =>
    unfold find?
    split
    next hnone =>
      have hlast : (done ++ [c]).getLast? = some c := by simp
      have hcons (front : List Char) : done ++ [c] ++ front = done ++ c :: front := by simp
      have hhere {front back : List Char} (heq : c :: source = front ++ back)
          (hlater : ∀ front', source = front' ++ back → front = c :: front' →
            recogniser (between (done ++ [c] ++ front') back) = []) :
          recogniser (between (done ++ front) back) = [] := by
        rcases List.cons_eq_append_iff.mp heq with ⟨rfl, rfl⟩ | ⟨front', rfl, hsource⟩
        · rw [List.append_nil]
          exact List.isEmpty_iff.mp hnone
        · rw [← hcons]
          exact hlater front' hsource rfl
      rw [← hlast]
      rcases ih (done ++ [c]) with ⟨hfind, hall⟩ | ⟨first, rest, hfind, rfl, hfits, hearliest⟩
      · exact .inl ⟨hfind, fun first rest heq => hhere heq fun front heq _ => hall front rest heq⟩
      · refine .inr ⟨c :: first, rest, hfind, rfl, hcons first ▸ hfits, ?_⟩
        intro front back heq hlt
        refine hhere heq fun front' heq hfront => hearliest front' back heq ?_
        rw [hfront] at hlt
        exact Nat.lt_of_succ_lt_succ hlt
    next hfits =>
      refine .inr ⟨[], c :: source, rfl, rfl, ?_, fun _ _ _ h => absurd h (Nat.not_lt_zero _)⟩
      rw [List.append_nil]
      exact fun hnone => hfits (List.isEmpty_iff.mpr hnone)

lemma fitsNowhere_of_find? (h : find? recogniser none source = none) :
    FitsNowhere recogniser source := by
  rcases find?_getLast?_cases recogniser [] source with ⟨-, hall⟩ | ⟨_, _, hfind, -⟩
  · exact hall
  · cases hfind.symm.trans h

lemma fitsFirst_of_find? (h : find? recogniser none source = some rest) :
    ∃ first, FitsFirst recogniser source first rest := by
  rcases find?_getLast?_cases recogniser [] source with
    ⟨hfind, -⟩ | ⟨first, _, hfind, heq, hfits, hearliest⟩
  · cases hfind.symm.trans h
  · cases hfind.symm.trans h
    exact ⟨first, heq, hfits, hearliest⟩

/-- The words that loads begin with, one for each recogniser. -/
def openingWords : List String := ["import", "import", "require", "export"]

/-- Whether a text may stand between the start of a load and its word: the load is first on its
line, or a character is taken along that belongs to no name. -/
def IsLead (first lead : List Char) : Prop :=
  AtLineStart first ∧ lead.all isTabOrSpace ∨ ∃ c, lead = [c] ∧ isFree c

/-- A load begins with its word, and only of a call is a line feed taken along. -/
lemma exists_lead {word : String} (hmem : (recogniser, word) ∈ recognisers.zip openingWords)
    (hfits : recogniser (between first rest) ≠ []) :
    ∃ lead back, rest = lead ++ (word.toList ++ back) ∧ IsLead first lead ∧
      (lead = ['\n'] → recogniser = call word) := by
  have hcall (name : String) (hfits : call name (between first rest) ≠ []) :
      ∃ lead back, rest = lead ++ (name.toList ++ back) ∧ IsLead first lead := by
    obtain ⟨_, last, rfl, lead, blank, rfl, hlead, -⟩ := (describes_call name).fits_iff.mp hfits
    refine ⟨lead, blank ++ ['('] ++ last, by simp, hlead.imp_left fun ⟨hstart, hnil⟩ => ?_⟩
    exact ⟨hstart, by rw [hnil, List.all_nil]⟩
  have hindented {indent : List Char} (hindent : indent.all isTabOrSpace) : indent ≠ ['\n'] := by
    rintro rfl
    exact absurd hindent (by decide)
  simp only [recognisers, openingWords, List.zip_cons_cons, List.zip_nil_left, List.mem_cons,
    List.not_mem_nil, or_false, Prod.mk.injEq] at hmem
  rcases hmem with ⟨rfl, rfl⟩ | ⟨rfl, rfl⟩ | ⟨rfl, rfl⟩ | ⟨rfl, rfl⟩
  · obtain ⟨_, last, rfl, hstart, indent, blank, c, rfl, hindent, -⟩ :=
      describes_importStatement.fits_iff.mp hfits
    exact ⟨indent, blank ++ [c] ++ last, by simp, .inl ⟨hstart, hindent⟩,
      fun heq => absurd heq (hindented hindent)⟩
  · obtain ⟨lead, back, hrest, hlead⟩ := hcall "import" hfits
    exact ⟨lead, back, hrest, hlead, fun _ => rfl⟩
  · obtain ⟨lead, back, hrest, hlead⟩ := hcall "require" hfits
    exact ⟨lead, back, hrest, hlead, fun _ => rfl⟩
  · obtain ⟨_, last, rfl, hstart, ⟨indent, _, rfl, hindent, gap, type, subject, blank, called, rfl,
      -⟩, -⟩ := describes_reExport.fits_iff.mp hfits
    exact ⟨indent, gap ++ type ++ subject ++ blank ++ called ++ "from".toList ++ last, by simp,
      .inl ⟨hstart, hindent⟩, fun heq => absurd heq (hindented hindent)⟩

/-- Of a call behind a line feed the line feed is taken along. -/
lemma FitsFirst.lead_of_call {name : String} {lead : List Char}
    (h : FitsFirst (call name) source first (lead ++ (name.toList ++ rest)))
    (hname : ∃ c ∈ name.toList.head?, isIdentifierPart c) (hlead : IsLead first lead)
    (hline : (first ++ lead).getLast? = some '\n') : lead = ['\n'] := by
  rcases hlead with ⟨-, hindent⟩ | ⟨c, rfl, -⟩
  · rcases List.eq_nil_or_concat' lead with rfl | ⟨indent, c, rfl⟩
    · -- The call would have been found one character earlier.
      obtain ⟨front, rfl⟩ := List.getLast?_eq_some_iff.mp (List.append_nil first ▸ hline)
      obtain ⟨middle, last, hrest, hcall⟩ := (describes_call name).fits_iff.mp h.fits
      obtain ⟨lead, blank, rfl, ⟨-, rfl⟩ | ⟨d, rfl, hfree⟩, hblank⟩ := hcall
      · refine absurd (h.earliest front _ (by rw [h.source_eq, List.append_assoc]) (by simp)) ?_
        refine (describes_call name).fits_iff.mpr ⟨'\n' :: (name.toList ++ (blank ++ ['('])), last,
          by rw [hrest]; rfl, ['\n'], blank, rfl, .inr ⟨'\n', rfl, by decide⟩, hblank⟩
      · obtain ⟨c, hc, hpart⟩ := hname
        obtain ⟨name', hname'⟩ := List.head?_eq_some_iff.mp hc
        rw [hname'] at hrest
        obtain ⟨rfl, -⟩ := List.cons_eq_cons.mp hrest
        simp [isFree, hpart] at hfree
    · rw [← List.append_assoc, List.getLast?_concat, Option.some_inj] at hline
      simp [hline, isTabOrSpace] at hindent
  · rw [List.getLast?_concat, Option.some_inj] at hline
    rw [hline]

/-! ### What is told of a load -/

lemma trimFront_append (first rest : List Char) {c : Char} (hc : isBlank c = false) :
    trimFront (first ++ c :: rest) = trimFront first ++ c :: rest := by
  rw [trimFront, trimFront, List.dropWhile_append]
  split
  next hnil =>
    rw [List.isEmpty_iff.mp hnil, List.nil_append, List.dropWhile_cons_of_neg (by simp [hc])]
  next => rfl

lemma trimBack_append (last : List Char) {c : Char} (hc : isBlank c = false) :
    trimBack (first ++ c :: last) = first ++ c :: trimBack last := by
  have hreverse : (first ++ c :: last).reverse = last.reverse ++ c :: first.reverse := by simp
  have hfront := trimFront_append last.reverse first.reverse hc
  rw [trimFront, trimFront] at hfront
  rw [trimBack, hreverse, hfront, List.reverse_append, trimBack]
  simp

/-- Blank characters around a word are removed. -/
lemma trimChars_append {word : List Char} (first last : List Char) (hne : word ≠ [])
    (hword : ∀ c ∈ word, isBlank c = false) :
    trimChars (first ++ (word ++ last)) = trimFront first ++ (word ++ trimBack last) := by
  obtain ⟨c, word', rfl⟩ := List.exists_cons_of_ne_nil hne
  have hfront : trimFront (first ++ (c :: word' ++ last)) =
      trimFront first ++ (c :: word' ++ last) :=
    trimFront_append first _ (hword c List.mem_cons_self)
  obtain ⟨front, d, hlast⟩ : ∃ front d, c :: word' = front ++ [d] :=
    ⟨_, _, (List.dropLast_append_getLast hne).symm⟩
  have hd : isBlank d = false := hword d (by simp [hlast])
  have hassoc (last : List Char) :
      trimFront first ++ (c :: word' ++ last) = trimFront first ++ front ++ d :: last := by
    simp [hlast]
  rw [trimChars, hfront, hassoc, trimBack_append last hd, hassoc]

/-- Trimming leaves nothing to trim. -/
lemma trimChars_trimChars {word : List Char} (first last : List Char) (hne : word ≠ [])
    (hword : ∀ c ∈ word, isBlank c = false) :
    trimChars (trimFront first ++ (word ++ trimBack last)) =
      trimFront first ++ (word ++ trimBack last) := by
  have hback : trimBack (trimBack last) = trimBack last := by
    rw [trimBack, trimBack, List.reverse_reverse, List.dropWhile_idempotent]
  have hfront : trimFront (trimFront first) = trimFront first :=
    List.dropWhile_idempotent _ _
  rw [trimChars_append _ _ hne hword, hback, hfront]

/-- The first line of a text that begins with a piece of that line. -/
lemma exists_firstLine {piece : List Char} (hpiece : '\n' ∉ piece)
    (hlast : piece.getLast? ≠ some '\r') (rest : List Char) :
    ∃ tail, tail <+: rest ∧ '\n' ∉ tail ∧ firstLine (piece ++ rest) = piece ++ tail := by
  have htake : (piece ++ rest).takeWhile (· ≠ '\n') = piece ++ rest.takeWhile (· ≠ '\n') := by
    refine List.takeWhile_append_of_pos fun c hc => ?_
    simpa using fun heq : c = '\n' => hpiece (heq ▸ hc)
  have hprefix : rest.takeWhile (· ≠ '\n') <+: rest := List.takeWhile_prefix _
  have hfree : '\n' ∉ rest.takeWhile (· ≠ '\n') := fun hmem => by
    simpa using List.mem_takeWhile_imp hmem
  generalize rest.takeWhile (· ≠ '\n') = line at htake hprefix hfree
  unfold firstLine
  simp only [htake]
  split
  next hend =>
    have hne : line ≠ [] := by
      rintro rfl
      exact hlast (by simpa using hend.2)
    exact ⟨line.dropLast, (List.dropLast_prefix line).trans hprefix,
      fun hmem => hfree (List.dropLast_subset _ hmem), List.dropLast_append_of_ne_nil hne⟩
  next => exact ⟨line, hprefix, hfree, rfl⟩

end ModuleLoad

open ModuleLoad Text

/-- What is told of the load for which a template is refused: it is the first place where the first
recogniser fits that fits somewhere, and it begins with its word behind what may stand there. The
statement is a trimmed piece of one line from there on, which holds the word. But it is empty where
a line feed is taken along, which is so of a call at the start of a line behind another one. -/
theorem demandNoLoads_statement {source file : String} {failure : Failure}
    (h : demandNoLoads source file = .error failure) :
    ∃ earlier recogniser word later first lead rest statement,
      recognisers.zip openingWords = earlier ++ (recogniser, word) :: later ∧
      (∀ other ∈ earlier, FitsNowhere other.1 source.toList) ∧
      FitsFirst recogniser source.toList first (lead ++ (word.toList ++ rest)) ∧
      IsLead first lead ∧ failure = .moduleLoad file (String.ofList statement) ∧
      (lead = ['\n'] ↔ recogniser = call word ∧ (first ++ lead).getLast? = some '\n') ∧
      (lead = ['\n'] → statement = []) ∧
      (lead ≠ ['\n'] → statement ≠ [] ∧ trimChars statement = statement ∧
        '\n' ∉ statement ∧ statement <:+: source.toList ∧
        ∃ tail, statement = trimFront lead ++ (word.toList ++ tail) ∧ tail <+: rest) := by
  have hopening : ∀ word ∈ openingWords, word.toList ≠ [] ∧ '\n' ∉ word.toList ∧
      word.toList.getLast? ≠ some '\r' ∧ word.toList.any isBlank = false ∧
      word.toList.head?.any isIdentifierPart := by
    decide +kernel
  unfold demandNoLoads at h
  split at h
  next statement hstatement =>
    obtain ⟨text, hload, rfl⟩ := Option.map_eq_some_iff.mp hstatement
    have hzip : recognisers = (recognisers.zip openingWords).map Prod.fst := rfl
    rw [load?, hzip, List.findSome?_map, List.findSome?_eq_some_iff] at hload
    obtain ⟨earlier, ⟨recogniser, word⟩, later, heq, hfind, hearlier⟩ := hload
    have hmem : (recogniser, word) ∈ recognisers.zip openingWords := by simp [heq]
    obtain ⟨first, hfits⟩ := fitsFirst_of_find? hfind
    obtain ⟨lead, rest, rfl, hlead, hcall⟩ := exists_lead hmem hfits.fits
    obtain ⟨hne, hline, hlast, hword, hhead⟩ := hopening word (List.of_mem_zip hmem).2
    have hword : ∀ c ∈ word.toList, isBlank c = false := by simpa using hword
    have hhead := (Option.any_eq_true _ _).mp hhead
    refine ⟨earlier, recogniser, word, later, first, lead, rest, _, heq, fun other hother =>
      fitsNowhere_of_find? (hearlier other hother), hfits, hlead, (Except.error.inj h).symm,
      ⟨fun hlf => ⟨hcall hlf, by simp [hlf]⟩, ?_⟩, fun hlf => ?_, fun hlf => ?_⟩
    · rintro ⟨rfl, hbehind⟩
      exact hfits.lead_of_call hhead hlead hbehind
    · rw [hlf]
      rfl
    · have hleadLine : '\n' ∉ lead := by
        rcases hlead with ⟨-, hindent⟩ | ⟨c, rfl, -⟩
        · exact fun hmem => absurd (List.all_eq_true.mp hindent _ hmem) (by decide)
        · simpa using fun heq : '\n' = c => hlf (heq ▸ rfl)
      have hpiece : '\n' ∉ lead ++ word.toList := by simp [hleadLine, hline]
      obtain ⟨tail, htail, htailLine, hfirst⟩ := exists_firstLine hpiece
        (by rwa [List.getLast?_append_of_ne_nil _ hne]) rest
      have hback : trimBack tail <+: tail := by
        rw [trimBack, ← List.reverse_suffix, List.reverse_reverse]
        exact List.dropWhile_suffix _
      have hfront : trimFront lead <:+ lead := List.dropWhile_suffix _
      have htold : trimChars (firstLine (lead ++ (word.toList ++ rest))) =
          trimFront lead ++ (word.toList ++ trimBack tail) := by
        rw [← List.append_assoc, hfirst, List.append_assoc, trimChars_append _ _ hne hword]
      rw [htold]
      refine ⟨by simp [hne], trimChars_trimChars _ _ hne hword, ?_, ?_, _, rfl, hback.trans htail⟩
      · simp only [List.mem_append, not_or]
        exact ⟨fun hmem => hleadLine (hfront.subset hmem), hline,
          fun hmem => htailLine (hback.subset hmem)⟩
      · obtain ⟨before, hbefore⟩ := hfront
        obtain ⟨behind, hbehind⟩ := hback.trans htail
        refine ⟨first ++ before, behind, ?_⟩
        conv_rhs => rw [hfits.source_eq, ← hbefore, ← hbehind]
        simp
  next => cases h

/-- Nothing is told of a call at the start of the second line. -/
theorem demandNoLoads_statement_behind :
    demandNoLoads "let a;\nrequire('x');" "a.ts" = .error (.moduleLoad "a.ts" "") ∧
    ∃ earlier recogniser word later first lead rest statement,
      recognisers.zip openingWords = earlier ++ (recogniser, word) :: later ∧
      (∀ other ∈ earlier, FitsNowhere other.1 "let a;\nrequire('x');".toList) ∧
      FitsFirst recogniser "let a;\nrequire('x');".toList first (lead ++ (word.toList ++ rest)) ∧
      IsLead first lead ∧
      Failure.moduleLoad "a.ts" "" = .moduleLoad "a.ts" (String.ofList statement) ∧
      (lead = ['\n'] ↔ recogniser = call word ∧ (first ++ lead).getLast? = some '\n') ∧
      (lead = ['\n'] → statement = []) ∧
      (lead ≠ ['\n'] → statement ≠ [] ∧ trimChars statement = statement ∧
        '\n' ∉ statement ∧ statement <:+: "let a;\nrequire('x');".toList ∧
        ∃ tail, statement = trimFront lead ++ (word.toList ++ tail) ∧ tail <+: rest) := by
  have hrefused : demandNoLoads "let a;\nrequire('x');" "a.ts" = .error (.moduleLoad "a.ts" "") :=
    by decide +kernel
  exact ⟨hrefused, demandNoLoads_statement hrefused⟩

namespace ModuleLoad

/-! ### What is refused without a word of a load -/

/-- The identifiers and numbers of a text: what stands between the characters that belong to
none. -/
def identifiers (source : List Char) : List (List Char) :=
  source.splitOnP fun c => !isIdentifierPart c

/-- Whether a line begins with a text, behind tabs and spaces. -/
def BeginsLine (source text : List Char) : Prop :=
  ∃ first indent, source = first ++ (indent ++ text) ∧ AtLineStart first ∧ indent.all isTabOrSpace

/-- Whether a line begins with a longer identifier that begins with `import`. -/
def HasImportLike (source : List Char) : Prop :=
  ∃ c rest, BeginsLine source ("import".toList ++ c :: rest) ∧ isIdentifierPart c

/-- Whether a line begins with an export that goes on with a longer identifier that ends with `from`
or continues it with a dollar sign. -/
def HasReExportLike (source : List Char) : Prop :=
  ∃ head rest, IsExportHead head ∧ BeginsLine source (head ++ ("from".toList ++ rest)) ∧
    (∀ c ∈ rest.head?, isWord c = false) ∧
    ((∃ c ∈ head.getLast?, isIdentifierPart c) ∨ rest.head? = some '$')

/-- An identifier is found where no longer one stands. -/
lemma mem_identifiers {word : List Char} (hword : ∀ c ∈ word, isIdentifierPart c)
    (hbefore : ∀ c ∈ first.getLast?, isIdentifierPart c = false)
    (hbehind : ∀ c ∈ rest.head?, isIdentifierPart c = false) :
    word ∈ identifiers (first ++ (word ++ rest)) := by
  have hinner : ∀ c ∈ word, (!isIdentifierPart c) = false := fun c hc => by simp [hword c hc]
  have hrest : word ∈ identifiers (word ++ rest) := by
    rcases rest with _ | ⟨c, rest⟩
    · rw [List.append_nil, identifiers, List.splitOnP_eq_singleton hinner]
      exact List.mem_singleton_self _
    · have hc : (!isIdentifierPart c) = true := by simp [hbehind c rfl]
      rw [identifiers, List.splitOnP_append_cons_of_forall_mem hinner c hc]
      exact List.mem_cons_self
  rcases List.eq_nil_or_concat' first with rfl | ⟨front, c, rfl⟩
  · exact hrest
  · have hc : (!isIdentifierPart c) = true := by simp [hbefore c (by simp)]
    have hsplit := List.splitOnP_append_cons (p := fun c => !isIdentifierPart c) front
      (word ++ rest) hc
    rw [List.append_assoc, List.singleton_append, identifiers, hsplit]
    exact List.mem_append_right _ hrest

lemma isIdentifierPart_of_isBlank {c : Char} (h : isBlank c) : isIdentifierPart c = false := by
  have hblank : ∀ n ∈ TypeScript.blankNumbers, isIdentifierPart (Char.ofNat n) = false := by
    decide +kernel
  have hmem : c.toNat ∈ TypeScript.blankNumbers := by
    simp only [isBlank, Bool.or_eq_true, Bool.and_eq_true, decide_eq_true_eq, beq_iff_eq] at h
    simp only [TypeScript.blankNumbers, List.mem_append, List.mem_range, List.mem_map,
      List.mem_cons, List.not_mem_nil, or_false]
    by_cases hwide : 0x2000 ≤ c.toNat ∧ c.toNat ≤ 0x200B
    · exact .inl (.inr ⟨c.toNat - 0x2000, by omega⟩)
    · omega
  rw [← Char.ofNat_toNat c]
  exact hblank _ hmem

/-- No identifier goes on where a line starts. -/
lemma AtLineStart.isIdentifierPart_of_getLast? (h : AtLineStart first) :
    ∀ c ∈ first.getLast?, isIdentifierPart c = false := by
  rintro c hc
  rcases h with hnone | hline
  · cases hnone.symm.trans hc
  · cases hline.symm.trans hc
    decide

/-- No identifier goes on where blank characters stand. -/
lemma isIdentifierPart_head?_append {blank : List Char} (hblank : blank.all isBlank)
    (hrest : ∀ c ∈ rest.head?, isIdentifierPart c = false) :
    ∀ c ∈ (blank ++ rest).head?, isIdentifierPart c = false := by
  rcases blank with _ | ⟨d, blank⟩
  · exact hrest
  · rintro _ ⟨⟩
    rw [List.all_cons, Bool.and_eq_true] at hblank
    exact isIdentifierPart_of_isBlank hblank.1

/-- No identifier goes on where a line is indented. -/
lemma isIdentifierPart_getLast?_append {indent : List Char} (hstart : AtLineStart first)
    (hindent : indent.all isTabOrSpace) :
    ∀ c ∈ (first ++ indent).getLast?, isIdentifierPart c = false := by
  rcases List.eq_nil_or_concat' indent with rfl | ⟨indent, d, rfl⟩
  · rw [List.append_nil]
    exact hstart.isIdentifierPart_of_getLast?
  · rw [← List.append_assoc, List.getLast?_concat]
    rintro _ ⟨⟩
    have hd : isTabOrSpace d := List.all_eq_true.mp hindent d (by simp)
    rcases Bool.or_eq_true .. ▸ hd with hd | hd <;> rw [beq_iff_eq.mp hd] <;> decide

lemma fitsNowhere_call {name : String} (hpart : ∀ c ∈ name.toList, isIdentifierPart c)
    (hwords : name.toList ∉ identifiers source) : FitsNowhere (call name) source := by
  rintro first rest rfl
  by_contra hfits
  obtain ⟨_, last, rfl, lead, blank, rfl, hlead, hblank⟩ := (describes_call name).fits_iff.mp hfits
  have hassoc : first ++ (lead ++ (name.toList ++ (blank ++ ['('])) ++ last) =
      first ++ lead ++ (name.toList ++ (blank ++ '(' :: last)) := by simp
  refine hwords (hassoc ▸ mem_identifiers hpart ?_ (isIdentifierPart_head?_append hblank ?_))
  · rcases hlead with ⟨hstart, rfl⟩ | ⟨c, rfl, hfree⟩
    · rw [List.append_nil]
      exact hstart.isIdentifierPart_of_getLast?
    · rw [List.getLast?_concat]
      rintro _ ⟨⟩
      simp only [isFree, Bool.and_eq_true, Bool.not_eq_true'] at hfree
      exact hfree.1
  · rintro _ ⟨⟩
    decide

lemma fitsNowhere_importStatement_iff (hwords : "import".toList ∉ identifiers source) :
    FitsNowhere importStatement source ↔ ¬ HasImportLike source := by
  constructor
  · rintro hnowhere ⟨c, rest, ⟨first, indent, rfl, hstart, hindent⟩, hc⟩
    refine absurd (hnowhere _ _ rfl) (describes_importStatement.fits_iff.mpr ?_)
    exact ⟨_, rest, by simp, hstart, indent, [], c, rfl, hindent, List.all_nil, .inl hc⟩
  · rintro hlike first rest rfl
    by_contra hfits
    obtain ⟨_, last, rfl, hstart, indent, blank, c, rfl, hindent, hblank, hc⟩ :=
      describes_importStatement.fits_iff.mp hfits
    have hassoc : first ++ (indent ++ ("import".toList ++ (blank ++ [c])) ++ last) =
        first ++ indent ++ ("import".toList ++ (blank ++ c :: last)) := by simp
    by_cases hlonger : blank = [] ∧ isIdentifierPart c
    · obtain ⟨rfl, hc⟩ := hlonger
      exact hlike ⟨c, last, ⟨first, indent, by simp, hstart, hindent⟩, hc⟩
    · refine hwords (hassoc ▸ mem_identifiers (List.all_eq_true.mp (by decide))
        (isIdentifierPart_getLast?_append hstart hindent) ?_)
      rcases blank with _ | ⟨d, blank⟩
      · rintro _ ⟨⟩
        simpa using hlonger
      · rintro _ ⟨⟩
        exact isIdentifierPart_of_isBlank (List.all_eq_true.mp hblank d List.mem_cons_self)

lemma fitsNowhere_reExport_iff (hwords : "from".toList ∉ identifiers source) :
    FitsNowhere reExport source ↔ ¬ HasReExportLike source := by
  constructor
  · rintro hnowhere ⟨head, rest, hhead, ⟨first, indent, rfl, hstart, hindent⟩, hend, -⟩
    refine absurd (hnowhere _ _ rfl) (describes_reExport.fits_iff.mpr ?_)
    exact ⟨_, rest, by simp, hstart, ⟨indent, head, rfl, hindent, hhead⟩, hend⟩
  · rintro hlike first rest rfl
    by_contra hfits
    obtain ⟨_, last, rfl, hstart, ⟨indent, head, rfl, hindent, hhead⟩, hend⟩ :=
      describes_reExport.fits_iff.mp hfits
    have hassoc : first ++ (indent ++ (head ++ "from".toList) ++ last) =
        first ++ (indent ++ head) ++ ("from".toList ++ last) := by simp
    by_cases hlonger : (∃ c ∈ head.getLast?, isIdentifierPart c) ∨ last.head? = some '$'
    · exact hlike ⟨head, last, hhead, ⟨first, indent, by simp, hstart, hindent⟩, hend, hlonger⟩
    · obtain ⟨hbefore, hbehind⟩ := not_or.mp hlonger
      have hne : head ≠ [] := by
        obtain ⟨gap, type, subject, blank, called, rfl, -⟩ := hhead
        exact List.cons_ne_nil _ _
      refine hwords (hassoc ▸ mem_identifiers (List.all_eq_true.mp (by decide)) ?_ fun c hc => ?_)
      · rw [← List.append_assoc, List.getLast?_append_of_ne_nil _ hne]
        simpa using hbefore
      · have hdollar : c ≠ '$' := fun heq => hbehind (heq ▸ hc)
        simp [isIdentifierPart, hend c hc, hdollar]

lemma demandNoLoads_eq_ok_iff {source file : String} : demandNoLoads source file = .ok () ↔
    ∀ recogniser ∈ recognisers, FitsNowhere recogniser source.toList := by
  have hfind (recogniser : Recogniser) :
      find? recogniser none source.toList = none ↔ FitsNowhere recogniser source.toList := by
    refine ⟨fitsNowhere_of_find?, fun hnowhere => ?_⟩
    by_contra hsome
    obtain ⟨rest, hrest⟩ := Option.ne_none_iff_exists'.mp hsome
    obtain ⟨first, hfits⟩ := fitsFirst_of_find? hrest
    exact hfits.fits (hnowhere first rest hfits.source_eq)
  have hload : load? source.toList = none ↔
      ∀ recogniser ∈ recognisers, FitsNowhere recogniser source.toList := by
    simp only [load?, List.findSome?_eq_none_iff, hfind]
  rw [← hload, demandNoLoads, statement?]
  cases load? source.toList <;> simp

end ModuleLoad

/-- A source in which no identifier is a word of a load is refused just when a line begins with a
longer identifier that begins with `import`, or with an export that goes on with a longer identifier
in which `from` stands like a word. -/
theorem demandNoLoads_identifiers {source file : String}
    (hwords : ∀ word ∈ loadWords, word.toList ∉ identifiers source.toList) :
    demandNoLoads source file = .ok () ↔
      ¬ HasImportLike source.toList ∧ ¬ HasReExportLike source.toList := by
  have himport := hwords "import" (by decide)
  have hcall := fitsNowhere_call (List.all_eq_true.mp (by decide)) himport
  have hrequire := fitsNowhere_call (List.all_eq_true.mp (by decide)) (hwords "require" (by decide))
  rw [demandNoLoads_eq_ok_iff, ← fitsNowhere_importStatement_iff himport,
    ← fitsNowhere_reExport_iff (hwords "from" (by decide))]
  simp [recognisers, hcall, hrequire]

/-- A statement that assigns to a variable named `importance`. -/
theorem demandNoLoads_identifiers_longer :
    (∀ word ∈ loadWords, word.toList ∉ identifiers "importance = 1;".toList) ∧
      demandNoLoads "importance = 1;" "a.ts" ≠ .ok () := by
  have hwords : ∀ word ∈ loadWords, word.toList ∉ identifiers "importance = 1;".toList := by
    decide +kernel
  refine ⟨hwords, fun hok => ((demandNoLoads_identifiers hwords).mp hok).1 ?_⟩
  exact ⟨'a', "nce = 1;".toList, ⟨[], [], by decide, .inl rfl, rfl⟩, by decide⟩

end Stencil
