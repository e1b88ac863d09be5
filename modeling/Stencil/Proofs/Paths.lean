import Mathlib.Tactic.Lemma
import Stencil.Path.Parts
import Stencil.Proofs.References
import Stencil.Template

/-!
# Paths and their parts

Cutting a path at its slashes and putting slashes between names undo each other
(`intercalate_parts`, `parts_intercalate`), so what a path leads to can be told by its parts: those
of a joined path come from both of its halves (`parts_join`), and the parent of a path has the same
parts as the path before its last name, up to parts that are idle (`filter_parts_parent`).

The artifacts of a template are in the directory that the template is in: their paths differ in the
last part alone (`ofPath_outputPath`).
-/

namespace Stencil

namespace Path

/-! ### Parts -/

lemma splitAt_eq_splitOn {α : Type} [DecidableEq α] (mark : α) (xs : List α) :
    splitAt mark xs = xs.splitOn mark := by
  induction xs with
  | nil => rfl
  | cons x xs ih =>
    have hne := List.splitOn_ne_nil mark xs
    rw [List.splitOn_cons_eq_if_modifyHead, splitAt, ih]
    split
    next h => exact absurd h hne
    next piece pieces h =>
      rw [h]
      by_cases hx : x = mark <;> simp [hx]

lemma parts_eq (path : String) : parts path = (path.toList.splitOn '/').map String.ofList := by
  rw [parts, splitAt_eq_splitOn]

lemma parts_ne_nil (path : String) : parts path ≠ [] := by
  rw [parts_eq]
  exact fun h => List.splitOn_ne_nil _ _ (List.map_eq_nil_iff.mp h)

@[simp] lemma parts_append_slash (first second : String) :
    parts (first ++ "/" ++ second) = parts first ++ parts second := by
  rw [parts_eq, parts_eq, parts_eq, ← List.map_append, ← List.splitOn_append_cons_self]
  simp

lemma parts_of_not_mem {name : String} (h : '/' ∉ name.toList) : parts name = [name] := by
  rw [parts_eq, List.splitOn_eq_singleton h, List.map_singleton, String.ofList_toList]

/-- The parts of a path with slashes between them are the path. -/
lemma intercalate_parts (path : String) : "/".intercalate (parts path) = path := by
  apply String.toList_inj.mp
  rw [String.toList_intercalate, parts_eq, List.map_map]
  have hmap : (path.toList.splitOn '/').map (String.toList ∘ String.ofList) =
      path.toList.splitOn '/' := by
    simp [Function.comp_def]
  rw [hmap]
  exact List.intercalate_splitOn '/'

/-- Names with slashes between them are the parts of the path that they make. -/
lemma parts_intercalate {names : List String} (hne : names ≠ [])
    (h : ∀ name ∈ names, '/' ∉ name.toList) : parts ("/".intercalate names) = names := by
  induction names with
  | nil => exact absurd rfl hne
  | cons name names ih =>
    obtain ⟨hname, hnames⟩ := List.forall_mem_cons.mp h
    cases names with
    | nil => rw [String.intercalate_singleton, parts_of_not_mem hname]
    | cons next names =>
      rw [String.intercalate_cons_cons, parts_append_slash, parts_of_not_mem hname,
        ih (by simp) hnames, List.singleton_append]

lemma slash_not_mem_of_mem_splitOn {xs piece : List Char} (h : piece ∈ xs.splitOn '/') :
    '/' ∉ piece := by
  induction xs generalizing piece with
  | nil =>
    rw [List.splitOn_nil, List.mem_singleton] at h
    rw [h]
    exact List.not_mem_nil
  | cons c xs ih =>
    rw [List.splitOn_cons_eq_if_modifyHead] at h
    split at h
    next =>
      rcases List.mem_cons.mp h with rfl | h
      · exact List.not_mem_nil
      · exact ih h
    next hc =>
      rcases hsplit : xs.splitOn '/' with _ | ⟨first, others⟩
      · exact absurd hsplit (List.splitOn_ne_nil _ _)
      rw [hsplit] at h ih
      rcases List.mem_cons.mp h with rfl | h
      · rw [List.mem_cons, not_or]
        exact ⟨fun heq => hc (beq_iff_eq.mpr heq.symm), ih (List.mem_cons_self ..)⟩
      · exact ih (List.mem_cons_of_mem _ h)

lemma slash_not_mem_of_mem_parts {path part : String} (h : part ∈ parts path) :
    '/' ∉ part.toList := by
  rw [parts_eq] at h
  obtain ⟨piece, hpiece, rfl⟩ := List.mem_map.mp h
  rw [String.toList_ofList]
  exact slash_not_mem_of_mem_splitOn hpiece

/-- The characters of a path are those of its parts and slashes. -/
lemma mem_toList_intercalate {c : Char} {names : List String} :
    c ∈ ("/".intercalate names).toList → c = '/' ∨ ∃ name ∈ names, c ∈ name.toList := by
  induction names with
  | nil => simp
  | cons name names ih =>
    cases names with
    | nil => simpa using Or.inr
    | cons next names =>
      rw [String.intercalate_cons_cons, String.toList_append, String.toList_append,
        List.mem_append, List.mem_append]
      rintro ((hname | hslash) | hrest)
      · exact .inr ⟨name, List.mem_cons_self .., hname⟩
      · exact .inl (by simpa using hslash)
      · refine (ih hrest).imp_right ?_
        rintro ⟨other, hmem, hother⟩
        exact ⟨other, List.mem_cons_of_mem _ hmem, hother⟩

lemma mem_toList_of_mem_parts {c : Char} {path part : String} (h : part ∈ parts path)
    (hc : c ∈ part.toList) : c ∈ path.toList := by
  have hmem {names : List String} (h : part ∈ names) : c ∈ ("/".intercalate names).toList := by
    induction names with
    | nil => cases h
    | cons name names ih =>
      cases names with
      | nil =>
        rw [List.mem_singleton] at h
        rwa [String.intercalate_singleton, ← h]
      | cons next names =>
        rw [String.intercalate_cons_cons, String.toList_append, String.toList_append]
        rcases List.mem_cons.mp h with rfl | h
        · exact List.mem_append_left _ (List.mem_append_left _ hc)
        · exact List.mem_append_right _ (ih h)
  have := hmem h
  rwa [intercalate_parts] at this

/-! ### Absolute paths -/

lemma isAbsolute_iff {path : String} :
    isAbsolute path ↔ ∃ part rest, parts path = "" :: part :: rest := by
  constructor
  · intro h
    rw [isAbsolute, decide_eq_true_eq, List.head?_eq_some_iff] at h
    obtain ⟨rest, hrest⟩ := h
    have hparts : parts path = [""] ++ parts (String.ofList rest) := by
      rw [← show parts "" = [""] from rfl, ← parts_append_slash]
      congr 1
      apply String.toList_inj.mp
      simp [hrest]
    rcases hsecond : parts (String.ofList rest) with _ | ⟨part, others⟩
    · exact absurd hsecond (parts_ne_nil _)
    · exact ⟨part, others, by rw [hparts, hsecond]; rfl⟩
  · rintro ⟨part, rest, hparts⟩
    rw [← intercalate_parts path, hparts, String.intercalate_cons_cons]
    simp [isAbsolute]

/-! ### Joined paths -/

/-- The parts of a directory, where a slash at its end does not count. -/
def base (directory : String) : List String :=
  if directory.toList.getLast? = some '/' then (parts directory).dropLast else parts directory

lemma exists_of_getLast? {directory : String} (h : directory.toList.getLast? = some '/') :
    ∃ front, directory = front ++ "/" := by
  obtain ⟨front, hfront⟩ := List.getLast?_eq_some_iff.mp h
  refine ⟨String.ofList front, String.toList_inj.mp ?_⟩
  simp [hfront]

lemma parts_append_slash_end (front : String) : parts (front ++ "/") = parts front ++ [""] := by
  have := parts_append_slash front ""
  rwa [String.append_empty] at this

lemma parts_eq_base (directory : String) :
    parts directory = base directory ∨ parts directory = base directory ++ [""] := by
  unfold base
  split
  next h =>
    obtain ⟨front, rfl⟩ := exists_of_getLast? h
    rw [parts_append_slash_end, List.dropLast_concat]
    exact .inr rfl
  next => exact .inl rfl

lemma base_ne_nil (directory : String) : base directory ≠ [] := by
  unfold base
  split
  next h =>
    obtain ⟨front, rfl⟩ := exists_of_getLast? h
    rw [parts_append_slash_end, List.dropLast_concat]
    exact parts_ne_nil front
  next => exact parts_ne_nil directory

section

variable {directory path : String} (hdirectory : directory ≠ "") (hpath : isAbsolute path = false)
include hdirectory hpath

lemma parts_join : parts (join directory path) = base directory ++ parts path := by
  have hempty : directory.isEmpty = false := by simpa using hdirectory
  unfold join base
  rw [hpath, hempty]
  by_cases h : directory.toList.getLast? = some '/'
  · rw [if_pos h, if_neg (by simp), if_pos (.inr h)]
    obtain ⟨front, rfl⟩ := exists_of_getLast? h
    rw [parts_append_slash, parts_append_slash_end, List.dropLast_concat]
  · rw [if_neg h, if_neg (by simp), if_neg (by simp [h]), parts_append_slash]

lemma isAbsolute_join : isAbsolute (join directory path) = isAbsolute directory := by
  have hempty : directory.isEmpty = false := by simpa using hdirectory
  obtain ⟨c, rest, hlist⟩ : ∃ c rest, directory.toList = c :: rest :=
    List.exists_cons_of_ne_nil (by simpa using hdirectory)
  unfold join
  rw [hpath, if_neg (by simp)]
  split <;> simp [isAbsolute, hlist]

end

lemma mem_toList_join {c : Char} {directory path : String} (h : c ∈ (join directory path).toList) :
    c = '/' ∨ c ∈ directory.toList ∨ c ∈ path.toList := by
  unfold join at h
  split at h
  · exact .inr (.inr h)
  · split at h
    · rw [String.toList_append, List.mem_append] at h
      exact .inr h
    · rw [String.toList_append, String.toList_append, List.mem_append, List.mem_append] at h
      rcases h with (h | h) | h
      · exact .inr (.inl h)
      · exact .inl (by simpa using h)
      · exact .inr (.inr h)

/-! ### Parents -/

/-- Parts without those that are idle. -/
def proper (parts : List String) : List String := parts.filter fun part => !isIdle part

lemma proper_dropWhile_reverse (names : List String) :
    proper (names.reverse.dropWhile isIdle).reverse = proper names := by
  have h (names : List String) : proper (names.dropWhile isIdle) = proper names := by
    induction names with
    | nil => rfl
    | cons name names ih =>
      rw [List.dropWhile_cons]
      split
      next hidle => rw [ih, proper, proper, List.filter_cons_of_neg (by simp [hidle])]
      next => rfl
  rw [proper, List.filter_reverse]
  change (proper (names.reverse.dropWhile isIdle)).reverse = _
  rw [h, proper, List.filter_reverse, List.reverse_reverse, proper]

variable {path name : String} {outer : List String}

/-- The parent of a path goes where the path goes before its last name. -/
lemma filter_parts_parent (hparts : parts path = outer ++ [name]) (hname : isIdle name = false)
    (houter : outer ≠ []) :
    proper (parts (parent path)) = proper outer ∧ isAbsolute (parent path) = isAbsolute path := by
  have hreverse : ((parts path).reverse.dropWhile isIdle).tail = outer.reverse := by
    rw [hparts, List.reverse_append, List.reverse_singleton, List.singleton_append,
      List.dropWhile_cons_of_neg (by simp [hname]), List.tail_cons]
  have hslash : ∀ part ∈ outer, '/' ∉ part.toList := fun part hpart =>
    slash_not_mem_of_mem_parts (hparts ▸ List.mem_append_left _ hpart)
  obtain ⟨first, others, rfl⟩ := List.exists_cons_of_ne_nil houter
  have habsolute : isAbsolute path = (first == "") := by
    apply Bool.eq_iff_iff.mpr
    rw [isAbsolute_iff, hparts, beq_iff_eq]
    constructor
    · rintro ⟨part, rest, heq⟩
      cases others <;> cases heq <;> rfl
    · rintro rfl
      cases others <;> exact ⟨_, _, rfl⟩
  have hproper := proper_dropWhile_reverse (first :: others)
  unfold parent
  rw [hreverse]
  rcases htrimmed : (first :: others).reverse.dropWhile isIdle with _ | ⟨last, trimmed⟩
  · -- nothing is left, so the first part is idle
    have hfirst : isIdle first := by
      have hall := List.takeWhile_append_dropWhile (p := isIdle) (l := (first :: others).reverse)
      rw [htrimmed, List.append_nil] at hall
      have hmem : first ∈ (first :: others).reverse := by simp
      rw [← hall] at hmem
      exact List.all_eq_true.mp List.all_takeWhile first hmem
    rw [htrimmed] at hproper
    rw [← hproper, habsolute]
    simp only [isIdle, Bool.or_eq_true, decide_eq_true_eq] at hfirst
    dsimp only
    rw [htrimmed, List.getLast?_reverse, List.head?_cons]
    rcases hfirst with rfl | rfl <;> exact ⟨rfl, rfl⟩
  · have hstart : (last :: trimmed).reverse <+: first :: others := by
      rw [← htrimmed, ← List.reverse_suffix, List.reverse_reverse]
      exact List.dropWhile_suffix _
    have hlast : isIdle last = false := by
      have := List.head?_dropWhile_not isIdle (first :: others).reverse
      rw [htrimmed] at this
      simpa using this
    rw [htrimmed] at hproper
    dsimp only
    rw [htrimmed]
    dsimp only
    have hparts : parts ("/".intercalate (last :: trimmed).reverse) = (last :: trimmed).reverse :=
      parts_intercalate (by simp) fun part hpart => hslash part (hstart.subset hpart)
    rw [hparts]
    refine ⟨hproper, ?_⟩
    rw [habsolute]
    apply Bool.eq_iff_iff.mpr
    rw [isAbsolute_iff, hparts, beq_iff_eq]
    constructor
    · rintro ⟨part, rest, heq⟩
      rw [heq] at hstart
      exact (List.cons_prefix_cons.mp hstart).1.symm
    · -- the parts that are left do not end in one that is idle, so there are two of them
      rintro rfl
      rcases hleft : (last :: trimmed).reverse with _ | ⟨head, _ | ⟨part, rest⟩⟩
      · simp at hleft
      · rw [hleft] at hstart
        obtain ⟨rfl, -⟩ := List.cons_prefix_cons.mp hstart
        have hmem : last ∈ (last :: trimmed).reverse := by simp
        rw [hleft, List.mem_singleton] at hmem
        rw [hmem] at hlast
        cases hlast
      · rw [hleft] at hstart
        obtain ⟨rfl, -⟩ := List.cons_prefix_cons.mp hstart
        exact ⟨part, rest, rfl⟩

/-- The parent of a path has no other characters than the path, slashes and points. -/
lemma mem_toList_parent {c : Char} {path : String} (h : c ∈ (parent path).toList) :
    c = '/' ∨ c = '.' ∨ c ∈ path.toList := by
  unfold parent at h
  dsimp only at h
  split at h
  next =>
    split at h
    · exact .inl (by simpa using h)
    · exact .inr (.inl (by simpa using h))
    · simp at h
  next =>
    rcases mem_toList_intercalate h with hslash | ⟨part, hpart, hc⟩
    · exact .inl hslash
    · refine .inr (.inr (mem_toList_of_mem_parts ?_ hc))
      have hmem := (List.dropWhile_suffix _).subset (List.mem_reverse.mp hpart)
      exact List.mem_reverse.mp ((List.dropWhile_suffix _).subset (List.mem_of_mem_tail hmem))

end Path

/-! ### Templates -/

namespace Template

/-- The characters after the last slash, from behind. -/
lemma takeWhile_reverse {name : List Char} (h : '/' ∉ name) (front : List Char)
    (hfront : front.getLast? = none ∨ front.getLast? = some '/') :
    (front ++ name).reverse.takeWhile (· ≠ '/') = name.reverse := by
  have hname : ∀ c ∈ name.reverse, decide (c ≠ '/') := by
    intro c hc
    have : c ≠ '/' := fun heq => h (heq ▸ List.mem_reverse.mp hc)
    simpa using this
  rw [List.reverse_append, List.takeWhile_append_of_pos hname]
  rw [← List.head?_reverse] at hfront
  cases hreverse : front.reverse <;> simp_all

lemma splitLastSlash_of_not_mem {text : List Char} (h : '/' ∉ text) :
    splitLastSlash text = ([], text) := by
  rw [splitLastSlash, ← List.nil_append text,
    takeWhile_reverse h [] (.inl rfl)]
  simp

lemma splitLastSlash_append {front name : List Char} (h : '/' ∉ name) :
    splitLastSlash (front ++ '/' :: name) = (front, name) := by
  have hlength : (front ++ '/' :: name).length - name.length - 1 = front.length := by
    rw [List.length_append, List.length_cons]
    omega
  have htake := takeWhile_reverse h (front ++ ['/']) (.inr (by simp))
  rw [List.append_assoc, List.singleton_append] at htake
  rw [splitLastSlash, htake, List.reverse_reverse, hlength, List.take_left]

/-- The last part of a text has no slash. -/
lemma slash_not_mem_splitLastSlash (text : List Char) : '/' ∉ (splitLastSlash text).2 := by
  intro h
  rw [splitLastSlash, List.mem_reverse] at h
  simpa using List.all_eq_true.mp List.all_takeWhile _ h

lemma dropTail_subset (tail text : List Char) : dropTail tail text ⊆ text := by
  unfold dropTail
  split
  · exact List.take_subset _ _
  · exact List.Subset.refl _

variable {path file source name : String} {outer : List String}

lemma slash_not_mem_baseName (path source : String) :
    '/' ∉ (ofPath path source).baseName.toList := by
  rw [ofPath, String.toList_ofList]
  exact fun h => slash_not_mem_splitLastSlash _ (dropTail_subset _ _ h)

lemma map_slashed (h : '\\' ∉ path.toList) :
    (path.toList.map fun c => if c = '\\' then '/' else c) = path.toList :=
  Path.slashed_of_not_mem h

section

variable (hbackslash : '\\' ∉ path.toList) (hpath : path = "/".intercalate (outer ++ [file]))
  (hfile : '/' ∉ file.toList)
include hbackslash hpath hfile

omit hbackslash in
/-- The directory and the last part of a path. -/
lemma splitLastSlash_path :
    splitLastSlash path.toList = (("/".intercalate outer).toList, file.toList) := by
  rcases outer.eq_nil_or_concat with rfl | ⟨front, last, rfl⟩
  · rw [hpath, List.nil_append, String.intercalate_singleton, splitLastSlash_of_not_mem hfile]
    rfl
  · rw [hpath, String.intercalate_append_of_ne_nil (by simp) (by simp),
      String.intercalate_singleton, String.toList_append, String.toList_append, List.append_assoc]
    exact splitLastSlash_append hfile

lemma directory_ofPath : (ofPath path source).directory = "/".intercalate outer := by
  rw [ofPath, map_slashed hbackslash]
  simp only
  rw [splitLastSlash_path hpath hfile, String.ofList_toList]

lemma baseName_ofPath_subset : (ofPath path source).baseName.toList ⊆ file.toList := by
  rw [ofPath, map_slashed hbackslash]
  simp only
  rw [splitLastSlash_path hpath hfile, String.toList_ofList]
  exact dropTail_subset _ _

/-- The artifacts of a template are beside it. -/
lemma ofPath_outputPath (houter : ∀ part ∈ outer, part ≠ "") (name : String) :
    (ofPath path source).outputPath name = "/".intercalate (outer ++ [name]) := by
  rw [outputPath, directory_ofPath hbackslash hpath hfile]
  rcases outer with _ | ⟨first, others⟩
  · rfl
  · have hne : ("/".intercalate (first :: others)).isEmpty = false := by
      have hfirst := houter first (List.mem_cons_self ..)
      cases others <;> simp [hfirst]
    rw [hne, if_neg (by simp), String.intercalate_append_of_ne_nil (by simp) (by simp),
      String.intercalate_singleton]

end

/-- The last slash in the path of an artifact stands behind the directory of its template. -/
lemma splitLastSlash_outputPath (template : Template) (hname : '/' ∉ name.toList) :
    splitLastSlash (template.outputPath name).toList =
      (template.directory.toList, name.toList) := by
  rw [outputPath]
  split
  next hempty =>
    rw [splitLastSlash_of_not_mem hname, String.isEmpty_iff.mp hempty]
    rfl
  next =>
    rw [String.toList_append, String.toList_append, List.append_assoc]
    exact splitLastSlash_append hname

/-- Artifacts of two templates have the same path when the templates are in the same directory and
the names are the same, and not otherwise. -/
lemma outputPath_eq_iff {first second : Template} {name other : String}
    (hname : '/' ∉ name.toList) (hother : '/' ∉ other.toList) :
    first.outputPath name = second.outputPath other ↔
      first.directory = second.directory ∧ name = other := by
  constructor
  · intro h
    have heq := splitLastSlash_outputPath first hname
    rw [h, splitLastSlash_outputPath second hother] at heq
    obtain ⟨hdirectory, hname⟩ := Prod.mk.inj heq
    exact ⟨(String.toList_inj.mp hdirectory).symm, (String.toList_inj.mp hname).symm⟩
  · rintro ⟨hdirectory, rfl⟩
    rw [outputPath, outputPath, hdirectory]

end Template

end Stencil
