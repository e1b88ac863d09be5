import Mathlib.Data.List.Sort
import Mathlib.Data.String.Basic
import Stencil.Proofs.Finding

/-!
# Which templates are discovered

The paths of the templates below a directory are in the strict order of their bytes, and they are
those of the files that are not hidden and that the patterns ask for (`templatePaths_discovers`).
Such a list is told by its members alone. So it depends neither on the order in which directories
are read, nor on the order or repetition of patterns, and it grows with the including patterns and
shrinks with the excluding ones.

Paths are sorted by their characters, which gives the order of their bytes (`utf8Bytes_lt`).
-/

namespace Stencil

/-! ### The order of bytes -/

namespace Text

lemma ofNat_cons_lt {m n : Nat} {p q : List UInt8} (hm : m < 256) (hn : n < 256) :
    UInt8.ofNat m :: p < UInt8.ofNat n :: q ↔ m < n ∨ m = n ∧ p < q := by
  rw [List.cons_lt_cons_iff, UInt8.ofNat_lt_iff_lt hm hn, ← UInt8.toNat_inj,
    UInt8.toNat_ofNat_of_lt' hm, UInt8.toNat_ofNat_of_lt' hn]

lemma utf8EncodeChar_append_lt {c d : Char} (h : c < d) (p q : List UInt8) :
    String.utf8EncodeChar c ++ p < String.utf8EncodeChar d ++ q := by
  have hval : c.val.toNat < d.val.toNat := h
  have hmax : d.val.toNat < 0x110000 := by
    rcases d.valid with h | h <;> omega
  rw [String.utf8EncodeChar, String.utf8EncodeChar]
  generalize c.val.toNat = m at *
  generalize d.val.toNat = n at *
  have hdigits {v : Nat} (hv : v < 0x110000) : v / 64 / 64 = v / 4096 ∧
      v / 4096 / 64 = v / 262144 ∧ v / 262144 % 8 = v / 262144 := by omega
  have hm := hdigits (hval.trans hmax)
  have hn := hdigits hmax
  -- one case for each pair of sizes; a shorter character has the smaller first byte
  split_ifs <;> simp (disch := omega) only [List.cons_append, List.nil_append, ofNat_cons_lt] <;>
    omega

/-- Characters and their bytes are in the same order. -/
lemma utf8Bytes_lt {p q : List Char} (h : p < q) : utf8Bytes p < utf8Bytes q := by
  induction h with
  | @nil c q =>
    rw [utf8Bytes, utf8Bytes, List.flatMap_cons, List.flatMap_nil, String.utf8EncodeChar]
    split_ifs <;> exact List.Lex.nil
  | rel h    => exact utf8EncodeChar_append_lt h _ _
  | cons _ h => exact List.append_left_lt h

end Text

namespace Workspace

open FileTree (Place Named)

/-- Whether the bytes of a path are before those of another one. -/
def Precedes (path other : String) : Prop :=
  Text.utf8Bytes path.toList < Text.utf8Bytes other.toList

/-! ### Sorted paths -/

section

variable {paths : List String}

lemma pairwise_eraseDups (h : paths.Pairwise (· ≤ ·)) : paths.eraseDups.Pairwise (· < ·) := by
  induction hlength : paths.length using Nat.strong_induction_on generalizing paths with
  | _ length ih =>
    cases paths with
    | nil => exact List.Pairwise.nil
    | cons path paths =>
      obtain ⟨hpath, hpaths⟩ := List.pairwise_cons.mp h
      rw [List.eraseDups_cons]
      refine List.pairwise_cons.mpr ⟨fun other hother => ?_, ?_⟩
      · obtain ⟨hmem, hne⟩ := List.mem_filter.mp (List.mem_eraseDups.mp hother)
        exact (hpath other hmem).lt_of_ne fun heq => by simp [heq] at hne
      · refine ih _ ?_ (hpaths.filter _) rfl
        rw [← hlength, List.length_cons]
        exact Nat.lt_succ_of_le (List.length_filter_le ..)

lemma pairwise_sortPaths (paths : List String) : (sortPaths paths).Pairwise (· < ·) := by
  have htrans (p q r : String) (hpq : decide (p ≤ q)) (hqr : decide (q ≤ r)) : decide (p ≤ r) :=
    decide_eq_true ((of_decide_eq_true hpq).trans (of_decide_eq_true hqr))
  have htotal (p q : String) : decide (p ≤ q) || decide (q ≤ p) := by
    simpa using le_total p q
  exact pairwise_eraseDups ((List.pairwise_mergeSort htrans htotal paths).imp of_decide_eq_true)

end

/-! ### Patterns -/

/-- Whether all patterns write globs. -/
def AreGlobs (patterns : List String) : Prop :=
  ∀ pattern ∈ patterns, ∃ glob, Glob.ofText pattern = .ok glob

instance : DecidablePred AreGlobs := fun patterns =>
  decidable_of_iff (∀ pattern ∈ patterns, (Glob.ofText pattern).isOk) <| by
    refine forall₂_congr fun pattern _ => ?_
    rcases Glob.ofText pattern with fault | glob
    · exact ⟨nofun, nofun⟩
    · exact ⟨fun _ => ⟨glob, rfl⟩, fun _ => rfl⟩

/-- Whether some of the patterns writes a glob that matches a path. -/
def AskFor (patterns : List String) (path : String) : Prop :=
  ∃ pattern ∈ patterns, ∃ glob, Glob.ofText pattern = .ok glob ∧ glob.matchesPath path

section

variable {patterns others : List String} {path : String}

lemma AreGlobs.readGlobs (h : AreGlobs patterns) :
    ∃ globs, readGlobs patterns = .ok globs ∧
      ∀ path, globs.any (·.matchesPath path) ↔ AskFor patterns path := by
  induction patterns with
  | nil => exact ⟨[], rfl, fun path => by simp [AskFor]⟩
  | cons pattern patterns ih =>
    obtain ⟨⟨glob, hglob⟩, hpatterns⟩ := List.forall_mem_cons.mp h
    obtain ⟨globs, hglobs, hiff⟩ := ih hpatterns
    refine ⟨glob :: globs, ?_, fun path => ?_⟩
    · rw [Workspace.readGlobs, hglob, hglobs]
      rfl
    · rw [List.any_cons, Bool.or_eq_true, hiff path]
      simp [AskFor, hglob]

lemma AreGlobs.append (h : AreGlobs patterns) (hothers : AreGlobs others) :
    AreGlobs (patterns ++ others) :=
  List.forall_mem_append.mpr ⟨h, hothers⟩

lemma AskFor.mono (h : AskFor patterns path) (hsubset : patterns ⊆ others) :
    AskFor others path := by
  obtain ⟨pattern, hpattern, hglob⟩ := h
  exact ⟨pattern, hsubset hpattern, hglob⟩

end

/-! ### Discovery -/

/-- Whether a file that is not hidden stands at a path below a directory. -/
def HasVisible (w : Workspace) (root : Place) (path : String) : Prop :=
  ∃ place content, path = "/".intercalate place ∧
    w.tree.face? (root ++ place) = some (.file content) ∧
    ∀ name ∈ place, name.toList.head? ≠ some '.'

/-- Whether a path is one of a template below a directory. -/
def Discovers (w : Workspace) (root : Place) (including excluding : List String) (path : String) :
    Prop :=
  HasVisible w root path ∧ AskFor including path ∧ ¬AskFor excluding path

variable {w v : Workspace} {directory other : String} {root place : Place} {kind : String → Prop}
  {including excluding including' excluding' paths others : List String}

lemma Discovers.mono {path : String} (h : Discovers w root including excluding path)
    (hincluding : including ⊆ including') (hexcluding : excluding' ⊆ excluding) :
    Discovers w root including' excluding' path :=
  ⟨h.1, h.2.1.mono hincluding, fun hexcluded => h.2.2 (hexcluded.mono hexcluding)⟩

lemma mem_visiblePaths {entries : List (String × FileTree)}
    (hroot : w.tree.get? root = some (.directory entries)) (hnamed : Named kind w.tree)
    {path : String} : path ∈ visiblePaths (.directory entries) ↔ HasVisible w root path := by
  have hface (place : Place) (content : List UInt8) :
      w.tree.face? (root ++ place) = some (.file content) ↔
        (FileTree.directory entries).get? place = some (.file content) := by
    rw [FileTree.face?_eq_file, FileTree.get?_append, hroot, Option.bind_some]
  rw [visiblePaths, List.mem_map]
  constructor
  · rintro ⟨⟨place, content⟩, hmem, rfl⟩
    obtain ⟨hfile, hnames⟩ := (hnamed.below root hroot).mem_filesThrough.mp hmem
    exact ⟨place, content, rfl, (hface place content).mpr hfile, by simpa [isHidden] using hnames⟩
  · rintro ⟨place, content, rfl, hfile, hnames⟩
    refine ⟨(place, content), (hnamed.below root hroot).mem_filesThrough.mpr ⟨?_, ?_⟩, rfl⟩
    · exact (hface place content).mp hfile
    · simpa [isHidden] using hnames

/-- The paths that are found below a directory, each one once and in order. -/
structure Finds (w : Workspace) (directory : String) (root : Place)
    (including excluding paths : List String) : Prop where
  found : w.templatePaths directory including excluding = .ok paths
  pairwise : paths.Pairwise (· < ·)
  mem_iff (path : String) : path ∈ paths ↔ Discovers w root including excluding path

lemma exists_finds (hlocate : w.locate directory = .ok root)
    (hroot : w.tree.face? root = some .directory) (hnamed : Named kind w.tree)
    (hincluding : AreGlobs including) (hexcluding : AreGlobs excluding) :
    ∃ paths, Finds w directory root including excluding paths := by
  obtain ⟨globs, hglobs, hask⟩ := hincluding.readGlobs
  obtain ⟨excluded, hexcluded, hrefuse⟩ := hexcluding.readGlobs
  obtain ⟨entries, hentries⟩ := FileTree.face?_eq_directory.mp hroot
  have hfound : w.templatePaths directory including excluding = _ :=
    templatePaths_eq hglobs hexcluded
  rw [treeBelow_of_locate hlocate hentries] at hfound
  refine ⟨_, hfound, pairwise_sortPaths _, fun path => ?_⟩
  rw [mem_sortPaths, List.mem_filter, mem_visiblePaths hentries hnamed, selects, Bool.and_eq_true,
    Bool.not_eq_true', ← Bool.not_eq_true, hask, hrefuse]
  rfl

namespace Finds

variable (h : Finds w directory root including excluding paths)
  (h' : Finds v other place including' excluding' others)
include h h'

/-- What is found is in order, so a part of the paths is a part of the list. -/
lemma sublist (hpart : ∀ path, Discovers w root including excluding path →
    Discovers v place including' excluding' path) : paths.Sublist others := by
  have hsubset : paths ⊆ others := fun path hpath =>
    (h'.mem_iff path).mpr (hpart path ((h.mem_iff path).mp hpath))
  have hnodup : paths.Nodup := h.pairwise.imp fun h => h.ne
  exact List.sublist_of_subperm_of_pairwise (List.subperm_of_subset hnodup hsubset) h.pairwise
    h'.pairwise

/-- What is found is told by which paths are discovered. -/
lemma eq_ok (hsame : ∀ path, Discovers v place including' excluding' path ↔
    Discovers w root including excluding path) :
    v.templatePaths other including' excluding' = .ok paths := by
  have heq : others = paths := (h'.sublist h fun path => (hsame path).mp).antisymm
    (h.sublist h' fun path => (hsame path).mpr)
  rw [h'.found, heq]

end Finds

/-- The discovered paths are in the strict order of their bytes, and they are those of the files
below the directory that have no hidden part and that some including pattern and no excluding one
asks for. They are the same however the directories are listed, and for patterns in another order or
repeated. Further including patterns only add paths, and further excluding ones only take paths
out. -/
theorem templatePaths_discovers (hlocate : w.locate directory = .ok root)
    (hroot : w.tree.face? root = some .directory) (hnamed : Named kind w.tree)
    (hincluding : AreGlobs including) (hexcluding : AreGlobs excluding) :
    ∃ paths, w.templatePaths directory including excluding = .ok paths ∧
      paths.Pairwise Precedes ∧
      (∀ path, path ∈ paths ↔
        (∃ place content, path = "/".intercalate place ∧
          w.tree.face? (root ++ place) = some (.file content) ∧
          ∀ name ∈ place, name.toList.head? ≠ some '.') ∧
        AskFor including path ∧ ¬AskFor excluding path) ∧
      (∀ (v : Workspace) other place, v.locate other = .ok place → Named kind v.tree →
        (∀ inner, v.tree.face? (place ++ inner) = w.tree.face? (root ++ inner)) →
        v.templatePaths other including excluding = .ok paths) ∧
      (∀ including' excluding', (∀ pattern, pattern ∈ including' ↔ pattern ∈ including) →
        (∀ pattern, pattern ∈ excluding' ↔ pattern ∈ excluding) →
        w.templatePaths directory including' excluding' = .ok paths) ∧
      (∀ further, AreGlobs further → ∃ more,
        w.templatePaths directory (including ++ further) excluding = .ok more ∧
        paths.Sublist more) ∧
      ∀ further, AreGlobs further → ∃ fewer,
        w.templatePaths directory including (excluding ++ further) = .ok fewer ∧
        fewer.Sublist paths := by
  obtain ⟨paths, hfinds⟩ := exists_finds hlocate hroot hnamed hincluding hexcluding
  refine ⟨paths, hfinds.found, ?_, hfinds.mem_iff, ?_, ?_, ?_, ?_⟩
  · exact hfinds.pairwise.imp fun h => Text.utf8Bytes_lt (String.lt_iff_toList_lt.mp h)
  · intro v other place hother hnamed' hface
    have hplace : v.tree.face? place = some .directory := by
      have hnil := hface []
      rw [List.append_nil, List.append_nil] at hnil
      exact hnil.trans hroot
    obtain ⟨others, hothers⟩ := exists_finds hother hplace hnamed' hincluding hexcluding
    refine hfinds.eq_ok hothers fun path => ?_
    simp only [Discovers, HasVisible, hface]
  · intro including' excluding' hincluding' hexcluding'
    obtain ⟨others, hothers⟩ := exists_finds hlocate hroot hnamed
      (fun pattern h => hincluding pattern ((hincluding' pattern).mp h))
      (fun pattern h => hexcluding pattern ((hexcluding' pattern).mp h))
    refine hfinds.eq_ok hothers fun path => ?_
    simp only [Discovers, AskFor, hincluding', hexcluding']
  · intro further hfurther
    obtain ⟨more, hmore⟩ :=
      exists_finds hlocate hroot hnamed (hincluding.append hfurther) hexcluding
    refine ⟨more, hmore.found, hfinds.sublist hmore fun path h => ?_⟩
    exact h.mono (List.subset_append_left ..) (List.Subset.refl _)
  · intro further hfurther
    obtain ⟨fewer, hfewer⟩ :=
      exists_finds hlocate hroot hnamed hincluding (hexcluding.append hfurther)
    refine ⟨fewer, hfewer.found, hfewer.sublist hfinds fun path h => ?_⟩
    exact h.mono (List.Subset.refl _) (List.subset_append_left ..)

/-- A workspace with some files, of which one is hidden and one is in a hidden directory. -/
def assorted : Workspace where
  tree := .directory [("é.ts", .file []), ("z.ts", .file []), (".a.ts", .file []),
    (".b", .directory [("c.ts", .file [])]), ("a", .directory [("b.ts", .file [])])]
  here := []

/-- The templates of `assorted`, in an order that is not that of its entries. -/
theorem templatePaths_discovers_assorted : ∃ paths,
    assorted.templatePaths "." ["**/*.ts"] ["z.*"] = .ok paths ∧ paths = ["a/b.ts", "é.ts"] ∧
    paths.Pairwise Precedes := by
  have hlocate : assorted.locate "." = .ok [] :=
    locate_eq_ok.mpr ⟨by decide, by decide, .idle (by decide) .here⟩
  have hnamed : Named (fun _ => True) assorted.tree := by
    refine FileTree.named_directory (by decide) (fun _ _ => trivial) ?_
    simp only [List.forall_mem_cons, FileTree.named_file, true_and]
    refine ⟨?_, ?_, List.forall_mem_nil _⟩ <;>
      exact FileTree.named_directory (by decide) (fun _ _ => trivial)
        (List.forall_mem_singleton.mpr (FileTree.named_file []))
  have hincluding : AreGlobs ["**/*.ts"] := by decide +kernel
  have hexcluding : AreGlobs ["z.*"] := by decide +kernel
  obtain ⟨paths, hfound, hpairwise, -⟩ :=
    templatePaths_discovers hlocate rfl hnamed hincluding hexcluding
  refine ⟨paths, hfound, ?_, hpairwise⟩
  obtain ⟨globs, hglobs, -⟩ := hincluding.readGlobs
  obtain ⟨excluded, hexcluded, -⟩ := hexcluding.readGlobs
  have hfilter : (do
      let globs ← readGlobs ["**/*.ts"]
      let excluded ← readGlobs ["z.*"]
      return (visiblePaths assorted.tree).filter (selects globs excluded)).toOption =
        some ["é.ts", "a/b.ts"] := by
    decide +kernel
  rw [hglobs, hexcluded] at hfilter
  have hfiltered : (visiblePaths assorted.tree).filter (selects globs excluded) =
      ["é.ts", "a/b.ts"] :=
    Option.some.inj hfilter
  rw [templatePaths_eq hglobs hexcluded, treeBelow_of_locate hlocate rfl] at hfound
  have hpaths : sortPaths ((visiblePaths assorted.tree).filter (selects globs excluded)) = paths :=
    Except.ok.inj hfound
  rw [← hpaths, hfiltered]
  simp [sortPaths, List.mergeSort, List.eraseDups_cons]

end Workspace

end Stencil
