import Stencil.Proofs.Reaching

/-!
# What is found in a workspace

The templates that are found are files below the directory, at the places that their paths tell
(`exists_of_mem_templatePaths`), and each is in a directory that can be reached (`reaches_of_mem`),
from which it is loaded as it stands there (`Reaches.loadTemplate_eq`). A file that is written at a
path which no pattern asks for does not change what is found (`templatePaths_store`).
-/

namespace Stencil.Workspace

open FileTree (Place Named placesThrough)

variable {w : Workspace} {directory path : String} {root place : Place} {tree : FileTree}
  {entries : List (String × FileTree)}

/-! ### The tree below a directory -/

lemma treeBelow_of_locate (hlocate : w.locate directory = .ok root)
    (hroot : w.tree.get? root = some (.directory entries)) :
    w.treeBelow directory = .ok (.directory entries) := by
  obtain ⟨hnul, hne, hleads⟩ := locate_eq_ok.mp hlocate
  obtain ⟨last, hlast, hcases⟩ := hleads.exists_last
  have hlocate' : w.locate directory false = .ok last := locate_eq_ok.mpr ⟨hnul, hne, hlast⟩
  have hfind : w.find directory = .ok (.directory entries) := find_eq_ok.mpr ⟨root, hlocate, hroot⟩
  unfold treeBelow
  rcases hcases with rfl | ⟨target, htarget⟩
  · rw [find_eq_ok.mpr ⟨last, hlocate', hroot⟩]
    rfl
  · rw [find_eq_ok.mpr ⟨last, hlocate', FileTree.face?_eq_link.mp htarget⟩, hfind]
    rfl

/-- What stands below a directory is there, unless the directory is a link that leads to none. -/
lemma treeBelow_cases (h : w.treeBelow directory = .ok tree) :
    tree = .empty ∨ ∃ root, w.locate directory = .ok root ∧ w.tree.get? root = some tree := by
  unfold treeBelow at h
  rcases hlast : w.find directory false with fault | entry <;> rw [hlast] at h
  · cases h
  obtain ⟨last, hlocate, hentry⟩ := find_eq_ok.mp hlast
  by_cases hlink : ∃ target, entry = .link target
  · obtain ⟨target, rfl⟩ := hlink
    rcases hfind : w.find directory with fault | found <;> rw [hfind] at h
    · cases h
    obtain ⟨root, hroot, hfound⟩ := find_eq_ok.mp hfind
    cases found with
    | file _              => cases h; exact .inl rfl
    | link _              => cases h; exact .inl rfl
    | directory entries   => cases h; exact .inr ⟨root, hroot, hfound⟩
  · have htree : entry = tree := by
      cases entry with
      | link target => exact absurd ⟨target, rfl⟩ hlink
      | file _      => cases h; rfl
      | directory _ => cases h; rfl
    subst htree
    obtain ⟨hnul, hne, hleads⟩ := locate_eq_ok.mp hlocate
    have hthrough := hleads.through fun target htarget => ?_
    · exact .inr ⟨last, locate_eq_ok.mpr ⟨hnul, hne, hthrough⟩, hentry⟩
    rw [FileTree.face?_eq_link.mp htarget] at hentry
    exact hlink ⟨target, (Option.some.inj hentry).symm⟩

/-! ### Finding -/

variable {including excluding paths : List String} {globs : List Glob}

lemma mem_sortPaths : path ∈ sortPaths paths ↔ path ∈ paths := by
  rw [sortPaths, List.mem_eraseDups, List.mem_mergeSort]

/-- Whether all paths that patterns ask for end like templates. -/
def AskForTemplates (patterns : List String) : Prop :=
  ∀ globs, readGlobs patterns = .ok globs →
    ∀ glob ∈ globs, ∀ path, glob.matchesPath path → templateExtension.toList <:+ path.toList

lemma AskForTemplates.of_selects {including : List String} (h : AskForTemplates including)
    (hglobs : readGlobs including = .ok globs) {excluded : List Glob}
    (hselects : selects globs excluded path) : templateExtension.toList <:+ path.toList := by
  rw [selects, Bool.and_eq_true, List.any_eq_true] at hselects
  obtain ⟨⟨glob, hglob, hmatch⟩, -⟩ := hselects
  exact h globs hglobs glob hglob path hmatch

lemma templatePaths_eq {excluded : List Glob} (hincluding : readGlobs including = .ok globs)
    (hexcluding : readGlobs excluding = .ok excluded) :
    w.templatePaths directory including excluding =
      match w.treeBelow directory with
      | .error fault => .error (.discovery (.noEntry directory fault))
      | .ok tree     => .ok (sortPaths ((visiblePaths tree).filter (selects globs excluded))) := by
  rw [templatePaths, hincluding, hexcluding]
  rfl

/-- Each template that is found is a file below the directory. -/
lemma exists_of_mem_templatePaths
    (hfound : w.templatePaths directory including excluding = .ok paths) (hpath : path ∈ paths) :
    ∃ tree place content, w.treeBelow directory = .ok tree ∧
      (place, content) ∈ tree.filesThrough (fun name => !isHidden name) ∧
      path = "/".intercalate place ∧
      (AskForTemplates including → templateExtension.toList <:+ path.toList) := by
  rcases hincluding : readGlobs including with failure | globs
  · rw [templatePaths, hincluding] at hfound
    cases hfound
  rcases hexcluding : readGlobs excluding with failure | excluded
  · rw [templatePaths, hincluding, hexcluding] at hfound
    cases hfound
  rw [templatePaths_eq hincluding hexcluding] at hfound
  rcases htree : w.treeBelow directory with fault | tree <;> rw [htree] at hfound
  · cases hfound
  cases hfound
  rw [mem_sortPaths, List.mem_filter] at hpath
  obtain ⟨hvisible, hselects⟩ := hpath
  obtain ⟨⟨place, content⟩, hmem, rfl⟩ := List.mem_map.mp hvisible
  exact ⟨tree, place, content, rfl, hmem, rfl, fun h => h.of_selects hincluding hselects⟩

/-- A file that globs select is found. -/
lemma exists_templatePaths (htree : w.treeBelow directory = .ok tree)
    (hvisible : path ∈ visiblePaths tree)
    (hselects : (readGlobs including).toOption.any fun globs =>
      (readGlobs excluding).toOption.any fun excluded => selects globs excluded path) :
    ∃ paths, w.templatePaths directory including excluding = .ok paths ∧ path ∈ paths := by
  rcases hincluding : readGlobs including with failure | globs <;> rw [hincluding] at hselects
  · cases hselects
  rcases hexcluding : readGlobs excluding with failure | excluded <;> rw [hexcluding] at hselects
  · cases hselects
  rw [templatePaths_eq hincluding hexcluding, htree]
  exact ⟨_, rfl, mem_sortPaths.mpr (List.mem_filter.mpr ⟨hvisible, hselects⟩)⟩

/-! ### Written files -/

/-- Whether a place is one for artifacts. -/
def IsArtifactPlace (place : Place) : Prop :=
  ∃ outer name, place = outer ++ [name] ∧ artifactExtension.toList <:+ name.toList

lemma not_suffix_of_isArtifactPlace (h : IsArtifactPlace place) :
    ¬templateExtension.toList <:+ ("/".intercalate place).toList := by
  obtain ⟨outer, name, rfl, hname⟩ := h
  intro htemplate
  have hartifact : artifactExtension.toList <:+ ("/".intercalate (outer ++ [name])).toList := by
    rcases List.eq_nil_or_concat outer with rfl | ⟨front, last, rfl⟩
    · simpa using hname
    · rw [String.intercalate_append_of_ne_nil (by simp) (by simp), String.intercalate_singleton,
        String.toList_append]
      exact hname.trans (List.suffix_append ..)
  rcases List.suffix_or_suffix_of_suffix htemplate hartifact with h | h <;> revert h <;> decide

/-- A file that is put in at a place for artifacts is no path that is asked for. -/
lemma filter_visiblePaths_put {excluded : List Glob} (hask : AskForTemplates including)
    (hglobs : readGlobs including = .ok globs) (hplace : IsArtifactPlace place)
    (hfree : tree.face? place ≠ some .directory) (content : List UInt8) :
    (visiblePaths (tree.put place (.file content))).filter (selects globs excluded) =
      (visiblePaths tree).filter (selects globs excluded) := by
  have hvisible (tree : FileTree) : visiblePaths tree =
      (tree.placesThrough fun name => !isHidden name).map ("/".intercalate ·) := by
    rw [placesThrough, List.map_map]
    rfl
  rw [hvisible, hvisible, List.filter_map, List.filter_map]
  congr 1
  refine FileTree.filter_placesThrough_put hfree ?_ content
  rw [Function.comp_apply, ← Bool.not_eq_true]
  exact fun h => not_suffix_of_isArtifactPlace hplace (hask.of_selects hglobs h)

lemma get?_store (hroot : w.tree.get? root = some (.directory entries)) (place : Place)
    (content : List UInt8) :
    (w.store (root ++ place) content).tree.get? root =
      some ((FileTree.directory entries).put place (.file content)) := by
  rcases FileTree.get?_put_append w.tree root place (.file content) with h | h
  · rw [store, h, hroot]
    rfl
  · rw [hroot] at h
    cases h

/-- A file that is written at a place for artifacts does not change what is found. -/
lemma templatePaths_store (hask : AskForTemplates including)
    (hlocate : w.locate directory = .ok root) (hroot : w.tree.face? root = some .directory)
    (hplace : IsArtifactPlace place) (hfits : w.tree.Fits (root ++ place))
    (hlink : ∀ target, w.tree.face? (root ++ place) ≠ some (.link target))
    (content : List UInt8) :
    (w.store (root ++ place) content).templatePaths directory including excluding =
      w.templatePaths directory including excluding := by
  rcases hincluding : readGlobs including with failure | globs
  · rw [templatePaths, templatePaths, hincluding]
    rfl
  rcases hexcluding : readGlobs excluding with failure | excluded
  · rw [templatePaths, templatePaths, hincluding, hexcluding]
    rfl
  obtain ⟨entries, hentries⟩ := FileTree.face?_eq_directory.mp hroot
  have hkeeps := keeps_store hfits hlink content
  obtain ⟨entries', hentries'⟩ := FileTree.face?_eq_directory.mp (hkeeps.directory hroot)
  have hput := get?_store hentries place content
  rw [hentries', Option.some.injEq] at hput
  rw [templatePaths_eq hincluding hexcluding, templatePaths_eq hincluding hexcluding,
    treeBelow_of_locate hlocate hentries, treeBelow_of_locate (hkeeps.locate hlocate) hentries']
  dsimp only
  rw [hput, filter_visiblePaths_put hask hincluding hplace]
  intro hdirectory
  refine hfits.free ?_
  rw [FileTree.face?, FileTree.get?_append, hentries]
  exact hdirectory

/-! ### Loading -/

namespace Reaches

variable {outer : List String} {name : String}

/-- What stands in a directory that is reached is found. -/
lemma find_join (h : Reaches w directory root outer) (hname : IsEntryName name)
    (hpath : path = "/".intercalate (outer ++ [name])) {content : List UInt8}
    (hentry : w.tree.face? (root ++ outer ++ [name]) = some (.file content)) :
    w.find (Path.join directory path) = .ok (.file content) := by
  obtain ⟨left, hleft⟩ := h.leads.follow_append h.inside
  refine find_eq_ok.mpr ⟨root ++ outer ++ [name], ?_, FileTree.face?_eq_file.mp hentry⟩
  rw [h.locate_join hname.toIsPart hpath, hleft]
  refine follow_last hname.isName ?_ fun _ target => ?_ <;> rw [hentry] <;> exact nofun

/-- A template is loaded from the file that it is. -/
lemma loadTemplate_eq (h : Reaches w directory root outer) (hname : IsEntryName name)
    (hpath : path = "/".intercalate (outer ++ [name])) {content : List UInt8}
    (hentry : w.tree.face? (root ++ outer ++ [name]) = some (.file content)) :
    w.loadTemplate directory path =
      match textOf? content with
      | some text => .ok (.ofPath path text)
      | none      => .error (.fileSystem path .notText) := by
  have hread : w.readText (Path.join directory path) =
      match textOf? content with
      | some text => .ok text
      | none      => .error .notText := by
    rw [readText, h.find_join hname hpath hentry]
    rfl
  rw [loadTemplate, hread]
  rcases textOf? content with _ | text <;> rfl

end Reaches

/-- The directory of a file that is found below a directory can be reached. -/
lemma reaches_of_mem {content : List UInt8} {counts : String → Bool}
    (hhere : w.tree.face? w.here = some .directory) (hlocate : w.locate directory = .ok root)
    (hroot : w.tree.get? root = some (.directory entries))
    (hnamed : Named IsEntryName (.directory entries))
    (hmem : (place, content) ∈ (FileTree.directory entries).filesThrough counts) :
    ∃ outer name, place = outer ++ [name] ∧ Reaches w directory root outer ∧ IsEntryName name ∧
      w.tree.face? (root ++ outer ++ [name]) = some (.file content) := by
  have hfile := hnamed.get?_of_mem hmem
  have hnames {name : String} (h : name ∈ place) : IsEntryName name :=
    hnamed.of_mem (by rw [hfile]; exact nofun) h
  have hface : w.tree.face? (root ++ place) = some (.file content) := by
    rw [FileTree.face?_eq_file, FileTree.get?_append, hroot]
    exact hfile
  rcases List.eq_nil_or_concat place with rfl | ⟨outer, name, rfl⟩
  · cases hfile
  rw [List.concat_eq_append] at hnames hface ⊢
  rw [← List.append_assoc] at hface
  refine ⟨outer, name, rfl, ⟨hhere, hlocate, fun part hpart => ?_, ?_⟩, ?_, hface⟩
  · exact hnames (List.mem_append_left _ hpart)
  · exact FileTree.face?_of_append (by rw [hface]; exact nofun)
  · exact hnames (List.mem_append_right _ (List.mem_singleton_self _))

end Stencil.Workspace
