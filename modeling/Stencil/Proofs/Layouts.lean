import Stencil.Layout.Configuration
import Stencil.Proofs.References
import Stencil.Settings

/-!
# Layouts and the patterns of their directories

The directories of a layout come from the references to the packs in the configuration of a project
(`isPackOf_packDirectory`). Where nothing else is wished, the patterns of the settings point into
these directories (`resolve_ofConfiguration`). A directory that itself begins with a lead is an
exception (`packs_within_packs`).
-/

namespace Stencil

open Path

namespace Layout

/-! ### Directories -/

/-- What holds of the directory of a pack for a reference to it. Only a reference that names
something can leave slashes at the ends of the directory. -/
structure IsPackOf (reference : Option String) (directory : String) : Prop where
  ne_empty : directory ≠ ""
  backslash_not_mem : '\\' ∉ directory.toList
  /-- A slash is in front just if the reference has one behind its leads. -/
  head?_iff : directory.toList.head? = some '/' ↔ ∃ text ∈ reference, (packReference? text).isSome ∧
    ∃ lead ∈ slashLeads, lead ++ ['/'] <+: slashed text.toList
  /-- A slash is at the end just if the reference has two at its end. -/
  getLast?_iff : directory.toList.getLast? = some '/' ↔
    ∃ text ∈ reference, (packReference? text).isSome ∧ ['/', '/'] <:+ slashed text.toList

lemma isPackOf_packDirectory (reference : Option String) {standard : String} (hne : standard ≠ "")
    (hslash : '/' ∉ standard.toList) (hbackslash : '\\' ∉ standard.toList) :
    IsPackOf reference (packDirectory reference standard) := by
  rw [packDirectory]
  rcases hpack : reference.bind packReference? with _ | directory
  · have hnone {p : String → Prop} :
        ¬∃ text ∈ reference, (packReference? text).isSome ∧ p text := by
      rintro ⟨text, rfl, hsome, -⟩
      rw [Option.bind_some] at hpack
      rw [hpack] at hsome
      cases hsome
    exact ⟨hne, hbackslash, iff_of_false (fun h => hslash (List.mem_of_head? h)) hnone,
      iff_of_false (fun h => hslash (List.mem_of_getLast? h)) hnone⟩
  · obtain ⟨text, rfl, hpack⟩ := Option.bind_eq_some_iff.mp hpack
    have hsome : (packReference? text).isSome := Option.isSome_of_mem hpack
    refine ⟨(packReference?_eq_some_iff.mp hpack).1, backslash_not_mem_packReference? hpack,
      (head?_packReference? hpack).trans ?_, (getLast?_packReference? hpack).trans ?_⟩ <;>
      simp [hsome]

/-- The directories of a layout are those of its packs. -/
lemma isPackOf_of_ofConfiguration? {text : String} {layout : Layout}
    (h : ofConfiguration? text = some layout) :
    ∃ behavior resource, references? text = some (behavior, resource) ∧
      IsPackOf behavior layout.behavior ∧ IsPackOf resource layout.resource := by
  obtain ⟨⟨behavior, resource⟩, hreferences, hlayout⟩ := Option.bind_eq_some_iff.mp h
  obtain rfl := Option.some.inj hlayout
  exact ⟨behavior, resource, hreferences,
    isPackOf_packDirectory behavior (by decide) (by decide) (by decide),
    isPackOf_packDirectory resource (by decide) (by decide) (by decide)⟩

end Layout

/-! ### Patterns -/

namespace Settings

variable {directory : String}

lemma directory_eq (h : '\\' ∉ directory.toList) : Settings.directory directory = directory := by
  rw [Settings.directory, slashed_of_not_mem h, String.ofList_toList]

/-- A pattern in a directory without a lead is in its normal form. -/
lemma normalize_append (hne : directory ≠ "") (hbackslash : '\\' ∉ directory.toList)
    (hled : ¬IsLed directory.toList) {tail : String} (hslash : tail.toList.head? = some '/')
    (htail : '\\' ∉ tail.toList) : Path.normalize (directory ++ tail) = directory ++ tail := by
  obtain ⟨rest, hrest⟩ := List.head?_eq_some_iff.mp hslash
  have hpattern : '\\' ∉ directory.toList ++ '/' :: rest := by
    rw [← hrest, List.mem_append, not_or]
    exact ⟨hbackslash, htail⟩
  rw [Path.normalize, String.toList_append, hrest,
    normalizeChars_append_slash (String.toList_eq_nil_iff.not.mpr hne) hled hpattern, ← hrest,
    ← String.toList_append, String.ofList_toList]

/-- In a project with a configuration that can be used, a pack has a directory with a name that has
no backslash, and a slash at one of its ends just where the reference has more than it loses. Where
no patterns are wished, templates are looked for in the two directories, but not below `scripts` in
the one of the behavior pack nor among declarations, as long as the directories have no lead. -/
theorem resolve_ofConfiguration {text : String} {layout : Layout} (wishes : Wishes)
    (hlayout : Layout.ofConfiguration? text = some layout)
    (hincluding : wishes.including = none) (hexcluding : wishes.excluding = none) :
    (∃ behavior resource, Layout.references? text = some (behavior, resource) ∧
      Layout.IsPackOf behavior layout.behavior ∧ Layout.IsPackOf resource layout.resource) ∧
    ∃ inBehavior inResource scripts,
      (resolve wishes layout).including = [inBehavior, inResource] ∧
      (resolve wishes layout).excluding = [scripts, "**/*.d.ts"] ∧
      (¬IsLed layout.behavior.toList → inBehavior = layout.behavior ++ "/**/*.ts" ∧
        scripts = layout.behavior ++ "/scripts/**") ∧
      (¬IsLed layout.resource.toList → inResource = layout.resource ++ "/**/*.ts") := by
  obtain ⟨behavior, resource, hreferences, hbehavior, hresource⟩ :=
    Layout.isPackOf_of_ofConfiguration? hlayout
  refine ⟨⟨behavior, resource, hreferences, hbehavior, hresource⟩,
    Path.normalize (layout.behavior ++ "/**/*.ts"), Path.normalize (layout.resource ++ "/**/*.ts"),
    Path.normalize (layout.behavior ++ "/scripts/**"), ?_, ?_, fun hled => ⟨?_, ?_⟩, fun hled => ?_⟩
  · rw [resolve, hincluding, Option.getD_none, standard, directory_eq hbehavior.backslash_not_mem,
      directory_eq hresource.backslash_not_mem]
    rfl
  · have hdeclarations : Path.normalize "**/*.d.ts" = "**/*.d.ts" := by decide +kernel
    rw [resolve, hexcluding, Option.getD_none, standard, directory_eq hbehavior.backslash_not_mem,
      List.map_cons, List.map_singleton, hdeclarations]
  · exact normalize_append hbehavior.ne_empty hbehavior.backslash_not_mem hled rfl (by decide)
  · exact normalize_append hbehavior.ne_empty hbehavior.backslash_not_mem hled rfl (by decide)
  · exact normalize_append hresource.ne_empty hresource.backslash_not_mem hled rfl (by decide)

/-- One pack with a reference that has a lead of each kind, and one without a reference. -/
theorem resolve_ofConfiguration_leads :
    Layout.ofConfiguration? "\x7bpacks: \x7bbehaviorPack: './/packs/my/bp/'\x7d\x7d" =
      some ⟨"my/bp", "RP"⟩ ∧
    ¬IsLed "my/bp".toList ∧ ¬IsLed "RP".toList ∧
    ∃ inBehavior inResource scripts,
      (resolve .empty ⟨"my/bp", "RP"⟩).including = [inBehavior, inResource] ∧
      (resolve .empty ⟨"my/bp", "RP"⟩).excluding = [scripts, "**/*.d.ts"] ∧
      inBehavior = "my/bp/**/*.ts" ∧ scripts = "my/bp/scripts/**" ∧ inResource = "RP/**/*.ts" := by
  have hlayout : Layout.ofConfiguration? "\x7bpacks: \x7bbehaviorPack: './/packs/my/bp/'\x7d\x7d" =
      some ⟨"my/bp", "RP"⟩ := by
    decide +kernel
  have hbehavior : ¬IsLed "my/bp".toList := by decide
  have hresource : ¬IsLed "RP".toList := by decide
  obtain ⟨-, inBehavior, inResource, scripts, hincluding, hexcluding, hled, hled'⟩ :=
    resolve_ofConfiguration .empty hlayout rfl rfl
  exact ⟨hlayout, hbehavior, hresource, inBehavior, inResource, scripts, hincluding, hexcluding,
    (hled hbehavior).1, (hled hbehavior).2, hled' hresource⟩

/-- A pack that is two directories of packs deep, and one behind two slashes: the first keeps a
lead, which its patterns lose, and the other keeps a slash. -/
theorem packs_within_packs : ∃ layout,
    Layout.ofConfiguration?
        "\x7bpacks: \x7bbehaviorPack: 'packs/packs/BP', resourcePack: 'packs//RP'\x7d\x7d" =
      some layout ∧
    layout.resource.toList.head? = some '/' ∧
    (resolve .empty layout).including ≠
      [layout.behavior ++ "/**/*.ts", layout.resource ++ "/**/*.ts"] ∧
    (resolve .empty layout).excluding ≠ [layout.behavior ++ "/scripts/**", "**/*.d.ts"] :=
  ⟨⟨"packs/BP", "/RP"⟩, by decide +kernel, rfl, by decide +kernel, by decide +kernel⟩

end Settings

end Stencil
