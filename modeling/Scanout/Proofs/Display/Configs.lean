import Mathlib
import Scanout.Display.Basic

/-!
# Configurations and the backend's list

A configuration stands for entries of the backend's list: it has at least one, and each of them has
its shape (`standsFor_coalesce`). The list is filed from its beginning, entry by entry, and what
carries the proof is that filing one entry changes one configuration, by this entry, or adds one
(`mem_file`).
-/

set_option autoImplicit false

namespace Scanout.DisplayConfig

/-- The configuration stands for entries of this list. -/
structure StandsFor (shapes : List ConfigShape) (config : DisplayConfig) : Prop where
  filed : config.backendIndices ≠ []
  shaped : ∀ index ∈ config.backendIndices, shapes[index]? = some config.shape

variable {shapes : List ConfigShape} {configs after : List DisplayConfig} {config : DisplayConfig}
  {shape : ConfigShape} {index : Nat}

/-- A configuration stands for the entry that the backend is asked to switch to. -/
theorem StandsFor.head (stands : config.StandsFor shapes) :
    ∃ index, config.backendIndices.head? = some index
      ∧ shapes[index]? = some config.shape := by
  cases listed : config.backendIndices with
  | nil => exact absurd listed stands.filed
  | cons first rest => exact ⟨first, rfl, stands.shaped first (listed ▸ List.mem_cons_self)⟩

theorem mem_addIndex? (added : addIndex? index shape configs = some after)
    (member : config ∈ after) :
    config ∈ configs ∨ ∃ earlier ∈ configs, earlier.shape = shape
      ∧ config = { earlier with backendIndices := earlier.backendIndices ++ [index] } := by
  induction configs generalizing after with
  | nil => cases added
  | cons first rest ih =>
      unfold addIndex? at added
      split at added
      · rename_i same
        cases added
        rcases List.mem_cons.mp member with rfl | later
        · exact .inr ⟨first, List.mem_cons_self, same, rfl⟩
        · exact .inl (List.mem_cons_of_mem _ later)
      · obtain ⟨more, addedLater, rfl⟩ := Option.map_eq_some_iff.mp added
        rcases List.mem_cons.mp member with rfl | later
        · exact .inl List.mem_cons_self
        · rcases ih addedLater later with kept | ⟨earlier, among, same, grown⟩
          · exact .inl (List.mem_cons_of_mem _ kept)
          · exact .inr ⟨earlier, List.mem_cons_of_mem _ among, same, grown⟩

/-- Filing an entry adds its index to a configuration of its shape, or a configuration. -/
theorem mem_file (member : config ∈ file configs index shape) :
    config ∈ configs
      ∨ (∃ earlier ∈ configs, earlier.shape = shape
        ∧ config = { earlier with backendIndices := earlier.backendIndices ++ [index] })
      ∨ config = ⟨idAfter configs.length, shape, [index]⟩ := by
  unfold file at member
  cases added : addIndex? index shape configs with
  | some after =>
      rw [added] at member
      rcases mem_addIndex? added member with kept | grown
      · exact .inl kept
      · exact .inr (.inl grown)
  | none =>
      rw [added] at member
      rcases List.mem_append.mp member with kept | last
      · exact .inl kept
      · exact .inr (.inr (List.mem_singleton.mp last))

theorem standsFor_file (entry : shapes[index]? = some shape)
    (stand : ∀ config ∈ configs, config.StandsFor shapes) :
    ∀ config ∈ file configs index shape, config.StandsFor shapes := by
  intro config member
  rcases mem_file member with kept | ⟨earlier, among, rfl, rfl⟩ | rfl
  · exact stand config kept
  · refine ⟨List.append_ne_nil_of_right_ne_nil _ nofun, fun other listed => ?_⟩
    rcases List.mem_append.mp listed with before | last
    · exact (stand earlier among).shaped other before
    · exact List.mem_singleton.mp last ▸ entry
  · refine ⟨nofun, fun other listed => ?_⟩
    exact List.mem_singleton.mp listed ▸ entry

theorem standsFor_fileFrom {rest : List ConfigShape} (left : shapes.drop index = rest)
    (stand : ∀ config ∈ configs, config.StandsFor shapes) :
    ∀ config ∈ fileFrom configs index rest, config.StandsFor shapes := by
  induction rest generalizing configs index with
  | nil => exact stand
  | cons shape rest ih =>
      have entry : shapes[index]? = some shape := by rw [← List.head?_drop, left, List.head?_cons]
      refine ih ?_ (standsFor_file entry stand)
      rw [← List.tail_drop, left, List.tail_cons]

theorem standsFor_coalesce (shapes : List ConfigShape) :
    ∀ config ∈ coalesce shapes, config.StandsFor shapes :=
  standsFor_fileFrom rfl nofun

end Scanout.DisplayConfig
