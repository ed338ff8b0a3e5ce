import Scanout.Proofs.Display.Configs

/-!
# The configurations of a backend's list

`Coalesces` says what it means that configurations stand for a list of entries: they are numbered
from 1 in order of first appearance, no two have the same shape, and the indices of a configuration
are those of the entries of its shape, in order.

The list is filed from its beginning. Filing an entry of a known shape changes every configuration
in its place (`file_known`), and an entry of a new shape goes to the end (`file_new`); what both
keep is the invariant `Filed` of the entries so far.
-/

set_option autoImplicit false

namespace Scanout.DisplayConfig

variable {shapes : List ConfigShape} {configs : List DisplayConfig} {shape : ConfigShape}

/-! ## Filing one entry -/

/-- The configuration after an entry of some shape has been filed. -/
def noting (index : Nat) (shape : ConfigShape) (config : DisplayConfig) : DisplayConfig :=
  if config.shape = shape then
    { config with backendIndices := config.backendIndices ++ [index] }
  else config

@[simp] theorem id_noting (index : Nat) (shape : ConfigShape) (config : DisplayConfig) :
    (config.noting index shape).id = config.id := by
  unfold noting
  split <;> rfl

@[simp] theorem shape_noting (index : Nat) (shape : ConfigShape) (config : DisplayConfig) :
    (config.noting index shape).shape = config.shape := by
  unfold noting
  split <;> rfl

theorem backendIndices_noting (index : Nat) (shape : ConfigShape) (config : DisplayConfig) :
    (config.noting index shape).backendIndices
      = config.backendIndices ++ if config.shape = shape then [index] else [] := by
  unfold noting
  split
  · rfl
  · exact (List.append_nil _).symm

theorem map_noting_of_ne (index : Nat) (others : ∀ config ∈ configs, config.shape ≠ shape) :
    configs.map (noting index shape) = configs := by
  apply (List.map_congr_left fun config member => ?_).trans (List.map_id configs)
  exact if_neg (others config member)

theorem addIndex?_eq_none (index : Nat) (others : ∀ config ∈ configs, config.shape ≠ shape) :
    addIndex? index shape configs = none := by
  induction configs with
  | nil => rfl
  | cons first rest ih =>
      have later := ih fun config member => others config (List.mem_cons_of_mem first member)
      rw [addIndex?, if_neg (others first List.mem_cons_self), later]
      rfl

/-- Of configurations without a common shape, an index goes to the only one that it fits. -/
theorem addIndex?_eq_some (index : Nat)
    (distinct : configs.Pairwise fun config other => config.shape ≠ other.shape)
    {known : DisplayConfig} (member : known ∈ configs) (same : known.shape = shape) :
    addIndex? index shape configs = some (configs.map (noting index shape)) := by
  induction configs with
  | nil => cases member
  | cons first rest ih =>
      obtain ⟨apart, distinctRest⟩ := List.pairwise_cons.mp distinct
      rw [addIndex?, List.map_cons]
      by_cases here : first.shape = shape
      · have others : ∀ config ∈ rest, config.shape ≠ shape := by
          intro config later
          rw [← here]
          exact (apart config later).symm
        rw [if_pos here, map_noting_of_ne index others, noting, if_pos here]
      · have later : known ∈ rest := by
          rcases List.mem_cons.mp member with rfl | later
          · exact absurd same here
          · exact later
        rw [if_neg here, ih distinctRest later, noting, if_neg here]
        rfl

theorem file_known (index : Nat)
    (distinct : configs.Pairwise fun config other => config.shape ≠ other.shape)
    {known : DisplayConfig} (member : known ∈ configs) (same : known.shape = shape) :
    file configs index shape = configs.map (noting index shape) := by
  rw [file, addIndex?_eq_some index distinct member same, Option.getD_some]

theorem file_new (index : Nat) (others : ∀ config ∈ configs, config.shape ≠ shape) :
    file configs index shape = configs ++ [⟨idAfter configs.length, shape, [index]⟩] := by
  rw [file, addIndex?_eq_none index others, Option.getD_none]

/-! ## Filing a list -/

theorem fileFrom_concat (configs : List DisplayConfig) (index : Nat) (shapes : List ConfigShape)
    (shape : ConfigShape) :
    fileFrom configs index (shapes ++ [shape])
      = file (fileFrom configs index shapes) (index + shapes.length) shape := by
  induction shapes generalizing configs index with
  | nil => rfl
  | cons first rest ih =>
      rw [List.cons_append, fileFrom, ih, fileFrom, List.length_cons]
      congr 1
      omega

theorem coalesce_concat (shapes : List ConfigShape) (shape : ConfigShape) :
    coalesce (shapes ++ [shape]) = file (coalesce shapes) shapes.length shape := by
  unfold coalesce
  rw [fileFrom_concat, Nat.zero_add]

/-- The entries of a shape, when one more entry has been looked at. -/
theorem getElem?_concat_iff (shapes : List ConfigShape) (shape other : ConfigShape)
    (index : Nat) :
    (shapes ++ [shape])[index]? = some other
      ↔ shapes[index]? = some other ∨ index = shapes.length ∧ other = shape := by
  rcases Nat.lt_trichotomy index shapes.length with inside | rfl | beyond
  · rw [List.getElem?_append_left inside]
    constructor
    · exact Or.inl
    · rintro (there | ⟨rfl, _⟩)
      · exact there
      · exact absurd inside (Nat.lt_irrefl _)
  · simp [eq_comm]
  · have past : (shapes ++ [shape]).length ≤ index := by
      rw [List.length_append, List.length_singleton]
      omega
    rw [List.getElem?_eq_none past, List.getElem?_eq_none (Nat.le_of_lt beyond)]
    constructor
    · intro absent
      cases absent
    · rintro (absent | ⟨rfl, _⟩)
      · cases absent
      · exact absurd beyond (Nat.lt_irrefl _)

/-- One configuration has appeared before another one: an index of it lies below all of the
other's. -/
def AppearsBefore (config other : DisplayConfig) : Prop :=
  ∃ index ∈ config.backendIndices, ∀ later ∈ other.backendIndices, index < later

/-- The configurations that a list has been filed under so far. -/
structure Filed (shapes : List ConfigShape) (configs : List DisplayConfig) : Prop where
  numbers : configs.map (·.id) = (List.range configs.length).map idAfter
  distinct : configs.Pairwise fun config other => config.shape ≠ other.shape
  seen : ∀ shape ∈ shapes, ∃ config ∈ configs, config.shape = shape
  indices : ∀ config ∈ configs, ∀ index,
    index ∈ config.backendIndices ↔ shapes[index]? = some config.shape
  filed : ∀ config ∈ configs, config.backendIndices ≠ []
  ascending : ∀ config ∈ configs, config.backendIndices.Pairwise (· < ·)
  appearance : configs.Pairwise AppearsBefore

namespace Filed

theorem index_lt (filed : Filed shapes configs) {config : DisplayConfig} (member : config ∈ configs)
    {index : Nat} (listed : index ∈ config.backendIndices) : index < shapes.length :=
  (List.getElem?_eq_some_iff.mp ((filed.indices config member index).mp listed)).1

theorem note (filed : Filed shapes configs) {known : DisplayConfig} (member : known ∈ configs)
    (same : known.shape = shape) :
    Filed (shapes ++ [shape]) (configs.map (noting shapes.length shape)) where
  numbers := by
    rw [List.map_map, List.length_map, ← filed.numbers]
    apply List.map_congr_left
    intro config _
    exact id_noting shapes.length shape config
  distinct := by
    apply List.pairwise_map.mpr
    simpa only [shape_noting] using filed.distinct
  seen := by
    intro other listed
    rcases List.mem_append.mp listed with before | last
    · obtain ⟨config, there, alike⟩ := filed.seen other before
      exact ⟨_, List.mem_map_of_mem there, (shape_noting _ _ config).trans alike⟩
    · obtain rfl := List.mem_singleton.mp last
      exact ⟨_, List.mem_map_of_mem member, (shape_noting _ _ known).trans same⟩
  indices := by
    intro changed there index
    obtain ⟨config, before, rfl⟩ := List.mem_map.mp there
    rw [shape_noting, getElem?_concat_iff, ← filed.indices config before index,
      backendIndices_noting, List.mem_append]
    apply or_congr Iff.rfl
    split <;> rename_i alike <;> simp [alike]
  filed := by
    intro changed there
    obtain ⟨config, before, rfl⟩ := List.mem_map.mp there
    rw [backendIndices_noting]
    exact List.append_ne_nil_of_left_ne_nil (filed.filed config before) _
  ascending := by
    intro changed there
    obtain ⟨config, before, rfl⟩ := List.mem_map.mp there
    rw [backendIndices_noting]
    split
    · apply List.pairwise_append.mpr
      refine ⟨filed.ascending config before, List.pairwise_singleton _ _, ?_⟩
      intro index listed last new
      rw [List.mem_singleton.mp new]
      exact filed.index_lt before listed
    · rw [List.append_nil]
      exact filed.ascending config before
  appearance := by
    apply List.pairwise_map.mpr
    apply filed.appearance.imp_of_mem
    intro config other there _ before
    obtain ⟨index, listed, below⟩ := before
    refine ⟨index, ?_, ?_⟩
    · rw [backendIndices_noting]
      exact List.mem_append_left _ listed
    · intro later listedLater
      rw [backendIndices_noting] at listedLater
      rcases List.mem_append.mp listedLater with old | new
      · exact below later old
      · split at new
        · rw [List.mem_singleton.mp new]
          exact filed.index_lt there listed
        · cases new

theorem add (filed : Filed shapes configs) (others : ∀ config ∈ configs, config.shape ≠ shape) :
    Filed (shapes ++ [shape])
      (configs ++ [⟨idAfter configs.length, shape, [shapes.length]⟩]) where
  numbers := by
    rw [List.map_append, filed.numbers, List.length_append, List.length_singleton,
      List.range_succ, List.map_append]
    rfl
  distinct := by
    apply List.pairwise_append.mpr
    refine ⟨filed.distinct, List.pairwise_singleton _ _, ?_⟩
    intro config there last new
    rw [List.mem_singleton.mp new]
    exact others config there
  seen := by
    intro other listed
    rcases List.mem_append.mp listed with before | last
    · obtain ⟨config, there, alike⟩ := filed.seen other before
      exact ⟨config, List.mem_append_left _ there, alike⟩
    · obtain rfl := List.mem_singleton.mp last
      exact ⟨_, List.mem_append_right _ (List.mem_singleton_self _), rfl⟩
  indices := by
    intro config there index
    rw [getElem?_concat_iff]
    rcases List.mem_append.mp there with before | new
    · have differs := others config before
      rw [← filed.indices config before index]
      simp [differs]
    · obtain rfl := List.mem_singleton.mp new
      -- no entry so far has the new shape
      have unseen : shapes[index]? ≠ some shape := by
        intro seen
        obtain ⟨config, there, alike⟩ := filed.seen shape (List.mem_of_getElem? seen)
        exact others config there alike
      simp [unseen]
  filed := by
    intro config there
    rcases List.mem_append.mp there with before | new
    · exact filed.filed config before
    · rw [List.mem_singleton.mp new]
      exact List.cons_ne_nil _ _
  ascending := by
    intro config there
    rcases List.mem_append.mp there with before | new
    · exact filed.ascending config before
    · rw [List.mem_singleton.mp new]
      exact List.pairwise_singleton _ _
  appearance := by
    apply List.pairwise_append.mpr
    refine ⟨filed.appearance, List.pairwise_singleton _ _, ?_⟩
    intro config there last new
    obtain ⟨index, listed⟩ := List.exists_mem_of_ne_nil _ (filed.filed config there)
    refine ⟨index, listed, ?_⟩
    intro later listedLater
    rw [List.mem_singleton.mp new] at listedLater
    rw [List.mem_singleton.mp listedLater]
    exact filed.index_lt there listed

theorem file (filed : Filed shapes configs) (shape : ConfigShape) :
    Filed (shapes ++ [shape]) (DisplayConfig.file configs shapes.length shape) := by
  by_cases seen : ∃ config ∈ configs, config.shape = shape
  · obtain ⟨known, member, same⟩ := seen
    rw [file_known shapes.length filed.distinct member same]
    exact filed.note member same
  · have others : ∀ config ∈ configs, config.shape ≠ shape := by
      intro config member same
      exact seen ⟨config, member, same⟩
    rw [file_new shapes.length others]
    exact filed.add others

end Filed

theorem filed_coalesce (shapes : List ConfigShape) : Filed shapes (coalesce shapes) := by
  induction shapes using List.reverseRecOn with
  | nil => exact ⟨rfl, .nil, nofun, nofun, nofun, nofun, .nil⟩
  | append_singleton shapes shape ih =>
      rw [coalesce_concat]
      exact ih.file shape

/-! ## What the configurations are -/

/-- The configurations of a list of entries. -/
structure Coalesces (shapes : List ConfigShape) (configs : List DisplayConfig) : Prop where
  /-- The numbers are 1, 2, 3 and so on. -/
  numbers : configs.map (·.id.number.toNat) = List.range' 1 configs.length
  appearance : configs.Pairwise fun config other => ∃ first second,
    config.backendIndices.head? = some first ∧ other.backendIndices.head? = some second
      ∧ first < second
  distinct : configs.Pairwise fun config other => config.shape ≠ other.shape
  filed : ∀ config ∈ configs, config.backendIndices ≠ []
  ascending : ∀ config ∈ configs, config.backendIndices.Pairwise (· < ·)
  disjoint : configs.Pairwise fun config other =>
    config.backendIndices.Disjoint other.backendIndices
  every : ∀ index, (∃ config ∈ configs, index ∈ config.backendIndices) ↔ index < shapes.length
  indices : ∀ config ∈ configs, ∀ index,
    index ∈ config.backendIndices ↔ shapes[index]? = some config.shape
  first : ∀ config ∈ configs,
    config.backendIndices.head? = shapes.findIdx? fun shape => shape = config.shape

namespace Filed

/-- The first index of a configuration is the least. -/
theorem head?_le (filed : Filed shapes configs) {config : DisplayConfig} (member : config ∈ configs)
    {first : Nat} (head : config.backendIndices.head? = some first) {index : Nat}
    (listed : index ∈ config.backendIndices) : first ≤ index := by
  have ascending := filed.ascending config member
  obtain ⟨rest, split⟩ := List.head?_eq_some_iff.mp head
  rw [split] at ascending listed
  rcases List.mem_cons.mp listed with rfl | later
  · exact Nat.le_refl _
  · exact Nat.le_of_lt ((List.pairwise_cons.mp ascending).1 index later)

theorem exists_head? (filed : Filed shapes configs) {config : DisplayConfig}
    (member : config ∈ configs) : ∃ first, config.backendIndices.head? = some first := by
  cases listed : config.backendIndices with
  | nil => exact absurd listed (filed.filed config member)
  | cons first rest => exact ⟨first, rfl⟩

theorem head?_eq (filed : Filed shapes configs) {config : DisplayConfig}
    (member : config ∈ configs) :
    config.backendIndices.head? = shapes.findIdx? fun shape => shape = config.shape := by
  obtain ⟨first, head⟩ := filed.exists_head? member
  have entry := (filed.indices config member first).mp (List.mem_of_head? head)
  obtain ⟨inside, there⟩ := List.getElem?_eq_some_iff.mp entry
  rw [head]
  refine (List.findIdx?_eq_some_iff_getElem.mpr ⟨inside, by simpa using there, ?_⟩).symm
  intro earlier before same
  have listed : earlier ∈ config.backendIndices := by
    apply (filed.indices config member earlier).mpr
    rw [List.getElem?_eq_getElem (Nat.lt_trans before inside)]
    exact congrArg some (by simpa using same)
  have least := filed.head?_le member head listed
  omega

/-- There are as many configurations as different entries. -/
theorem length_eq (filed : Filed shapes configs) : configs.length = shapes.toFinset.card := by
  have nodup : (configs.map (·.shape)).Nodup := List.pairwise_map.mpr filed.distinct
  have same : (configs.map (·.shape)).toFinset = shapes.toFinset := by
    ext shape
    rw [List.mem_toFinset, List.mem_toFinset, List.mem_map]
    constructor
    · rintro ⟨config, member, rfl⟩
      obtain ⟨index, listed⟩ := List.exists_mem_of_ne_nil _ (filed.filed config member)
      exact List.mem_of_getElem? ((filed.indices config member index).mp listed)
    · exact filed.seen shape
  rw [← same, List.toFinset_card_of_nodup nodup, List.length_map]

theorem numbers_of_few (filed : Filed shapes configs) (few : configs.length < UInt32.size) :
    configs.map (·.id.number.toNat) = List.range' 1 configs.length := by
  have numbers := congrArg (List.map fun id : ConfigId => id.number.toNat) filed.numbers
  rw [List.map_map, List.map_map] at numbers
  refine Eq.trans numbers ?_
  rw [List.range'_eq_map_range]
  apply List.map_congr_left
  intro count below
  have counted := List.mem_range.mp below
  change (saturate32 (count + 1)).toNat = 1 + count
  rw [toNat_saturate32]
  omega

end Filed

/-- **The configurations of a list with fewer different entries than a register has numbers.** -/
theorem coalesces_coalesce {shapes : List ConfigShape}
    (few : shapes.toFinset.card < UInt32.size) : Coalesces shapes (coalesce shapes) := by
  have filed := filed_coalesce shapes
  refine ⟨filed.numbers_of_few (filed.length_eq ▸ few), ?_, filed.distinct, filed.filed,
    filed.ascending, ?_, ?_, filed.indices, fun config => filed.head?_eq⟩
  · apply filed.appearance.imp_of_mem
    intro config other member memberOther before
    obtain ⟨index, listed, below⟩ := before
    obtain ⟨first, head⟩ := filed.exists_head? member
    obtain ⟨second, headOther⟩ := filed.exists_head? memberOther
    have least := filed.head?_le member head listed
    exact ⟨first, second, head, headOther,
      Nat.lt_of_le_of_lt least (below second (List.mem_of_head? headOther))⟩
  · apply filed.distinct.imp_of_mem
    intro config other member memberOther differs index listed listedOther
    have entry := (filed.indices config member index).mp listed
    have entryOther := (filed.indices other memberOther index).mp listedOther
    exact differs (Option.some.inj (entry.symm.trans entryOther))
  · intro index
    constructor
    · rintro ⟨config, member, listed⟩
      exact filed.index_lt member listed
    · intro inside
      have entry : shapes[index]? = some shapes[index] := List.getElem?_eq_getElem inside
      obtain ⟨config, member, same⟩ := filed.seen _ (List.getElem_mem inside)
      exact ⟨config, member, (filed.indices config member index).mpr (same ▸ entry)⟩

/-- The shape of the first entry comes again last. -/
def threeShapes : List ConfigShape :=
  [⟨1920, 1080, ⟨16666666⟩, 160000, 160000⟩, ⟨1920, 1080, ⟨20000000⟩, 160000, 160000⟩,
    ⟨1920, 1080, ⟨16666666⟩, 160000, 160000⟩]

theorem coalesces_coalesce_repeated :
    threeShapes.toFinset.card < UInt32.size ∧ Coalesces threeShapes (coalesce threeShapes)
      ∧ (coalesce threeShapes).map (·.backendIndices) = [[0, 2], [1]] := by
  have few : threeShapes.toFinset.card < UInt32.size := by decide
  exact ⟨few, coalesces_coalesce few, by decide⟩

end Scanout.DisplayConfig
