import FreeSurface.Proofs.Field.Basic
import FreeSurface.Proofs.Lattice.Steps
import FreeSurface.Proofs.Number.Minimum
import FreeSurface.Scene

/-!
# What a scene builds

Flags and level set of a scene in closed form, for every scene on machine numbers: however many
shapes it has, wherever they overlap, and whether their data are finite or not.

* `Scene.isObstacle_build` — walls and obstacles, told by the coordinates of a cell and by the shapes
  that contain its centre.
* `Scene.isLeast_liquid` — the level set is the least of the signed distances that are numbers, and
  of the length of the domain.
* `Scene.isFluid_build` — liquid is what lies inside some body of liquid, and is not solid.
* `Scene.SameShapes.build_eq` — **only which shapes a scene has matters**, not their order or how
  often one is listed.
* `Scene.build_closedForm` — all of it together.
-/

namespace FreeSurface

open scoped Literals

variable {d : Dims}

/-! ## Walls -/

namespace Flags

lemma inWall_iff {w n i : ℕ} : inWall w n i = true ↔ i < w + 1 ∨ n ≤ i + (w + 1) := by
  rw [inWall, Bool.or_eq_true, decide_eq_true_iff, decide_eq_true_iff]
  omega

/-- The walls are the outer layers of every axis along which the liquid moves. -/
lemma isWall_iff {w : ℕ} {c : Coords} : isWall d w c = true ↔
    ∃ a ∈ d.activeAxes, c.get a < w + 1 ∨ d.cells.side a ≤ c.get a + (w + 1) := by
  simp only [isWall, Bool.or_eq_true, Bool.and_eq_true, inWall_iff, Dims.mem_activeAxes]
  constructor
  · rintro ((hx | hy) | ⟨hplanar, hz⟩)
    · exact ⟨.x, rfl, hx⟩
    · exact ⟨.y, rfl, hy⟩
    · exact ⟨.z, hplanar, hz⟩
  · rintro ⟨a, ha, h⟩
    cases a with
    | x => exact .inl (.inl h)
    | y => exact .inl (.inr h)
    | z => exact .inr ⟨ha, h⟩

end Flags

namespace Scene

/-! ## Solid cells -/

section Solids

variable {S : Type} [Scalar S]

/-- Painting shapes one by one leaves solid what some of them contains. -/
lemma cells_foldl_paint (shapes : List (Shape S)) (g : Flags d) (c : d.Cell) :
    (shapes.foldl (fun g shape => (shape.scaled d).paint g .obstacle) g).cells.get c =
      if ∃ shape ∈ shapes, (shape.scaled d).contains (d.center c) d.isPlanar = true then .obstacle
      else g.cells.get c := by
  induction shapes generalizing g with
  | nil => simp
  | cons shape shapes ih =>
      rw [List.foldl_cons, ih, Shape.paint, Field.get_update]
      simp only [List.exists_mem_cons_iff]
      by_cases hrest : ∃ s ∈ shapes, (s.scaled d).contains (d.center c) d.isPlanar = true
      · rw [if_pos hrest, if_pos (.inr hrest)]
      · by_cases hfirst : (shape.scaled d).contains (d.center c) d.isPlanar = true
        · rw [if_neg hrest, if_pos hfirst, if_pos (.inl hfirst)]
        · rw [if_neg hrest, if_neg hfirst, if_neg (not_or.mpr ⟨hfirst, hrest⟩)]

lemma wallLayers_foldl_paint (shapes : List (Shape S)) (g : Flags d) :
    (shapes.foldl (fun g shape => (shape.scaled d).paint g .obstacle) g).wallLayers =
      g.wallLayers := by
  induction shapes generalizing g with
  | nil => rfl
  | cons shape shapes ih => rw [List.foldl_cons, ih, Shape.paint]

/-- A cell is solid in the outer layers along an axis of motion, or in a scaled obstacle. -/
def IsSolid (scene : Scene S) (c : d.Cell) : Prop :=
  (∃ a ∈ d.activeAxes, (d.cells.coords c.val).get a < scene.boundaryWidth + 1 ∨
    d.cells.side a ≤ (d.cells.coords c.val).get a + (scene.boundaryWidth + 1)) ∨
  ∃ shape ∈ scene.obstacles, (shape.scaled d).contains (d.center c) d.isPlanar = true

variable (scene : Scene S) (c : d.Cell)

lemma cells_solids [Decidable (scene.IsSolid c)] :
    (scene.solids d).cells.get c = if scene.IsSolid c then .obstacle else .empty := by
  rw [solids, cells_foldl_paint, Flags.walled, Field.get_tabulate]
  by_cases hshape : ∃ shape ∈ scene.obstacles,
      (shape.scaled d).contains (d.center c) d.isPlanar = true
  · rw [if_pos hshape, if_pos (.inr hshape)]
  · rw [if_neg hshape]
    by_cases hwall : Flags.isWall d scene.boundaryWidth (d.cells.coords c.val) = true
    · rw [if_pos hwall, if_pos (.inl (Flags.isWall_iff.mp hwall))]
    · have hnot : ¬scene.IsSolid c := not_or.mpr ⟨mt Flags.isWall_iff.mpr hwall, hshape⟩
      rw [if_neg hwall, if_neg hnot]

/-- **Solid are the walls and the obstacles.** -/
theorem isObstacle_build : (scene.build d).1.isObstacle c = true ↔ scene.IsSolid c := by
  classical
  rw [build, Flags.isObstacle_reclassify, Flags.isObstacle_iff, cells_solids]
  split_ifs with h <;> simp [h]

/-- Without obstacles the cells that are not solid make up a box. -/
lemma isObstacle_build_eq_false_iff (h : scene.obstacles = []) :
    (scene.build d).1.isObstacle c = false ↔
      ∀ a ∈ d.activeAxes, scene.boundaryWidth + 1 ≤ (d.cells.coords c.val).get a ∧
        (d.cells.coords c.val).get a + (scene.boundaryWidth + 1) < d.cells.side a := by
  rw [← Bool.not_eq_true, isObstacle_build, IsSolid, h]
  simp only [List.not_mem_nil, false_and, exists_false, or_false, not_exists, not_and, not_or,
    not_lt, not_le]

end Solids

/-! ## Liquid -/

section Liquid

variable {S : Type} [Scalar S]

/-- The signed distance of the centre of a cell to a shape of a scene. -/
def distance (c : d.Cell) (shape : Shape S) : S :=
  (shape.scaled d).signedDistance (d.center c) d.isPlanar

lemma get_foldl_join (shapes : List (Shape S)) (phi : ScalarField d S) (c : d.Cell) :
    (shapes.foldl (fun phi shape => Field.join phi ((shape.scaled d).levelSet d)) phi).get c =
      (shapes.map (distance c)).foldl Scalar.min (phi.get c) := by
  induction shapes generalizing phi with
  | nil => rfl
  | cons shape shapes ih =>
      rw [List.foldl_cons, ih, List.map_cons, List.foldl_cons, Field.join, Field.get_tabulate,
        Shape.levelSet, Field.get_tabulate]
      rfl

lemma get_liquid (scene : Scene S) (c : d.Cell) :
    (scene.liquid d).get c =
      (scene.fluid.map (distance c)).foldl Scalar.min (Scalar.ofNat d.maxResolution) := by
  rw [liquid, get_foldl_join, Field.get_constant]

end Liquid

open Single

variable (scene : Scene Float32) (c : d.Cell)

/-- The values of which a level set takes the least: the length of the domain and the distances to
bodies of liquid, as far as they are numbers. -/
def depths (scene : Scene Float32) (c : d.Cell) : Set Float32 :=
  {s | s = Scalar.ofNat d.maxResolution ∨
    ∃ shape ∈ scene.fluid, s = distance c shape ∧ Scalar.isNaN s = false}

/-- A domain is at least one cell long. -/
lemma atLeast_maxResolution (d : Dims) :
    AtLeast 1 (value (Scalar.ofNat d.maxResolution : Float32)) := by
  have hone : 1 ≤ d.maxResolution :=
    d.width_pos.trans_le ((Nat.le_max_left _ _).trans (Nat.le_max_left _ _))
  exact atLeast_ofNat inFormat_one (by exact_mod_cast hone)

/-- **The level set of a scene is the least of the distances that are numbers.** -/
theorem isLeast_liquid : IsLeast (scene.depths c) ((scene.liquid d).get c) := by
  have hset : scene.depths c = {s | s = Scalar.ofNat d.maxResolution ∨
      s ∈ scene.fluid.map (distance c) ∧ Scalar.isNaN s = false} := by
    ext s
    simp only [depths, Set.mem_ofPred_eq, List.mem_map]
    constructor
    · rintro (h | ⟨shape, hshape, rfl, hs⟩)
      · exact .inl h
      · exact .inr ⟨⟨shape, hshape, rfl⟩, hs⟩
    · rintro (h | ⟨⟨shape, hshape, rfl⟩, hs⟩)
      · exact .inl h
      · exact .inr ⟨shape, hshape, rfl, hs⟩
  rw [hset, get_liquid]
  exact isLeast_foldl_min (atLeast_maxResolution d).isNaN _

/-- A distance is no negative zero: a length has no sign. -/
lemma distance_ne_zero (shape : Shape Float32) : value (distance c shape) ≠ .zero .negative := by
  rw [distance]
  cases shape with
  | box lo hi => exact (unsigned_length _).add _
  | sphere center radius => exact (unsigned_length _).sub _

lemma depths_ne_zero {s : Float32} (h : s ∈ scene.depths c) : value s ≠ .zero .negative := by
  rcases h with rfl | ⟨shape, -, rfl, -⟩
  · exact (atLeast_maxResolution d).ne_zero one_pos _
  · exact distance_ne_zero c shape

/-- The length of a domain is positive, so the level set is negative where some distance is. -/
lemma liquid_lt_zero_iff : (scene.liquid d).get c < 0 ↔
    ∃ shape ∈ scene.fluid, distance c shape < 0 := by
  obtain ⟨hmem, hleast⟩ := scene.isLeast_liquid c
  constructor
  · intro hlt
    rcases hmem with heq | ⟨shape, hshape, heq, -⟩
    · rw [heq] at hlt
      have hpos := (atLeast_maxResolution d).pos one_pos
      exact absurd (Scalar.Linear.le_of_lt hpos) (Scalar.Ordered.not_le_of_lt hlt)
    · exact ⟨shape, hshape, heq ▸ hlt⟩
  · rintro ⟨shape, hshape, hlt⟩
    have hle := hleast (.inr ⟨shape, hshape, rfl, isNaN_of_lt hlt⟩)
    by_contra hnot
    have hzero := Scalar.Ordered.le_of_not_lt rfl (isNaN_of_le_left hle) hnot
    exact Scalar.Ordered.not_le_of_lt hlt (Scalar.Linear.le_trans hzero hle)

lemma surfaceThreshold_eq : (surfaceThreshold : Float32) = 0 := rfl

/-- **Liquid is what lies inside some body of liquid**, and is not solid. -/
theorem isFluid_build : (scene.build d).1.isFluid c = true ↔
    ¬scene.IsSolid c ∧ ∃ shape ∈ scene.fluid, distance c shape < 0 := by
  rw [← liquid_lt_zero_iff, ← isObstacle_build]
  cases hsolid : (scene.build d).1.isObstacle c with
  | true =>
      rw [Flags.isObstacle_iff] at hsolid
      simp [Flags.isFluid_iff, hsolid]
  | false =>
      rw [build, Flags.isObstacle_reclassify] at hsolid
      rw [build, Flags.isFluid_reclassify _ _ hsolid, surfaceThreshold_eq]
      simp

/-! ## The scene as two sets -/

/-- Two scenes have the same walls, the same bodies of liquid and the same obstacles, in any order
and any number. -/
structure SameShapes {S : Type} (scene other : Scene S) : Prop where
  boundaryWidth : scene.boundaryWidth = other.boundaryWidth
  fluid (shape : Shape S) : shape ∈ scene.fluid ↔ shape ∈ other.fluid
  obstacles (shape : Shape S) : shape ∈ scene.obstacles ↔ shape ∈ other.obstacles

variable {scene} {other : Scene Float32}

lemma SameShapes.isSolid_iff {S : Type} [Scalar S] {scene other : Scene S}
    (h : scene.SameShapes other) (c : d.Cell) : scene.IsSolid c ↔ other.IsSolid c := by
  simp only [IsSolid, h.boundaryWidth, h.obstacles]

lemma SameShapes.solids_eq {S : Type} [Scalar S] {scene other : Scene S}
    (h : scene.SameShapes other) : scene.solids d = other.solids d := by
  classical
  have hcells : (scene.solids d).cells = (other.solids d).cells := Field.ext_get fun c => by
    rw [cells_solids, cells_solids]
    exact if_congr (h.isSolid_iff c) rfl rfl
  have hlayers : (scene.solids d).wallLayers = (other.solids d).wallLayers := by
    rw [solids, solids, wallLayers_foldl_paint, wallLayers_foldl_paint, h.boundaryWidth]
  exact congrArg₂ Flags.mk hcells hlayers

lemma SameShapes.depths_eq (h : scene.SameShapes other) (c : d.Cell) :
    scene.depths c = other.depths c := by
  simp only [depths, h.fluid]

/-- The least of the same distances is the same. -/
lemma SameShapes.liquid_eq (h : scene.SameShapes other) : scene.liquid d = other.liquid d := by
  refine Field.ext_get fun c => ?_
  have hleast := scene.isLeast_liquid c
  have hother := other.isLeast_liquid c
  rw [h.depths_eq c] at hleast
  exact eq_of_le_of_le (hleast.2 hother.1) (hother.2 hleast.1)
    (other.depths_ne_zero c hleast.1) (other.depths_ne_zero c hother.1)

/-- **Only which shapes a scene has matters.** -/
theorem SameShapes.build_eq (h : scene.SameShapes other) : scene.build d = other.build d := by
  rw [build, build, h.solids_eq, h.liquid_eq]

/-- A cell that is not solid is liquid or air. -/
lemma cells_build_of_not_isSolid {c : d.Cell} (h : ¬scene.IsSolid c) :
    (scene.build d).1.cells.get c =
      if (scene.liquid d).get c < surfaceThreshold then .fluid else .empty := by
  rw [build, Flags.cells_reclassify, if_neg]
  rwa [← isObstacle_build, build, Flags.isObstacle_reclassify, Flags.isObstacle_iff] at h

open Classical in
/-- **What a scene builds.**  A cell is solid in the outer layers along an axis of motion, one more
than the boundary width, or if some scaled obstacle contains its centre.  Otherwise it is liquid if
its centre has a negative distance to some scaled body of liquid, and air if not; so no solid cell is
liquid.  The level set is the least of the length of the domain and the distances to the bodies of
liquid, as far as these are numbers.  Scenes with the same shapes build the same, in whatever order
and however often the shapes are listed. -/
theorem build_closedForm (scene : Scene Float32) (d : Dims) :
    (∀ c, (scene.build d).1.cells.get c =
      if scene.IsSolid c then .obstacle
      else if ∃ shape ∈ scene.fluid, distance c shape < 0 then .fluid
      else .empty) ∧
    (∀ c, (scene.build d).1.isObstacle c = true → (scene.build d).1.isFluid c = false) ∧
    (∀ c, IsLeast (scene.depths c) ((scene.build d).2.get c)) ∧
    ∀ other : Scene Float32, scene.SameShapes other → scene.build d = other.build d := by
  refine ⟨fun c => ?_, fun c hsolid => ?_, scene.isLeast_liquid, fun other h => h.build_eq⟩
  · by_cases hsolid : scene.IsSolid c
    · rw [if_pos hsolid, ← Flags.isObstacle_iff, isObstacle_build]
      exact hsolid
    · rw [if_neg hsolid, cells_build_of_not_isSolid hsolid, surfaceThreshold_eq]
      exact if_congr (scene.liquid_lt_zero_iff c) rfl rfl
  · rw [← Bool.not_eq_true, isFluid_build, ← isObstacle_build]
    exact fun h => h.1 hsolid

/-- A sphere whose radius is no number changes nothing, and neither does a box that is listed twice. -/
theorem build_closedForm_listedTwice :
    (⟨0, [.box Vec3.zero (Vec3.splat 1), .sphere Vec3.zero (0 / 0)], [], none⟩ :
        Scene Float32).build (Dims.planar 4 4) =
      (⟨0, [.sphere Vec3.zero (0 / 0), .box Vec3.zero (Vec3.splat 1),
        .box Vec3.zero (Vec3.splat 1)], [], none⟩ : Scene Float32).build (Dims.planar 4 4) := by
  refine (build_closedForm _ (Dims.planar 4 4)).2.2.2 _ ⟨rfl, fun shape => ?_, fun _ => Iff.rfl⟩
  simp only [List.mem_cons, List.not_mem_nil, or_false]
  tauto

end Scene

end FreeSurface
