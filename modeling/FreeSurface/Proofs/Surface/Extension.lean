import FreeSurface.Proofs.Field.Front
import FreeSurface.Surface.Extension

/-!
# Extension into obstacles

The extension of a level set into solid cells leaves every other cell alone, depends on the solid
cells only through the set of them, and is done once and for all.
-/

namespace FreeSurface

namespace Surface

variable {d : Dims} {S : Type} [Scalar S]

theorem get_extendIntoObstacles_of_open (phi : ScalarField d S) (g : Flags d) {c : d.Cell}
    (h : g.isObstacle c = false) : (extendIntoObstacles phi g).get c = phi.get c := by
  rw [extendIntoObstacles]
  refine Front.get_values_spread_of_settled _ _ _ ?_
  show Vector.get (Vector.map (· != .obstacle) g.cells) c = true
  rw [Field.get_map, bne, Bool.not_eq_true']
  exact h

/-- Of the flags only the set of solid cells matters. -/
lemma extendIntoObstacles_congr (phi : ScalarField d S) {g g' : Flags d}
    (h : ∀ c, g.isObstacle c = g'.isObstacle c) :
    extendIntoObstacles phi g = extendIntoObstacles phi g' := by
  have hmap : Vector.map (· != Flag.obstacle) g.cells =
      Vector.map (· != Flag.obstacle) g'.cells := by
    refine Field.ext_get fun c => ?_
    rw [Field.get_map, Field.get_map]
    exact congrArg (!·) (h c)
  simp only [extendIntoObstacles]
  rw [hmap]

lemma isFinite_extendIntoObstacles {phi : ScalarField d S} (g : Flags d)
    (h : ∀ c, Scalar.isFinite (phi.get c) = true) (c : d.Cell) :
    Scalar.isFinite ((extendIntoObstacles phi g).get c) = true := by
  refine Front.forall_values_spread (P := fun a => Scalar.isFinite a = true) ?_ d.cellCount h c
  intro n values a _ ha
  unfold leastFinite? at ha
  simp only at ha
  split_ifs at ha with hfinite
  exact Option.some.inj ha ▸ hfinite

/-- The least finite value is one of the values. -/
lemma mem_of_leastFinite? {c : d.Cell} {values : List S} {a : S}
    (hinfinity : Scalar.isFinite (Scalar.infinity : S) = false)
    (h : leastFinite? c values = some a) : a ∈ values := by
  have hmem : values.foldl Scalar.min Scalar.infinity = Scalar.infinity ∨
      values.foldl Scalar.min Scalar.infinity ∈ values := by
    refine List.foldlRecOn (motive := fun least => least = Scalar.infinity ∨ least ∈ values) _ _
      (.inl rfl) fun least hleast b hb => ?_
    rw [Scalar.min]
    split_ifs
    · exact .inr hb
    · exact .inr hb
    · exact hleast
  rw [leastFinite?] at h
  split_ifs at h with hfinite
  obtain rfl := Option.some.inj h
  refine hmem.resolve_left fun heq => ?_
  rw [heq, hinfinity] at hfinite
  exact Bool.false_ne_true hfinite

/-- The extension takes no other values than the level set. -/
lemma forall_extendIntoObstacles {P : S → Prop} {phi : ScalarField d S} (g : Flags d)
    (hinfinity : Scalar.isFinite (Scalar.infinity : S) = false) (h : ∀ c, P (phi.get c))
    (c : d.Cell) : P ((extendIntoObstacles phi g).get c) :=
  Front.forall_values_spread
    (fun _ _ _ hvalues ha => hvalues _ (mem_of_leastFinite? hinfinity ha)) d.cellCount h c

/-- Extending twice is extending once. -/
theorem extendIntoObstacles_extendIntoObstacles (phi : ScalarField d S) (g : Flags d) :
    extendIntoObstacles (extendIntoObstacles phi g) g = extendIntoObstacles phi g :=
  Front.spread_restart leastFinite? d.cellCount ⟨phi, g.cells.map (· != Flag.obstacle)⟩

end Surface

end FreeSurface
