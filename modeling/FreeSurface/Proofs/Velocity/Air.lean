import FreeSurface.Proofs.Field.Interpolation
import FreeSurface.Proofs.Field.Paths
import FreeSurface.Proofs.Run.Walls
import FreeSurface.Proofs.Surface.Layers

/-!
# Velocities in the air come from the liquid

Two passes carry velocities from the faces of the liquid into the air.  One goes layer by layer and
writes a layer at once, the other goes from cell to cell and writes face by face.  Neither averages
a face that has not been given a value before: what a face of the air held at first is lost if the
face is written, and what is written lies between two velocities of the liquid.

* `Velocity.AtLength`, `Velocity.Nearer` — how far along faces that are no walls the liquid is.
* `Velocity.mean?_extrapolate` — a face within reach takes the mean of the faces that are nearer.
* `Surface.transportVelocity_cases` — which faces are written from cell to cell does not depend on
  the velocities.
* `Velocity.carried_into_air` — both passes together.
-/

namespace FreeSurface

open Exact Dims

variable {d : Dims} {S : Type} [Scalar S] {g : Flags d} {a : Axis} {f : d.Face a} {k m limit : ℕ}

/-- Along an axis without motion every face is a wall. -/
lemma Flags.isWallFace_of_not_active (ha : d.isActive a = false) : g.isWallFace a f = true := by
  rw [isWallFace_iff]
  refine .inr ?_
  cases a with
  | x => cases ha
  | y => cases ha
  | z =>
      have hdepth : d.depth = 1 := by simpa [isActive, isPlanar] using ha
      have hk := ((d.faces .z).contains_coords f.isLt).2.2
      simp only [faces] at hk
      simp only [OnBorder, Coords.get, side, faces]
      omega

/-- Two velocities agree on the faces of the liquid across one axis. -/
def Staggered.AgreeAlong {S : Type} (g : Flags d) (a : Axis) (v w : Staggered d S) : Prop :=
  ∀ e, g.isFluidFace a e = true → (v.component a).get e = (w.component a).get e

/-- The velocities on the faces of the liquid across one axis are numbers. -/
def Staggered.FiniteAlong (g : Flags d) (a : Axis) (v : Staggered d Exact) : Prop :=
  ∀ e, g.isFluidFace a e = true → Scalar.isFinite ((v.component a).get e) = true

namespace Velocity

/-! ## Paths through the air -/

/-- The shortest path from the face to one of the liquid, along faces that are no walls, has so many
steps. -/
def AtLength (g : Flags d) (a : Axis) : ℕ → d.Face a → Prop :=
  Front.AtDistance (fun f => g.isFluidFace a f = true) fun f => g.isWallFace a f = false

/-- The face has a shorter path to the liquid. -/
def Nearer (g : Flags d) (a : Axis) (m : ℕ) (f : d.Face a) : Prop := ∃ k < m, AtLength g a k f

instance (g : Flags d) (a : Axis) (k : ℕ) : DecidablePred (AtLength g a k) :=
  Front.decidableAtDistance k

instance (g : Flags d) (a : Axis) (m : ℕ) : DecidablePred (Nearer g a m) := fun f =>
  inferInstanceAs (Decidable (∃ k < m, AtLength g a k f))

lemma AtLength.isWallFace_eq (h : AtLength g a m f) (hm : 1 ≤ m) : g.isWallFace a f = false := by
  obtain ⟨k, rfl⟩ := Nat.exists_eq_succ_of_ne_zero (Nat.one_le_iff_ne_zero.mp hm)
  exact (h.1.resolve_left h.2).1

lemma AtLength.mem_activeAxes (h : AtLength g a m f) (hm : 1 ≤ m) : a ∈ d.activeAxes := by
  rw [Dims.mem_activeAxes]
  by_contra ha
  have hwall := h.isWallFace_eq hm
  rw [Flags.isWallFace_of_not_active (Bool.eq_false_iff.mpr ha)] at hwall
  cases hwall

lemma AtLength.reached (h : AtLength g a k f) (hk : k ≤ limit) : Reached g a limit f :=
  Front.Reached.mono (Front.AtDistance.reached h) hk

lemma Reached.exists_atLength (h : Reached g a limit f) : ∃ k ≤ limit, AtLength g a k f :=
  Front.Reached.exists_atDistance h

/-- Around a face that is reached in one step more, the nearer faces are one step nearer. -/
lemma AtLength.nearer_iff (h : AtLength g a (k + 1) f) {e : d.Face a}
    (he : e ∈ (d.faces a).neighbors f) : Nearer g a (k + 1) e ↔ AtLength g a k e := by
  constructor
  · rintro ⟨j, hj, hlength⟩
    exact (Front.AtDistance.reached_iff h he).mp (hlength.reached (Nat.le_of_lt_succ hj))
  · exact fun hlength => ⟨k, Nat.lt_succ_self k, hlength⟩

/-! ## Layer by layer -/

variable {v w : Staggered d S}

omit [Scalar S] in
lemma settled_liquidFront_eq :
    (fun e => (liquidFront g v a).settled.get e = true) = fun e => g.isFluidFace a e = true := by
  funext e
  rw [liquidFront, Field.get_tabulate]

/-- **A face within reach takes the mean of the faces around it that are nearer to the liquid.** -/
lemma mean?_extrapolate (h : AtLength g a m f) (hm : 1 ≤ m) (hle : m ≤ limit) :
    Front.mean? ((((d.faces a).neighbors f).filter (Nearer g a m ·)).map
      ((extrapolate g v limit).component a).get) =
        some (((extrapolate g v limit).component a).get f) := by
  classical
  have hwall := h.isWallFace_eq hm
  have hactive := h.mem_activeAxes hm
  obtain ⟨k, rfl⟩ := Nat.exists_eq_succ_of_ne_zero (Nat.one_le_iff_ne_zero.mp hm)
  have hatDistance := h
  rw [AtLength, ← settled_liquidFront_eq (v := v)] at hatDistance
  have hvalue := Front.rule_atDistance (P := fun _ => True)
    (fun e values _ => isSome_meanRule e values) (fun _ _ _ _ _ => trivial) (fun _ _ => trivial)
    hle hatDistance
  have hnearer : ((d.faces a).neighbors f).filter (Nearer g a (k + 1) ·) =
      ((d.faces a).neighbors f).filter (Front.AtDistance
        (fun e => (liquidFront g v a).settled.get e = true)
        (fun e => g.isWallFace a e = false) k ·) := by
    refine List.filter_congr fun e he => decide_eq_decide.mpr ?_
    have hiff := h.nearer_iff he
    rwa [AtLength, ← settled_liquidFront_eq (v := v)] at hiff
  rw [meanRule, hwall, if_neg Bool.false_ne_true, ← hnearer] at hvalue
  rw [component_extrapolate hactive]
  exact hvalue

omit [Scalar S] in
lemma agree_liquidFront (h : Staggered.AgreeAlong g a w v) :
    Front.Agree (liquidFront g w a) (liquidFront g v a) := by
  refine ⟨rfl, fun e he => h e ?_⟩
  rwa [liquidFront, Field.get_tabulate] at he

/-- What a face of the air held before is lost. -/
lemma get_extrapolate_of_agree (h : AtLength g a m f) (hm : 1 ≤ m) (hle : m ≤ limit)
    (hagree : Staggered.AgreeAlong g a w v) :
    ((extrapolate g w limit).component a).get f = ((extrapolate g v limit).component a).get f := by
  have hactive := h.mem_activeAxes hm
  rw [component_extrapolate hactive, component_extrapolate hactive]
  exact ((agree_liquidFront hagree).spread (meanRule g a) limit).values f
    ((settled_liquidFront_spread limit f).mpr (h.reached hle))

/-- A face that is neither of the liquid nor within reach is left alone. -/
lemma get_extrapolate_of_forall (h : ∀ m, 1 ≤ m → m ≤ limit → ¬AtLength g a m f) :
    ((extrapolate g v limit).component a).get f = (v.component a).get f := by
  by_cases ha : d.isActive a = true
  · by_cases hreached : Reached g a limit f
    · obtain ⟨m, hm, hlength⟩ := hreached.exists_atLength
      cases m with
      | zero => exact get_extrapolate_of_fluid (mem_activeAxes.mpr ha) hlength limit
      | succ m => exact absurd hlength (h (m + 1) (Nat.succ_pos m) hm)
    · exact get_extrapolate_of_not_reached (mem_activeAxes.mpr ha) hreached
  · exact get_extrapolate_of_wall (Flags.isWallFace_of_not_active (Bool.eq_false_iff.mpr ha)) limit

end Velocity

/-! ## From cell to cell -/

namespace Surface

open Velocity

variable {v w : Staggered d S} {phi : ScalarField d S} {order : List d.Cell}

/-- Which faces are settled from cell to cell depends on those that are settled at first alone. -/
lemma settled_foldl_carry_iff {front front' : Front (d.faces a) S}
    (h : front.settled = front'.settled) (e : d.Face a) :
    (order.foldl (carry phi g a) front).settled.get e = true ↔
      (order.foldl (carry phi g a) front').settled.get e = true := by
  refine foldl_carry_rel (R := fun front front' =>
    ∀ e, front.settled.get e = true ↔ front'.settled.get e = true) ?_ phi order ?_ e
  · intro front front' n hsettled e
    rw [Front.settled_settle_iff isSome_meanRule, Front.settled_settle_iff isSome_meanRule]
    simp only [hsettled]
  · exact fun e => by rw [h]

lemma get_foldl_carry_of_not_settled (front : Front (d.faces a) S)
    (h : (order.foldl (carry phi g a) front).settled.get f = false) :
    (order.foldl (carry phi g a) front).values.get f = front.values.get f := by
  refine foldl_carry (P := fun front' : Front (d.faces a) S =>
    front'.settled.get f = false → front'.values.get f = front.values.get f) ?_ phi order
    (fun _ => rfl) h
  intro front' e hvalue hsettled
  rw [Front.get_values_settle_of_not_settled _ _ hsettled]
  refine hvalue (Bool.eq_false_iff.mpr fun hs => ?_)
  rw [Front.settled_settle_of_settled _ _ _ hs] at hsettled
  cases hsettled

/-- **A face is either left alone, whatever the velocities, or written, whatever it held.** -/
lemma transportVelocity_cases (g : Flags d) (a : Axis) (f : d.Face a) (order : List d.Cell)
    (phi : ScalarField d S) :
    (∀ v : Staggered d S,
      ((transportVelocity order phi g v).component a).get f = (v.component a).get f) ∨
    (a ∈ d.activeAxes ∧ ∀ v : Staggered d S,
      (order.foldl (carry phi g a) (liquidFront g v a)).settled.get f = true) := by
  by_cases ha : d.isActive a = true
  · by_cases hsettled : ∃ v : Staggered d S,
        (order.foldl (carry phi g a) (liquidFront g v a)).settled.get f = true
    · obtain ⟨v, hv⟩ := hsettled
      refine .inr ⟨mem_activeAxes.mpr ha, fun w => ?_⟩
      have hsame : (liquidFront g v a).settled = (liquidFront g w a).settled := rfl
      exact (settled_foldl_carry_iff hsame f).mp hv
    · refine .inl fun v => ?_
      rw [component_transportVelocity (mem_activeAxes.mpr ha)]
      exact get_foldl_carry_of_not_settled _ (Bool.eq_false_iff.mpr fun hv => hsettled ⟨v, hv⟩)
  · exact .inl fun v =>
      get_transportVelocity_of_wall (Flags.isWallFace_of_not_active (Bool.eq_false_iff.mpr ha)) _ _

/-- What is written from cell to cell depends on the liquid alone. -/
lemma get_transportVelocity_of_agree (ha : a ∈ d.activeAxes)
    (hf : (order.foldl (carry phi g a) (liquidFront g w a)).settled.get f = true)
    (hagree : Staggered.AgreeAlong g a w v) :
    ((transportVelocity order phi g w).component a).get f =
      ((transportVelocity order phi g v).component a).get f := by
  rw [component_transportVelocity ha, component_transportVelocity ha]
  exact (foldl_carry_rel (R := Front.Agree) (fun _ _ e h => h.settle _ e) phi order
    (agree_liquidFront hagree)).values f hf

end Surface

/-! ## Between the velocities of the liquid -/

namespace Staggered

/-- The value lies between two velocities along an axis on faces of the liquid. -/
def BetweenLiquid (g : Flags d) (v : Staggered d Exact) (a : Axis) (x : Exact) : Prop :=
  ∃ lo hi, g.isFluidFace a lo = true ∧ g.isFluidFace a hi = true ∧
    (v.component a).get lo ≤ x ∧ x ≤ (v.component a).get hi

variable {v : Staggered d Exact}

/-- A value that belongs to whatever convex sets the velocities of the liquid belong to. -/
lemma betweenLiquid_of_convex (hv : FiniteAlong g a v) {x : Exact}
    (hx : ∀ s : Set ℝ, Convex ℝ s →
      (∀ e, g.isFluidFace a e = true → ((v.component a).get e).In s) → x.In s) :
    BetweenLiquid g v a x := by
  have hnonempty : {e : d.Face a | g.isFluidFace a e = true}.Nonempty := by
    rw [Set.nonempty_iff_ne_empty]
    intro hempty
    obtain ⟨y, hy, -⟩ := hx ∅ convex_empty fun e he =>
      (Set.eq_empty_iff_forall_notMem.mp hempty e he).elim
    exact hy
  obtain ⟨lo, hlo, hmin⟩ := Set.exists_min_image _
    (fun e => toReal ((v.component a).get e)) (Set.toFinite _) hnonempty
  obtain ⟨hi, hhi, hmax⟩ := Set.exists_max_image _
    (fun e => toReal ((v.component a).get e)) (Set.toFinite _) hnonempty
  obtain ⟨y, ⟨hloy, hyhi⟩, rfl⟩ := hx _ (convex_Icc _ _) fun e he =>
    ⟨_, ⟨hmin e he, hmax e he⟩, eq_real_toReal (hv e he)⟩
  refine ⟨lo, hi, hlo, hhi, ?_, ?_⟩
  · rw [eq_real_toReal (hv lo hlo)]
    exact real_le_real.mpr hloy
  · rw [eq_real_toReal (hv hi hhi)]
    exact real_le_real.mpr hyhi

end Staggered

open Staggered

lemma Velocity.in_liquidFront {s : Set ℝ} {v : Staggered d Exact}
    (hv : ∀ e, g.isFluidFace a e = true → ((v.component a).get e).In s) (e : d.Face a)
    (he : (liquidFront g v a).settled.get e = true) : ((liquidFront g v a).values.get e).In s := by
  rw [liquidFront, Field.get_tabulate] at he
  exact hv e he

lemma Velocity.betweenLiquid_extrapolate {v : Staggered d Exact}
    (hv : FiniteAlong g a v) (h : AtLength g a m f) (hm : 1 ≤ m) (hle : m ≤ limit) :
    BetweenLiquid g v a (((extrapolate g v limit).component a).get f) := by
  refine betweenLiquid_of_convex hv fun s hs hliquid => ?_
  rw [component_extrapolate (h.mem_activeAxes hm)]
  refine Front.forall_settled_spread (P := fun _ => Exact.In s) ?_ limit (in_liquidFront hliquid) f
    ((settled_liquidFront_spread limit f).mpr (h.reached hle))
  exact fun e values x hvalues hx => in_of_meanRule hs e (fun b hb => (hvalues b hb).choose_spec) hx

lemma Surface.betweenLiquid_transportVelocity {v : Staggered d Exact}
    (hv : FiniteAlong g a v) {phi : ScalarField d Exact} {order : List d.Cell}
    (ha : a ∈ d.activeAxes)
    (hf : (order.foldl (carry phi g a) (Velocity.liquidFront g v a)).settled.get f = true) :
    BetweenLiquid g v a (((transportVelocity order phi g v).component a).get f) := by
  refine betweenLiquid_of_convex hv fun s hs hliquid => ?_
  rw [component_transportVelocity ha]
  refine foldl_carry (P := fun front : Front (d.faces a) Exact =>
    ∀ e, front.settled.get e = true → (front.values.get e).In s) ?_ phi order
    (Velocity.in_liquidFront hliquid) f hf
  exact fun front e h e' => Front.forall_settled_settle
    (fun n values x hvalues hx => Velocity.in_of_meanRule hs n hvalues hx) h e e'

/-! ## Both passes -/

namespace Velocity

open Surface

/-- What carrying velocities layer by layer makes of a face. -/
structure Extrapolated (g : Flags d) (v : Staggered d S) (limit : ℕ) (a : Axis) (f : d.Face a) :
    Prop where
  /-- Faces of the liquid and of walls keep their velocity. -/
  kept : g.isFluidFace a f = true ∨ g.isWallFace a f = true →
    ((extrapolate g v limit).component a).get f = (v.component a).get f
  /-- Faces within reach take the mean of the nearer ones. -/
  mean : ∀ m, 1 ≤ m → m ≤ limit → AtLength g a m f →
    Front.mean? ((((d.faces a).neighbors f).filter (Nearer g a m ·)).map
      ((extrapolate g v limit).component a).get) =
        some (((extrapolate g v limit).component a).get f)
  /-- Faces out of reach keep their velocity. -/
  beyond : (∀ m, 1 ≤ m → m ≤ limit → ¬AtLength g a m f) →
    ((extrapolate g v limit).component a).get f = (v.component a).get f

lemma extrapolated (g : Flags d) (v : Staggered d S) (limit : ℕ) (a : Axis) (f : d.Face a) :
    Extrapolated g v limit a f where
  kept := by
    rintro (hf | hf)
    · refine get_extrapolate_of_forall fun m hm _ hlength => ?_
      obtain ⟨k, rfl⟩ := Nat.exists_eq_succ_of_ne_zero (Nat.one_le_iff_ne_zero.mp hm)
      exact hlength.2 (Front.reached_of_source hf k)
    · exact get_extrapolate_of_wall hf limit
  mean m hm hle hlength := mean?_extrapolate hlength hm hle
  beyond := get_extrapolate_of_forall

/-- **Velocities in the air come from the liquid.**  Layer by layer, a face takes the mean of the
nearer faces around it as far as the layers reach.  From cell to cell, in whatever order, a face is
left alone or written.  Either way the faces of the liquid and of walls stay as they are, what a
face held before it is written is lost, and in exact arithmetic what is written lies between two
velocities of the liquid. -/
theorem carried_into_air (g : Flags d) (a : Axis) (f : d.Face a) :
    (∀ {S : Type} [Scalar S] (v : Staggered d S) (limit : ℕ), Extrapolated g v limit a f ∧
      ∀ m, 1 ≤ m → m ≤ limit → AtLength g a m f → ∀ w, Staggered.AgreeAlong g a w v →
        ((extrapolate g w limit).component a).get f =
          ((extrapolate g v limit).component a).get f) ∧
    (∀ {S : Type} [Scalar S] (order : List d.Cell) (phi : ScalarField d S),
      (g.isFluidFace a f = true ∨ g.isWallFace a f = true → ∀ v : Staggered d S,
        ((transportVelocity order phi g v).component a).get f = (v.component a).get f) ∧
      ((∀ v : Staggered d S,
          ((transportVelocity order phi g v).component a).get f = (v.component a).get f) ∨
        ∀ v w : Staggered d S, AgreeAlong g a w v →
          ((transportVelocity order phi g w).component a).get f =
            ((transportVelocity order phi g v).component a).get f)) ∧
    (∀ v : Staggered d Exact, FiniteAlong g a v → ∀ limit m, 1 ≤ m → m ≤ limit →
      AtLength g a m f → BetweenLiquid g v a (((extrapolate g v limit).component a).get f)) ∧
    ∀ (order : List d.Cell) (phi : ScalarField d Exact),
      (∀ v : Staggered d Exact,
          ((transportVelocity order phi g v).component a).get f = (v.component a).get f) ∨
        ∀ v : Staggered d Exact, FiniteAlong g a v →
          BetweenLiquid g v a (((transportVelocity order phi g v).component a).get f) := by
  refine ⟨fun v limit => ⟨extrapolated g v limit a f, ?_⟩, fun order phi => ⟨?_, ?_⟩, ?_, ?_⟩
  · exact fun m hm hle hlength w hagree => get_extrapolate_of_agree hlength hm hle hagree
  · rintro (hf | hf) v
    · by_cases ha : d.isActive a = true
      · exact get_transportVelocity_of_fluid (mem_activeAxes.mpr ha) hf order phi
      · exact get_transportVelocity_of_wall
          (Flags.isWallFace_of_not_active (Bool.eq_false_iff.mpr ha)) order phi
    · exact get_transportVelocity_of_wall hf order phi
  · obtain hkept | ⟨ha, hsettled⟩ := transportVelocity_cases g a f order phi
    · exact .inl hkept
    · exact .inr fun v w hagree => get_transportVelocity_of_agree ha (hsettled w) hagree
  · exact fun v hv limit m hm hle hlength => betweenLiquid_extrapolate hv hlength hm hle
  · intro order phi
    obtain hkept | ⟨ha, hsettled⟩ := transportVelocity_cases g a f order phi
    · exact .inl hkept
    · exact .inr fun v hv => betweenLiquid_transportVelocity hv ha (hsettled v)

/-- A row of four cells between walls, with liquid in the first one. -/
def channel : Flags (.planar 5 2) := (Flags.walled _ 0).set ⟨7, by decide⟩ .fluid

/-- The face behind the liquid takes the velocity of the face in front of it. -/
theorem carried_into_air_channel :
    let v : Staggered (.planar 5 2) Exact :=
      Staggered.ofComponents fun a => Field.tabulate fun f => real f.val
    let f : Dims.Face (.planar 5 2) .x := ⟨10, by decide⟩
    AtLength channel .x 1 f ∧ ((extrapolate channel v 1).component .x).get f = real 9 := by
  intro v f
  let e : Dims.Face (.planar 5 2) .x := ⟨9, by decide⟩
  have hlength : AtLength channel .x 1 f := by decide
  have hnearer : ((Dims.faces (.planar 5 2) .x).neighbors f).filter (Nearer channel .x 1 ·) =
      [e] := by decide
  have hfluid : ((extrapolate channel v 1).component .x).get e = real 9 := by
    rw [((carried_into_air channel .x e).1 v 1).1.kept (.inl (by decide))]
    exact Field.get_tabulate _ _
  have hmean := ((carried_into_air channel .x f).1 v 1).1.mean 1 le_rfl le_rfl hlength
  rw [hnearer, List.map_singleton, hfluid] at hmean
  refine ⟨hlength, ?_⟩
  rw [Front.mean?_eq (by simp) hmean]
  simp

end Velocity

end FreeSurface
