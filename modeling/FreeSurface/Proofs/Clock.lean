import FreeSurface.Clock
import FreeSurface.Proofs.Number.Exact

/-!
# The clock between steps

* `Clock.choose?_eq_ok` — choosing a size moves no time.
* `Clock.exists_choose?` — bounds in order leave a size for every speed.
-/

namespace FreeSurface

namespace Clock

variable {D : Type} [Scalar D]

/-- Choosing a size moves no time. -/
lemma choose?_eq_ok {c clock : Clock D} {speed : D} (h : c.choose? speed = .ok clock) :
    ∃ dt, clock = { c with dt := dt } := by
  rw [choose?] at h
  cases hp : c.proposal? speed with
  | error e =>
      rw [hp] at h
      cases h
  | ok dt =>
      rw [hp] at h
      exact ⟨c.fit dt, (Except.ok.inj h).symm⟩

lemma settings_rollover (c : Clock D) : c.rollover.settings = c.settings := by
  rw [rollover]
  split <;> rfl

lemma rollover_of_open {c : Clock D} (h : c.isFrameComplete = false) : c.rollover = c :=
  if_neg (Bool.eq_false_iff.mp h)

/-- With bounds in order there is a size for every speed. -/
lemma exists_choose? {c : Clock D} (h : c.settings.timestepMin ≤ c.settings.timestepMax)
    (speed : D) : ∃ clock, c.choose? speed = .ok clock := by
  rw [choose?, proposal?]
  simp only [if_pos h]
  split_ifs <;> exact ⟨_, rfl⟩

end Clock

end FreeSurface
