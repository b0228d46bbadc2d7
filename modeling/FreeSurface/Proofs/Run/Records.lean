import FreeSurface.Proofs.Config.Timing
import FreeSurface.Proofs.Run.Steps
import FreeSurface.Proofs.Run.Success

/-!
# Records of frames

Frames are counted in two places, before a frame and before a step, and a step may fail in between.
Still no frame is counted twice: only a complete one is left, and each call finds the number of
complete frames as the one before left it (`Clock.completed`).  Frames are told apart by numbers of
32 bits, so this is about as many as there are such numbers.

* `Simulation.course`, `Simulation.run_eq_pass` — what a run that comes to an end does to any sink
  that accepts all records.
* `Simulation.runFrame_ok`, `Simulation.runFrame_error` — how a frame ends.
* `Simulation.Session` — calls in a row, with the records they hand over and what they tell.
* `Simulation.Ledger` — what holds after every call; `Ledger.record`, `Ledger.failure` and
  `Ledger.advance` enter the next one.
* `Simulation.Session.records` — **records are neither lost, repeated nor reordered.**
-/

namespace FreeSurface

/-- The sink refuses no record. -/
def Sink.Accepts {m : Type → Type} [Functor m] {ε S D : Type} (sink : Sink m ε S D) : Prop :=
  ∀ record particles,
    (fun _ => .ok ()) <$> sink.record record particles = sink.record record particles

namespace Simulation

variable {S D R : Type}

/-- A record that is handed over, with what is told of its frame and the simulation that it sums
up. -/
structure Handover (S D R : Type) where
  events : List (Event S D)
  record : FrameRecord S D
  simulation : Simulation S D R

/-- What a run of frames does: the records that it hands over, what is told of a frame that is not
completed, and how it ends. -/
structure Course (S D R : Type) where
  handovers : List (Handover S D R)
  remainder : List (Event S D)
  result : Except (StepFailure D) Unit
  simulation : Simulation S D R

/-- All that a run tells. -/
def Course.events (run : Course S D R) : List (Event S D) :=
  run.handovers.flatMap (·.events) ++ run.remainder

/-- How many frames a run works on: those it completes, and the one that it fails in. -/
def Course.begun (run : Course S D R) : ℕ :=
  run.handovers.length + (!run.result.isOk).toNat

section Passing

variable {m : Type → Type} [Monad m] {ε : Type} (sink : Sink m ε S D)

/-- Tells of a frame and hands its record to a sink. -/
def Handover.pass (handover : Handover S D R) : m Unit := do
  sink.tell handover.events
  let _ ← sink.record handover.record handover.simulation.state.particles

/-- Hands all records to a sink, in order, and tells of a frame that is not completed. -/
def Course.pass (run : Course S D R) : m Unit := do
  run.handovers.forM (Handover.pass sink)
  match run.result with
  | .error _ => sink.tell run.remainder
  | .ok () => pure ()

end Passing

variable [Scalar S] [Scalar D] [Precision S D] [RandomSource R S]

/-- What a run of so many frames does if every record is accepted and each frame comes to an end. -/
def course : (frames : ℕ) → Simulation S D R → Option (Course S D R)
  | 0, sim => some ⟨[], [], .ok (), sim⟩
  | frames + 1, sim => do
    let done ← sim.runFrame
    match done.result with
    | .error failure => some ⟨[], done.events, .error failure, done.simulation⟩
    | .ok record =>
      let rest ← course frames done.simulation
      some { rest with handovers := ⟨done.events, record, done.simulation⟩ :: rest.handovers }

/-- The ways in which a run of frames can end. -/
lemma course_cases {frames : ℕ} {sim : Simulation S D R} {run : Course S D R}
    (h : sim.course (frames + 1) = some run) :
    (∃ done failure, sim.runFrame = some done ∧ done.result = .error failure ∧
      run = ⟨[], done.events, .error failure, done.simulation⟩) ∨
    (∃ done record rest, sim.runFrame = some done ∧ done.result = .ok record ∧
      done.simulation.course frames = some rest ∧
      run = { rest with
        handovers := ⟨done.events, record, done.simulation⟩ :: rest.handovers }) := by
  obtain ⟨done, hdone, hrun⟩ := Option.bind_eq_some_iff.mp h
  cases hresult : done.result with
  | error failure =>
      rw [hresult] at hrun
      exact .inl ⟨done, failure, hdone, hresult, (Option.some.inj hrun).symm⟩
  | ok record =>
      rw [hresult] at hrun
      obtain ⟨rest, hrest, hrun⟩ := Option.bind_eq_some_iff.mp hrun
      exact .inr ⟨done, record, rest, hdone, hresult, hrest, (Option.some.inj hrun).symm⟩

/-- A simulation whose steps succeed completes as many frames as it is asked for. -/
lemma Ready.exists_course {R : Type} [RandomSource R Exact] (hR : RandomSource.Fractional R)
    {sim : Simulation Exact Exact R} (h : sim.Ready) (frames : ℕ) :
    ∃ run, sim.course frames = some run ∧ run.result = .ok () ∧ run.simulation.Ready := by
  induction frames generalizing sim with
  | zero => exact ⟨_, rfl, rfl, h⟩
  | succ frames ih =>
      obtain ⟨done, record, hdone, hresult, -, hready⟩ := h.exists_runFrame hR
      obtain ⟨rest, hrest, hok, hlast⟩ := ih hready
      refine ⟨{ rest with handovers := ⟨done.events, record, done.simulation⟩ :: rest.handovers },
        ?_, hok, hlast⟩
      simp only [course, hdone, hresult, hrest, Option.bind_eq_bind, Option.bind_some]

section Passing

variable {m : Type → Type} [Monad m] [LawfulMonad m] {ε : Type} {sink : Sink m ε S D}

/-- A run with a sink that accepts all records does nothing but its course. -/
theorem run_eq_pass (h : sink.Accepts) {frames : ℕ} {sim : Simulation S D R} {course : Course S D R}
    (hcourse : sim.course frames = some course) :
    run sink frames sim = do
      course.pass sink
      return some (course.result.mapError .frame, course.simulation) := by
  induction frames generalizing sim course with
  | zero =>
      obtain rfl := Option.some.inj hcourse
      simp [run, Course.pass, Except.mapError]
  | succ frames ih =>
      rcases course_cases hcourse with ⟨done, failure, hdone, hresult, rfl⟩ |
        ⟨done, record, rest, hdone, hresult, hrest, rfl⟩
      · simp [run, hdone, hresult, Course.pass, Except.mapError]
      · have hrecord : ∀ k : Except ε Unit →
              m (Option (Except (RunFailure ε D) Unit × Simulation S D R)),
            sink.record record done.simulation.state.particles >>= k =
              sink.record record done.simulation.state.particles >>= fun _ => k (.ok ()) := by
          intro k
          conv_lhs => rw [← h, bind_map_left]
        rw [run]
        simp only [hdone, hresult, hrecord, ih hrest, Course.pass]
        simp [Handover.pass]

end Passing

/-! ## One frame -/

/-- A frame is completed exactly if no step fails, and no step leaves it. -/
lemma stepThrough_ends {tally : Tally} {sim : Simulation S D R} {run : FrameRun Tally S D R}
    (h : stepThrough tally sim = some run) :
    run.simulation.state.clock.frame = sim.state.clock.frame ∧
      run.result.isOk = run.simulation.state.clock.isFrameComplete := by
  have hframe : ∀ sim : Simulation S D R, sim.state.clock.isFrameComplete = false →
      sim.advance.simulation.state.clock.frame = sim.state.clock.frame := by
    intro sim hopen
    rw [(clock_advance sim).1, Clock.rollover_of_open hopen]
  refine stepThrough_induction (motive := fun _ sim run =>
    run.simulation.state.clock.frame = sim.state.clock.frame ∧
      run.result.isOk = run.simulation.state.clock.isFrameComplete)
    (fun _ sim hcomplete => ⟨rfl, hcomplete.symm⟩) (fun _ sim e hopen hresult => ?_)
    (fun _ sim _ _ hopen _ ih => ⟨ih.1.trans (hframe sim hopen), ih.2⟩) h
  refine ⟨hframe sim hopen, ?_⟩
  rw [isFrameComplete_advance_error hresult, Clock.rollover_of_open hopen, hopen]
  rfl

/-- The record sums up the simulation at the end of its frame. -/
structure Handover.SumsUp (handover : Handover S D R) : Prop where
  complete : handover.simulation.state.clock.isFrameComplete = true
  record_eq : ∃ tally, handover.record = handover.simulation.frameRecord tally

variable {run : FrameRun (FrameRecord S D) S D R}

/-- So is the frame in progress, or the next one if that is complete. -/
lemma runFrame_ends {sim : Simulation S D R} (hrun : sim.runFrame = some run) :
    run.simulation.state.clock.frame = sim.state.clock.rollover.frame ∧
      run.result.isOk = run.simulation.state.clock.isFrameComplete ∧
      ∀ record, run.result = .ok record → ∃ tally, record = run.simulation.frameRecord tally := by
  obtain ⟨steps, hsteps, rfl⟩ := runFrame_eq_some.mp hrun
  obtain ⟨hframe, hends⟩ := stepThrough_ends hsteps
  rw [FrameRun.summarize]
  split
  · next failure hresult =>
    rw [hresult] at hends
    refine ⟨hframe, hends, fun record h => ?_⟩
    cases h
  · next tally hresult =>
    rw [hresult] at hends
    exact ⟨hframe, hends, fun record h => ⟨tally, (Except.ok.inj h).symm⟩⟩

lemma toNat_frame_runFrame {sim : Simulation S D R} (hrun : sim.runFrame = some run)
    (hroom : sim.state.clock.HasRoom) :
    run.simulation.state.clock.frame.toNat = sim.state.clock.completed := by
  rw [(runFrame_ends hrun).1, hroom.toNat_frame_rollover]

lemma runFrame_ok {sim : Simulation S D R} (hrun : sim.runFrame = some run)
    {record : FrameRecord S D} (h : run.result = .ok record) :
    (⟨run.events, record, run.simulation⟩ : Handover S D R).SumsUp := by
  obtain ⟨-, hends, hrecord⟩ := runFrame_ends hrun
  rw [h] at hends
  exact ⟨hends.symm, hrecord record h⟩

lemma runFrame_error {sim : Simulation S D R} (hrun : sim.runFrame = some run)
    {failure : StepFailure D} (h : run.result = .error failure) :
    run.simulation.state.clock.isFrameComplete = false := by
  rw [← (runFrame_ends hrun).2.1, h]
  rfl

/-! ## Series of calls -/

/-- Words hold the numbers of all frames that a run works on. -/
def Course.HasRoom (run : Course S D R) (sim : Simulation S D R) : Prop :=
  sim.state.clock.completed + run.begun ≤ UInt32.size

/-- Calls in a row, with the records that they hand over and all that they tell: runs of frames that
come to an end, and steps that leave their frame incomplete.  No two frames have the same number. -/
inductive Session (first : Simulation S D R) :
    Simulation S D R → List (Handover S D R) → List (Event S D) → Prop
  | begin : Session first first [] []
  | run {sim : Simulation S D R} {handovers : List (Handover S D R)} {events : List (Event S D)}
      {frames : ℕ} {course : Course S D R} : Session first sim handovers events →
        sim.course frames = some course → course.HasRoom sim →
        Session first course.simulation (handovers ++ course.handovers) (events ++ course.events)
  | advance {sim : Simulation S D R} {handovers : List (Handover S D R)}
      {events : List (Event S D)} : Session first sim handovers events →
        sim.state.clock.HasRoom → sim.advance.simulation.state.clock.isFrameComplete = false →
        Session first sim.advance.simulation handovers (events ++ sim.advance.events)

omit [Scalar S] [Precision S D] [RandomSource R S] in
/-- A run that fails in its first frame works on this one. -/
lemma Course.HasRoom.of_failure {done : FrameRun (FrameRecord S D) S D R} {failure : StepFailure D}
    {sim : Simulation S D R}
    (h : (⟨[], done.events, .error failure, done.simulation⟩ : Course S D R).HasRoom sim) :
    sim.state.clock.HasRoom :=
  h

omit [Scalar S] [Precision S D] [RandomSource R S] in
/-- A run that completes its first frame works on it, and then on the others. -/
lemma Course.HasRoom.of_record {handover : Handover S D R} {rest : Course S D R}
    {sim : Simulation S D R}
    (h : ({ rest with handovers := handover :: rest.handovers } : Course S D R).HasRoom sim) :
    sim.state.clock.HasRoom ∧ sim.state.clock.completed + 1 + rest.begun ≤ UInt32.size := by
  have hbegun : sim.state.clock.completed +
      (rest.handovers.length + 1 + (!rest.result.isOk).toNat) ≤ UInt32.size := h
  rw [Clock.HasRoom, Course.begun]
  omega

/-- The records handed over are those of the frames completed since a first one, in order, each
given when its frame is complete and counting, in a word, all steps of it that are told. -/
structure Ledger (first : ℕ) (sim : Simulation S D R) (handovers : List (Handover S D R))
    (events : List (Event S D)) : Prop where
  frames_eq : handovers.map (·.record.frame.toNat) = List.range' first handovers.length
  completed_eq : sim.state.clock.completed = first + handovers.length
  sumsUp : ∀ handover ∈ handovers, handover.SumsUp
  steps_eq : ∀ handover ∈ handovers,
    handover.record.steps = .ofNat (stepsTold handover.record.frame events)

variable {first : ℕ} {sim : Simulation S D R} {handovers : List (Handover S D R)}
  {events : List (Event S D)}

omit [RandomSource R S] in
lemma Ledger.frame_lt (h : Ledger first sim handovers events) {handover : Handover S D R}
    (hmem : handover ∈ handovers) :
    handover.record.frame.toNat < sim.state.clock.completed := by
  have hframe : handover.record.frame.toNat ∈ handovers.map (·.record.frame.toNat) :=
    List.mem_map_of_mem hmem
  rw [h.frames_eq, List.mem_range'_1] at hframe
  rw [h.completed_eq]
  exact hframe.2

omit [RandomSource R S] in
/-- Calls that complete no frame leave the ledger as it is. -/
lemma Ledger.keep (h : Ledger first sim handovers events) {after : Simulation S D R}
    {more : List (Event S D)}
    (hcompleted : after.state.clock.completed = sim.state.clock.completed)
    (hnone : ∀ frame : UInt32, frame.toNat < sim.state.clock.completed →
      stepsTold frame more = 0) :
    Ledger first after handovers (events ++ more) where
  frames_eq := h.frames_eq
  completed_eq := hcompleted.trans h.completed_eq
  sumsUp := h.sumsUp
  steps_eq handover hmem := by
    rw [stepsTold_append, hnone _ (h.frame_lt hmem)]
    exact h.steps_eq handover hmem

lemma stepsTold_runFrame_of_completed (hrun : sim.runFrame = some run)
    (hroom : sim.state.clock.HasRoom) {frame : UInt32}
    (h : frame.toNat < sim.state.clock.completed) : stepsTold frame run.events = 0 := by
  have hstart : frame.toNat < sim.state.clock.rollover.frame.toNat ∧
      stepsTold frame ([] : List (Event S D)) = 0 :=
    ⟨h.trans_eq hroom.toNat_frame_rollover.symm, rfl⟩
  have hkept := runFrame_tells
    (P := fun sim events => frame.toNat < sim.state.clock.frame.toNat ∧ stepsTold frame events = 0)
    (fun sim events hopen h => ⟨?_, ?_⟩) (fun sim events record h => ⟨h.1, ?_⟩) hrun hstart
  · exact hkept.2
  · rw [(clock_advance sim).1, Clock.rollover_of_open hopen]
    exact h.1
  · rw [← Clock.completed_of_open hopen] at h
    rw [stepsTold_append, h.2, stepsTold_advance_of_completed h.1 (Clock.hasRoom_of_open hopen)]
  · rw [stepsTold_append, h.2]
    rfl

/-- A frame that is completed enters its record. -/
lemma Ledger.record (h : Ledger first sim handovers events)
    (hcounts : sim.state.clock.Counts events) (hrun : sim.runFrame = some run)
    (hroom : sim.state.clock.HasRoom) {record : FrameRecord S D}
    (hresult : run.result = .ok record) :
    Ledger first run.simulation (handovers ++ [⟨run.events, record, run.simulation⟩])
      (events ++ run.events) := by
  have hsumsUp := runFrame_ok hrun hresult
  have hframe := toNat_frame_runFrame hrun hroom
  obtain ⟨tally, hrecord⟩ := hsumsUp.record_eq
  have hnumber : record.frame = run.simulation.state.clock.frame :=
    congrArg FrameRecord.frame hrecord
  constructor
  · rw [List.map_append, h.frames_eq, List.length_append, List.length_singleton, List.range'_concat,
      List.map_singleton, hnumber, hframe, h.completed_eq, Nat.one_mul]
  · rw [Clock.completed_of_complete hsumsUp.complete, hframe, h.completed_eq, List.length_append,
      List.length_singleton, Nat.add_assoc]
  · exact List.forall_mem_append.mpr ⟨h.sumsUp, List.forall_mem_singleton.mpr hsumsUp⟩
  · refine List.forall_mem_append.mpr ⟨fun handover hmem => ?_, List.forall_mem_singleton.mpr ?_⟩
    · rw [stepsTold_append, stepsTold_runFrame_of_completed hrun hroom (h.frame_lt hmem)]
      exact h.steps_eq handover hmem
    · rw [hnumber]
      exact (congrArg FrameRecord.steps hrecord).trans
        (counts_runFrame hrun hcounts hroom).stepsInFrame_eq

/-- A frame that is not completed enters nothing. -/
lemma Ledger.failure (h : Ledger first sim handovers events) (hrun : sim.runFrame = some run)
    (hroom : sim.state.clock.HasRoom) {failure : StepFailure D}
    (hresult : run.result = .error failure) :
    Ledger first run.simulation handovers (events ++ run.events) := by
  refine h.keep ?_ fun _ => stepsTold_runFrame_of_completed hrun hroom
  rw [Clock.completed_of_open (runFrame_error hrun hresult), toNat_frame_runFrame hrun hroom]

/-- So does a step that leaves its frame incomplete. -/
lemma Ledger.advance (h : Ledger first sim handovers events) (hroom : sim.state.clock.HasRoom)
    (hopen : sim.advance.simulation.state.clock.isFrameComplete = false) :
    Ledger first sim.advance.simulation handovers (events ++ sim.advance.events) := by
  refine h.keep ?_ fun _ hlt => stepsTold_advance_of_completed hlt hroom
  rw [Clock.completed_of_open hopen, (clock_advance sim).1, hroom.toNat_frame_rollover]

/-- A run enters its records, and its events continue the history. -/
lemma Ledger.course {c : Config S D} {frames : ℕ} {course : Course S D R}
    (h : Ledger first sim handovers events) (hhistory : History c sim events)
    (hcourse : sim.course frames = some course) (hroom : course.HasRoom sim) :
    Ledger first course.simulation (handovers ++ course.handovers) (events ++ course.events) ∧
      History c course.simulation (events ++ course.events) ∧
      ∀ handover ∈ course.handovers, ∃ told, History c handover.simulation told := by
  induction frames generalizing sim handovers events course with
  | zero =>
      obtain rfl := Option.some.inj hcourse
      simp only [Course.events, List.flatMap_nil, List.append_nil]
      exact ⟨h, hhistory, fun _ hmem => absurd hmem List.not_mem_nil⟩
  | succ frames ih =>
      rcases course_cases hcourse with ⟨done, failure, hdone, hresult, rfl⟩ |
        ⟨done, record, rest, hdone, hresult, hrest, rfl⟩
      · have hfirst := hroom.of_failure
        simp only [Course.events, List.flatMap_nil, List.append_nil, List.nil_append]
        exact ⟨h.failure hdone hfirst hresult, hhistory.runFrame hfirst hdone,
          fun _ hmem => absurd hmem List.not_mem_nil⟩
      · obtain ⟨hfirst, hothers⟩ := hroom.of_record
        have hentered := h.record hhistory.counts hdone hfirst hresult
        have hcontinued := hhistory.runFrame hfirst hdone
        have hcompleted :
            done.simulation.state.clock.completed = sim.state.clock.completed + 1 := by
          rw [hentered.completed_eq, h.completed_eq, List.length_append, List.length_singleton,
            Nat.add_assoc]
        obtain ⟨hledger, hafter, htold⟩ := ih hentered hcontinued hrest (by
          rw [Course.HasRoom, hcompleted]
          exact hothers)
        simp only [Course.events, List.flatMap_cons, List.append_assoc, List.cons_append,
          List.nil_append] at hledger hafter ⊢
        exact ⟨hledger, hafter, List.forall_mem_cons.mpr ⟨⟨_, hcontinued⟩, htold⟩⟩

/-- A run that is not ended early hands over all records, and one that is leaves its last frame
incomplete. -/
lemma course_ends {frames : ℕ} {sim : Simulation S D R} {course : Course S D R}
    (hcourse : sim.course frames = some course) :
    (course.result = .ok () → course.handovers.length = frames) ∧
      ∀ failure, course.result = .error failure → course.handovers.length < frames ∧
        course.simulation.state.clock.isFrameComplete = false := by
  induction frames generalizing sim course with
  | zero =>
      obtain rfl := Option.some.inj hcourse
      refine ⟨fun _ => rfl, fun failure h => ?_⟩
      cases h
  | succ frames ih =>
      rcases course_cases hcourse with ⟨done, failure, hdone, hresult, rfl⟩ |
        ⟨done, record, rest, hdone, hresult, hrest, rfl⟩
      · refine ⟨fun h => ?_, fun _ _ => ⟨Nat.succ_pos _, runFrame_error hdone hresult⟩⟩
        cases h
      · obtain ⟨hok, herror⟩ := ih hrest
        refine ⟨fun h => congrArg (· + 1) (hok h), fun failure h => ?_⟩
        exact ⟨Nat.succ_lt_succ (herror failure h).1, (herror failure h).2⟩

/-! ## All records of a series -/

/-- The ledger of a series goes on from the history of its start. -/
lemma Session.ledger {c : Config S D} {start : Simulation S D R} {before : List (Event S D)}
    (hstart : History c start before) (hopen : start.state.clock.isFrameComplete = false)
    (h : Session start sim handovers events) :
    Ledger start.state.clock.frame.toNat sim handovers (before ++ events) ∧
      History c sim (before ++ events) ∧
      ∀ handover ∈ handovers, ∃ told, History c handover.simulation told := by
  induction h with
  | begin =>
      rw [List.append_nil]
      refine ⟨⟨rfl, Clock.completed_of_open hopen, ?_, ?_⟩, hstart, ?_⟩ <;>
        exact fun _ hmem => absurd hmem List.not_mem_nil
  | run _ hcourse hroom ih =>
      obtain ⟨hledger, hhistory, htold⟩ := ih
      rw [← List.append_assoc]
      obtain ⟨hledger, hhistory, htold'⟩ := hledger.course hhistory hcourse hroom
      exact ⟨hledger, hhistory, List.forall_mem_append.mpr ⟨htold, htold'⟩⟩
  | advance _ hroom hopen' ih =>
      obtain ⟨hledger, hhistory, htold⟩ := ih
      rw [← List.append_assoc]
      exact ⟨hledger.advance hroom hopen', hhistory.advance hroom, htold⟩

/-- On exact numbers a first frame is in progress at the start. -/
lemma isFrameComplete_start {R : Type} [RandomSource R Exact] {c : Config Exact Exact}
    (hc : c.clock.IsFinite) :
    (Simulation.start c : Simulation Exact Exact R).state.clock.isFrameComplete = false := by
  obtain ⟨hs, hn⟩ := Config.clock_normalized_sound hc
  refine (Clock.Running.start hs hn).isFrameComplete_eq_false.mpr ?_
  show 0 < c.normalized.clock.frameLength.toReal - ((0 : ℕ) : ℝ)
  rw [Nat.cast_zero, sub_zero]
  exact ClockSettings.toReal_frameLength_pos hs hn

/-- On exact numbers complete frames are as long as frames. -/
lemma History.totalTime_of_complete {R : Type} [RandomSource R Exact] {c : Config Exact Exact}
    {sim : Simulation Exact Exact R} {events : List (Event Exact Exact)} (hc : c.clock.IsFinite)
    (h : History c sim events) (hcomplete : sim.state.clock.isFrameComplete = true) :
    sim.state.clock.totalTime =
      Scalar.ofNat (sim.state.clock.frame.toNat + 1) * c.normalized.clock.frameLength := by
  obtain ⟨hs, hn⟩ := Config.clock_normalized_sound hc
  obtain ⟨sizes, hrun⟩ := h.clock_run hs hn
  obtain ⟨hsettings, hrunning, haccounts⟩ := hrun.keeps hs hn
  have helapsed : sim.state.clock.elapsed = c.normalized.clock.frameLength.toReal := by
    rw [← hsettings]
    exact (sub_eq_zero.mp (hrunning.isFrameComplete_iff.mp hcomplete)).symm
  rw [haccounts.totalTime_eq, hsettings, hrunning.timeInFrame_eq, helapsed,
    Exact.eq_real_toReal hn.frameLength, Exact.scalar_ofNat, Exact.scalar_ofNat,
    Exact.real_mul_real, Exact.real_mul_real, Exact.real_add_real, Exact.toReal_real]
  push_cast
  ring_nf

/-- **Records are neither lost, repeated nor reordered.**  From a simulation whose frame in progress
is incomplete, a series of calls hands over one record for every frame it completes, in order.  With
a sink that accepts them, the next run that comes to an end hands over as many as asked for, or, if
it is ended early, those of the frames it completed, and stays inside the next one.  The steps that
records count are those that are told, once each, when they succeed.  On exact numbers the record of
a frame has the time of its end. -/
theorem Session.records :
    (∀ {S D R : Type} [Scalar S] [Scalar D] [Precision S D] [RandomSource R S] {c : Config S D}
        {start sim : Simulation S D R} {handovers : List (Handover S D R)}
        {before events : List (Event S D)},
      History c start before → start.state.clock.isFrameComplete = false →
      Session start sim handovers events →
        Ledger start.state.clock.frame.toNat sim handovers (before ++ events) ∧
        ∀ (frames : ℕ) (course : Course S D R), sim.course frames = some course →
          (∀ {m : Type → Type} [Monad m] [LawfulMonad m] {ε : Type} (sink : Sink m ε S D),
            sink.Accepts →
              Simulation.run sink frames sim = do
                course.pass sink
                return some (course.result.mapError .frame, course.simulation)) ∧
          (course.result = .ok () → course.handovers.length = frames) ∧
          ∀ failure, course.result = .error failure →
            course.handovers.length < frames ∧
            course.simulation.state.clock.isFrameComplete = false ∧
            (course.HasRoom sim → course.simulation.state.clock.frame.toNat =
              start.state.clock.frame.toNat + handovers.length + course.handovers.length)) ∧
    (∀ {S D R : Type} [Scalar S] [Scalar D] [Precision S D] [RandomSource R S]
        (sim : Simulation S D R), sim.advance.TellsItself) ∧
    ∀ {R : Type} [RandomSource R Exact] {c : Config Exact Exact}
        {start sim : Simulation Exact Exact R} {handovers : List (Handover Exact Exact R)}
        {before events : List (Event Exact Exact)},
      c.clock.IsFinite → History c start before → start.state.clock.isFrameComplete = false →
      Session start sim handovers events →
        ∀ handover ∈ handovers, handover.record.time =
          Scalar.ofNat (handover.record.frame.toNat + 1) * c.normalized.clock.frameLength := by
  refine ⟨?_, tellsItself_advance, ?_⟩
  · intro S D R _ _ _ _ c start sim handovers before events hstart hopen h
    refine ⟨(h.ledger hstart hopen).1, fun frames course hcourse => ⟨fun sink hsink => ?_, ?_, ?_⟩⟩
    · exact run_eq_pass hsink hcourse
    · exact (course_ends hcourse).1
    · intro failure hresult
      obtain ⟨hlength, hinside⟩ := (course_ends hcourse).2 failure hresult
      refine ⟨hlength, hinside, fun hroom => ?_⟩
      have hcompleted := ((h.run hcourse hroom).ledger hstart hopen).1.completed_eq
      rwa [Clock.completed_of_open hinside, List.length_append, ← Nat.add_assoc] at hcompleted
  · intro R _ c start sim handovers before events hc hstart hopen h handover hmem
    obtain ⟨hledger, -, htold⟩ := h.ledger hstart hopen
    obtain ⟨told, hhistory⟩ := htold handover hmem
    obtain ⟨hcomplete, tally, hrecord⟩ := hledger.sumsUp handover hmem
    rw [hrecord]
    exact hhistory.totalTime_of_complete hc hcomplete

/-- Two frames and then three of a falling drop: all of them are completed, and recorded in
order. -/
theorem Session.records_fallingDrop :
    let start := fallingDrop
    ∃ first second : Course Exact Exact (Generator Exact),
      let handovers := first.handovers ++ second.handovers
      let events := first.events ++ second.events
      start.course 2 = some first ∧ first.simulation.course 3 = some second ∧
      History Config.fallingDrop start [] ∧ start.state.clock.isFrameComplete = false ∧
      Config.fallingDrop.clock.IsFinite ∧ Session start second.simulation handovers events ∧
      Ledger 0 second.simulation handovers events ∧
      handovers.map (·.record.frame.toNat) = [0, 1, 2, 3, 4] ∧
      ∀ handover ∈ handovers, handover.record.time =
        Scalar.ofNat (handover.record.frame.toNat + 1) *
          Config.fallingDrop.normalized.clock.frameLength := by
  intro start
  have hfinite := Config.feasible_fallingDrop.clock
  have hopen : start.state.clock.isFrameComplete = false := isFrameComplete_start hfinite
  obtain ⟨first, hfirst, hok, hbetween⟩ := ready_fallingDrop.exists_course ChaCha.fractional_generator 2
  obtain ⟨second, hsecond, hok', -⟩ := hbetween.exists_course ChaCha.fractional_generator 3
  have hlength := ((Session.records.1 .start hopen .begin).2 2 first hfirst).2.1 hok
  have hroom : first.HasRoom start := by
    rw [Course.HasRoom, Course.begun, Clock.completed_of_open hopen, hlength, hok]
    decide
  have hsession : Session start first.simulation first.handovers first.events :=
    Session.begin.run hfirst hroom
  obtain ⟨hledger, hnext⟩ := Session.records.1 .start hopen hsession
  have hlength' := (hnext 3 second hsecond).2.1 hok'
  have hroom' : second.HasRoom first.simulation := by
    rw [Course.HasRoom, Course.begun, hledger.completed_eq, hlength, hlength', hok']
    decide
  have hsession' := hsession.run hsecond hroom'
  have hledger' := (Session.records.1 .start hopen hsession').1
  refine ⟨first, second, hfirst, hsecond, .start, hopen, hfinite, hsession', hledger', ?_,
    Session.records.2.2 hfinite .start hopen hsession'⟩
  rw [hledger'.frames_eq, List.length_append, hlength, hlength']
  rfl

end Simulation

end FreeSurface
