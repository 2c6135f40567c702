import QueryInk.Proofs.Run.Reading

/-!
# Working on the sources in any order

A job reads its source and then works on the text, and between the two other jobs
may move; the jobs share the standard input. A pool is sound when every job holds
what its source gives when it is read alone (`Sound`). No step breaks that
(`step_sound`), because arguments name the standard input once at most. Hence every
schedule that finishes has the results of working from left to right
(`outcome?_eq`).
-/

namespace QueryInk

/-- How far the job of a source has come. -/
inductive Job (α : Type) where
  | waiting
  | underWay (text : Except Failure Text)
  | done (result : Except Failure α)

namespace Job
variable {α : Type}

def isUnderWay : Job α → Bool
  | underWay _ => true
  | _ => false

def result? : Job α → Option (Except Failure α)
  | done result => some result
  | _ => none

/-- The job holds what is to be expected of a source with this content. -/
def Expected (content : Except Failure Text) (work : Text → α) : Job α → Prop
  | waiting => True
  | underWay text => text = content
  | done result => result = content.map work

end Job

/-- The jobs of a run, one for each source, and what they have left of the standard input. -/
structure Pool (α : Type) where
  left : Bytes
  jobs : List (Job α)

namespace Pool
variable {α : Type} (files : Files) (sources : List Source) (work : Source → Text → α)
  (workers : Nat) (input : Bytes)

def start : Pool α := ⟨input, sources.map fun _ => .waiting⟩

def busy (pool : Pool α) : Nat := pool.jobs.countP Job.isUnderWay

/-- The job of source `i` moves on: it reads its source if a worker is free, or it works on the
text that it has read. There is always one worker. -/
def step (pool : Pool α) (i : Nat) : Option (Pool α) :=
  match sources[i]?, pool.jobs[i]? with
  | some source, some .waiting =>
    if pool.busy < max 1 workers then
      let read := (source.read files).run pool.left
      some ⟨read.2, pool.jobs.set i (.underWay read.1)⟩
    else none
  | some source, some (.underWay text) =>
    some ⟨pool.left, pool.jobs.set i (.done (text.map (work source)))⟩
  | _, _ => none

/-- The results, when all jobs are done. -/
def results? (pool : Pool α) : Option (List (Except Failure α)) := pool.jobs.mapM Job.result?

/-- What a schedule ends with. It lists the jobs in the order in which they move on. -/
def outcome? (schedule : List Nat) : Option (List (Except Failure α)) :=
  schedule.foldlM (step files sources work workers) (start sources input) >>= results?

/-- Every job holds what its source gives when it is read alone, and the standard input is all
there for a job that still has to read it. -/
structure Sound (pool : Pool α) : Prop where
  size : pool.jobs.length = sources.length
  expected : ∀ (i : Nat) (source : Source) (job : Job α), sources[i]? = some source →
    pool.jobs[i]? = some job → job.Expected (source.content files input) (work source)
  untouched : ∀ i : Nat, sources[i]? = some Source.stdin → pool.jobs[i]? = some Job.waiting →
    pool.left = input

/-! ## What a step does -/

variable {files sources work workers input} {pool next : Pool α} {i : Nat}

theorem step_cases (h : step files sources work workers pool i = some next) :
    ∃ source, sources[i]? = some source ∧
      ((pool.jobs[i]? = some .waiting ∧
          next = ⟨((source.read files).run pool.left).2,
            pool.jobs.set i (.underWay ((source.read files).run pool.left).1)⟩) ∨
        ∃ text, pool.jobs[i]? = some (.underWay text) ∧
          next = ⟨pool.left, pool.jobs.set i (.done (text.map (work source)))⟩) := by
  unfold step at h
  split at h
  · next found here =>
    split at h
    · cases h
      exact ⟨_, found, .inl ⟨here, rfl⟩⟩
    · cases h
  · next found here =>
    cases h
    exact ⟨_, found, .inr ⟨_, here, rfl⟩⟩
  · cases h

theorem step_waiting {source : Source} (found : sources[i]? = some source)
    (here : pool.jobs[i]? = some .waiting) (free : pool.busy < max 1 workers) :
    step files sources work workers pool i =
      some ⟨((source.read files).run pool.left).2,
        pool.jobs.set i (.underWay ((source.read files).run pool.left).1)⟩ := by
  simp only [step, found, here, if_pos free]

theorem step_underWay {source : Source} {text : Except Failure Text}
    (found : sources[i]? = some source) (here : pool.jobs[i]? = some (.underWay text)) :
    step files sources work workers pool i =
      some ⟨pool.left, pool.jobs.set i (.done (text.map (work source)))⟩ := by
  simp only [step, found, here]

/-! ## Every schedule -/

theorem start_sound : Sound files sources work input (start sources input) where
  size := by simp [start]
  expected := by
    intro i source job found here
    simp only [start, List.getElem?_map, found, Option.map_some, Option.some.injEq] at here
    subst here
    trivial
  untouched := fun _ _ _ => rfl

theorem getElem?_set_cases {jobs : List (Job α)} {job held : Job α} {j : Nat}
    (h : (jobs.set i job)[j]? = some held) :
    (j = i ∧ held = job) ∨ (j ≠ i ∧ jobs[j]? = some held) := by
  by_cases same : i = j
  · subst same
    obtain ⟨inside, -⟩ := List.getElem?_eq_some_iff.1 h
    rw [List.length_set] at inside
    rw [List.getElem?_set_self inside, Option.some.injEq] at h
    exact .inl ⟨rfl, h.symm⟩
  · rw [List.getElem?_set_ne same] at h
    exact .inr ⟨Ne.symm same, h⟩

/-- A job that moves on to what is expected of it keeps the pool sound. -/
theorem Sound.set {left : Bytes} {source : Source}
    (sound : Sound files sources work input pool) (job : Job α) (found : sources[i]? = some source)
    (holds : job.Expected (source.content files input) (work source)) (begun : job ≠ .waiting)
    (kept : ∀ j, j ≠ i → sources[j]? = some Source.stdin → pool.jobs[j]? = some Job.waiting →
      left = input) :
    Sound files sources work input ⟨left, pool.jobs.set i job⟩ where
  size := by simpa using sound.size
  expected := by
    intro j other held at_j here
    rcases getElem?_set_cases here with ⟨rfl, rfl⟩ | ⟨-, before⟩
    · obtain rfl := Option.some.inj (found.symm.trans at_j)
      exact holds
    · exact sound.expected j other held at_j before
  untouched := by
    intro j at_j here
    rcases getElem?_set_cases here with ⟨-, rfl⟩ | ⟨apart, before⟩
    · contradiction
    · exact kept j apart at_j before

/-- No two sources are the standard input. -/
def Once (sources : List Source) : Prop :=
  ∀ i j : Nat, sources[i]? = some Source.stdin → sources[j]? = some Source.stdin → i = j

theorem step_sound (once : Once sources) (sound : Sound files sources work input pool)
    (h : step files sources work workers pool i = some next) :
    Sound files sources work input next := by
  obtain ⟨source, found, ⟨here, rfl⟩ | ⟨text, here, rfl⟩⟩ := step_cases h
  · by_cases std : source = .stdin
    · -- the bytes are all there, and nobody else waits for them
      subst std
      have all := sound.untouched i found here
      refine sound.set (.underWay _) found ?_ (by simp) ?_
      · simp only [Job.Expected, all]
        rfl
      · intro j apart at_j _
        exact absurd (once j i at_j found) apart
    · rw [Source.read_of_ne std files input]
      refine sound.set (.underWay _) found rfl (by simp) ?_
      intro j _ at_j waiting
      exact sound.untouched j at_j waiting
  · have read : text = source.content files input := sound.expected i source _ found here
    refine sound.set (.done _) found ?_ (by simp) ?_
    · rw [read]
      rfl
    · intro j _ at_j waiting
      exact sound.untouched j at_j waiting

theorem schedule_sound (once : Once sources) {schedule : List Nat}
    (sound : Sound files sources work input pool)
    (h : schedule.foldlM (step files sources work workers) pool = some next) :
    Sound files sources work input next := by
  induction schedule generalizing pool with
  | nil =>
    cases h
    exact sound
  | cons i schedule ih =>
    rw [List.foldlM_cons] at h
    obtain ⟨moved, first, later⟩ := Option.bind_eq_some_iff.1 h
    exact ih (step_sound once sound first) later

theorem results?_eq_some {results : List (Except Failure α)} :
    pool.results? = some results ↔ pool.jobs = results.map .done := by
  unfold results?
  generalize pool.jobs = jobs
  induction jobs generalizing results with
  | nil => cases results <;> simp
  | cons job jobs ih =>
    rw [List.mapM_cons]
    cases job with
    | done result =>
      simp only [Job.result?, Option.bind_eq_bind, Option.bind_some, Option.bind_eq_some_iff, ih]
      cases results <;> simp [and_comm]
    | waiting | underWay => cases results <;> simp [Job.result?]

/-- Jobs that are done have the results of their sources. -/
theorem Sound.results_eq (sound : Sound files sources work input pool)
    {results : List (Except Failure α)} (finished : pool.results? = some results) :
    results = sources.map fun source => (source.content files input).map (work source) := by
  have jobs := results?_eq_some.1 finished
  have size := sound.size
  rw [jobs, List.length_map] at size
  apply List.ext_getElem?
  intro i
  rw [List.getElem?_map]
  cases found : sources[i]? with
  | none =>
    rw [List.getElem?_eq_none_iff] at found
    rw [List.getElem?_eq_none_iff.2 (by omega)]
    rfl
  | some source =>
    obtain ⟨inside, -⟩ := List.getElem?_eq_some_iff.1 found
    have here : pool.jobs[i]? = some (.done results[i]) := by
      rw [jobs, List.getElem?_map, List.getElem?_eq_getElem (by omega)]
      rfl
    rw [List.getElem?_eq_getElem (by omega)]
    exact congrArg some (sound.expected i source _ found here)

/-- A schedule that finishes gives each source its own result, whatever the order. -/
theorem outcome?_eq (once : Once sources) {schedule : List Nat}
    {results : List (Except Failure α)}
    (h : outcome? files sources work workers input schedule = some results) :
    results = sources.map fun source => (source.content files input).map (work source) := by
  obtain ⟨pool, ran, finished⟩ := Option.bind_eq_some_iff.1 h
  exact (schedule_sound once start_sound ran).results_eq finished

/-! ## One source after the other -/

theorem busy_set_done {jobs : List (Job α)} (idle : jobs.countP Job.isUnderWay = 0)
    (result : Except Failure α) : (jobs.set i (.done result)).countP Job.isUnderWay = 0 := by
  rw [List.countP_eq_zero] at idle ⊢
  intro job member
  rcases List.mem_or_eq_of_mem_set member with before | rfl
  · exact idle job before
  · simp [Job.isUnderWay]

variable (files work workers) in
/-- With nothing under way, a job that waits can be done at once. -/
theorem step_step {source : Source} (idle : pool.busy = 0) (found : sources[i]? = some source)
    (here : pool.jobs[i]? = some .waiting) :
    ∃ left result, [i, i].foldlM (step files sources work workers) pool =
      some ⟨left, pool.jobs.set i (.done result)⟩ := by
  obtain ⟨inside, -⟩ := List.getElem?_eq_some_iff.1 here
  let read := (source.read files).run pool.left
  let begun : Pool α := ⟨read.2, pool.jobs.set i (.underWay read.1)⟩
  have first : step files sources work workers pool i = some begun :=
    step_waiting found here (by omega)
  have again : step files sources work workers begun i =
      some ⟨read.2, begun.jobs.set i (.done (read.1.map (work source)))⟩ :=
    step_underWay found (List.getElem?_set_self inside)
  refine ⟨read.2, read.1.map (work source), ?_⟩
  rw [List.foldlM_cons, first, Option.bind_eq_bind, Option.bind_some, List.foldlM_cons, again,
    List.set_set]
  rfl

/-- The schedule that works on the sources one after the other. -/
def sequential (order : List Nat) : List Nat := order.flatMap fun i => [i, i]

variable (files work workers) in
/-- Jobs that wait can be done one after the other, in any order. -/
theorem sequential_run {order : List Nat} (distinct : order.Nodup) (idle : pool.busy = 0)
    (size : pool.jobs.length = sources.length)
    (waiting : ∀ i ∈ order, pool.jobs[i]? = some .waiting) :
    ∃ next, (sequential order).foldlM (step files sources work workers) pool = some next ∧
      ∀ (j : Nat) job, next.jobs[j]? = some job →
        (j ∈ order ∧ job.result?.isSome) ∨ (j ∉ order ∧ pool.jobs[j]? = some job) := by
  induction order generalizing pool with
  | nil => exact ⟨pool, rfl, fun j job here => .inr ⟨by simp, here⟩⟩
  | cons i order ih =>
    rw [List.nodup_cons] at distinct
    obtain ⟨fresh, distinct⟩ := distinct
    have here := waiting i List.mem_cons_self
    obtain ⟨inside, -⟩ := List.getElem?_eq_some_iff.1 here
    obtain ⟨left, result, first⟩ := step_step files work workers idle
      (List.getElem?_eq_getElem (l := sources) (by omega)) here
    have still : ∀ j ∈ order, (pool.jobs.set i (.done result))[j]? = some .waiting := by
      intro j member
      have apart : i ≠ j := fun same => fresh (same ▸ member)
      rw [List.getElem?_set_ne apart]
      exact waiting j (List.mem_cons_of_mem i member)
    have idle_again : (Pool.mk left (pool.jobs.set i (.done result))).busy = 0 :=
      busy_set_done idle result
    obtain ⟨next, later, jobs⟩ := ih distinct idle_again (by simpa using size) still
    refine ⟨next, ?_, ?_⟩
    · rw [sequential, List.flatMap_cons, List.foldlM_append, first]
      exact later
    · intro j job at_j
      rcases jobs j job at_j with ⟨member, done⟩ | ⟨absent, before⟩
      · exact .inl ⟨List.mem_cons_of_mem i member, done⟩
      · rcases getElem?_set_cases before with ⟨rfl, rfl⟩ | ⟨apart, before⟩
        · exact .inl ⟨List.mem_cons_self, rfl⟩
        · exact .inr ⟨by simp [apart, absent], before⟩

theorem exists_results (done : ∀ job ∈ pool.jobs, job.result?.isSome) :
    ∃ results, pool.results? = some results := by
  simp only [results?_eq_some]
  generalize pool.jobs = jobs at done
  induction jobs with
  | nil => exact ⟨[], rfl⟩
  | cons job jobs ih =>
    rw [List.forall_mem_cons] at done
    obtain ⟨results, rfl⟩ := ih done.2
    cases job with
    | done result => exact ⟨result :: results, rfl⟩
    | waiting | underWay => cases done.1

variable (files work workers input) in
/-- Every order of the sources is the order of a schedule that finishes. -/
theorem sequential_finishes {order : List Nat} (perm : order.Perm (List.range sources.length)) :
    ∃ results, outcome? files sources work workers input (sequential order) = some results := by
  have member {i : Nat} : i ∈ order ↔ i < sources.length := perm.mem_iff.trans List.mem_range
  have waiting : ∀ i ∈ order, (start (α := α) sources input).jobs[i]? = some .waiting := by
    intro i listed
    simp [start, member.1 listed]
  have idle : (start (α := α) sources input).busy = 0 := by
    rw [busy, List.countP_eq_zero]
    intro job member
    obtain ⟨source, -, rfl⟩ := List.mem_map.1 member
    exact Bool.false_ne_true
  have size : (start (α := α) sources input).jobs.length = sources.length := List.length_map _
  obtain ⟨pool, ran, jobs⟩ := sequential_run files work workers
    (perm.nodup_iff.2 List.nodup_range) idle size waiting
  have done : ∀ job ∈ pool.jobs, job.result?.isSome := by
    intro job held
    obtain ⟨j, here⟩ := List.getElem?_of_mem held
    rcases jobs j job here with ⟨-, done⟩ | ⟨absent, before⟩
    · exact done
    · obtain ⟨inside, -⟩ := List.getElem?_eq_some_iff.1 before
      simp only [start, List.length_map] at inside
      exact absurd (member.2 inside) absent
  obtain ⟨results, finished⟩ := exists_results done
  exact ⟨results, Option.bind_eq_some_iff.2 ⟨pool, ran, finished⟩⟩

end Pool

/-- Of sources that hold the standard input once at most, one place is its own. -/
theorem Source.once_of_count {sources : List Source} (h : sources.count stdin ≤ 1) :
    Pool.Once sources := by
  induction sources with
  | nil =>
    intro i j first
    cases first
  | cons source rest ih =>
    intro i j first second
    by_cases here : source = stdin
    · subst here
      rw [List.count_cons_self] at h
      have absent : stdin ∉ rest := List.count_eq_zero.1 (by omega)
      have zero (k : Nat) (found : (stdin :: rest)[k]? = some stdin) : k = 0 := by
        cases k with
        | zero => rfl
        | succ k =>
          rw [List.getElem?_cons_succ] at found
          exact absurd (List.mem_of_getElem? found) absent
      rw [zero i first, zero j second]
    · rw [List.count_cons_of_ne here] at h
      cases i with
      | zero => exact absurd (Option.some.inj first) here
      | succ i =>
        cases j with
        | zero => exact absurd (Option.some.inj second) here
        | succ j => rw [ih h i j first second]

/-- However many workers there are, and whatever the order in which the jobs move on, the results
are those of working from left to right, and so is all that the run writes, logs and returns. Every
order of the sources is one that can come about. -/
theorem Request.schedule_independent {request : Request} {sources : List Source}
    (accepted : Source.ofArguments request.files request.expr = .ok sources) (files : Files)
    (input : Bytes) (workers : Workers) :
    (∀ schedule results,
      Pool.outcome? files sources (request.command.output (several sources)) workers.asked input
          schedule = some results →
      results = request.results files input sources ∧
        (workers.assemble = .ok () →
          request.reportOn sources results = request.runWith workers files input)) ∧
    ∀ order : List Nat, order.Perm (List.range sources.length) →
      Pool.outcome? files sources (request.command.output (several sources)) workers.asked input
        (Pool.sequential order) = some (request.results files input sources) := by
  have once := Source.once_of_count (Source.count_stdin_le accepted)
  have closed := results_eq accepted files input
  constructor
  · intro schedule results finished
    have same : results = request.results files input sources := by
      rw [closed]
      exact Pool.outcome?_eq once finished
    refine ⟨same, fun assembled => ?_⟩
    rw [same, runWith_assembled accepted assembled]
  · intro order perm
    obtain ⟨results, finished⟩ := Pool.sequential_finishes files
      (request.command.output (several sources)) workers.asked input perm
    rw [finished, Pool.outcome?_eq once finished, closed]

/-- Both sources are read by two workers, the second first, before work on either begins. -/
theorem Request.schedule_independent_overlap :
    let request : Request := ⟨.check, ["-", "a"], none, false⟩
    let workers : Workers := ⟨2, fun _ => .ok ()⟩
    Source.ofArguments ["-", "a"] none = .ok [.stdin, .file "a"] ∧
      ∃ found, Pool.outcome? [] [.stdin, .file "a"] (Command.check.output true) 2 [49]
          [1, 0, 0, 1] = some found ∧
        found = request.results [] [49] [.stdin, .file "a"] ∧
        request.reportOn [.stdin, .file "a"] found = request.runWith workers [] [49] := by
  intro request workers
  have accepted : Source.ofArguments ["-", "a"] none = .ok [.stdin, .file "a"] := rfl
  have independent := @schedule_independent request _ accepted [] [49] workers
  obtain ⟨same, reported⟩ := independent.1 [1, 0, 0, 1] _ rfl
  exact ⟨accepted, _, rfl, same, reported rfl⟩

end QueryInk
