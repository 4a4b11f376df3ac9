/-
# What a step does

A step looks once at what is kept. If that answers it, nothing else happens. Otherwise it makes one
call, and the run is accepted and kept, or it failed and what was kept stays. A refresh differs in one
point: it forgets first, so that nothing answers it and its failure leaves nothing kept.

The nine questions of a snapshot are no exception. The first of them settles the matter, and the others
find the default output kept.

Key definitions: `Call.judge`, `Runner.always`, `Step.call`, `Step.held?`, `Step.answer`, `Step.onFailure`.
Key theorems: `Step.run_of_held`, `Step.run_of_accepted`, `Step.run_of_failed`.
-/
import DriveHealth.Monitor.Bay

namespace DriveHealth

/-! ### Runs -/

/-- What the runner's answer to a call is worth: a run with a fatal status is a failure. -/
def Call.judge (c : Call) : Except Failure Run → Except Failure Run
  | .error e => .error e
  | .ok run => if isFatal run.status then .error (.fatalStatus c.text run.lines run.status) else .ok run

/-- Answers every call with the same run. -/
def Runner.always (run : Run) : Runner Unit := fun _ _ => (.ok run, ())

theorem Call.judge_eq_ok {c : Call} {answer : Except Failure Run} {run : Run} :
    c.judge answer = .ok run ↔ answer = .ok run ∧ isFatal run.status = false := by
  rcases answer with e | r
  · simp [judge]
  · by_cases hf : isFatal r.status = true
    · simp only [judge, hf, ↓reduceIte, reduceCtorEq, Except.ok.injEq, false_iff, not_and]
      rintro rfl
      simp [hf]
    · simp only [judge, hf, Bool.false_eq_true, ↓reduceIte, Except.ok.injEq, iff_self_and]
      rintro rfl
      simpa using hf

/-- Bits 0 and 1 are the fatal ones. -/
theorem isFatal_iff {status : UInt8} :
    isFatal status = true ↔ status.toNat.testBit 0 = true ∨ status.toNat.testBit 1 = true := by
  have hall : ∀ n ∈ List.range 256, isFatal (UInt8.ofNat n) = true ↔
      n.testBit 0 = true ∨ n.testBit 1 = true := by decide +kernel
  have hstatus := hall status.toNat (List.mem_range.mpr status.toNat_lt)
  rwa [UInt8.ofNat_toNat] at hstatus

namespace Monitor

/-- The call for a kind of output. -/
def callFor (m : Monitor) (kind : OutputKind) (nocheck typeHint : Option String) : Call :=
  ⟨m.program, Call.arguments kind nocheck typeHint m.device.path⟩

/-- What is logged of a run that is accepted. -/
def warnings (m : Monitor) (run : Run) : List Event :=
  if run.status ≠ 0 then [.statusNotFatal m.device.path run.status] else []

/-- What is logged when the size of the device gives no allowance. -/
def sizeWarning (m : Monitor) : List Event :=
  if (Health.sectorAllowance m.device.size).isNone then [.sizeUnknown m.device.path m.device.size] else []

/-! ### Fetching -/

variable {σ : Type} {runner : Runner σ} {m : Monitor} {s : Session σ} {kind : OutputKind}
  {nocheck typeHint : Option String} {c : Call} {lines : List String} {run : Run} {e : Failure}

theorem execute_of_accepted (hc : m.callFor kind nocheck typeHint = c)
    (h : c.judge (runner c s.memory).1 = .ok run) :
    m.execute runner kind nocheck typeHint s =
      (.ok run.lines, ⟨s.cache, (runner c s.memory).2, s.calls ++ [c], s.events ++ m.warnings run⟩) := by
  obtain ⟨hr, hf⟩ := Call.judge_eq_ok.mp h
  have hcall := Query.call_apply runner c s
  rw [hr] at hcall
  rw [execute, ← callFor, hc, Query.bind_of_ok hcall, if_neg (by simp [hf]), warnings]
  by_cases h0 : run.status = 0
  · rw [if_neg (fun hn => hn h0), if_neg (fun hn => hn h0), List.append_nil]
    rfl
  · rw [if_pos h0, if_pos h0, Query.bind_of_ok (Query.logEvent_apply _ _)]
    rfl

theorem execute_of_failed (hc : m.callFor kind nocheck typeHint = c)
    (h : c.judge (runner c s.memory).1 = .error e) :
    m.execute runner kind nocheck typeHint s =
      (.error e, ⟨s.cache, (runner c s.memory).2, s.calls ++ [c], s.events⟩) := by
  have hcall := Query.call_apply runner c s
  rcases hr : (runner c s.memory).1 with e' | run
  · rw [hr] at h hcall
    cases h
    rw [execute, ← callFor, hc, Query.bind_of_error hcall]
  · rw [hr] at h hcall
    rw [execute, ← callFor, hc, Query.bind_of_ok hcall]
    rw [Call.judge] at h
    split at h
    · rename_i hf
      cases h
      rw [if_pos hf]
      rfl
    · cases h

theorem fetchWith_of_held (h : s.cache.lookup kind = some lines) :
    m.fetchWith runner kind nocheck typeHint s = (.ok lines, s) := by
  rw [fetchWith, Query.bind_of_ok (Query.cached_apply s), if_neg (by simp [h])]
  show (Query.cached >>= fun cache => pure ((cache.lookup kind).getD [])) s = _
  rw [Query.bind_of_ok (Query.cached_apply s), h]
  rfl

theorem fetchWith_of_accepted (hs : s.cache.lookup kind = none) (hc : m.callFor kind nocheck typeHint = c)
    (h : c.judge (runner c s.memory).1 = .ok run) :
    m.fetchWith runner kind nocheck typeHint s =
      (.ok run.lines,
        ⟨.filled kind run.lines, (runner c s.memory).2, s.calls ++ [c], s.events ++ m.warnings run⟩) := by
  rw [fetchWith, Query.bind_of_ok (Query.cached_apply s), if_pos (by simp [hs]),
    Query.bind_of_ok (execute_of_accepted hc h), Query.bind_of_ok (Query.keep_apply _ _)]
  show (Query.cached >>= fun cache => pure ((cache.lookup kind).getD [])) _ = _
  rw [Query.bind_of_ok (Query.cached_apply _), Cache.lookup_filled]
  rfl

theorem fetchWith_of_failed (hs : s.cache.lookup kind = none) (hc : m.callFor kind nocheck typeHint = c)
    (h : c.judge (runner c s.memory).1 = .error e) :
    m.fetchWith runner kind nocheck typeHint s =
      (.error e, ⟨s.cache, (runner c s.memory).2, s.calls ++ [c], s.events⟩) := by
  rw [fetchWith, Query.bind_of_ok (Query.cached_apply s), if_pos (by simp [hs]),
    Query.bind_of_error (execute_of_failed hc h)]

/-- With nothing kept, a run that ends well gives the lines. -/
theorem fetch_always (m : Monitor) (kind : OutputKind) (h : isFatal run.status = false) :
    (m.fetch (.always run) kind ⟨.empty, (), [], []⟩).1 = .ok run.lines := by
  rw [fetch, fetchWith_of_accepted rfl rfl (Call.judge_eq_ok.mpr ⟨rfl, h⟩)]

theorem read_of_ok {α : Type} {s' : Session σ} (h : m.fetch runner .default s = (.ok lines, s'))
    (reading : List String → α) : m.read runner reading s = (.ok (reading lines), s') :=
  Query.bind_of_ok h _

theorem read_of_error {α : Type} {s' : Session σ} (h : m.fetch runner .default s = (.error e, s'))
    (reading : List String → α) : m.read runner reading s = (.error e, s') :=
  Query.bind_of_error h _

/-- A reading answers exactly when there is a default output, and from it. -/
theorem read_eq_ok {α : Type} {reading : List String → α} {a : α} :
    (m.read runner reading s).1 = .ok a ↔ ∃ lines, (m.fetch runner .default s).1 = .ok lines ∧ reading lines = a := by
  rcases h : m.fetch runner .default s with ⟨e | lines, s'⟩
  · simp [read_of_error h]
  · simp [read_of_ok h]

theorem read_of_held {α : Type} (h : s.cache.lookup .default = some lines) (reading : List String → α) :
    m.read runner reading s = (.ok (reading lines), s) :=
  read_of_ok (fetchWith_of_held h) reading

theorem overallStatus_apply (runner : Runner σ) (m : Monitor) (s : Session σ) :
    m.overallStatus runner s =
      m.read runner (Reading.verdict m.device.size) { s with events := s.events ++ m.sizeWarning } := by
  rw [overallStatus, sizeWarning]
  split
  · rw [Query.bind_of_ok (Query.logEvent_apply _ _)]
  · rw [List.append_nil]

end Monitor

/-! ### Snapshots -/

/-- The snapshot that the lines give. -/
def Reading.snapshot (m : Monitor) (lines : List String) : Snapshot where
  device := m.device.path
  size := m.device.size
  isSupported := isSupported lines
  isEnabled := isEnabled lines
  verdict := verdict m.device.size lines
  temperature := temperature lines
  power := powerCounters lines
  powerMode := powerMode lines
  information := Information.ofLines lines
  attributes := Attribute.table lines
  selfTests := SelfTest.log lines

variable {σ : Type} {runner : Runner σ} {m : Monitor} {s s' : Session σ} {lines : List String} {e : Failure}

/-- Once the first question has its lines, the other eight find them kept. -/
theorem Snapshot.collect_of_ok (h : m.fetch runner .default s = (.ok lines, s'))
    (hs : s'.cache.lookup .default = some lines) :
    collect runner m s =
      (.ok (Reading.snapshot m lines), { s' with events := s'.events ++ m.sizeWarning }) := by
  have hread {α : Type} (reading : List String → α) :
      m.read runner reading s' = (.ok (reading lines), s') := Monitor.read_of_held hs reading
  have hlater {α : Type} (reading : List String → α) :
      m.read runner reading { s' with events := s'.events ++ m.sizeWarning } =
        (.ok (reading lines), { s' with events := s'.events ++ m.sizeWarning }) :=
    Monitor.read_of_held (s := { s' with events := s'.events ++ m.sizeWarning }) hs reading
  have hverdict : m.overallStatus runner s' = (.ok (Reading.verdict m.device.size lines),
      { s' with events := s'.events ++ m.sizeWarning }) := by
    rw [Monitor.overallStatus_apply, hlater]
  unfold collect Monitor.isSupported Monitor.isEnabled Monitor.temperature Monitor.powerCounters
    Monitor.powerMode Monitor.information Monitor.attributes Monitor.selfTests
  rw [Query.bind_of_ok (Monitor.read_of_ok h Reading.isSupported),
    Query.bind_of_ok (hread Reading.isEnabled), Query.bind_of_ok hverdict,
    Query.bind_of_ok (hlater Reading.temperature), Query.bind_of_ok (hlater Reading.powerCounters),
    Query.bind_of_ok (Query.recover_of_ok (hlater Reading.powerMode) _),
    Query.bind_of_ok (hlater Information.ofLines), Query.bind_of_ok (hlater Attribute.table),
    Query.bind_of_ok (hlater SelfTest.log)]
  rfl

theorem Snapshot.collect_of_error (h : m.fetch runner .default s = (.error e, s')) :
    collect runner m s = (.error e, s') :=
  Query.bind_of_error (Monitor.read_of_error h _) _

/-! ### Steps -/

namespace Step

/-- The step forgets what is kept before it fetches. -/
def isRefresh : Step → Bool
  | refresh _ => true
  | _ => false

/-- The call that the step makes when it does not find its lines kept. -/
def call (m : Monitor) : Step → Call
  | fetchWith kind nocheck typeHint => m.callFor kind nocheck typeHint
  | q => m.callFor q.kind m.nocheck m.device.typeHint

/-- The lines that the step finds kept. -/
def held? (q : Step) (cache : Cache) : Option (List String) :=
  if q.isRefresh then none else cache.lookup q.kind

/-- What is kept after the step when its run failed. -/
def afterFailure (q : Step) (cache : Cache) : Cache := if q.isRefresh then .empty else cache

/-- What the lines answer. -/
def answer (m : Monitor) (lines : List String) : Step → Answer
  | fetch _ | fetchWith _ _ _ | refresh _ => .lines lines
  | attributes => .attributes (Attribute.table lines)
  | firstAttribute id => .attribute ((Attribute.table lines).find? fun a => a.id = id)
  | information => .information (Information.ofLines lines)
  | selfTests => .selfTests (SelfTest.log lines)
  | extendedText => .text (Text.joinLines lines)
  | temperature => .reading (Reading.temperature lines)
  | temperatureOr fallback => .temperature ((Reading.temperature lines).getD fallback)
  | powerCounters => .powerCounters (Reading.powerCounters lines)
  | powerMode => .text (Reading.powerMode lines)
  | overallStatus => .verdict (Reading.verdict m.device.size lines)
  | isSupported => .flag (Reading.isSupported lines)
  | isEnabled => .flag (Reading.isEnabled lines)
  | collect => .snapshot (Reading.snapshot m lines)

/-- What a failure answers: the power mode alone has a word for it. -/
def onFailure (e : Failure) : Step → Except Failure Answer
  | powerMode => .ok (.text Power.errorMode)
  | _ => .error e

/-- What the step logs before it fetches. -/
def opening (m : Monitor) : Step → List Event
  | overallStatus => m.sizeWarning
  | _ => []

/-- What the step logs when it has its lines. -/
def closing (m : Monitor) : Step → List Event
  | collect => m.sizeWarning
  | _ => []

/-- What the step logs of a failure. -/
def failureEvents (m : Monitor) (e : Failure) : Step → List Event
  | powerMode => [.powerModeFailed m.device.path e.message]
  | _ => []

/-- The fetch behind the step. -/
def fetchLines (runner : Runner σ) (m : Monitor) : Step → Query σ (List String)
  | fetchWith kind nocheck typeHint => m.fetchWith runner kind nocheck typeHint
  | refresh kind => m.refresh runner kind
  | q => m.fetch runner q.kind

variable {q : Step} {cache : Cache} {run : Run}

/-- A step's call is for the kind it asks for. -/
theorem exists_call_eq (m : Monitor) (q : Step) :
    ∃ nocheck typeHint, q.call m = m.callFor q.kind nocheck typeHint := by
  cases q with
  | fetchWith kind nocheck typeHint => exact ⟨nocheck, typeHint, rfl⟩
  | _ => exact ⟨m.nocheck, m.device.typeHint, rfl⟩

theorem isRefresh_of_held (h : q.held? cache = some lines) : q.isRefresh = false := by
  rw [held?] at h
  split at h
  · cases h
  · rename_i hq
    simpa using hq

theorem exists_filled_of_held (h : q.held? cache = some lines) : ∃ kind, cache = .filled kind lines := by
  rw [held?, isRefresh_of_held h] at h
  obtain ⟨kind, hcache, -⟩ := Cache.lookup_eq_some.mp h
  exact ⟨kind, hcache⟩

theorem afterFailure_of_not_refresh (h : q.isRefresh = false) : q.afterFailure cache = cache := by
  rw [afterFailure, if_neg (by simp [h])]

theorem fetchLines_of_held (h : q.held? s.cache = some lines) :
    q.fetchLines runner m s = (.ok lines, s) := by
  cases q with
  | refresh kind => cases h
  | _ => exact Monitor.fetchWith_of_held h

theorem fetchLines_of_accepted (hs : q.held? s.cache = none)
    (h : (q.call m).judge (runner (q.call m) s.memory).1 = .ok run) :
    q.fetchLines runner m s =
      (.ok run.lines, ⟨.filled q.kind run.lines, (runner (q.call m) s.memory).2, s.calls ++ [q.call m],
        s.events ++ m.warnings run⟩) := by
  cases q with
  | refresh kind =>
    rw [fetchLines, Monitor.refresh, Query.bind_of_ok (Query.keep_apply _ _)]
    exact Monitor.fetchWith_of_accepted rfl rfl h
  | _ => exact Monitor.fetchWith_of_accepted hs rfl h

theorem fetchLines_of_failed (hs : q.held? s.cache = none)
    (h : (q.call m).judge (runner (q.call m) s.memory).1 = .error e) :
    q.fetchLines runner m s =
      (.error e, ⟨q.afterFailure s.cache, (runner (q.call m) s.memory).2, s.calls ++ [q.call m],
        s.events⟩) := by
  cases q with
  | refresh kind =>
    rw [fetchLines, Monitor.refresh, Query.bind_of_ok (Query.keep_apply _ _)]
    exact Monitor.fetchWith_of_failed rfl rfl h
  | _ => exact Monitor.fetchWith_of_failed hs rfl h

/-- A step that gets its lines answers from them. -/
theorem run_of_ok (h : q.fetchLines runner m { s with events := s.events ++ q.opening m } = (.ok lines, s'))
    (hs : q = .collect → s'.cache.lookup .default = some lines) :
    q.run runner m s = (.ok (q.answer m lines), { s' with events := s'.events ++ q.closing m }) := by
  have hopen (hq : q.opening m = []) : q.fetchLines runner m s = (.ok lines, s') := by
    rwa [hq, List.append_nil] at h
  have hclose (hq : q.closing m = []) : { s' with events := s'.events ++ q.closing m } = s' := by
    rw [hq, List.append_nil]
  cases q with
  | overallStatus =>
    rw [hclose rfl]
    refine Query.bind_of_ok (a := Reading.verdict m.device.size lines) ?_ _
    rw [Monitor.overallStatus_apply]
    exact Monitor.read_of_ok h _
  | collect => exact Query.bind_of_ok (Snapshot.collect_of_ok (hopen rfl) (hs rfl)) _
  | powerMode =>
    rw [hclose rfl]
    exact Query.bind_of_ok (Query.recover_of_ok (Monitor.read_of_ok (hopen rfl) _) _) _
  | fetch _ | fetchWith _ _ _ | refresh _ =>
    rw [hclose rfl]
    exact Query.bind_of_ok (hopen rfl) _
  | extendedText =>
    rw [hclose rfl]
    exact Query.bind_of_ok (Query.bind_of_ok (hopen rfl) _) _
  | firstAttribute _ =>
    rw [hclose rfl]
    exact Query.bind_of_ok (Query.bind_of_ok (Monitor.read_of_ok (hopen rfl) Attribute.table) _) _
  | temperatureOr _ =>
    rw [hclose rfl]
    exact Query.bind_of_ok (Query.bind_of_ok (Monitor.read_of_ok (hopen rfl) Reading.temperature) _) _
  | _ =>
    rw [hclose rfl]
    exact Query.bind_of_ok (Monitor.read_of_ok (hopen rfl) _) _

/-- A step that gets no lines fails, but for the power mode. -/
theorem run_of_error
    (h : q.fetchLines runner m { s with events := s.events ++ q.opening m } = (.error e, s')) :
    q.run runner m s = (q.onFailure e, { s' with events := s'.events ++ q.failureEvents m e }) := by
  have hopen (hq : q.opening m = []) : q.fetchLines runner m s = (.error e, s') := by
    rwa [hq, List.append_nil] at h
  have hclose (hq : q.failureEvents m e = []) : { s' with events := s'.events ++ q.failureEvents m e } = s' := by
    rw [hq, List.append_nil]
  cases q with
  | overallStatus =>
    rw [hclose rfl]
    refine Query.bind_of_error ?_ _
    rw [Monitor.overallStatus_apply]
    exact Monitor.read_of_error h _
  | collect =>
    rw [hclose rfl]
    exact Query.bind_of_error (Snapshot.collect_of_error (hopen rfl)) _
  | powerMode =>
    refine Query.bind_of_ok (a := Power.errorMode) ?_ _
    exact Query.recover_of_error (Monitor.read_of_error (hopen rfl) _) _
  | fetch _ | fetchWith _ _ _ | refresh _ =>
    rw [hclose rfl]
    exact Query.bind_of_error (hopen rfl) _
  | extendedText =>
    rw [hclose rfl]
    exact Query.bind_of_error (Query.bind_of_error (hopen rfl) _) _
  | firstAttribute _ =>
    rw [hclose rfl]
    exact Query.bind_of_error (Query.bind_of_error (Monitor.read_of_error (hopen rfl) Attribute.table) _) _
  | temperatureOr _ =>
    rw [hclose rfl]
    have hreading := Monitor.read_of_error (hopen rfl) Reading.temperature
    exact Query.bind_of_error (Query.bind_of_error hreading _) _
  | _ =>
    rw [hclose rfl]
    exact Query.bind_of_error (Monitor.read_of_error (hopen rfl) _) _

/-- Lines kept that answer the step settle it without a call. -/
theorem run_of_held (h : q.held? s.cache = some lines) :
    q.run runner m s =
      (.ok (q.answer m lines), { s with events := s.events ++ q.opening m ++ q.closing m }) := by
  have hfetch : q.fetchLines runner m { s with events := s.events ++ q.opening m } =
      (.ok lines, { s with events := s.events ++ q.opening m }) := fetchLines_of_held h
  refine run_of_ok hfetch ?_
  rintro rfl
  exact h

/-- An accepted run is kept and answers the step. -/
theorem run_of_accepted (hs : q.held? s.cache = none)
    (h : (q.call m).judge (runner (q.call m) s.memory).1 = .ok run) :
    q.run runner m s =
      (.ok (q.answer m run.lines), ⟨.filled q.kind run.lines, (runner (q.call m) s.memory).2,
        s.calls ++ [q.call m], s.events ++ q.opening m ++ m.warnings run ++ q.closing m⟩) := by
  have hfetch := fetchLines_of_accepted (s := { s with events := s.events ++ q.opening m }) hs h
  refine run_of_ok hfetch ?_
  rintro rfl
  exact Cache.lookup_filled _ _

/-- A failed run changes nothing but what the runner remembers; a refresh has forgotten before it. -/
theorem run_of_failed (hs : q.held? s.cache = none)
    (h : (q.call m).judge (runner (q.call m) s.memory).1 = .error e) :
    q.run runner m s =
      (q.onFailure e, ⟨q.afterFailure s.cache, (runner (q.call m) s.memory).2, s.calls ++ [q.call m],
        s.events ++ q.opening m ++ q.failureEvents m e⟩) :=
  run_of_error (fetchLines_of_failed (s := { s with events := s.events ++ q.opening m }) hs h)

end Step

end DriveHealth
