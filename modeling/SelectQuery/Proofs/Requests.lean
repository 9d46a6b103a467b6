import SelectQuery.Proofs.Atomicity

/-!
The requests of a session. An executor takes down each statement before it answers, and its answer
may depend on all that it was handed before: rows, also ones that do not decode, or a failure. That
a run hands over one statement is not by construction: each way to run a query is written out with
the executor as an effect.

What is proved:
  1. `record_run`, `record_alone`: a run hands over one statement, the query as it then stands, and
     leaves the query but for the columns that it adds first; without an executor it fails.
  2. `record_step`, `record_script`: a script hands over the queries that its runs find, in order,
     also those of forks, and nothing else.
  3. `perform_record`: a session is the case of an executor that remembers nothing.
  4. `requests_of_session`: all of this together.
-/

namespace SelectQuery

open Edit (check)

/-! ## Executors that take down what they are handed -/

/-- A query as it is written, and the statements that the executor was handed so far. -/
structure Recording where
  query : QueryDraft
  seen : List Statement := []

/-- An executor whose answer may depend on the statements that it was handed before. -/
abbrev Recorder := List Statement → Executor

/-- The finished statement of a query. -/
def QueryDraft.compile (q : QueryDraft) : Statement := ⟨q.text, q.args, q.scope.table⟩

namespace Recording

variable {α β ρ : Type} (recorder : Option Recorder)

/-- An edit of the query alone. -/
def onQuery (x : Edit QueryDraft α) : Edit Recording α := fun r =>
  let (outcome, query) := x.perform r.query
  (outcome, { r with query })

/-- Hands a statement to the executor, which takes it down before it answers. -/
def execute (recorder : Recorder) (statement : Statement) : Edit Recording ResultSet := do
  let r ← get
  set { r with seen := r.seen ++ [statement] }
  check (recorder r.seen statement)

/-- The answer to the query as it stands. -/
def run : Edit Recording ResultSet := do
  let r ← get
  match recorder with
  | none => throw (.query .noExecutor)
  | some recorder => execute recorder r.query.compile

def first : Edit Recording (Option Row) := do
  return (← run recorder).first?

def all : Edit Recording (List Row) := do
  return (← run recorder).results

/-- A row decoded, if there is one. -/
def decode (decoder : Row → Option ρ) : Option Row → Except QueryFailure (Option ρ)
  | none => .ok none
  | some row => match decoder row with
    | some record => .ok (some record)
    | none => .error .decode

end Recording

variable {ρ : Type}

/-- A run of the query. The runs with columns first add these to the projection, for good. -/
def Ask.record (recorder : Option Recorder) : Ask ρ → Edit Recording (Reply ρ)
  | run => return .result (← Recording.run recorder)
  | firstRow => return .row (← Recording.first recorder)
  | allRows => return .rows (← Recording.all recorder)
  | firstRowOf columns => do
    Recording.onQuery (QueryDraft.select columns)
    return .row (← Recording.first recorder)
  | allRowsOf columns => do
    Recording.onQuery (QueryDraft.select columns)
    return .rows (← Recording.all recorder)
  | firstRecord decode => do
    let row ← Recording.first recorder
    return .record (← check (Recording.decode decode row))
  | allRecords decode => do
    let r ← Recording.run recorder
    return .records (← check (r.decodeAll decode))

namespace SessionStep

mutual

/-- A step of a session. A fork runs on a copy of the query and hands its statements to the same
executor. -/
def record (recorder : Option Recorder) : SessionStep ρ → Edit Recording Unit
  | build s => Recording.onQuery s.edit
  | ask a => do
    let _ ← a.record recorder
  | fork script => do
    let before ← get
    recordAll recorder script
    modify fun after => { after with query := before.query }
  | look => pure ()

/-- The steps of a session, whose failing steps are passed over. -/
def recordAll (recorder : Option Recorder) : List (SessionStep ρ) → Edit Recording Unit
  | [] => pure ()
  | step :: rest => do
    let _ ← (step.record recorder).observe
    recordAll recorder rest

end

/-! ## What is to be handed over -/

/-- The query after a step, whatever an executor answers. -/
def after (q : QueryDraft) : SessionStep ρ → QueryDraft
  | build s => (s.edit.perform q).2
  | ask a => a.left q
  | fork _ => q
  | look => q

mutual

/-- The queries that the runs in a step find, in order. -/
def asked (q : QueryDraft) : SessionStep ρ → List QueryDraft
  | ask a => [a.left q]
  | fork script => askedAll q script
  | build _ => []
  | look => []

def askedAll (q : QueryDraft) : List (SessionStep ρ) → List QueryDraft
  | [] => []
  | step :: rest => step.asked q ++ askedAll (step.after q) rest

end

mutual

def runs : SessionStep ρ → Nat
  | ask _ => 1
  | fork script => runsAll script
  | build _ => 0
  | look => 0

def runsAll : List (SessionStep ρ) → Nat
  | [] => 0
  | step :: rest => step.runs + runsAll rest

end

mutual

theorem length_asked (q : QueryDraft) : (step : SessionStep ρ) → (step.asked q).length = step.runs
  | ask _ => rfl
  | fork script => length_askedAll q script
  | build _ => rfl
  | look => rfl

theorem length_askedAll (q : QueryDraft) :
    (script : List (SessionStep ρ)) → (askedAll q script).length = runsAll script
  | [] => rfl
  | step :: rest => by
    rw [askedAll, runsAll, List.length_append, length_asked q step, length_askedAll _ rest]

end

end SessionStep

/-! ## Runs -/

namespace Recording

variable {α β : Type}

/-- On each recording the edit hands over the query as it stands, once, and keeps the query. It does
so also where it fails. -/
def RequestsOnce (x : Edit Recording α) : Prop :=
  ∀ r, (x.perform r).2 = { r with seen := r.seen ++ [r.query.compile] }

/-- On each recording the edit fails for want of an executor and changes nothing. -/
def Refuses (x : Edit Recording α) : Prop :=
  ∀ r, x.perform r = (.error (.query .noExecutor), r)

theorem perform_onQuery (x : Edit QueryDraft α) (r : Recording) :
    (onQuery x).perform r = ((x.perform r.query).1, { r with query := (x.perform r.query).2 }) :=
  rfl

theorem requestsOnce_run (recorder : Recorder) : RequestsOnce (run (some recorder)) := by
  intro r
  simp only [run, execute, Edit.perform_bind, Edit.perform_get, Edit.perform_set,
    Edit.perform_check]

/-- What is done with the answer afterwards hands over nothing. -/
theorem requestsOnce_bind {x : Edit Recording α} {f : α → Edit Recording β} (once : RequestsOnce x)
    (later : ∀ a, (f a).Keeps) : RequestsOnce (x >>= f) := by
  intro r
  have handed := once r
  rw [Edit.perform_bind]
  rcases h : x.perform r with ⟨_ | a, t⟩
  · rw [h] at handed
    exact handed
  · rw [h] at handed
    exact (later a t).trans handed

theorem refuses_run : Refuses (run none) := fun _ => rfl

theorem refuses_bind {x : Edit Recording α} (h : Refuses x) (f : α → Edit Recording β) :
    Refuses (x >>= f) := by
  intro r
  rw [Edit.perform_bind, h]

theorem requestsOnce_first (recorder : Recorder) : RequestsOnce (first (some recorder)) :=
  requestsOnce_bind (requestsOnce_run recorder) fun _ => Edit.keeps_pure _

theorem requestsOnce_all (recorder : Recorder) : RequestsOnce (all (some recorder)) :=
  requestsOnce_bind (requestsOnce_run recorder) fun _ => Edit.keeps_pure _

end Recording

namespace Ask

open Recording

theorem perform_select (columns : List String) (r : Recording) :
    (onQuery (QueryDraft.select columns)).perform r =
      (.ok (), { r with query := { r.query with columns := r.query.columns ++ columns } }) := rfl

/-- A run hands over one statement, the query with the columns that the run adds first, and leaves
that query; whatever the executor answers. -/
theorem record_run (recorder : Recorder) (a : Ask ρ) (r : Recording) :
    ((a.record (some recorder)).perform r).2 =
      ⟨a.left r.query, r.seen ++ [(a.left r.query).compile]⟩ := by
  have row := requestsOnce_bind (requestsOnce_first recorder) fun row =>
    Edit.keeps_pure (Reply.row row : Reply ρ)
  have rows := requestsOnce_bind (requestsOnce_all recorder) fun rows =>
    Edit.keeps_pure (Reply.rows rows : Reply ρ)
  cases a with
  | run => exact requestsOnce_bind (requestsOnce_run recorder) (fun _ => Edit.keeps_pure _) r
  | firstRow => exact row r
  | allRows => exact rows r
  | firstRowOf columns =>
    rw [record, Edit.perform_bind, perform_select]
    exact row _
  | allRowsOf columns =>
    rw [record, Edit.perform_bind, perform_select]
    exact rows _
  | firstRecord decode =>
    refine requestsOnce_bind (requestsOnce_first recorder) (fun row => ?_) r
    exact Edit.keeps_bind (Edit.keeps_check _) fun _ => Edit.keeps_pure _
  | allRecords decode =>
    refine requestsOnce_bind (requestsOnce_run recorder) (fun result => ?_) r
    exact Edit.keeps_bind (Edit.keeps_check _) fun _ => Edit.keeps_pure _

/-- Without an executor a run fails, and leaves the query with the columns that it adds first. -/
theorem record_alone (a : Ask ρ) (r : Recording) :
    (a.record none).perform r =
      (.error (.query .noExecutor), { r with query := a.left r.query }) := by
  have row := refuses_bind (refuses_bind refuses_run fun result => pure result.first?) fun row =>
    pure (Reply.row row : Reply ρ)
  have rows := refuses_bind (refuses_bind refuses_run fun result => pure result.results) fun rows =>
    pure (Reply.rows rows : Reply ρ)
  cases a with
  | run | firstRow | allRows | firstRecord _ | allRecords _ => rfl
  | firstRowOf columns =>
    rw [record, Edit.perform_bind, perform_select]
    exact row _
  | allRowsOf columns =>
    rw [record, Edit.perform_bind, perform_select]
    exact rows _

end Ask

/-! ## Scripts -/

namespace SessionStep

variable (recorder : Recorder)

mutual

/-- A step hands over the queries that its runs find, and leaves the query that it leaves whatever
the executor answers. -/
theorem record_step (r : Recording) : (step : SessionStep ρ) →
    ((step.record (some recorder)).perform r).2 =
      ⟨step.after r.query, r.seen ++ (step.asked r.query).map QueryDraft.compile⟩
  | build s => by
    rw [record, Recording.perform_onQuery, asked, List.map_nil, List.append_nil, after]
  | ask a => by
    rw [record, asked, List.map_singleton, after, ← a.record_run recorder r, Edit.perform_bind]
    rcases (a.record (some recorder)).perform r with ⟨_ | _, _⟩ <;> rfl
  | fork script => by
    obtain ⟨done, handed⟩ := record_script r script
    rw [record, asked, after]
    simp only [Edit.perform_bind, Edit.perform_get]
    rcases h : (recordAll (some recorder) script).perform r with ⟨_ | _, t⟩
    · rw [h] at done
      cases done
    · rw [h] at handed
      simp only [Edit.perform_modify]
      rw [show t.seen = _ from congrArg Recording.seen handed]
  | look => by rw [record, Edit.perform_pure, asked, List.map_nil, List.append_nil, after]

/-- A script hands over the queries that its runs find, in order. -/
theorem record_script (r : Recording) : (script : List (SessionStep ρ)) →
    ((recordAll (some recorder) script).perform r).1 = .ok () ∧
      ((recordAll (some recorder) script).perform r).2 = ⟨script.foldl after r.query,
        r.seen ++ (askedAll r.query script).map QueryDraft.compile⟩
  | [] => by
    rw [recordAll, Edit.perform_pure, askedAll, List.map_nil, List.append_nil]
    exact ⟨rfl, rfl⟩
  | step :: rest => by
    have here := record_step r step
    have later := record_script ((step.record (some recorder)).perform r).2 rest
    rw [here] at later
    rw [recordAll]
    simp only [Edit.perform_bind, Edit.perform_observe, here]
    refine ⟨later.1, later.2.trans ?_⟩
    rw [askedAll, List.map_append, List.append_assoc, List.foldl_cons]

end

end SessionStep

/-! ## Sessions -/

/-- An executor that remembers nothing. -/
abbrev forgetful (executor : Option Executor) : Option Recorder :=
  executor.map fun answer _ => answer

namespace Recording

variable {α β : Type} {r : Recording} {q : QueryDraft}

theorem fst_bind {x : Edit Recording α} {y : Edit QueryDraft α} {f : α → Edit Recording β}
    {g : α → Edit QueryDraft β} (same : (x.perform r).1 = (y.perform q).1)
    (later : ∀ a r q, ((f a).perform r).1 = ((g a).perform q).1) :
    ((x >>= f).perform r).1 = ((y >>= g).perform q).1 := by
  rw [Edit.perform_bind, Edit.perform_bind]
  rcases hx : x.perform r with ⟨_ | a, r'⟩ <;> rcases hy : y.perform q with ⟨_ | b, q'⟩ <;>
    rw [hx, hy] at same <;> cases same
  · rfl
  · exact later a r' q'

theorem fst_run (executor : Option Executor) (r : Recording) :
    ((run (forgetful executor)).perform r).1 = ((QueryDraft.ask executor).perform r.query).1 := by
  cases executor with
  | none => rfl
  | some answer =>
    simp only [run, execute, Option.map_some, QueryDraft.ask, Edit.perform_bind, Edit.perform_get,
      Edit.perform_set, Edit.perform_check, QueryDraft.compile]

theorem decode_first {ρ : Type} (decoder : Row → Option ρ) (result : ResultSet) :
    decode decoder result.first? = result.decodeFirst decoder := by
  rw [ResultSet.decodeFirst]
  cases result.first? with
  | none => rfl
  | some row => cases h : decoder row <;> simp [decode, h]

end Recording

section Sessions

open Recording (fst_bind fst_run)

variable (executor : Option Executor)

/-- Before an executor that remembers nothing a run has the outcome that it has otherwise. -/
theorem Ask.fst_record (a : Ask ρ) (r : Recording) :
    ((a.record (forgetful executor)).perform r).1 = ((a.edit executor).perform r.query).1 := by
  cases a with
  | run => exact fst_bind (fst_run executor r) fun _ _ _ => rfl
  | firstRow | allRows =>
    simp only [record, edit, Recording.first, Recording.all, bind_assoc, pure_bind]
    exact fst_bind (fst_run executor r) fun _ _ _ => rfl
  | firstRowOf columns | allRowsOf columns =>
    simp only [record, edit, Recording.first, Recording.all, bind_assoc, pure_bind]
    rw [Edit.perform_bind, perform_select]
    exact fst_bind (fst_run executor _) fun _ _ _ => rfl
  | firstRecord decode =>
    simp only [record, edit, Recording.first, bind_assoc, pure_bind, Recording.decode_first]
    refine fst_bind (fst_run executor r) fun result _ _ => ?_
    exact fst_bind (by rw [Edit.perform_check, Edit.perform_check]) fun _ _ _ => rfl
  | allRecords decode =>
    refine fst_bind (fst_run executor r) fun result _ _ => ?_
    exact fst_bind (by rw [Edit.perform_check, Edit.perform_check]) fun _ _ _ => rfl

theorem Ask.left_draft (a : Ask ρ) (q : Query) : a.left q.draft = (a.prepare q).draft := by
  cases a <;> rfl

theorem QueryDraft.compile_draft (q : Query) : q.draft.compile = q.statement := by
  rw [compile, text_draft, args_draft]
  rfl

namespace SessionStep

mutual

/-- Before an executor that remembers nothing, a step has the outcome of the session, leaves the
query of the session and hands over the statements of the session. -/
theorem perform_record (s : Session) : (step : SessionStep ρ) →
    (step.record (forgetful executor)).perform ⟨s.query.draft, s.seen⟩ =
      (match (step.perform executor s).1.failure? with
        | none => .ok ()
        | some e => .error e,
        ⟨(step.perform executor s).2.query.draft, (step.perform executor s).2.seen⟩)
  | build step => by
    rw [record, Recording.perform_onQuery, QueryDraft.perform_edit_query, perform]
    cases s.query.attempt step with
    | mk failure q => cases failure <;> rfl
  | ask a => by
    have outcome := a.fst_record executor ⟨s.query.draft, s.seen⟩
    rw [Ask.perform_edit] at outcome
    have handed : ((a.record (forgetful executor)).perform ⟨s.query.draft, s.seen⟩).2 =
        ⟨(a.prepare s.query).draft,
          if executor.isSome then s.seen ++ [(a.prepare s.query).statement] else s.seen⟩ := by
      cases executor with
      | none => rw [forgetful, Option.map_none, a.record_alone, a.left_draft]; rfl
      | some answer =>
        rw [forgetful, Option.map_some, a.record_run, a.left_draft, QueryDraft.compile_draft]
        rfl
    have whole : (a.record (forgetful executor)).perform ⟨s.query.draft, s.seen⟩ = (_, _) :=
      Prod.ext outcome handed
    rw [record, Edit.perform_bind, whole, perform]
    cases a.reply (a.prepare s.query) executor <;> rfl
  | fork script => by
    have done := perform_recordAll s script
    rw [record, perform]
    simp only [Edit.perform_bind, Edit.perform_get, done, Edit.perform_modify]
    rfl
  | look => rfl

theorem perform_recordAll (s : Session) : (script : List (SessionStep ρ)) →
    (recordAll (forgetful executor) script).perform ⟨s.query.draft, s.seen⟩ =
      (.ok (),
        ⟨(performAll executor s script).2.query.draft, (performAll executor s script).2.seen⟩)
  | [] => rfl
  | step :: rest => by
    have here := perform_record s step
    have later := perform_recordAll (step.perform executor s).2 rest
    rw [recordAll, performAll]
    simp only [Edit.perform_bind, Edit.perform_observe, here]
    exact later

end

end SessionStep

end Sessions

/-- A run of a query hands one statement to the executor, the text, the values and the base table of
the query with the columns that the run adds first; also where the executor fails or a row does not
decode. It leaves that query, and without an executor fails. No other step hands over anything, so
the statements of a script are the queries that its runs find, in order, also those of forks. A
session is the case of an executor that remembers nothing. -/
theorem requests_of_session :
    (∀ (recorder : Recorder) (a : Ask ρ) (r : Recording),
      ((a.record (some recorder)).perform r).2 =
        ⟨a.left r.query, r.seen ++ [(a.left r.query).compile]⟩) ∧
    (∀ (a : Ask ρ) (r : Recording),
      (a.record none).perform r =
        (.error (.query .noExecutor), { r with query := a.left r.query })) ∧
    (∀ (recorder : Option Recorder) (s : QueryStep) (r : Recording),
      (((.build s : SessionStep ρ).record recorder).perform r).2.seen = r.seen ∧
        (((.look : SessionStep ρ).record recorder).perform r).2 = r) ∧
    (∀ (recorder : Recorder) (script : List (SessionStep ρ)) (r : Recording),
      ((SessionStep.recordAll (some recorder) script).perform r).2 =
          ⟨script.foldl SessionStep.after r.query,
            r.seen ++ (SessionStep.askedAll r.query script).map QueryDraft.compile⟩ ∧
        (SessionStep.askedAll r.query script).length = SessionStep.runsAll script) ∧
    ∀ (executor : Option Executor) (script : List (SessionStep ρ)) (s : Session),
      (SessionStep.recordAll (forgetful executor) script).perform ⟨s.query.draft, s.seen⟩ =
        (.ok (), ⟨(SessionStep.performAll executor s script).2.query.draft,
          (SessionStep.performAll executor s script).2.seen⟩) := by
  refine ⟨fun recorder a r => a.record_run recorder r, fun a r => a.record_alone r, ?_, ?_, ?_⟩
  · intro recorder s r
    rw [SessionStep.record, SessionStep.record, Recording.perform_onQuery]
    exact ⟨rfl, rfl⟩
  · intro recorder script r
    exact ⟨(SessionStep.record_script recorder r script).2,
      SessionStep.length_askedAll r.query script⟩
  · intro executor script s
    exact SessionStep.perform_recordAll executor s script

end SelectQuery
