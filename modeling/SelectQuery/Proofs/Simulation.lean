import SelectQuery.Proofs.Noninterference

/-!
The same script under two oracles. Where the one oracle answers each request of a script as the
other does, up to a change of the test that it lets pass and a change of its errors, the same holds
of the steps of the script at any depth, and of the query that is built.

What is proved:
  1. `conditions_follow`, `bodyConditions_follow`: if requests are answered so, steps of clauses add
     the same conditions, with their tests changed.
  2. `trail_follow`: the same steps fail in both runs, at any depth, with errors that correspond.
  3. `build_follow`: the same for scripts of queries, and the one query is the other with its tests
     changed. `build_same`: without a change the queries are the same.
-/

namespace SelectQuery

/-- The second outcome follows the first: its result is that of the first, changed by `f`, and its
failure is one that stands in `blame` to that of the first. -/
inductive Follows {ε α β : Type} (blame : ε → ε → Prop) (f : α → β) :
    Except ε α → Except ε β → Prop where
  | ok (a : α) : Follows blame f (.ok a) (.ok (f a))
  | error {e e' : ε} (blamed : blame e e') : Follows blame f (.error e) (.error e')

namespace Follows

variable {ε α α' β β' : Type} {blame : ε → ε → Prop} {f : α → β} {g : α' → β'} {x : Except ε α}
  {y : Except ε β}

theorem refl (same : ∀ e, blame e e) (x : Except ε α) : Follows blame id x x := by
  cases x with
  | ok a => exact .ok a
  | error e => exact .error (same e)

theorem bind {k : α → Except ε α'} {k' : β → Except ε β'} (h : Follows blame f x y)
    (later : ∀ a, Follows blame g (k a) (k' (f a))) : Follows blame g (x >>= k) (y >>= k') := by
  cases h with
  | ok a => exact later a
  | error blamed => exact .error blamed

theorem map {p : α → α'} {p' : β → β'} (h : Follows blame f x y)
    (changed : ∀ a, p' (f a) = g (p a)) : Follows blame g (x.map p) (y.map p') := by
  cases h with
  | ok a =>
    show Follows blame g (.ok (p a)) (.ok (p' (f a)))
    rw [changed]
    exact .ok (p a)
  | error blamed => exact .error blamed

end Follows

/-- Errors of steps correspond if they are the same, or errors of checks that do. -/
inductive StepFailure.Blamed (blame : QueryFailure → QueryFailure → Prop) :
    StepFailure → StepFailure → Prop where
  | same (e : StepFailure) : Blamed blame e e
  | query {e e' : QueryFailure} (blamed : blame e e') : Blamed blame (.query e) (.query e')

theorem Follows.lift {α β : Type} {blame : QueryFailure → QueryFailure → Prop} {f : α → β}
    {x : Except QueryFailure α} {y : Except QueryFailure β} (h : Follows blame f x y) :
    Follows (StepFailure.Blamed blame) f (x.mapError .query) (y.mapError .query) := by
  cases h with
  | ok a => exact .ok a
  | error blamed => exact .error (.query blamed)

/-! ## Trails -/

namespace Trail

mutual

/-- All steps of the trail, at any depth, have the property. -/
def All {α : Type} (p : α → Prop) : Trail α → Prop
  | node own inner => p own ∧ AllIn p inner

def AllIn {α : Type} (p : α → Prop) : List (Trail α) → Prop
  | [] => True
  | t :: rest => t.All p ∧ AllIn p rest

end

section Decidable

variable {α : Type} (p : α → Prop) [DecidablePred p]

mutual

def decidableAll : (t : Trail α) → Decidable (t.All p)
  | node own inner =>
    have := decidableAllIn inner
    inferInstanceAs (Decidable (p own ∧ AllIn p inner))

def decidableAllIn : (ts : List (Trail α)) → Decidable (AllIn p ts)
  | [] => .isTrue trivial
  | t :: rest =>
    have := decidableAll t
    have := decidableAllIn rest
    inferInstanceAs (Decidable (t.All p ∧ AllIn p rest))

end

instance (ts : List (Trail α)) : Decidable (AllIn p ts) := decidableAllIn p ts

end Decidable

/-- Trails of the same shape, whose steps are related one by one. -/
inductive Matches {α β : Type} (related : α → β → Prop) : Trail α → Trail β → Prop where
  | node {own : α} {own' : β} {inner : List (Trail α)} {inner' : List (Trail β)}
    (here : related own own') (each : List.Forall₂ (Matches related) inner inner') :
    Matches related (.node own inner) (.node own' inner')

section Matches

variable {α β : Type} {related : α → β → Prop} {p : α → Prop} {q : β → Prop}

mutual

/-- A property that goes from the steps of one trail to those of the other, at any depth. -/
theorem all_of_matches (carried : ∀ a b, related a b → p a → q b) : (t : Trail α) →
    {t' : Trail β} → t.Matches related t' → t.All p → t'.All q
  | .node own inner, .node own' _, .node here each, ⟨holds, below⟩ =>
    ⟨carried own own' here holds, allIn_of_matches carried inner each below⟩

theorem allIn_of_matches (carried : ∀ a b, related a b → p a → q b) : (ts : List (Trail α)) →
    {ts' : List (Trail β)} → List.Forall₂ (Matches related) ts ts' → AllIn p ts → AllIn q ts'
  | [], _, .nil, _ => trivial
  | t :: ts, _, .cons first later, ⟨here, rest⟩ =>
    ⟨all_of_matches carried t first here, allIn_of_matches carried ts later rest⟩

end

end Matches

end Trail

/-! ## Changed tests -/

namespace Condition

mutual

/-- The condition with its tests changed. -/
def mapTests (f : Test → Test) : Condition → Condition
  | test link t => test link (f t)
  | group link parts => group link (mapAllTests f parts)

def mapAllTests (f : Test → Test) : List Condition → List Condition
  | [] => []
  | c :: rest => c.mapTests f :: mapAllTests f rest

end

theorem mapAllTests_append (f : Test → Test) (cs ds : List Condition) :
    mapAllTests f (cs ++ ds) = mapAllTests f cs ++ mapAllTests f ds := by
  induction cs with
  | nil => rfl
  | cons c cs ih => simp only [List.cons_append, mapAllTests, ih]

theorem isEmpty_mapAllTests (f : Test → Test) (cs : List Condition) :
    (mapAllTests f cs).isEmpty = cs.isEmpty := by
  cases cs <;> rfl

mutual

@[simp] theorem mapTests_id : (c : Condition) → c.mapTests id = c
  | test _ _ => rfl
  | group link parts => by rw [mapTests, mapAllTests_id parts]

@[simp] theorem mapAllTests_id : (cs : List Condition) → mapAllTests id cs = cs
  | [] => rfl
  | c :: rest => by rw [mapAllTests, mapTests_id c, mapAllTests_id rest]

end

end Condition

def Join.mapTests (f : Test → Test) (j : Join) : Join :=
  { j with on := Condition.mapAllTests f j.on }

/-- The query under another oracle, with its tests changed. -/
def Query.under (oracle : Option Oracle) (f : Test → Test) (q : Query) : Query :=
  { q with
    scope := ⟨q.table, oracle⟩
    joins := q.joins.map (Join.mapTests f)
    wheres := Condition.mapAllTests f q.wheres }

theorem Query.under_id (oracle : Option Oracle) (q : Query) :
    q.under oracle id = { q with scope := ⟨q.table, oracle⟩ } := by
  have same (j : Join) : j.mapTests id = j := by rw [Join.mapTests, Condition.mapAllTests_id]
  rw [under, List.map_id'' same, Condition.mapAllTests_id]

/-- Drafts with the same joins, conditions and values, the same text and the same literal form. -/
structure QueryDraft.Same (a b : QueryDraft) : Prop where
  joins : a.joins = b.joins
  fragments : a.wheres.fragments = b.wheres.fragments
  bindings : a.wheres.bindings = b.wheres.bindings
  text : a.text = b.text
  args : a.args = b.args
  sql : a.sql = b.sql

/-! ## Steps of clauses -/

section Answers

variable (blame : QueryFailure → QueryFailure → Prop) (f : Test → Test)

/-- The request has an answer in the second scope that follows the one in the first. -/
def Request.Answered (scope scope' : Scope) (r : Request) : Prop :=
  Follows blame (Option.map f) (scope.test? r) (scope'.test? r)

/-- The requests of a step have answers under the second oracle that follow those in the scope. -/
def QueryStep.Answered (scope : Scope) (oracle : Option Oracle) : QueryStep → Prop
  | join _ table on => Follows blame f (on.test { scope with table }) (on.test ⟨table, oracle⟩)
  | joinGroup _ table _ body =>
    ∀ r ∈ ClauseStep.allRequests body, r.Answered blame f { scope with table } ⟨table, oracle⟩
  | filter s => ∀ r ∈ s.requests, r.Answered blame f scope ⟨scope.table, oracle⟩
  | _ => True

end Answers

section Simulation

variable {blame : QueryFailure → QueryFailure → Prop} {f : Test → Test}

namespace ClauseStep

variable {scope scope' : Scope}

mutual

/-- A step whose requests are answered alike adds the same conditions, with their tests changed. -/
theorem conditions_follow : (s : ClauseStep) →
    (∀ r ∈ s.requests, r.Answered blame f scope scope') →
    Follows (StepFailure.Blamed blame) (Condition.mapAllTests f) (s.conditions scope)
      (s.conditions scope')
  | add link request, answered => by
    have here : request.Answered blame f scope scope' :=
      answered request (List.mem_singleton_self request)
    rw [conditions_add, conditions_add]
    refine (Follows.map here ?_).lift
    intro t?
    cases t? <;> rfl
  | group link tolerant body, answered => by
    rw [conditions_group, conditions_group]
    refine (bodyConditions_follow tolerant body answered).map ?_
    intro parts
    rw [ofParts, ofParts, Condition.isEmpty_mapAllTests]
    cases parts <;> rfl
  | fail, _ => .error (.same _)
  | misspelt _, _ => .error (.same _)
  | look, _ => .ok []

theorem bodyConditions_follow (tolerant : Bool) : (body : List ClauseStep) →
    (∀ r ∈ allRequests body, r.Answered blame f scope scope') →
    Follows (StepFailure.Blamed blame) (Condition.mapAllTests f)
      (bodyConditions scope tolerant body) (bodyConditions scope' tolerant body)
  | [], _ => .ok []
  | s :: rest, answered => by
    have here := conditions_follow s fun r hr => answered r (List.mem_append_left _ hr)
    have later := bodyConditions_follow tolerant rest fun r hr =>
      answered r (List.mem_append_right _ hr)
    rw [bodyConditions, bodyConditions]
    generalize s.conditions scope = x at here ⊢
    generalize s.conditions scope' = y at here ⊢
    cases here with
    | ok added => exact later.map fun others => (Condition.mapAllTests_append f added others).symm
    | @error e _ blamed =>
      cases blamed with
      -- A tolerant group goes on in both runs, any other fails in both.
      | query blamed => cases tolerant with
        | true => exact later
        | false => exact .error (.query blamed)
      | same => cases e with
        | query e => cases tolerant with
          | true => exact later
          | false => exact .error (.same (.query e))
        | keyword e => exact .error (.same (.keyword e))

end

theorem failure?_follow {s : ClauseStep}
    (answered : ∀ r ∈ s.requests, r.Answered blame f scope scope') :
    Option.Rel (StepFailure.Blamed blame) (s.failure? scope) (s.failure? scope') := by
  have here := conditions_follow s answered
  unfold failure?
  generalize s.conditions scope = x at here ⊢
  generalize s.conditions scope' = y at here ⊢
  cases here with
  | ok _ => exact .none
  | error blamed => exact .some blamed

theorem added_follow {s : ClauseStep}
    (answered : ∀ r ∈ s.requests, r.Answered blame f scope scope') :
    s.added scope' = Condition.mapAllTests f (s.added scope) := by
  have here := conditions_follow s answered
  unfold added
  generalize s.conditions scope = x at here ⊢
  generalize s.conditions scope' = y at here ⊢
  cases here <;> rfl

mutual

/-- Of a step whose requests are answered alike the same steps fail, at any depth. -/
theorem trail_follow : (s : ClauseStep) →
    (∀ r ∈ s.requests, r.Answered blame f scope scope') →
    Trail.Matches (Option.Rel (StepFailure.Blamed blame)) (s.trail id scope) (s.trail id scope')
  | group link tolerant body, answered => by
    rw [trail, trail]
    exact .node (failure?_follow answered) (bodyTrails_follow tolerant body answered)
  | add _ _, answered => .node (failure?_follow answered) .nil
  | fail, answered => .node (failure?_follow answered) .nil
  | misspelt _, answered => .node (failure?_follow answered) .nil
  | look, answered => .node (failure?_follow answered) .nil

theorem bodyTrails_follow (tolerant : Bool) : (body : List ClauseStep) →
    (∀ r ∈ allRequests body, r.Answered blame f scope scope') →
    List.Forall₂ (Trail.Matches (Option.Rel (StepFailure.Blamed blame)))
      (bodyTrails id scope tolerant body) (bodyTrails id scope' tolerant body)
  | [], _ => .nil
  | s :: rest, answered => by
    have answered_first : ∀ r ∈ s.requests, r.Answered blame f scope scope' := fun r hr =>
      answered r (List.mem_append_left _ hr)
    have first := trail_follow s answered_first
    have later := bodyTrails_follow tolerant rest fun r hr =>
      answered r (List.mem_append_right _ hr)
    have failure := failure?_follow answered_first
    rw [bodyTrails, bodyTrails]
    refine .cons first ?_
    generalize s.failure? scope = x at failure ⊢
    generalize s.failure? scope' = y at failure ⊢
    cases failure with
    | none => exact later
    | @some e _ blamed =>
      cases blamed with
      | query _ => cases tolerant with
        | true => exact later
        | false => exact .nil
      | same => cases e with
        | query _ => cases tolerant with
          | true => exact later
          | false => exact .nil
        | keyword _ => exact .nil

end

end ClauseStep

/-! ## Steps of queries -/

namespace Query

variable {oracle : Option Oracle}

/-- A join on what was built in both runs is made in both or in none. -/
theorem pushed_follow (oracle : Option Oracle) (q : Query) (kind : JoinKind) (table : String)
    {x y : Except StepFailure (List Condition)}
    (h : Follows (StepFailure.Blamed blame) (Condition.mapAllTests f) x y) :
    Option.Rel (StepFailure.Blamed blame) (q.pushed kind table x).1
        ((q.under oracle f).pushed kind table y).1 ∧
      ((q.under oracle f).pushed kind table y).2 = (q.pushed kind table x).2.under oracle f := by
  cases h with
  | ok on =>
    refine ⟨.none, ?_⟩
    simp only [pushed, under, List.map_append, List.map_cons, List.map_nil, Join.mapTests,
      Query.table]
  | error blamed => exact ⟨.some blamed, rfl⟩

/-- A step whose requests are answered alike fails in both runs or in none, so do the steps in it,
and the queries keep up. -/
theorem attempt_follow (q : Query) (s : QueryStep) (answered : s.Answered blame f q.scope oracle) :
    Option.Rel (StepFailure.Blamed blame) (q.attempt s).1 ((q.under oracle f).attempt s).1 ∧
      List.Forall₂ (Trail.Matches (Option.Rel (StepFailure.Blamed blame)))
        (s.innerTrails id q.scope) (s.innerTrails id (q.under oracle f).scope) ∧
      ((q.under oracle f).attempt s).2 = (q.attempt s).2.under oracle f := by
  cases s with
  | join kind table on =>
    let single (t : Test) : List Condition := [.test .and t]
    have single_map (t : Test) : single (f t) = Condition.mapAllTests f (single t) := rfl
    have made := (Follows.map answered single_map).lift
    obtain ⟨outcome, after⟩ := pushed_follow oracle q kind table made
    rw [attempt_join, attempt_join]
    exact ⟨outcome, .nil, after⟩
  | joinGroup kind table tolerant body =>
    have made := ClauseStep.bodyConditions_follow tolerant body answered
    obtain ⟨outcome, after⟩ := pushed_follow oracle q kind table made
    rw [attempt_joinGroup, attempt_joinGroup]
    exact ⟨outcome, ClauseStep.bodyTrails_follow tolerant body answered, after⟩
  | filter s =>
    have failure := ClauseStep.failure?_follow answered
    have inner := ClauseStep.trail_follow s answered
    have added := ClauseStep.added_follow answered
    rw [attempt_filter, attempt_filter]
    refine ⟨failure, ?_, ?_⟩
    · rw [trail_eq, trail_eq id ⟨q.scope.table, oracle⟩] at inner
      cases inner with
      | node _ each => exact each
    · show ({ q.under oracle f with
        wheres := Condition.mapAllTests f q.wheres ++ s.added ⟨q.scope.table, oracle⟩ } : Query) = _
      rw [added, ← Condition.mapAllTests_append]
      rfl
  | limit count =>
    refine ⟨.none, .nil, ?_⟩
    rcases count with _ | n
    · rfl
    · by_cases zero : n = 0 <;> simp [attempt, step, setLimit, zero, under, Query.table]
  | offset count =>
    refine ⟨.none, .nil, ?_⟩
    cases count <;> rfl
  | misspelt e => exact ⟨.some (.same _), .nil, rfl⟩
  | select _ | distinct | groupBy _ | order _ _ => exact ⟨.none, .nil, rfl⟩

/-- A script whose requests are answered alike has the same steps failing in both runs, at any
depth, and leaves queries that differ in their tests alone. -/
theorem build_follow (q : Query) (script : List QueryStep)
    (answered : ∀ s ∈ script, s.Answered blame f q.scope oracle) :
    List.Forall₂ (Trail.Matches (Option.Rel (StepFailure.Blamed blame)))
        (q.trails id script) ((q.under oracle f).trails id script) ∧
      (q.under oracle f).build script = (q.build script).under oracle f := by
  induction script generalizing q with
  | nil => exact ⟨.nil, rfl⟩
  | cons s rest ih =>
    obtain ⟨failure, inner, after⟩ := attempt_follow q s (answered s List.mem_cons_self)
    have later : ∀ s' ∈ rest, s'.Answered blame f (q.attempt s).2.scope oracle := by
      intro s' hs'
      rw [scope_attempt]
      exact answered s' (List.mem_cons_of_mem s hs')
    obtain ⟨trails, built⟩ := ih (q.attempt s).2 later
    rw [← after] at trails built
    rw [Query.trails, Query.trails]
    exact ⟨.cons (.node failure inner) trails, built⟩

/-- A script whose requests are answered with the same tests writes the same query in place. -/
theorem build_same {scope : Scope} {script : List QueryStep}
    (answered : ∀ s ∈ script, s.Answered blame id scope oracle) :
    QueryDraft.Same (QueryDraft.build { scope := ⟨scope.table, oracle⟩ } script)
      (QueryDraft.build { scope } script) := by
  have start : QueryDraft.build { scope } script = (build { scope } script).draft :=
    QueryDraft.build_draft { scope } script
  have start' : QueryDraft.build { scope := ⟨scope.table, oracle⟩ } script =
      (build { scope := ⟨scope.table, oracle⟩ } script).draft :=
    QueryDraft.build_draft { scope := ⟨scope.table, oracle⟩ } script
  have built : build { scope := ⟨scope.table, oracle⟩ } script =
      (build { scope } script).under oracle id := (build_follow { scope } script answered).2
  rw [start, start', built, under_id]
  exact ⟨rfl, rfl, rfl, rfl, rfl, rfl⟩

end Query

end Simulation

end SelectQuery
