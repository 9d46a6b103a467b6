import SelectQuery.Proofs.AppendOnly
import SelectQuery.Proofs.Noninterference

/-!
Steps that add nothing. A membership of no values passes without a check, and a group that is left
empty is not written, so a group of such steps adds nothing either. The first condition of a level is
written without a connective, and a step that adds nothing must not count as the first.

What is proved:
  1. `conditions_of_vacuous`, `vacuous_group`: a vacuous step succeeds and adds nothing, and groups of
     such steps are vacuous, to any depth.
  2. `bodyConditions_fill`, `bodyTrails_fill`: with or without such a step at a place in it, a group
     adds the same, and its other steps have the same outcomes.
  3. `run_insert`, `run_exchange`: what may be put into a script of any steps, or exchanged in it.
  4. `Clause.fill_of_vacuous`, `Query.fill_of_vacuous`: the second statement for clauses and queries.
  5. `vacuous_steps_are_invisible`: all this in place too; callbacks that add nothing, and joins on
     nothing.
-/

namespace SelectQuery

namespace ClauseStep

/-- A step that adds nothing in a scope: a membership of no values, of whatever column, or a group
that succeeds there and is left empty. -/
inductive Vacuous (scope : Scope) : ClauseStep → Prop where
  | oneOf {link : Connective} {column : String} {negated : Bool} :
    Vacuous scope (.add link (.oneOf column negated []))
  | group {link : Connective} {tolerant : Bool} {body : List ClauseStep}
    (nothing : bodyConditions scope tolerant body = .ok []) :
    Vacuous scope (.group link tolerant body)

section Conditions

variable {scope : Scope} {s s' : ClauseStep} {body : List ClauseStep}

theorem conditions_of_vacuous (vacuous : s.Vacuous scope) : s.conditions scope = .ok [] := by
  cases vacuous with
  | oneOf => rfl
  | group nothing => rw [conditions, nothing]

theorem bodyConditions_of_vacuous (each : ∀ s ∈ body, s.Vacuous scope) (tolerant : Bool) :
    bodyConditions scope tolerant body = .ok [] := by
  induction body with
  | nil => rfl
  | cons s rest ih =>
    obtain ⟨first, later⟩ := List.forall_mem_cons.1 each
    rw [bodyConditions, conditions_of_vacuous first, ih later]
    rfl

/-- A group of vacuous steps is vacuous, as is one without steps. -/
theorem vacuous_group (each : ∀ s ∈ body, s.Vacuous scope) (link : Connective) (tolerant : Bool) :
    (group link tolerant body).Vacuous scope :=
  .group (bodyConditions_of_vacuous each tolerant)

/-- What adds nothing may be left out in front of other steps. -/
theorem bodyConditions_cons_of_idle (idle : s.conditions scope = .ok []) (tolerant : Bool)
    (rest : List ClauseStep) :
    bodyConditions scope tolerant (s :: rest) = bodyConditions scope tolerant rest := by
  rw [bodyConditions, idle]
  cases bodyConditions scope tolerant rest <;> rfl

theorem bodyConditions_cons_congr (same : s.conditions scope = s'.conditions scope)
    (tolerant : Bool) (rest : List ClauseStep) :
    bodyConditions scope tolerant (s :: rest) = bodyConditions scope tolerant (s' :: rest) := by
  rw [bodyConditions, bodyConditions, same]

/-- What comes behind some steps may be exchanged for what adds the same. -/
theorem bodyConditions_append_congr {tolerant : Bool} {rest rest' : List ClauseStep}
    (same : bodyConditions scope tolerant rest = bodyConditions scope tolerant rest')
    (before : List ClauseStep) :
    bodyConditions scope tolerant (before ++ rest) =
      bodyConditions scope tolerant (before ++ rest') := by
  induction before with
  | nil => exact same
  | cons s before ih => rw [List.cons_append, List.cons_append, bodyConditions, bodyConditions, ih]

end Conditions

end ClauseStep

open ClauseStep (bodyConditions bodyTrails bodyConditions_cons_of_idle bodyConditions_cons_congr
  bodyConditions_append_congr)

/-! ## Places in a script -/

/-- The trail with a change of the trails of the steps in the step. -/
def Trail.mapInner {α : Type} (f : List (Trail α) → List (Trail α)) : Trail α → Trail α
  | node own inner => node own (f inner)

/-- A place in the script of a clause. -/
inductive Place where
  /-- Between the steps of the script. -/
  | here (before after : List ClauseStep)
  /-- Inside a group of the script. -/
  | inside (before : List ClauseStep) (link : Connective) (tolerant : Bool) (place : Place)
    (after : List ClauseStep)

namespace Place

def fill (steps : List ClauseStep) : Place → List ClauseStep
  | here before after => before ++ (steps ++ after)
  | inside before link tolerant place after =>
    before ++ .group link tolerant (place.fill steps) :: after

/-- The trails of a script without that of the step at the place, if the script comes so far. -/
def without {α : Type} : Place → List (Trail α) → List (Trail α)
  | here before _, seen => seen.eraseIdx before.length
  | inside before _ _ place _, seen => seen.modify before.length (.mapInner place.without)

end Place

section Lists

variable {α : Type} (a b : List α) (x : α)

theorem eraseIdx_append_cons : (a ++ x :: b).eraseIdx a.length = a ++ b := by
  rw [List.eraseIdx_append_of_length_le (Nat.le_refl _), Nat.sub_self, List.eraseIdx_cons_zero]

theorem modify_append_cons (f : α → α) : (a ++ x :: b).modify a.length f = a ++ f x :: b := by
  rw [List.modify, ← Nat.add_zero a.length, List.modifyTailIdx_add, List.modifyTailIdx_zero,
    List.modifyHead_cons]

end Lists

section Groups

variable {α : Type} {see : Option StepFailure → α} {scope : Scope} {v : ClauseStep}

/-- Whether a group goes on behind a step depends on the step alone. -/
theorem bodyTrails_cons (see : Option StepFailure → α) (scope : Scope) (tolerant : Bool)
    (s : ClauseStep) :
    (∀ rest, bodyTrails see scope tolerant (s :: rest) =
      s.trail see scope :: bodyTrails see scope tolerant rest) ∨
    ∀ rest, bodyTrails see scope tolerant (s :: rest) = [s.trail see scope] := by
  rcases failure : s.failure? scope with _ | ⟨e | e⟩
  · exact .inl fun rest => by rw [bodyTrails, failure]
  · cases tolerant with
    | true => exact .inl fun rest => by simp [bodyTrails, failure]
    | false => exact .inr fun rest => by simp [bodyTrails, failure]
  · exact .inr fun rest => by rw [bodyTrails, failure]

/-- A group comes through some first steps and to those behind them, or it ends before these and
what is seen of it does not depend on them. -/
theorem bodyTrails_append (see : Option StepFailure → α) (scope : Scope) (tolerant : Bool)
    (before : List ClauseStep) :
    (∀ rest, bodyTrails see scope tolerant (before ++ rest) =
      before.map (ClauseStep.trail see scope) ++ bodyTrails see scope tolerant rest) ∨
    ∃ seen : List (Trail α), seen.length ≤ before.length ∧
      ∀ rest, bodyTrails see scope tolerant (before ++ rest) = seen := by
  induction before with
  | nil => exact .inl fun _ => rfl
  | cons s before ih =>
    rcases bodyTrails_cons see scope tolerant s with on | ends
    · rcases ih with all | ⟨seen, short, same⟩
      · left
        intro rest
        rw [List.cons_append, on, all, List.map_cons, List.cons_append]
      · right
        refine ⟨s.trail see scope :: seen, Nat.succ_le_succ short, ?_⟩
        intro rest
        rw [List.cons_append, on, same]
    · right
      exact ⟨[s.trail see scope], Nat.succ_le_succ (Nat.zero_le _), fun rest => ends (before ++ rest)⟩

namespace Place

theorem bodyConditions_fill (idle : v.conditions scope = .ok []) (place : Place)
    (tolerant : Bool) : bodyConditions scope tolerant (place.fill [v]) =
      bodyConditions scope tolerant (place.fill []) := by
  induction place generalizing tolerant with
  | here before after =>
    exact bodyConditions_append_congr (bodyConditions_cons_of_idle idle tolerant after) before
  | inside before link inner place after ih =>
    have same : (ClauseStep.group link inner (place.fill [v])).conditions scope =
        (ClauseStep.group link inner (place.fill [])).conditions scope := by
      rw [ClauseStep.conditions, ClauseStep.conditions, ih]
    exact bodyConditions_append_congr (bodyConditions_cons_congr same tolerant after) before

theorem conditions_fill (idle : v.conditions scope = .ok []) (place : Place) (link : Connective)
    (tolerant : Bool) : (ClauseStep.group link tolerant (place.fill [v])).conditions scope =
      (ClauseStep.group link tolerant (place.fill [])).conditions scope := by
  rw [ClauseStep.conditions, ClauseStep.conditions, bodyConditions_fill idle]

theorem failure?_fill (idle : v.conditions scope = .ok []) (place : Place) (link : Connective)
    (tolerant : Bool) : (ClauseStep.group link tolerant (place.fill [v])).failure? scope =
      (ClauseStep.group link tolerant (place.fill [])).failure? scope := by
  rw [ClauseStep.failure?, ClauseStep.failure?, conditions_fill idle]

theorem bodyTrails_fill (idle : v.conditions scope = .ok []) (place : Place) (tolerant : Bool) :
    bodyTrails see scope tolerant (place.fill []) =
      place.without (bodyTrails see scope tolerant (place.fill [v])) := by
  have passes : v.failure? scope = none := by rw [ClauseStep.failure?, idle]
  have ran (before : List ClauseStep) :
      (before.map (ClauseStep.trail see scope)).length = before.length := List.length_map _
  induction place generalizing tolerant with
  | here before after =>
    rw [fill, fill, without]
    rcases bodyTrails_append see scope tolerant before with all | ⟨seen, short, same⟩
    · have first : bodyTrails see scope tolerant ([v] ++ after) =
          v.trail see scope :: bodyTrails see scope tolerant after := by
        rw [List.singleton_append, bodyTrails, passes]
      rw [all, all, first, List.nil_append, ← ran before, eraseIdx_append_cons]
    · rw [same, same, List.eraseIdx_of_length_le short]
  | inside before link inner place after ih =>
    rw [fill, fill, without]
    rcases bodyTrails_append see scope tolerant before with all | ⟨seen, short, same⟩
    · rw [all, all, ← ran before, bodyTrails, bodyTrails, modify_append_cons, failure?_fill idle,
        ClauseStep.trail, ClauseStep.trail, failure?_fill idle, ih, Trail.mapInner]
    · rw [same, same, List.modify_eq_self short]

end Place

end Groups

/-! ## Scripts -/

section Scripts

variable {σ S α : Type} (step : σ → S → Option StepFailure × σ) (watch : σ → S → Trail α)

/-- The state after a script, whose failing steps are passed over. -/
def stateAfter (s : σ) (script : List S) : σ := script.foldl (fun s a => (step s a).2) s

/-- What is seen of the steps of a script, which are all run. -/
def watchAll (s : σ) : List S → List (Trail α)
  | [] => []
  | a :: rest => watch s a :: watchAll (step s a).2 rest

theorem stateAfter_append (s : σ) (a b : List S) :
    stateAfter step s (a ++ b) = stateAfter step (stateAfter step s a) b := List.foldl_append

theorem stateAfter_cons (s : σ) (a : S) (rest : List S) :
    stateAfter step s (a :: rest) = stateAfter step (step s a).2 rest := rfl

theorem watchAll_append (s : σ) (a b : List S) :
    watchAll step watch s (a ++ b) =
      watchAll step watch s a ++ watchAll step watch (stateAfter step s a) b := by
  induction a generalizing s with
  | nil => rfl
  | cons x a ih => rw [List.cons_append, watchAll, watchAll, ih, List.cons_append]; rfl

theorem length_watchAll (s : σ) (script : List S) :
    (watchAll step watch s script).length = script.length := by
  induction script generalizing s with
  | nil => rfl
  | cons a rest ih => rw [watchAll, List.length_cons, List.length_cons, ih]

variable {step} {watch} (s : σ) (before after : List S)

/-- A step that changes nothing where it stands may be put in there. -/
theorem run_insert {v : S}
    (idle : (step (stateAfter step s before) v).2 = stateAfter step s before) :
    stateAfter step s (before ++ v :: after) = stateAfter step s (before ++ after) ∧
      watchAll step watch s (before ++ after) =
        (watchAll step watch s (before ++ v :: after)).eraseIdx before.length := by
  constructor
  · rw [stateAfter_append, stateAfter_append, stateAfter_cons, idle]
  · rw [watchAll_append, watchAll_append, watchAll, idle, ← length_watchAll step watch s before,
      eraseIdx_append_cons]

/-- A step may be exchanged for one that leaves the same where it stands. -/
theorem run_exchange {a b : S} {f : Trail α → Trail α}
    (same : (step (stateAfter step s before) a).2 = (step (stateAfter step s before) b).2)
    (seen : watch (stateAfter step s before) a = f (watch (stateAfter step s before) b)) :
    stateAfter step s (before ++ b :: after) = stateAfter step s (before ++ a :: after) ∧
      watchAll step watch s (before ++ a :: after) =
        (watchAll step watch s (before ++ b :: after)).modify before.length f := by
  constructor
  · rw [stateAfter_append, stateAfter_append, stateAfter_cons, stateAfter_cons, same]
  · rw [watchAll_append, watchAll_append, watchAll, watchAll, same, seen,
      ← length_watchAll step watch s before, modify_append_cons]

end Scripts

section Watching

variable {α : Type} (see : Option StepFailure → α)

/-- What is seen of a step of a clause. -/
def Clause.watch (c : Clause) (s : ClauseStep) : Trail α :=
  .node (see (c.attempt s).1) (s.trail see c.scope).inner

def Clause.trails (c : Clause) (script : List ClauseStep) : List (Trail α) :=
  watchAll attempt (watch see) c script

def Query.watch (q : Query) (s : QueryStep) : Trail α :=
  .node (see (q.attempt s).1) (s.innerTrails see q.scope)

theorem Query.trails_eq (q : Query) (script : List QueryStep) :
    q.trails see script = watchAll attempt (watch see) q script := by
  induction script generalizing q with
  | nil => rfl
  | cons s rest ih => rw [trails, watchAll, ih, watch]

end Watching

/-! ## Clauses -/

namespace Clause

variable {α : Type} {see : Option StepFailure → α} {v : ClauseStep}

theorem scope_run (c : Clause) (script : List ClauseStep) : (c.run script).scope = c.scope := by
  rw [run_eq]

theorem fill_of_vacuous {c : Clause} (vacuous : v.Vacuous c.scope) (place : Place) :
    c.run (place.fill [v]) = c.run (place.fill []) ∧
      c.trails see (place.fill []) = place.without (c.trails see (place.fill [v])) := by
  have idle := ClauseStep.conditions_of_vacuous vacuous
  cases place with
  | here before after =>
    apply run_insert
    have here : v.conditions (c.run before).scope = .ok [] := by rw [scope_run, idle]
    show ((c.run before).attempt v).2 = c.run before
    simp [attempt, step, here, Except.map]
  | inside before link tolerant place after =>
    rw [← scope_run c before] at idle
    have same : (c.run before).attempt (.group link tolerant (place.fill [])) =
        (c.run before).attempt (.group link tolerant (place.fill [v])) := by
      simp only [attempt, step, place.conditions_fill idle]
    apply run_exchange
    · exact congrArg Prod.snd same
    · show (c.run before).watch see _ = Trail.mapInner _ ((c.run before).watch see _)
      rw [watch, watch, same, Trail.mapInner, ClauseStep.trail, ClauseStep.trail, Trail.inner,
        Trail.inner, place.bodyTrails_fill idle]

end Clause

/-! ## Queries -/

/-- A place in the script of a query. -/
inductive QueryPlace where
  /-- Between the steps of the script. -/
  | here (before after : List QueryStep)
  /-- Inside a group of the WHERE clause. -/
  | inWhere (before : List QueryStep) (link : Connective) (tolerant : Bool) (place : Place)
    (after : List QueryStep)
  /-- Inside the conditions of a join. -/
  | inJoin (before : List QueryStep) (kind : JoinKind) (table : String) (tolerant : Bool)
    (place : Place) (after : List QueryStep)

namespace QueryPlace

def scope (s : Scope) : QueryPlace → Scope
  | here _ _ => s
  | inWhere _ _ _ _ _ => s
  | inJoin _ _ table _ _ _ => { s with table }

def fill (steps : List ClauseStep) : QueryPlace → List QueryStep
  | here before after => before ++ (steps.map .filter ++ after)
  | inWhere before link tolerant place after =>
    before ++ .filter (.group link tolerant (place.fill steps)) :: after
  | inJoin before kind table tolerant place after =>
    before ++ .joinGroup kind table tolerant (place.fill steps) :: after

def without {α : Type} : QueryPlace → List (Trail α) → List (Trail α)
  | here before _, seen => seen.eraseIdx before.length
  | inWhere before _ _ place _, seen => seen.modify before.length (.mapInner place.without)
  | inJoin before _ _ _ place _, seen => seen.modify before.length (.mapInner place.without)

end QueryPlace

namespace Query

variable {α : Type} {see : Option StepFailure → α} {v : ClauseStep}

theorem attempt_filter_congr {s s' : ClauseStep} {q : Query}
    (same : s.conditions q.scope = s'.conditions q.scope) :
    q.attempt (.filter s) = q.attempt (.filter s') := by
  rw [attempt_filter, attempt_filter, ClauseStep.failure?, ClauseStep.failure?, ClauseStep.added,
    ClauseStep.added, same]

theorem fill_of_vacuous {q : Query} {place : QueryPlace}
    (vacuous : v.Vacuous (place.scope q.scope)) :
    q.build (place.fill [v]) = q.build (place.fill []) ∧
      q.trails see (place.fill []) = place.without (q.trails see (place.fill [v])) := by
  have idle := ClauseStep.conditions_of_vacuous vacuous
  rw [trails_eq, trails_eq]
  cases place with
  | here before after =>
    rw [QueryPlace.scope, ← scope_build q before] at idle
    apply run_insert
    show ((q.build before).attempt (.filter v)).2 = q.build before
    rw [attempt_filter, ClauseStep.added, idle, List.append_nil]
  | inWhere before link tolerant place after =>
    rw [QueryPlace.scope, ← scope_build q before] at idle
    have same : (q.build before).attempt (.filter (.group link tolerant (place.fill []))) =
        (q.build before).attempt (.filter (.group link tolerant (place.fill [v]))) :=
      attempt_filter_congr (place.conditions_fill idle link tolerant).symm
    apply run_exchange
    · exact congrArg Prod.snd same
    · show (q.build before).watch see _ = Trail.mapInner _ ((q.build before).watch see _)
      rw [watch, watch, same, Trail.mapInner, QueryStep.innerTrails, QueryStep.innerTrails,
        ClauseStep.trail, ClauseStep.trail, Trail.inner, Trail.inner, place.bodyTrails_fill idle]
  | inJoin before kind table tolerant place after =>
    rw [QueryPlace.scope, ← scope_build q before] at idle
    have same : (q.build before).attempt (.joinGroup kind table tolerant (place.fill [])) =
        (q.build before).attempt (.joinGroup kind table tolerant (place.fill [v])) := by
      rw [attempt_joinGroup, attempt_joinGroup, place.bodyConditions_fill idle]
    apply run_exchange
    · exact congrArg Prod.snd same
    · show (q.build before).watch see _ = Trail.mapInner _ ((q.build before).watch see _)
      rw [watch, watch, same, Trail.mapInner, QueryStep.innerTrails, QueryStep.innerTrails,
        place.bodyTrails_fill idle]

end Query

/-- A group whose callback succeeds and writes no fragment is not written. -/
theorem Draft.perform_enclose_of_idle {link : Connective} {callback : Edit Draft Unit} {d : Draft}
    (succeeds : (callback.perform d.fresh).1 = .ok ())
    (nothing : (callback.perform d.fresh).2.fragments = []) :
    (enclose link callback).perform d = (.ok (), d) := by
  simp only [enclose, Edit.perform_bind, Edit.perform_get, succeeds, fold, nothing,
    List.isEmpty_nil, if_true, Edit.perform_pure]

/-- Vacuous steps are invisible wherever they stand. Memberships of no values are such steps, and so
are groups that add nothing, above all those of such steps. From every draft, of a clause or of a
query, such a step succeeds and leaves the draft as it was, and so does a group with any callback that
succeeds and writes nothing. Put in at any place of a script, at any depth, it changes neither the
clause or the query that the script builds, in place or not, and so no fragment, value, text or
literal form of it, nor the outcome of any other step. A join whose conditions are vacuous steps is
the join without conditions, and has no ON. -/
theorem vacuous_steps_are_invisible :
    (∀ scope link tolerant body, (∀ s ∈ body, ClauseStep.Vacuous scope s) →
      (ClauseStep.group link tolerant body).Vacuous scope) ∧
    (∀ (d : Draft) (v : ClauseStep), v.Vacuous d.scope → v.edit.perform d = (.ok (), d)) ∧
    (∀ (d : QueryDraft) (v : ClauseStep), v.Vacuous d.wheres.scope →
      (QueryStep.filter v).edit.perform d = (.ok (), d)) ∧
    (∀ link (callback : Edit Draft Unit) (d : Draft), (callback.perform d.fresh).1 = .ok () →
      (callback.perform d.fresh).2.fragments = [] →
        (Draft.enclose link callback).perform d = (.ok (), d)) ∧
    (∀ (place : Place) (c : Clause) (v : ClauseStep), v.Vacuous c.scope →
      c.draft.run (place.fill [v]) = c.draft.run (place.fill []) ∧
      c.run (place.fill [v]) = c.run (place.fill []) ∧
      c.trails id (place.fill []) = place.without (c.trails id (place.fill [v]))) ∧
    (∀ (place : QueryPlace) (q : Query) (v : ClauseStep), v.Vacuous (place.scope q.scope) →
      q.draft.build (place.fill [v]) = q.draft.build (place.fill []) ∧
      q.build (place.fill [v]) = q.build (place.fill []) ∧
      q.trails id (place.fill []) = place.without (q.trails id (place.fill [v]))) ∧
    ∀ kind table tolerant body (q : Query), (∀ s ∈ body, s.Vacuous { q.scope with table }) →
      q.attempt (.joinGroup kind table tolerant body) =
        q.attempt (.joinGroup kind table tolerant []) ∧
      (QueryStep.joinGroup kind table tolerant body).edit.perform q.draft =
        (.ok (), { q.draft with joins := q.draft.joins ++ [⟨kind.text ++ " " ++ table, []⟩] }) := by
  refine ⟨fun _ link tolerant _ each => ClauseStep.vacuous_group each link tolerant, ?_, ?_,
    fun _ _ _ => Draft.perform_enclose_of_idle, ?_, ?_, ?_⟩
  · intro d v vacuous
    rw [ClauseStep.perform_of_ok (ClauseStep.conditions_of_vacuous vacuous), Draft.write_nil]
  · intro d v vacuous
    have idle := ClauseStep.conditions_of_vacuous vacuous
    rw [QueryStep.edit, QueryDraft.perform_filter_of_ok idle, Draft.write_nil]
  · intro place c v vacuous
    obtain ⟨same, seen⟩ := Clause.fill_of_vacuous vacuous place
    refine ⟨?_, same, seen⟩
    rw [Draft.run_draft, Draft.run_draft, same]
  · intro place q v vacuous
    obtain ⟨same, seen⟩ := Query.fill_of_vacuous vacuous
    refine ⟨?_, same, seen⟩
    rw [QueryDraft.build_draft, QueryDraft.build_draft, same]
  · intro kind table tolerant body q each
    have nothing : bodyConditions { q.scope with table } tolerant body = .ok [] :=
      ClauseStep.bodyConditions_of_vacuous each tolerant
    have same : q.attempt (.joinGroup kind table tolerant body) =
        q.attempt (.joinGroup kind table tolerant []) := by
      rw [Query.attempt_joinGroup, Query.attempt_joinGroup, nothing]
      rfl
    have empty : q.attempt (.joinGroup kind table tolerant []) =
        (none, { q with joins := q.joins ++ [⟨kind, table, []⟩] }) := rfl
    have written : (Join.mk kind table []).draft = ⟨kind.text ++ " " ++ table, []⟩ := by
      simp [Join.draft, Join.render, Join.values, Condition.allValues]
    refine ⟨same, ?_⟩
    rw [QueryDraft.perform_edit_query, same, empty, ← written]
    simp only [Query.draft, List.map_append, List.map_singleton]
    rfl

/-- In front of the first condition of a group, a membership of no values in a column that the schema
does not declare and a group all steps of which fail take no connective from it. -/
theorem vacuous_steps_are_invisible_in_group :
    let v : ClauseStep := .group .or false [.add .and (.oneOf "nowhere" true []),
      .group .and true [.fail, .group .or false [.fail]]]
    let place : QueryPlace :=
      .inWhere [.distinct] .or false (.here [] [.add .or (.isNull "name" false)]) []
    let q : Query := { scope := Query.strictUsers }
    q.draft.build (place.fill [v]) = q.draft.build (place.fill []) ∧
      (q.build (place.fill [v])).draft.wheres.fragments = ["(users.name IS NULL)"] := by
  intro v place q
  obtain ⟨group, -, -, -, -, invisible, -⟩ := vacuous_steps_are_invisible
  have failing : (ClauseStep.group .and true [.fail, .group .or false [.fail]]).Vacuous
      Query.strictUsers := .group rfl
  have vacuous : v.Vacuous Query.strictUsers :=
    group _ _ _ _ (List.forall_mem_cons.2 ⟨.oneOf, List.forall_mem_singleton.2 failing⟩)
  exact ⟨(invisible place q v vacuous).1, by decide +kernel⟩

end SelectQuery
