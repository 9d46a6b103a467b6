import SelectQuery.Proofs.QueryDraft
import SelectQuery.Proofs.Script

/-!
Failures are atomic: a step that fails leaves what was written before it, and a script leaves what
it leaves without the steps that fail. Steps are written in place, so this is not by construction.

What is proved:
  1. `runAll_eraseAll`: if steps keep to this one by one, so do scripts.
  2. `conditions_erased`: a step without what fails in it adds the same, and nothing fails in it.
  3. `failures_are_atomic`: both for clauses, joins, queries and sessions. Only the runs that add
     columns first keep these where they fail.
-/

namespace SelectQuery

/-! ## Scripts of any steps -/

namespace Edit

variable {σ α β S : Type}

/-- The edit does not fail on a state. -/
def Succeeds (x : Edit σ α) (s : σ) : Prop := ∃ a, (x.perform s).1 = .ok a

/-- Some steps, unless the edit fails. -/
def unlessFailed (x : Edit σ α) (s : σ) (steps : List β) : List β :=
  match (x.perform s).1 with
  | .ok _ => steps
  | .error _ => []

/-- On each state the edit succeeds or changes nothing. -/
def Atomic (x : Edit σ α) : Prop := ∀ s, x.Succeeds s ∨ (x.perform s).2 = s

section Scripts

variable (edit : S → Edit σ Unit)

/-- A script without what fails in it, step by step. -/
def eraseAll (erase : σ → S → List S) (s : σ) : List S → List S
  | [] => []
  | a :: rest => erase s a ++ eraseAll erase ((edit a).perform s).2 rest

/-- Each step of a script is clean on the state that it meets. -/
def AllClean (clean : σ → S → Prop) (s : σ) : List S → Prop
  | [] => True
  | a :: rest => clean s a ∧ AllClean clean ((edit a).perform s).2 rest

/-- A step may be left out if it changes nothing, or else has a clean step in its place. -/
def Erases (erase : σ → S → List S) (clean : σ → S → Prop) : Prop :=
  ∀ s a, (erase s a = [] ∧ ((edit a).perform s).2 = s) ∨
    ∃ b, erase s a = [b] ∧ clean s b ∧ ((edit b).perform s).2 = ((edit a).perform s).2

/-- Without what fails in it a script leaves the same state, and none of its steps fails. -/
theorem runAll_eraseAll {erase : σ → S → List S} {clean : σ → S → Prop}
    (h : Erases edit erase clean) (s : σ) (script : List S) :
    runAll edit s (eraseAll edit erase s script) = runAll edit s script ∧
      AllClean edit clean s (eraseAll edit erase s script) := by
  induction script generalizing s with
  | nil => exact ⟨rfl, trivial⟩
  | cons a rest ih =>
    obtain ⟨same, cleans⟩ := ih ((edit a).perform s).2
    rw [eraseAll]
    rcases h s a with ⟨nothing, unchanged⟩ | ⟨b, one, clean_b, after⟩
    · rw [nothing, List.nil_append]
      -- The step is left out, and the rest starts from the state before it.
      rw [unchanged] at same cleans ⊢
      refine ⟨?_, cleans⟩
      show _ = runAll edit ((edit a).perform s).2 rest
      rw [unchanged, same]
    · rw [one, List.singleton_append]
      constructor
      · show runAll edit ((edit b).perform s).2 _ = runAll edit ((edit a).perform s).2 rest
        rw [after, same]
      · exact ⟨clean_b, after.symm ▸ cleans⟩

end Scripts

end Edit

/-! ## Clauses -/

namespace ClauseStep

mutual

/-- A step without what fails in it: a group without its failing steps, and nothing if the step
itself fails. -/
def erased (d : Draft) : ClauseStep → List ClauseStep
  | add link request => (add link request).edit.unlessFailed d [add link request]
  | group link tolerant body =>
    (group link tolerant body).edit.unlessFailed d [group link tolerant (allErased d.fresh body)]
  | fail => fail.edit.unlessFailed d [fail]
  | misspelt e => (misspelt e).edit.unlessFailed d [misspelt e]
  | look => look.edit.unlessFailed d [look]

def allErased (d : Draft) : List ClauseStep → List ClauseStep
  | [] => []
  | s :: rest => s.erased d ++ allErased (s.edit.perform d).2 rest

end

mutual

/-- A step that succeeds, and so does every step in it. -/
def Clean (d : Draft) : ClauseStep → Prop
  | group link tolerant body => (group link tolerant body).edit.Succeeds d ∧ AllClean d.fresh body
  | add link request => (add link request).edit.Succeeds d
  | fail => fail.edit.Succeeds d
  | misspelt e => (misspelt e).edit.Succeeds d
  | look => look.edit.Succeeds d

def AllClean (d : Draft) : List ClauseStep → Prop
  | [] => True
  | s :: rest => s.Clean d ∧ AllClean (s.edit.perform d).2 rest

end

section Conditions

variable {d : Draft} {s : ClauseStep} {added : List Condition} {e : StepFailure}

theorem succeeds_of_ok (h : s.conditions d.scope = .ok added) : s.edit.Succeeds d :=
  ⟨(), by rw [perform_of_ok h]⟩

theorem unlessFailed_of_ok {β : Type} (h : s.conditions d.scope = .ok added) (steps : List β) :
    s.edit.unlessFailed d steps = steps := by
  rw [Edit.unlessFailed, perform_of_ok h]

theorem unlessFailed_of_error {β : Type} (h : s.conditions d.scope = .error e) (steps : List β) :
    s.edit.unlessFailed d steps = [] := by
  rw [Edit.unlessFailed, perform_of_error h]

/-- A step of a clause succeeds or changes nothing. -/
theorem atomic_edit (s : ClauseStep) : s.edit.Atomic := by
  intro d
  cases h : s.conditions d.scope with
  | ok added => exact .inl (succeeds_of_ok h)
  | error e =>
    right
    rw [perform_of_error h]

theorem scope_perform (s : ClauseStep) (d : Draft) : (s.edit.perform d).2.scope = d.scope := by
  rw [perform_edit]
  cases s.conditions d.scope <;> rfl

theorem erased_of_error (h : s.conditions d.scope = .error e) : s.erased d = [] := by
  cases s with
  | fail => exact unlessFailed_of_error h [fail]
  | misspelt e => exact unlessFailed_of_error h [misspelt e]
  | add _ _ | group _ _ _ | look => exact unlessFailed_of_error h _

mutual

/-- A step that succeeds adds the same without what fails in it, and then nothing fails in it. -/
theorem conditions_erased (d : Draft) : (s : ClauseStep) → ∀ added,
    s.conditions d.scope = .ok added →
      ∃ b, s.erased d = [b] ∧ b.conditions d.scope = .ok added ∧ b.Clean d
  | add link request, added, h => ⟨_, unlessFailed_of_ok h _, h, succeeds_of_ok h⟩
  | group link tolerant body, added, h => by
    obtain ⟨kept, clean⟩ := conditions_allErased d.fresh tolerant body
    -- The body adds what its steps add, and these add the same without what fails in them.
    have same : (group link tolerant (allErased d.fresh body)).conditions d.scope = .ok added := by
      rw [← h, conditions, conditions]
      cases written : bodyConditions d.scope tolerant body with
      | error e => simp [conditions, written] at h
      | ok parts =>
        rw [bodyConditions_eq written]
        simp only [Draft.fresh] at kept ⊢
        rw [kept]
    exact ⟨_, unlessFailed_of_ok h _, same, succeeds_of_ok same, clean⟩
  | fail, added, h => by simp [conditions] at h
  | misspelt e, added, h => by simp [conditions] at h
  | look, added, h => ⟨_, unlessFailed_of_ok h _, h, succeeds_of_ok h⟩

theorem conditions_allErased (d : Draft) (tolerant : Bool) : (body : List ClauseStep) →
    bodyConditions d.scope tolerant (allErased d body) =
        .ok (body.flatMap (ClauseStep.added d.scope)) ∧
      AllClean d (allErased d body)
  | [] => ⟨rfl, trivial⟩
  | s :: rest => by
    obtain ⟨kept, clean⟩ := conditions_allErased (s.edit.perform d).2 tolerant rest
    rw [scope_perform] at kept
    rw [allErased, List.flatMap_cons]
    cases h : s.conditions d.scope with
    -- A step that fails adds nothing, and the steps behind it meet the draft before it.
    | error e =>
      have nothing : s.added d.scope = [] := by rw [ClauseStep.added, h]
      have unchanged : (s.edit.perform d).2 = d := by rw [perform_of_error h]
      rw [unchanged] at kept clean ⊢
      rw [erased_of_error h, nothing]
      exact ⟨kept, clean⟩
    | ok added =>
      obtain ⟨b, one, same, clean_b⟩ := conditions_erased d s added h
      have here : s.added d.scope = added := by rw [ClauseStep.added, h]
      have after : b.edit.perform d = s.edit.perform d := by
        rw [perform_of_ok same, perform_of_ok h]
      rw [one, here, List.singleton_append]
      constructor
      · rw [bodyConditions, same, kept]
        rfl
      · exact ⟨clean_b, after.symm ▸ clean⟩

end

end Conditions

theorem allErased_eq (d : Draft) (script : List ClauseStep) :
    allErased d script = Edit.eraseAll edit erased d script := by
  induction script generalizing d with
  | nil => rfl
  | cons s rest ih => rw [allErased, Edit.eraseAll, ih]

theorem allClean_iff (d : Draft) (script : List ClauseStep) :
    AllClean d script ↔ Edit.AllClean edit Clean d script := by
  induction script generalizing d with
  | nil => rfl
  | cons s rest ih => rw [AllClean, Edit.AllClean, ih]

theorem erases : Edit.Erases edit erased Clean := by
  intro d s
  cases h : s.conditions d.scope with
  | error e =>
    left
    refine ⟨erased_of_error h, ?_⟩
    rw [perform_of_error h]
  | ok added =>
    obtain ⟨b, one, same, clean⟩ := conditions_erased d s added h
    right
    refine ⟨b, one, clean, ?_⟩
    rw [perform_of_ok same, perform_of_ok h]

end ClauseStep

/-! ## Queries -/

namespace QueryStep

open QueryDraft (perform_join_of_ok perform_join_of_error perform_filter_of_ok
  perform_filter_of_error)

theorem atomic_join (kind : JoinKind) (table : String) (x : Edit Draft Unit) :
    (QueryDraft.join kind table x).Atomic := by
  intro q
  rcases h : x.perform (q.onDraft table) with ⟨e | _, on⟩
  · right
    have failed : (x.perform (q.onDraft table)).1 = .error e := by rw [h]
    rw [perform_join_of_error failed]
  · left
    refine ⟨(), ?_⟩
    rw [perform_join_of_ok h]
    rfl

/-- A step of a query succeeds or changes nothing. -/
theorem atomic_edit (s : QueryStep) : s.edit.Atomic := by
  intro q
  cases s with
  | join kind table on => exact atomic_join kind table on.edit q
  | joinGroup kind table tolerant body =>
    exact atomic_join kind table (ClauseStep.editAll tolerant body) q
  | filter s =>
    cases h : s.conditions q.wheres.scope with
    | ok added =>
      left
      refine ⟨(), ?_⟩
      rw [edit, perform_filter_of_ok h]
    | error e =>
      right
      rw [edit, perform_filter_of_error h]
  | limit count =>
    left
    rcases count with _ | n
    · exact ⟨(), rfl⟩
    · refine ⟨(), ?_⟩
      by_cases zero : n = 0 <;> simp [edit, zero]
  | offset count => cases count <;> exact .inl ⟨(), rfl⟩
  | select _ | distinct | groupBy _ | order _ _ => exact .inl ⟨(), rfl⟩
  | misspelt _ => exact .inr rfl

/-- A step without what fails in it. -/
def erased (q : QueryDraft) : QueryStep → List QueryStep
  | filter s => (s.erased q.wheres).map filter
  | joinGroup kind table tolerant body => (joinGroup kind table tolerant body).edit.unlessFailed q
    [joinGroup kind table tolerant (ClauseStep.allErased (q.onDraft table) body)]
  | s => s.edit.unlessFailed q [s]

def Clean (q : QueryDraft) (s : QueryStep) : Prop :=
  s.edit.Succeeds q ∧ match s with
    | filter s => s.Clean q.wheres
    | joinGroup _ table _ body => ClauseStep.AllClean (q.onDraft table) body
    | _ => True

/-- A step with no steps in it is left out where it fails and stays otherwise. -/
theorem erases_whole {q : QueryDraft} {s : QueryStep} (plain : s.edit.Succeeds q → s.Clean q)
    (whole : s.erased q = s.edit.unlessFailed q [s]) :
    (s.erased q = [] ∧ (s.edit.perform q).2 = q) ∨
      ∃ b, s.erased q = [b] ∧ b.Clean q ∧ (b.edit.perform q).2 = (s.edit.perform q).2 := by
  rw [whole, Edit.unlessFailed]
  cases outcome : (s.edit.perform q).1 with
  | ok a => exact .inr ⟨s, rfl, plain ⟨a, outcome⟩, rfl⟩
  | error e =>
    rcases atomic_edit s q with ⟨a, success⟩ | unchanged
    · rw [outcome] at success
      cases success
    · exact .inl ⟨rfl, unchanged⟩

theorem erases : Edit.Erases edit erased Clean := by
  intro q s
  cases s with
  | filter s =>
    cases h : s.conditions q.wheres.scope with
    | error e =>
      left
      rw [erased, ClauseStep.erased_of_error h, edit, perform_filter_of_error h]
      exact ⟨rfl, rfl⟩
    | ok added =>
      obtain ⟨b, one, same, clean⟩ := ClauseStep.conditions_erased q.wheres s added h
      right
      refine ⟨filter b, ?_, ?_, ?_⟩
      · rw [erased, one]
        rfl
      · refine ⟨⟨(), ?_⟩, clean⟩
        rw [edit, perform_filter_of_ok same]
      · rw [edit, edit, perform_filter_of_ok same, perform_filter_of_ok h]
  | joinGroup kind table tolerant body =>
    have whole := ClauseStep.perform_editAll (q.onDraft table) tolerant body
    cases h : ClauseStep.bodyConditions (q.onDraft table).scope tolerant body with
    | error e =>
      rw [h] at whole
      have failed : (joinGroup kind table tolerant body).edit.perform q = (.error e, q) :=
        perform_join_of_error whole
      left
      rw [erased, Edit.unlessFailed, failed]
      exact ⟨rfl, rfl⟩
    | ok on =>
      obtain ⟨kept, clean⟩ := ClauseStep.conditions_allErased (q.onDraft table) tolerant body
      have without := ClauseStep.perform_editAll (q.onDraft table) tolerant
        (ClauseStep.allErased (q.onDraft table) body)
      rw [kept, ← ClauseStep.bodyConditions_eq h] at without
      rw [h] at whole
      -- With or without what fails in it, the group writes the same condition.
      have made : (joinGroup kind table tolerant body).edit.perform q =
          (QueryDraft.pushJoin kind table ((q.onDraft table).write on)).perform q :=
        perform_join_of_ok whole
      have made' : (joinGroup kind table tolerant
          (ClauseStep.allErased (q.onDraft table) body)).edit.perform q =
            (QueryDraft.pushJoin kind table ((q.onDraft table).write on)).perform q :=
        perform_join_of_ok without
      right
      rw [erased, Edit.unlessFailed, made]
      refine ⟨_, rfl, ?_, ?_⟩
      · refine ⟨⟨(), ?_⟩, clean⟩
        rw [made']
        rfl
      · rw [made']
  | select _ | distinct | groupBy _ | order _ _ | misspelt _ | limit _ | offset _ | join _ _ _ =>
    exact erases_whole (fun h => ⟨h, trivial⟩) rfl

end QueryStep

/-! ## Sessions -/

namespace Edit

variable {σ α β : Type}

/-- The edit changes nothing, whether or not it fails. -/
def Keeps (x : Edit σ α) : Prop := ∀ s, (x.perform s).2 = s

theorem keeps_pure (a : α) : (pure a : Edit σ α).Keeps := fun _ => rfl

theorem keeps_check (r : Except QueryFailure α) : (check r : Edit σ α).Keeps := by
  intro s
  rw [perform_check]

theorem keeps_bind {x : Edit σ α} {f : α → Edit σ β} (first : x.Keeps) (later : ∀ a, (f a).Keeps) :
    (x >>= f).Keeps := by
  intro s
  have same := first s
  rw [perform_bind]
  rcases h : x.perform s with ⟨_ | a, t⟩
  · rw [h] at same
    exact same
  · rw [h] at same
    exact (later a t).trans same

end Edit

open Edit (check keeps_pure keeps_check keeps_bind)

theorem QueryDraft.keeps_ask (executor : Option Executor) : (ask executor).Keeps := by
  cases executor with
  | none => exact fun _ => rfl
  | some answer => exact keeps_bind (fun _ => rfl) fun q => keeps_check _

variable {ρ : Type}

namespace Ask

/-- The columns that a run adds to the projection before anything can fail. -/
def columns? : Ask ρ → Option (List String)
  | firstRowOf columns => some columns
  | allRowsOf columns => some columns
  | _ => none

/-- The query that a run leaves. -/
def left (q : QueryDraft) (a : Ask ρ) : QueryDraft :=
  match a.columns? with
  | some columns => { q with columns := q.columns ++ columns }
  | none => q

/-- Whether or not a run fails, it leaves the query with the columns that it adds. -/
theorem perform_left (executor : Option Executor) (a : Ask ρ) (q : QueryDraft) :
    ((a.edit executor).perform q).2 = a.left q := by
  -- Asking the executor keeps the query, and so does decoding what it answers.
  have asked {α : Type} (f : ResultSet → α) :
      (do return f (← QueryDraft.ask executor) : Edit QueryDraft α).Keeps :=
    keeps_bind (QueryDraft.keeps_ask executor) fun r => keeps_pure (f r)
  have decoded {α β : Type} (f : ResultSet → Except QueryFailure α) (g : α → β) :
      (do
        let r ← QueryDraft.ask executor
        return g (← check (f r)) : Edit QueryDraft β).Keeps :=
    keeps_bind (QueryDraft.keeps_ask executor) fun r =>
      keeps_bind (keeps_check (f r)) fun a => keeps_pure (g a)
  have selected (columns : List String) : (QueryDraft.select columns).perform q =
      (.ok (), { q with columns := q.columns ++ columns }) := rfl
  cases a with
  | run => exact asked Reply.result q
  | firstRow => exact asked (fun r => Reply.row r.first?) q
  | allRows => exact asked (fun r => Reply.rows r.results) q
  | firstRowOf columns =>
    rw [edit, Edit.perform_bind, selected]
    exact asked (fun r => Reply.row r.first?) _
  | allRowsOf columns =>
    rw [edit, Edit.perform_bind, selected]
    exact asked (fun r => Reply.rows r.results) _
  | firstRecord decode => exact decoded (fun r => r.decodeFirst decode) Reply.record q
  | allRecords decode => exact decoded (fun r => r.decodeAll decode) Reply.records q

end Ask

namespace SessionStep

section Executor

variable (executor : Option Executor)

/-- The query that a failing step leaves. -/
def left (q : QueryDraft) : SessionStep ρ → QueryDraft
  | ask a => a.left q
  | _ => q

/-- A step without what fails in it. Of a run that fails there remain the columns that it adds. What
runs on a copy is a script of its own. -/
def erased (q : QueryDraft) : SessionStep ρ → List (SessionStep ρ)
  | build s => (s.erased q).map build
  | ask a => match ((a.edit executor).perform q).1 with
    | .ok _ => [ask a]
    | .error _ => (a.columns?.map fun columns => build (.select columns)).toList
  | s => [s]

def Clean (q : QueryDraft) (s : SessionStep ρ) : Prop :=
  (s.edit executor).Succeeds q ∧ match s with
    | build s => s.Clean q
    | _ => True

theorem perform_ask (a : Ask ρ) (q : QueryDraft) :
    ((ask a).edit executor).perform q =
      (((a.edit executor).perform q).1.map fun _ => (), a.left q) := by
  have left := a.perform_left executor q
  rw [edit, Edit.perform_bind]
  rcases h : (a.edit executor).perform q with ⟨_ | _, _⟩
  · rw [h] at left
    exact Prod.ext rfl left
  · rw [h] at left
    exact Prod.ext rfl left

/-- A step of a session succeeds, or it changes nothing but the columns that a run adds. -/
theorem succeeds_or_left (s : SessionStep ρ) (q : QueryDraft) :
    (s.edit executor).Succeeds q ∨ ((s.edit executor).perform q).2 = s.left q := by
  cases s with
  | build s => exact s.atomic_edit q
  | ask a =>
    right
    rw [perform_ask]
    rfl
  | fork script => exact .inl ⟨(), rfl⟩
  | look => exact .inl ⟨(), rfl⟩

theorem erases : Edit.Erases (edit (ρ := ρ) executor) (erased executor) (Clean executor) := by
  intro q s
  cases s with
  | build s =>
    rcases QueryStep.erases q s with ⟨nothing, unchanged⟩ | ⟨b, one, clean, after⟩
    · left
      refine ⟨?_, unchanged⟩
      rw [erased, nothing]
      rfl
    · right
      refine ⟨build b, ?_, ⟨clean.1, clean⟩, after⟩
      rw [erased, one]
      rfl
  | ask a =>
    have asked := perform_ask executor a q
    rw [erased]
    cases h : ((a.edit executor).perform q).1 with
    | ok r =>
      right
      refine ⟨ask a, rfl, ⟨⟨(), ?_⟩, trivial⟩, rfl⟩
      rw [asked, h]
      rfl
    | error e =>
      rw [asked]
      -- What the run has added first is left as a step of its own.
      cases columns : a.columns? with
      | none =>
        left
        refine ⟨rfl, ?_⟩
        rw [Ask.left, columns]
      | some columns' =>
        right
        refine ⟨build (.select columns'), rfl, ⟨⟨(), rfl⟩, ⟨(), rfl⟩, trivial⟩, ?_⟩
        rw [Ask.left, columns]
        rfl
  | fork script => exact .inr ⟨fork script, rfl, ⟨⟨(), rfl⟩, trivial⟩, rfl⟩
  | look => exact .inr ⟨look, rfl, ⟨⟨(), rfl⟩, trivial⟩, rfl⟩

end Executor

end SessionStep

/-- Failures are atomic. A step of a clause or of a query that fails leaves what it found, but for
the columns that a run adds first; and a script leaves what it leaves without the steps that fail,
at any depth of its groups, in which no step fails any more. Building without writing in place
leaves the same fragments and values. -/
theorem failures_are_atomic :
    (∀ (s : ClauseStep) (d : Draft), s.edit.Succeeds d ∨ (s.edit.perform d).2 = d) ∧
    (∀ (d : Draft) (script : List ClauseStep),
      Draft.run d (ClauseStep.allErased d script) = Draft.run d script ∧
        ClauseStep.AllClean d (ClauseStep.allErased d script)) ∧
    (∀ executor (s : SessionStep ρ) (q : QueryDraft),
      (s.edit executor).Succeeds q ∨ ((s.edit executor).perform q).2 = s.left q) ∧
    (∀ executor (q : QueryDraft) (script : List (SessionStep ρ)),
      let without :=
        Edit.eraseAll (SessionStep.edit executor) (SessionStep.erased executor) q script
      QueryDraft.run executor q without = QueryDraft.run executor q script ∧
        Edit.AllClean (SessionStep.edit executor) (SessionStep.Clean executor) q without) ∧
    (∀ (c : Clause) (script : List ClauseStep),
      Draft.run c.draft script = (c.run script).draft) ∧
    ∀ executor (s : Session) (script : List (SessionStep ρ)),
      QueryDraft.run executor s.query.draft script =
        (SessionStep.performAll executor s script).2.query.draft := by
  refine ⟨fun s d => s.atomic_edit d, ?_, SessionStep.succeeds_or_left, ?_, Draft.run_draft,
    QueryDraft.run_draft_session⟩
  · intro d script
    rw [ClauseStep.allClean_iff, ClauseStep.allErased_eq]
    exact Edit.runAll_eraseAll _ ClauseStep.erases d script
  · intro executor q script
    exact Edit.runAll_eraseAll _ (SessionStep.erases executor) q script

end SelectQuery
