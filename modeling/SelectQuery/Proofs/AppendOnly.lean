import SelectQuery.Proofs.Draft

/-!
Scripts only append. A step of a clause is written in place, on the draft of all steps before it. It
reads nothing of this draft but the scope and whether a fragment stands there already, and the
latter decides about a connective alone. So a script does from any draft what it does from an empty
one of the same scope.

What is proved:
  1. `Appends.push`, `Appends.reading`, `Appends.checked`: which edits append, and how such edits
     are put together.
  2. `appends_enclose`, `appends_edit`: a group appends whatever its callback does, and so does
     every step.
  3. `run_eq_followedBy`: what a script leaves is what it found, followed by what it leaves in an
     empty draft.
  4. `script_appends`: each step has the outcome it has from an empty draft; what stood there
     stays, and what is added is the same but for the connective of its first fragment.
-/

namespace SelectQuery

open Edit (check)

namespace Draft

variable {link : Connective} {d e f : Draft}

/-! ## Drafts one behind the other -/

/-- A draft with what another one holds behind it. The first fragment behind others gets a
connective. -/
def followedBy (d : Draft) (link : Connective) (e : Draft) : Draft := { d with
  fragments := d.fragments ++
    if d.fragments.isEmpty then e.fragments else e.fragments.modifyHead (link.text ++ " " ++ ·)
  bindings := d.bindings ++ e.bindings }

theorem fragments_followedBy (h : d.fragments = []) :
    (d.followedBy link e).fragments = e.fragments := by
  simp [followedBy, h]

theorem followedBy_of_cons {sql : String} {rest : List String} (h : e.fragments = sql :: rest) :
    (d.followedBy link e).fragments =
      d.fragments ++ (if d.fragments.isEmpty then sql else link.text ++ " " ++ sql) :: rest := by
  rw [followedBy, h]
  cases d.fragments.isEmpty <;> rfl

theorem followedBy_of_nil (h : e.fragments = []) :
    (d.followedBy link e).fragments = d.fragments := by
  simp [followedBy, h]

theorem followedBy_fresh : d.followedBy link d.fresh = d := by
  simp [followedBy, fresh]

/-- The connective in front of several drafts is that of the first with a fragment. -/
theorem followedBy_followedBy {later : Connective} :
    (d.followedBy link e).followedBy later f =
      d.followedBy (if e.fragments.isEmpty then later else link) (e.followedBy later f) := by
  cases first : d.fragments with
  | nil => cases e.fragments <;> simp [followedBy, first]
  | cons sql rest => cases second : e.fragments <;> simp [followedBy, first, second]

/-! ## Edits that append -/

/-- An edit that has the same outcome from every draft of a scope, and leaves the draft as it was,
followed by what it leaves in an empty one, which is one fragment at most. -/
structure Appends (link : Connective) (x : Edit Draft Unit) : Prop where
  perform_eq : ∀ d : Draft, x.perform d =
    ((x.perform d.fresh).1, d.followedBy link (x.perform d.fresh).2)
  length_le : ∀ d : Draft, (x.perform d.fresh).2.fragments.length ≤ 1

namespace Appends

theorem pure : Appends link (Pure.pure ()) where
  perform_eq d := by simp [followedBy_fresh]
  length_le d := Nat.zero_le 1

theorem throw (e : StepFailure) : Appends link (MonadExcept.throw e) where
  perform_eq d := by
    show (Except.error e, d) = (Except.error e, d.followedBy link d.fresh)
    rw [followedBy_fresh]
  length_le d := Nat.zero_le 1

theorem push (sql : String) (values : List Value) : Appends link (Draft.push link sql values) where
  perform_eq d := by
    rw [perform_push, perform_push]
    cases first : d.fragments <;> simp [followedBy, fresh, first]
  length_le d := Nat.le_refl 1

/-- An edit may read from the draft what an empty draft of the scope has too. -/
theorem reading {g : Draft → Edit Draft Unit} (same : ∀ d, g d = g d.fresh)
    (each : ∀ d, Appends link (g d)) : Appends link (get >>= g) where
  perform_eq d := by
    rw [Edit.perform_bind, Edit.perform_bind, Edit.perform_get, Edit.perform_get]
    show (g d).perform d = _
    rw [same, (each d.fresh).perform_eq]
  length_le d := by
    rw [Edit.perform_bind, Edit.perform_get]
    exact (each d.fresh).length_le d

theorem checked {α : Type} (r : Except QueryFailure α) {g : α → Edit Draft Unit}
    (each : ∀ a, Appends link (g a)) : Appends link (check r >>= g) := by
  cases r with
  | ok a => exact each a
  | error e => exact throw (.query e)

end Appends

/-! ## The edits of a clause -/

theorem appends_fold (group : Draft) : Appends link (fold link group) := by
  unfold fold
  split
  · exact .pure
  · exact .push _ _

theorem appends_compare (column : String) (op : Operator) (v : Value) :
    Appends link (compare link column op v) := by
  refine .reading (fun _ => rfl) fun d => ?_
  refine .checked _ fun path => ?_
  refine .checked _ fun operand => ?_
  exact .push _ _

theorem appends_membership (column : String) (negated : Bool) (values : List Value) :
    Appends link (membership link column negated values) := by
  unfold membership
  split
  · exact .pure
  · refine .reading (fun _ => rfl) fun d => ?_
    refine .checked _ fun path => ?_
    refine .checked _ fun _ => ?_
    exact .push _ _

theorem appends_range (column : String) (negated : Bool) (low high : Value) :
    Appends link (range link column negated low high) := by
  refine .reading (fun _ => rfl) fun d => ?_
  refine .checked _ fun path => ?_
  refine .checked _ fun _ => ?_
  exact .push _ _

theorem appends_null (column : String) (negated : Bool) :
    Appends link (null link column negated) := by
  refine .reading (fun _ => rfl) fun d => ?_
  refine .checked _ fun path => ?_
  exact .push _ _

theorem appends_request (r : Request) : Appends link (request link r) := by
  cases r with
  | compare column op v => exact appends_compare column op v
  | oneOf column negated values => exact appends_membership column negated values
  | between column negated low high => exact appends_range column negated low high
  | isNull column negated => exact appends_null column negated

/-- Writes as a group what a callback writes on a draft of its own; fails as the callback does. -/
def enclose (link : Connective) (callback : Edit Draft Unit) : Edit Draft Unit := do
  let d ← get
  let (outcome, written) := callback.perform d.fresh
  match outcome with
  | .ok () => fold link written
  | .error e => throw e

/-- Whatever a callback does, what its group holds does not depend on what stands before it. -/
theorem appends_enclose (callback : Edit Draft Unit) : Appends link (enclose link callback) := by
  refine .reading (fun _ => rfl) fun d => ?_
  rcases callback.perform d.fresh with ⟨_ | _, written⟩
  · exact .throw _
  · exact appends_fold written

end Draft

namespace ClauseStep

/-- The connective of the step. Steps that write nothing have the one that calls have by default. -/
def link : ClauseStep → Connective
  | add link _ => link
  | group link _ _ => link
  | _ => default

theorem edit_group (link : Connective) (tolerant : Bool) (body : List ClauseStep) :
    (group link tolerant body).edit = Draft.enclose link (editAll tolerant body) := by
  rw [edit]
  rfl

theorem appends_edit (s : ClauseStep) : Draft.Appends s.link s.edit := by
  cases s with
  | add link request =>
    rw [edit]
    exact Draft.appends_request request
  | group link tolerant body =>
    rw [edit_group]
    exact Draft.appends_enclose _
  | fail =>
    rw [edit]
    exact .throw _
  | misspelt e =>
    rw [edit]
    exact .throw _
  | look =>
    rw [edit]
    exact .pure

end ClauseStep

namespace Draft

open ClauseStep (appends_edit)

variable {d : Draft} {script : List ClauseStep}

/-! ## Scripts -/

def outcomes (d : Draft) : List ClauseStep → List (Except StepFailure Unit)
  | [] => []
  | s :: rest => (s.edit.perform d).1 :: outcomes (s.edit.perform d).2 rest

/-- What a step leaves in an empty draft of the scope. -/
def alone (d : Draft) (s : ClauseStep) : Draft := (s.edit.perform d.fresh).2

theorem perform_eq (d : Draft) (s : ClauseStep) :
    (s.edit.perform d).2 = d.followedBy s.link (d.alone s) :=
  congrArg Prod.snd ((appends_edit s).perform_eq d)

/-- A step keeps the scope, so what comes after it starts from the same empty draft. -/
theorem fresh_perform (d : Draft) (s : ClauseStep) : (s.edit.perform d).2.fresh = d.fresh := by
  rw [perform_eq]
  rfl

theorem fresh_alone (d : Draft) (s : ClauseStep) : (d.alone s).fresh = d.fresh :=
  fresh_perform d.fresh s

theorem run_cons (d : Draft) (s : ClauseStep) (rest : List ClauseStep) :
    run d (s :: rest) = run (s.edit.perform d).2 rest := rfl

theorem fresh_run (d : Draft) (script : List ClauseStep) : (run d script).fresh = d.fresh := by
  induction script generalizing d with
  | nil => rfl
  | cons s rest ih => rw [run_cons, ih, fresh_perform]

/-- The outcome of a step does not depend on the steps before it. -/
theorem outcomes_eq_map (d : Draft) (script : List ClauseStep) :
    outcomes d script = script.map fun s => (s.edit.perform d.fresh).1 := by
  induction script generalizing d with
  | nil => rfl
  | cons s rest ih =>
    have here : (s.edit.perform d).1 = (s.edit.perform d.fresh).1 := by
      rw [(appends_edit s).perform_eq]
    rw [outcomes, here, ih, fresh_perform, List.map_cons]

/-- In place or not, the steps of a script have the same outcomes. -/
theorem outcomes_draft (c : Clause) (script : List ClauseStep) :
    outcomes c.draft script = (c.trace script).map fun left =>
      match left.1 with
      | none => .ok ()
      | some e => .error e := by
  induction script generalizing c with
  | nil => rfl
  | cons s rest ih =>
    have here := perform_edit_draft c s
    have later := ih (c.attempt s).2
    rw [outcomes, here]
    exact congrArg (List.cons _) later

/-- The connective of the first step that writes a fragment. -/
def opening (d : Draft) : List ClauseStep → Connective
  | [] => default
  | s :: rest => if (d.alone s).fragments.isEmpty then opening d rest else s.link

theorem opening_congr (same : d.fresh = e.fresh) (script : List ClauseStep) :
    opening d script = opening e script := by
  induction script with
  | nil => rfl
  | cons s rest ih => rw [opening, opening, ih, alone, alone, same]

/-- A script leaves what it found, followed by what it leaves in an empty draft. -/
theorem run_eq_followedBy (d : Draft) (script : List ClauseStep) :
    run d script = d.followedBy (opening d script) (run d.fresh script) := by
  -- The rest of the script runs from two drafts that the first step leaves, one behind `d`.
  induction script generalizing d with
  | nil => exact followedBy_fresh.symm
  | cons s rest ih =>
    have here := ih (s.edit.perform d).2
    have alone := ih (d.alone s)
    rw [opening_congr (fresh_perform d s), fresh_perform] at here
    rw [opening_congr (fresh_alone d s), fresh_alone] at alone
    calc run d (s :: rest)
        = (d.followedBy s.link (d.alone s)).followedBy (opening d rest) (run d.fresh rest) := by
          rw [run_cons, here, perform_eq]
      _ = d.followedBy (opening d (s :: rest))
            ((d.alone s).followedBy (opening d rest) (run d.fresh rest)) := followedBy_followedBy
      _ = d.followedBy (opening d (s :: rest)) (run d.fresh (s :: rest)) := by
          rw [← alone]
          rfl

theorem run_alone (d : Draft) (s : ClauseStep) (rest : List ClauseStep) :
    run d.fresh (s :: rest) = (d.alone s).followedBy (opening d rest) (run d.fresh rest) := by
  rw [run_cons, ← alone, run_eq_followedBy, opening_congr (fresh_alone d s), fresh_alone]

/-- Behind steps that write no fragment, a step writes what it writes in an empty draft. -/
theorem fragments_perform (h : (run d.fresh script).fragments = []) (s : ClauseStep) :
    (s.edit.perform (run d.fresh script)).2.fragments = (d.alone s).fragments := by
  rw [perform_eq, fragments_followedBy h, alone, fresh_run]
  rfl

/-- A script writes no fragment in an empty draft, or the first one is written by one of its steps,
behind steps that write none. -/
theorem exists_opening (d : Draft) (script : List ClauseStep) :
    (run d.fresh script).fragments = [] ∨
    ∃ before s after sql rest, script = before ++ s :: after ∧
      (run d.fresh before).fragments = [] ∧ (d.alone s).fragments = [sql] ∧
      (run d.fresh script).fragments = sql :: rest ∧ opening d script = s.link := by
  induction script with
  | nil => exact .inl rfl
  | cons s rest ih =>
    rw [opening]
    cases here : (d.alone s).fragments with
    | nil =>
      have skip (later : List ClauseStep) :
          (run d.fresh (s :: later)).fragments = (run d.fresh later).fragments := by
        rw [run_alone, fragments_followedBy here]
      rcases ih with none | ⟨before, t, after, sql, others, rfl, quiet, written, first, link⟩
      · exact .inl ((skip rest).trans none)
      · exact .inr ⟨s :: before, t, after, sql, others, rfl, (skip before).trans quiet, written,
          (skip _).trans first, link⟩
    | cons sql others =>
      have single := (appends_edit s).length_le d
      rw [← alone, here, List.length_cons] at single
      obtain rfl : others = [] := List.length_eq_zero_iff.1 (by omega)
      have first : (run d.fresh (s :: rest)).fragments =
          sql :: (run d.fresh rest).fragments.modifyHead ((opening d rest).text ++ " " ++ ·) := by
        rw [run_alone, followedBy, here]
        rfl
      exact .inr ⟨[], s, rest, sql, _, rfl, rfl, here, first, rfl⟩

end Draft

/-- Scripts only append, and what they append does not depend on what stands there. From any draft,
each step of a script has the outcome that it has from an empty draft of the scope. The values are
those of the draft, and then those that the script leaves in the empty one; so are the fragments,
unchanged but for the first of them, which has in front the connective of the step that wrote it if
the draft was not empty. What a script has written stays there whatever is done behind it. All this
goes for a group with any callback too, and for a clause that is not written in place. -/
theorem script_appends (d : Draft) (script : List ClauseStep) :
    d.outcomes script = d.fresh.outcomes script ∧
    (d.run script).bindings = d.bindings ++ (d.fresh.run script).bindings ∧
    ((d.fresh.run script).fragments = [] ∧ (d.run script).fragments = d.fragments ∨
      ∃ before s after sql rest, script = before ++ s :: after ∧
        (d.fresh.run before).fragments = [] ∧
        (s.edit.perform (d.fresh.run before)).2.fragments = [sql] ∧
        (d.fresh.run script).fragments = sql :: rest ∧
        (d.run script).fragments = d.fragments ++
          (if d.fragments.isEmpty then sql else s.link.text ++ " " ++ sql) :: rest) ∧
    (∀ more, (d.run script).fragments <+: (d.run (script ++ more)).fragments ∧
      (d.run script).bindings <+: (d.run (script ++ more)).bindings) ∧
    (∀ link callback, (Draft.enclose link callback).perform d =
      (((Draft.enclose link callback).perform d.fresh).1,
        d.followedBy link ((Draft.enclose link callback).perform d.fresh).2)) ∧
    ∀ c : Clause, c.draft.fresh = c.fresh.draft ∧ c.draft.run script = (c.run script).draft ∧
      c.draft.outcomes script = (c.trace script).map fun left =>
        match left.1 with
        | none => .ok ()
        | some e => .error e := by
  have whole := Draft.run_eq_followedBy d script
  refine ⟨?_, ?_, ?_, ?_, fun _ callback => (Draft.appends_enclose callback).perform_eq d, ?_⟩
  · rw [Draft.outcomes_eq_map, Draft.outcomes_eq_map]
    rfl
  · rw [whole]
    rfl
  · rcases Draft.exists_opening d script with none |
      ⟨before, s, after, sql, rest, split, quiet, written, first, link⟩
    · exact .inl ⟨none, by rw [whole, Draft.followedBy_of_nil none]⟩
    · refine .inr ⟨before, s, after, sql, rest, split, quiet, ?_, first, ?_⟩
      · rw [Draft.fragments_perform quiet, written]
      · rw [whole, Draft.followedBy_of_cons first, link]
  · intro more
    have later : d.run (script ++ more) = (d.run script).run more := List.foldl_append
    rw [later, Draft.run_eq_followedBy (d.run script)]
    exact ⟨List.prefix_append _ _, List.prefix_append _ _⟩
  · exact fun c => ⟨rfl, Draft.run_draft c script, Draft.outcomes_draft c script⟩

end SelectQuery
