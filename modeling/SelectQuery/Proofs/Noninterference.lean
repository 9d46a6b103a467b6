import Mathlib.Data.List.Forall2
import SelectQuery.Proofs.Checks
import SelectQuery.Proofs.Rearrangement

/-!
Values stay out of the text. Two runs of a script that differ in values alone have the same text, as
long as the same steps succeed in both, and no value of a comparison that differs names a column in
either. The values of memberships and ranges may be any, also paths of columns.

What is proved:
  1. `test?_alike`, `joinTest_alike`: requests that differ in values alone give tests with the same text,
     which bind the values asked for, or fail alike.
  2. `conditions_alike`, `bodyConditions_alike`: so do the steps of a clause, at any depth.
  3. `text_of_alike`: and so do scripts of queries. Each entry of the values of the one query and the
     entry of the other come from the same place of the two scripts.
-/

namespace SelectQuery

/-! ## Scripts that differ in values -/

/-- Values that a comparison cannot tell apart in its text: equal ones, and any two of which neither
names a column. -/
def Value.Alike (oracle : Option Oracle) (v w : Value) : Prop :=
  v = w ∨ v.namedColumn? oracle = none ∧ w.namedColumn? oracle = none

/-- Requests that differ in values alone. -/
inductive Request.Alike (oracle : Option Oracle) : Request → Request → Prop where
  | compare {column : String} {op : Operator} {v w : Value} (values : v.Alike oracle w) :
    Alike oracle (.compare column op v) (.compare column op w)
  | oneOf {column : String} {negated : Bool} {vs ws : List Value}
    (lengths : vs.length = ws.length) :
    Alike oracle (.oneOf column negated vs) (.oneOf column negated ws)
  | between {column : String} {negated : Bool} {low high low' high' : Value} :
    Alike oracle (.between column negated low high) (.between column negated low' high')
  | isNull {column : String} {negated : Bool} :
    Alike oracle (.isNull column negated) (.isNull column negated)

inductive JoinCondition.Alike (oracle : Option Oracle) : JoinCondition → JoinCondition → Prop where
  | value {column : String} {op : Operator} {v w : Value} (values : v.Alike oracle w) :
    Alike oracle (.value column op v) (.value column op w)
  | columns {column : String} {op : Operator} {table other : String} :
    Alike oracle (.columns column op table other) (.columns column op table other)

namespace ClauseStep

mutual

/-- Steps that differ in values alone. -/
inductive Alike (oracle : Option Oracle) : ClauseStep → ClauseStep → Prop where
  | add {link : Connective} {r r' : Request} (requests : r.Alike oracle r') :
    Alike oracle (.add link r) (.add link r')
  | group {link : Connective} {tolerant : Bool} {body body' : List ClauseStep}
    (bodies : AllAlike oracle body body') :
    Alike oracle (.group link tolerant body) (.group link tolerant body')
  | fail : Alike oracle .fail .fail
  | misspelt {e : UnknownKeyword} : Alike oracle (.misspelt e) (.misspelt e)
  | look : Alike oracle .look .look

inductive AllAlike (oracle : Option Oracle) : List ClauseStep → List ClauseStep → Prop where
  | nil : AllAlike oracle [] []
  | cons {s s' : ClauseStep} {rest rest' : List ClauseStep} (first : Alike oracle s s')
    (later : AllAlike oracle rest rest') : AllAlike oracle (s :: rest) (s' :: rest')

end

end ClauseStep

inductive QueryStep.Alike (oracle : Option Oracle) : QueryStep → QueryStep → Prop where
  | join {kind : JoinKind} {table : String} {on on' : JoinCondition}
    (conditions : on.Alike oracle on') :
    Alike oracle (.join kind table on) (.join kind table on')
  | joinGroup {kind : JoinKind} {table : String} {tolerant : Bool} {body body' : List ClauseStep}
    (bodies : ClauseStep.AllAlike oracle body body') :
    Alike oracle (.joinGroup kind table tolerant body) (.joinGroup kind table tolerant body')
  | filter {s s' : ClauseStep} (steps : s.Alike oracle s') : Alike oracle (.filter s) (.filter s')
  | other {s : QueryStep} (joins : ¬ s.isAbout .joins) (wheres : ¬ s.isAbout .wheres) :
    Alike oracle s s

/-! ## The values of a script -/

def Request.operands : Request → List Value
  | compare _ _ v => [v]
  | oneOf _ _ values => values
  | between _ _ low high => [low, high]
  | isNull _ _ => []

def JoinCondition.operands : JoinCondition → List Value
  | value _ _ v => [v]
  | columns _ _ _ _ => []

/-- The values of a step, at any depth. -/
def ClauseStep.operands (s : ClauseStep) : List Value := s.requests.flatMap Request.operands

def ClauseStep.allOperands (script : List ClauseStep) : List Value :=
  (allRequests script).flatMap Request.operands

namespace QueryStep

def joinOperands : QueryStep → List Value
  | join _ _ on => on.operands
  | joinGroup _ _ _ body => ClauseStep.allOperands body
  | _ => []

def whereOperands : QueryStep → List Value
  | filter s => s.operands
  | _ => []

/-- The values of a script: those of its joins, then those of its WHERE. -/
def operands (script : List QueryStep) : List Value :=
  script.flatMap joinOperands ++ script.flatMap whereOperands

end QueryStep

/-! ## What comes of the steps of a script -/

/-- What is seen of a step, and of the steps in it that were run. -/
inductive Trail (α : Type) where
  | node (own : α) (inner : List (Trail α))

def Trail.inner {α : Type} : Trail α → List (Trail α)
  | node _ inner => inner

/-- The failure without what was found in place of the expected. -/
def QueryFailure.hideActual : QueryFailure → QueryFailure
  | typeMismatch column expected _ => typeMismatch column expected ""
  | e => e

def StepFailure.hideActual : StepFailure → StepFailure
  | query e => query e.hideActual
  | keyword e => keyword e

section Trails

variable {α : Type} (see : Option StepFailure → α)

namespace ClauseStep

def failure? (scope : Scope) (s : ClauseStep) : Option StepFailure :=
  match s.conditions scope with
  | .ok _ => none
  | .error e => some e

mutual

def trail (scope : Scope) : ClauseStep → Trail α
  | group link tolerant body =>
    .node (see ((group link tolerant body).failure? scope)) (bodyTrails scope tolerant body)
  | add link request => .node (see ((add link request).failure? scope)) []
  | fail => .node (see (fail.failure? scope)) []
  | misspelt e => .node (see ((misspelt e).failure? scope)) []
  | look => .node (see (look.failure? scope)) []

/-- What is seen of the steps of a group up to the one that ends it. -/
def bodyTrails (scope : Scope) (tolerant : Bool) : List ClauseStep → List (Trail α)
  | [] => []
  | s :: rest => s.trail scope :: match s.failure? scope with
    | none => bodyTrails scope tolerant rest
    | some (.query _) => if tolerant then bodyTrails scope tolerant rest else []
    | some (.keyword _) => []

end

end ClauseStep

def QueryStep.innerTrails (scope : Scope) : QueryStep → List (Trail α)
  | joinGroup _ table tolerant body =>
    ClauseStep.bodyTrails see { scope with table } tolerant body
  | filter s => (s.trail see scope).inner
  | _ => []

def Query.trails (q : Query) : List QueryStep → List (Trail α)
  | [] => []
  | s :: rest =>
    .node (see (q.attempt s).1) (s.innerTrails see q.scope) :: (q.attempt s).2.trails rest

end Trails

/-! ## Values in the same places -/

/-- Two lists of values that are found in the same places of the lists `ops` and `ops'`. -/
structure Bound (values values' ops ops' : List Value) : Prop where
  length : values.length = values'.length
  room : ops.length = ops'.length
  places : (values.zip values').Sublist (ops.zip ops')

namespace Bound

variable {a a' b b' o o' p p' : List Value}

theorem refl (h : a.Sublist o) : Bound a a o o where
  length := rfl
  room := rfl
  places := by
    rw [List.zip_eq_zipWith, List.zip_eq_zipWith, List.zipWith_self, List.zipWith_self]
    exact h.map _

theorem none (room : o.length = o'.length) : Bound [] [] o o' where
  length := rfl
  room := room
  places := List.nil_sublist _

theorem all (room : o.length = o'.length) : Bound o o' o o' where
  length := room
  room := room
  places := List.Sublist.refl _

theorem append (h : Bound a a' o o') (k : Bound b b' p p') :
    Bound (a ++ b) (a' ++ b') (o ++ p) (o' ++ p') where
  length := by rw [List.length_append, List.length_append, h.length, k.length]
  room := by rw [List.length_append, List.length_append, h.room, k.room]
  places := by
    rw [List.zip_append h.length, List.zip_append h.room]
    exact h.places.append k.places

theorem append_room (h : Bound a a' o o') (room : p.length = p'.length) :
    Bound a a' (o ++ p) (o' ++ p') := by
  simpa using h.append (none room)

end Bound

/-! ## Requests -/

/-- Two outcomes: a failure of the same kind in both, or results that are related. -/
inductive Outcomes {ε α : Type} (hide : ε → ε) (related : α → α → Prop) :
    Except ε α → Except ε α → Prop where
  | ok {x y : α} (results : related x y) : Outcomes hide related (.ok x) (.ok y)
  | error {e e' : ε} (kinds : hide e = hide e') : Outcomes hide related (.error e) (.error e')

theorem Outcomes.refl {ε α : Type} {hide : ε → ε} {related : α → α → Prop} {x : Except ε α}
    (h : ∀ a, x = .ok a → related a a) : Outcomes hide related x x := by
  cases x with
  | ok a => exact .ok (h a rfl)
  | error e => exact .error rfl

theorem Outcomes.imp {ε α : Type} {hide : ε → ε} {related related' : α → α → Prop} {x y : Except ε α}
    (h : Outcomes hide related x y) (each : ∀ {a b}, related a b → related' a b) :
    Outcomes hide related' x y := by
  cases h with
  | ok results => exact .ok (each results)
  | error kinds => exact .error kinds

theorem Outcomes.map {ε α β : Type} {hide : ε → ε} {related : α → α → Prop}
    {related' : β → β → Prop} {f g : α → β} {x y : Except ε α} (h : Outcomes hide related x y)
    (each : ∀ {a b}, related a b → related' (f a) (g b)) :
    Outcomes hide related' (x.map f) (y.map g) := by
  cases h with
  | ok results => exact .ok (each results)
  | error kinds => exact .error kinds

/-- A failure of a check as a failure of a step. -/
theorem Outcomes.lift {α : Type} {related : α → α → Prop} {x y : Except QueryFailure α}
    (h : Outcomes QueryFailure.hideActual related x y) :
    Outcomes StepFailure.hideActual related (x.mapError .query) (y.mapError .query) := by
  cases h with
  | ok results => exact .ok results
  | error kinds => exact .error (congrArg StepFailure.query kinds)

/-- Tests with the same text, whose values come from the same places. -/
structure Test.Alike (ops ops' : List Value) (t t' : Test) : Prop where
  text : t.render Value.hidden = t'.render Value.hidden
  values : Bound t.values t'.values ops ops'

namespace Scope

variable {s : Scope} {path column : String} {values values' : List Value}

/-- The failure of a value that a column does not accept, whatever the value is. -/
def refusal (s : Scope) (path : String) : QueryFailure :=
  match s.oracle.bind (·.declaredAt path) with
  | none => .unknownColumn path
  | some t => .typeMismatch path t.text ""

theorem hideActual_checkValue {v : Value} {e : QueryFailure} (h : s.checkValue path v = .error e) :
    e.hideActual = s.refusal path := by
  unfold checkValue at h
  unfold refusal
  cases oracle : s.oracle with
  | none => simp [oracle] at h
  | some o =>
    cases declared : o.declaredAt path with
    | none =>
      simp only [oracle, declared, Except.error.injEq] at h
      simp [← h, declared, QueryFailure.hideActual]
    | some t =>
      simp only [oracle, declared] at h
      split at h
      · cases h
      · simp [← Except.error.inj h, declared, QueryFailure.hideActual]

theorem hideActual_checkValues {e : QueryFailure} (h : s.checkValues path values = .error e) :
    e.hideActual = s.refusal path := by
  induction values with
  | nil => cases h
  | cons v rest ih =>
    rw [checkValues] at h
    cases first : s.checkValue path v with
    | error e' =>
      simp only [first, bind, Except.bind, Except.error.injEq] at h
      exact h ▸ hideActual_checkValue first
    | ok _ =>
      simp only [first, bind, Except.bind] at h
      exact ih h

/-- A test of a column whose values are all bound. -/
def checked {α : Type} (s : Scope) (column : String) (values : List Value) (test : String → α) :
    Except QueryFailure α := do
  let path ← s.locate column
  s.checkValues path values
  return test path

theorem checked_alike {α : Type} {related : α → α → Prop} {t t' : String → α}
    (each : ∀ path, related (t path) (t' path))
    (same : (s.checked column values t).isOk = (s.checked column values' t').isOk) :
    Outcomes QueryFailure.hideActual related (s.checked column values t)
      (s.checked column values' t') := by
  cases found : s.locate column with
  | error e =>
    simp only [checked, found, bind, Except.bind]
    exact .error rfl
  | ok path =>
    cases left : s.checkValues path values <;> cases right : s.checkValues path values' <;>
      simp only [checked, found, left, right, bind, Except.bind, pure, Except.pure] at same ⊢
    case error.error e e' =>
      exact .error ((hideActual_checkValues left).trans (hideActual_checkValues right).symm)
    case error.ok => cases same
    case ok.error => cases same
    case ok.ok => exact .ok (each path)

/-- A value that names no column is bound. -/
theorem valueTest_of_unnamed {v : Value} {op : Operator} (h : v.namedColumn? s.oracle = none) :
    s.valueTest column op v = s.checked column [v] fun path => .compare path op (.value v) := by
  unfold valueTest checked operand
  cases s.locate column with
  | error e => rfl
  | ok path =>
    simp only [bind, Except.bind, h, checkValues]
    cases s.checkValue path v <;> rfl

theorem values_valueTest {op : Operator} {v : Value} {t : Test}
    (h : s.valueTest column op v = .ok t) : t.values.Sublist [v] := by
  simp only [valueTest, bind_eq_ok, pure_eq_ok] at h
  obtain ⟨path, -, operand, h, rfl⟩ := h
  rcases operand_eq_ok h with ⟨_, -, rfl⟩ | ⟨-, rfl⟩
  · exact List.nil_sublist _
  · exact List.Sublist.refl _

theorem valueTest_alike {op : Operator} {v w : Value} (alike : v.Alike s.oracle w)
    (same : (s.valueTest column op v).isOk = (s.valueTest column op w).isOk) :
    Outcomes QueryFailure.hideActual (Test.Alike [v] [w]) (s.valueTest column op v)
      (s.valueTest column op w) := by
  rcases alike with rfl | ⟨left, right⟩
  · exact .refl fun t ht => ⟨rfl, .refl (values_valueTest ht)⟩
  · rw [valueTest_of_unnamed left, valueTest_of_unnamed right] at same ⊢
    exact checked_alike (fun path => ⟨rfl, .all rfl⟩) same

theorem map_hidden (values : List Value) :
    values.map Value.hidden = List.replicate values.length Value.placeholder :=
  List.map_const'

theorem isOk_map {ε α β : Type} (x : Except ε α) (f : α → β) : (x.map f).isOk = x.isOk := by
  cases x <;> rfl

theorem isOk_mapError {ε ε' α : Type} (x : Except ε α) (f : ε → ε') :
    (x.mapError f).isOk = x.isOk := by
  cases x <;> rfl

/-- Requests that differ in values alone give tests with the same text, as long as they both pass or
both fail. -/
theorem test?_alike {r r' : Request} (alike : r.Alike s.oracle r')
    (same : (s.test? r).isOk = (s.test? r').isOk) :
    Outcomes QueryFailure.hideActual (Option.Rel (Test.Alike r.operands r'.operands))
      (s.test? r) (s.test? r') := by
  cases alike with
  | compare values =>
    simp only [test?, isOk_map] at same ⊢
    exact (valueTest_alike values same).map fun tests => .some tests
  | @oneOf column negated vs ws lengths =>
    cases vs with
    | nil =>
      obtain rfl : ws = [] := List.length_eq_zero_iff.1 lengths.symm
      exact .ok .none
    | cons v vs =>
      obtain ⟨w, ws, rfl⟩ := List.exists_cons_of_length_eq_add_one lengths.symm
      refine checked_alike (fun path => .some ⟨?_, .all lengths⟩) same
      simp only [Test.render, map_hidden, lengths]
  | between => exact checked_alike (fun path => .some ⟨rfl, .all rfl⟩) same
  | @isNull column negated =>
    have shape : s.test? (.isNull column negated) =
      s.checked column [] fun path => some (.isNull path negated) := rfl
    rw [shape]
    exact checked_alike (fun path => .some ⟨rfl, .none rfl⟩) rfl

theorem length_joinOperands {oracle : Option Oracle} {on on' : JoinCondition}
    (h : on.Alike oracle on') : on.operands.length = on'.operands.length := by
  cases h <;> rfl

theorem joinTest_alike {on on' : JoinCondition} (alike : on.Alike s.oracle on')
    (same : (on.test s).isOk = (on'.test s).isOk) :
    Outcomes QueryFailure.hideActual (Test.Alike on.operands on'.operands) (on.test s)
      (on'.test s) := by
  cases alike with
  | value values => exact valueTest_alike values same
  | columns =>
    refine .refl fun t ht => ⟨rfl, .refl ?_⟩
    simp only [JoinCondition.test, columnTest, bind_eq_ok, pure_eq_ok] at ht
    obtain ⟨_, -, _, -, rfl⟩ := ht
    exact List.nil_sublist _

end Scope

/-! ## Conditions -/

namespace Condition

/-- The conditions as they are written with placeholders, each with its connective apart. -/
def texts (cs : List Condition) : List (Connective × String) :=
  cs.map fun c => (c.link, c.render Value.hidden)

theorem linked_texts (cs : List Condition) :
    linked Value.hidden cs = (texts cs).map fun (link, text) => link.text ++ " " ++ text := by
  induction cs with
  | nil => rfl
  | cons c rest ih =>
    rw [linked, ih]
    rfl

theorem fragments_of_texts {cs cs' : List Condition} (h : texts cs = texts cs') :
    fragments Value.hidden cs = fragments Value.hidden cs' := by
  cases cs with
  | nil =>
    obtain rfl : cs' = [] := List.map_eq_nil_iff.1 h.symm
    rfl
  | cons c rest =>
    cases cs' with
    | nil => cases h
    | cons c' rest' =>
      obtain ⟨first, later⟩ := List.cons_eq_cons.1 h
      rw [fragments, fragments, linked_texts, linked_texts, texts, later, (Prod.mk.inj first).2, texts]

/-- Conditions with the same text, whose values come from the same places. -/
structure AllAlike (ops ops' : List Value) (cs cs' : List Condition) : Prop where
  texts : texts cs = texts cs'
  values : Bound (allValues cs) (allValues cs') ops ops'

variable {ops ops' more more' : List Value} {cs cs' ds ds' : List Condition}

theorem AllAlike.nil (room : ops.length = ops'.length) : AllAlike ops ops' [] [] :=
  ⟨rfl, .none room⟩

theorem AllAlike.append (h : AllAlike ops ops' cs cs') (k : AllAlike more more' ds ds') :
    AllAlike (ops ++ more) (ops' ++ more') (cs ++ ds) (cs' ++ ds') where
  texts := by
    have left := h.texts
    have right := k.texts
    simp only [Condition.texts] at left right ⊢
    rw [List.map_append, List.map_append, left, right]
  values := by
    rw [allValues_append, allValues_append]
    exact h.values.append k.values

theorem AllAlike.test (link : Connective) {t t' : Test} (h : t.Alike ops ops' t') :
    AllAlike ops ops' [.test link t] [.test link t'] where
  texts := by simp [Condition.texts, Condition.link, Condition.render, h.text]
  values := by simpa [allValues, Condition.values] using h.values

theorem AllAlike.group {link : Connective} (h : AllAlike ops ops' cs cs') :
    AllAlike ops ops' [.group link cs] [.group link cs'] where
  texts := by simp [Condition.texts, Condition.link, Condition.render, fragments_of_texts h.texts]
  values := by simpa [allValues, Condition.values] using h.values

end Condition

/-! ## Steps of clauses -/

namespace ClauseStep

abbrev Outcomes (ops ops' : List Value) :
    Except StepFailure (List Condition) → Except StepFailure (List Condition) → Prop :=
  SelectQuery.Outcomes StepFailure.hideActual (Condition.AllAlike ops ops')

theorem operands_length {oracle : Option Oracle} {r r' : Request} (h : r.Alike oracle r') :
    r.operands.length = r'.operands.length := by
  cases h with
  | oneOf lengths => exact lengths
  | compare _ | between | isNull => rfl

variable {scope : Scope}

theorem isSome_failure? (s : ClauseStep) :
    (s.failure? scope).isSome = !(s.conditions scope).isOk := by
  unfold failure?
  cases s.conditions scope <;> rfl

theorem failure?_alike {s s' : ClauseStep} {ops ops' : List Value}
    (h : Outcomes ops ops' (s.conditions scope) (s'.conditions scope)) :
    (s.failure? scope).map StepFailure.hideActual = (s'.failure? scope).map StepFailure.hideActual := by
  unfold failure?
  generalize s.conditions scope = x at h ⊢
  generalize s'.conditions scope = y at h ⊢
  cases h with
  | ok _ => rfl
  | error kinds => simp only [Option.map_some, kinds]

mutual

theorem length_operands : (s : ClauseStep) → {s' : ClauseStep} → s.Alike scope.oracle s' →
    s.operands.length = s'.operands.length
  | add link request, _, .add same => by simpa [operands, requests] using operands_length same
  | group link tolerant body, _, .group bodies => length_allOperands body bodies
  | fail, _, .fail => rfl
  | misspelt _, _, .misspelt => rfl
  | look, _, .look => rfl

theorem length_allOperands : (body : List ClauseStep) → {body' : List ClauseStep} →
    AllAlike scope.oracle body body' → (allOperands body).length = (allOperands body').length
  | [], _, .nil => rfl
  | s :: rest, _, .cons first later => by
    have here := length_operands s first
    have there := length_allOperands rest later
    simp only [operands, allOperands, allRequests, List.flatMap_append, List.length_append]
      at here there ⊢
    rw [here, there]

end

theorem added_alike {s s' : ClauseStep} {ops ops' : List Value}
    (h : Outcomes ops ops' (s.conditions scope) (s'.conditions scope))
    (room : ops.length = ops'.length) :
    Condition.AllAlike ops ops' (s.added scope) (s'.added scope) := by
  unfold added
  generalize s.conditions scope = x at h ⊢
  generalize s'.conditions scope = y at h ⊢
  cases h with
  | ok conditions => exact conditions
  | error _ => exact .nil room

/-- What a test adds to a clause. -/
def ofTest (link : Connective) (t? : Option Test) : List Condition :=
  (t?.map (Condition.test link)).toList

theorem conditions_add (link : Connective) (r : Request) :
    (add link r).conditions scope = ((scope.test? r).map (ofTest link)).mapError .query := by
  rw [conditions]
  cases scope.test? r with
  | error e => rfl
  | ok t? => cases t? <;> rfl

/-- What the conditions of a group add to a clause. -/
def ofParts (link : Connective) (parts : List Condition) : List Condition :=
  if parts.isEmpty then [] else [.group link parts]

theorem conditions_group (link : Connective) (tolerant : Bool) (body : List ClauseStep) :
    (group link tolerant body).conditions scope =
      (bodyConditions scope tolerant body).map (ofParts link) := by
  rw [conditions]
  cases bodyConditions scope tolerant body with
  | error e => rfl
  | ok parts => cases parts <;> rfl

theorem ofParts_alike (link : Connective) {ops ops' : List Value} {cs cs' : List Condition}
    (h : Condition.AllAlike ops ops' cs cs') :
    Condition.AllAlike ops ops' (ofParts link cs) (ofParts link cs') := by
  have empty : cs.isEmpty = cs'.isEmpty := by
    have lengths := congrArg List.isEmpty h.texts
    rwa [Condition.texts, Condition.texts, List.isEmpty_map, List.isEmpty_map] at lengths
  unfold ofParts
  rw [empty]
  split
  · exact .nil h.values.room
  · exact h.group

theorem isOk_of_failure? {s s' : ClauseStep}
    (same : (s.failure? scope).isSome = (s'.failure? scope).isSome) :
    (s.conditions scope).isOk = (s'.conditions scope).isOk := by
  rw [isSome_failure?, isSome_failure?] at same
  exact Bool.not_inj same

theorem allOperands_cons (s : ClauseStep) (rest : List ClauseStep) :
    allOperands (s :: rest) = s.operands ++ allOperands rest :=
  List.flatMap_append

mutual

/-- Steps that differ in values alone fail alike or add conditions with the same text, and so do the
steps in them, as long as the same ones succeed. -/
theorem conditions_alike : (s : ClauseStep) → {s' : ClauseStep} → s.Alike scope.oracle s' →
    s.trail Option.isSome scope = s'.trail Option.isSome scope →
    s.trail (Option.map StepFailure.hideActual) scope =
        s'.trail (Option.map StepFailure.hideActual) scope ∧
      Outcomes s.operands s'.operands (s.conditions scope) (s'.conditions scope)
  | add link r, add _ r', .add requests, same => by
    simp only [trail, Trail.node.injEq, and_true] at same
    have outcome : Outcomes (add link r).operands (add link r').operands
        ((add link r).conditions scope) ((add link r').conditions scope) := by
      have passed := isOk_of_failure? same
      simp only [conditions_add, Scope.isOk_mapError, Scope.isOk_map] at passed ⊢
      refine ((Scope.test?_alike requests passed).map fun tests => ?_).lift
      simp only [operands, ClauseStep.requests, List.flatMap_singleton]
      cases tests with
      | none => exact .nil (operands_length requests)
      | some tests => exact .test link tests
    exact ⟨congrArg (Trail.node · []) (failure?_alike outcome), outcome⟩
  | group link tolerant body, _, .group bodies, same => by
    simp only [trail, Trail.node.injEq] at same
    obtain ⟨inner, outcome⟩ := bodyConditions_alike tolerant body bodies same.2
    have outcome := outcome.map (ofParts_alike link)
    rw [← conditions_group, ← conditions_group] at outcome
    refine ⟨?_, outcome⟩
    simp only [trail, inner, failure?_alike outcome]
  | fail, _, .fail, _ => ⟨rfl, .error rfl⟩
  | misspelt _, _, .misspelt, _ => ⟨rfl, .error rfl⟩
  | look, _, .look, _ => ⟨rfl, .ok (.nil rfl)⟩

theorem bodyConditions_alike (tolerant : Bool) : (body : List ClauseStep) →
    {body' : List ClauseStep} → AllAlike scope.oracle body body' →
    bodyTrails Option.isSome scope tolerant body = bodyTrails Option.isSome scope tolerant body' →
    bodyTrails (Option.map StepFailure.hideActual) scope tolerant body =
        bodyTrails (Option.map StepFailure.hideActual) scope tolerant body' ∧
      Outcomes (allOperands body) (allOperands body') (bodyConditions scope tolerant body)
        (bodyConditions scope tolerant body')
  | [], _, .nil, _ => ⟨rfl, .ok (.nil rfl)⟩
  | s :: rest, s' :: rest', .cons first later, same => by
    simp only [bodyTrails, List.cons.injEq] at same ⊢
    obtain ⟨here, outcome⟩ := conditions_alike s first same.1
    obtain ⟨first_same, rest_same⟩ := same
    have following := bodyConditions_alike tolerant rest later
    have room := length_allOperands rest later
    rw [allOperands_cons, allOperands_cons, bodyConditions, bodyConditions, here]
    generalize left : s.conditions scope = x at outcome
    generalize right : s'.conditions scope = y at outcome
    simp only [failure?, left, right] at rest_same ⊢
    cases outcome with
    | ok added =>
      obtain ⟨trails, others⟩ := following rest_same
      exact ⟨⟨trivial, trails⟩, others.map fun later => added.append later⟩
    -- A failure that ends the group ends it in both runs.
    | @error e e' kinds => cases e with
      | query f => cases e' with
        | query f' => cases tolerant with
          | true =>
            obtain ⟨trails, others⟩ := following rest_same
            have skipped := Condition.AllAlike.nil (length_operands s first)
            exact ⟨⟨trivial, trails⟩, others.imp fun later => skipped.append later⟩
          | false => exact ⟨⟨trivial, rfl⟩, .error kinds⟩
        | keyword _ => cases kinds
      | keyword u => cases e' with
        | query _ => cases kinds
        | keyword u' => exact ⟨⟨trivial, rfl⟩, .error kinds⟩

end

end ClauseStep

/-! ## Steps of queries -/

/-- A join as it is written with placeholders. -/
def Join.face (j : Join) : JoinKind × String × List (Connective × String) :=
  (j.kind, j.table, Condition.texts j.on)

theorem Join.render_of_face {j j' : Join} (h : j.face = j'.face) :
    j.render Value.hidden = j'.render Value.hidden := by
  simp only [face, Prod.mk.injEq] at h
  obtain ⟨kind, table, on⟩ := h
  have empty := congrArg List.isEmpty on
  rw [Condition.texts, Condition.texts, List.isEmpty_map, List.isEmpty_map] at empty
  simp only [render, Condition.renderAll, kind, table, empty, Condition.fragments_of_texts on]

theorem Query.joinTexts_of_faces {joins joins' : List Join}
    (h : joins.map Join.face = joins'.map Join.face) :
    joinTexts Value.hidden joins = joinTexts Value.hidden joins' := by
  induction joins generalizing joins' with
  | nil =>
    obtain rfl : joins' = [] := List.map_eq_nil_iff.1 h.symm
    rfl
  | cons j rest ih =>
    cases joins' with
    | nil => cases h
    | cons j' rest' =>
      obtain ⟨first, later⟩ := List.cons_eq_cons.1 h
      rw [joinTexts, joinTexts, Join.render_of_face first, ih later]

namespace Query

variable {ops ops' more more' : List Value} {on on' wheres wheres' : List Value} {q q' : Query}

/-- Queries with the same text, whose values come from the same places of two lists for joins and
of two lists for WHERE. -/
structure Alike (on on' wheres wheres' : List Value) (q q' : Query) : Prop where
  parts : ∀ p, p ≠ .joins → p ≠ .wheres → q.only p = q'.only p
  faces : q.joins.map Join.face = q'.joins.map Join.face
  joins : Bound (q.joins.flatMap Join.values) (q'.joins.flatMap Join.values) on on'
  wheres : Condition.AllAlike wheres wheres' q.wheres q'.wheres

namespace Alike

theorem scope (h : q.Alike on on' wheres wheres' q') : q.scope = q'.scope := by
  have projection := congrArg Query.scope (h.parts .projection (by decide) (by decide))
  rwa [scope_only, scope_only] at projection

theorem text (h : q.Alike on on' wheres wheres' q') : q.text = q'.text := by
  have joins : q.hasJoin = q'.hasJoin := by
    have empty := congrArg List.isEmpty h.faces
    rw [List.isEmpty_map, List.isEmpty_map] at empty
    rw [hasJoin, hasJoin, empty]
  have scope := h.scope
  have columns := congrArg Query.columns (h.parts .projection (by decide) (by decide))
  have distinct := congrArg Query.distinct (h.parts .distinct (by decide) (by decide))
  have groups := congrArg Query.groups (h.parts .groups (by decide) (by decide))
  have orders := congrArg Query.orders (h.parts .orders (by decide) (by decide))
  have limit := congrArg Query.limit (h.parts .limit (by decide) (by decide))
  have offset := congrArg Query.offset (h.parts .offset (by decide) (by decide))
  simp only [only] at columns distinct groups orders limit offset
  have projection : q.projectionText = q'.projectionText := by
    rw [projectionText, projectionText, entries, entries, table, table, columns, scope, joins]
  have sorted : q.orderTexts = q'.orderTexts := by
    rw [orderTexts, orderTexts, table, table, orders, scope, joins]
  -- The equation of the whole rendering is dear to state, so it is unfolded in place.
  delta Query.text render
  rw [table, table, distinct, projection, scope,
    joinTexts_of_faces h.faces, Condition.fragments_of_texts h.wheres.texts, groups, sorted, limit,
    offset]

theorem values (h : q.Alike on on' wheres wheres' q') :
    Bound q.args q'.args (on ++ wheres) (on' ++ wheres') :=
  h.joins.append h.wheres.values

/-- A further join of both queries. -/
theorem join (h : q.Alike on on' wheres wheres' q') (kind : JoinKind) (table : String)
    {cs cs' : List Condition} (conditions : Condition.AllAlike ops ops' cs cs') :
    Query.Alike (on ++ ops) (on' ++ ops') wheres wheres'
      { q with joins := q.joins ++ [⟨kind, table, cs⟩] }
      { q' with joins := q'.joins ++ [⟨kind, table, cs'⟩] } where
  parts p joins wheres := by
    have same := h.parts p joins wheres
    cases p <;> first | exact absurd rfl joins | exact same
  faces := by simp only [List.map_append, h.faces, List.map_cons, List.map_nil, Join.face,
    conditions.texts]
  joins := by
    simpa only [List.flatMap_append, List.flatMap_singleton, Join.values] using
      h.joins.append conditions.values
  wheres := h.wheres

/-- Further conditions of both queries. -/
theorem filter (h : q.Alike on on' wheres wheres' q') {cs cs' : List Condition}
    (conditions : Condition.AllAlike ops ops' cs cs') :
    Query.Alike on on' (wheres ++ ops) (wheres' ++ ops') { q with wheres := q.wheres ++ cs }
      { q' with wheres := q'.wheres ++ cs' } where
  parts p joins wheres := by
    have same := h.parts p joins wheres
    cases p <;> first | exact absurd rfl wheres | exact same
  faces := h.faces
  joins := h.joins
  wheres := h.wheres.append conditions

end Alike

/-- The query with a further join on what was built, or without it if that has failed. -/
def pushed (q : Query) (kind : JoinKind) (table : String) :
    Except StepFailure (List Condition) → Option StepFailure × Query
  | .ok on => (none, { q with joins := q.joins ++ [⟨kind, table, on⟩] })
  | .error e => (some e, q)

theorem attempt_join (q : Query) (kind : JoinKind) (table : String) (on : JoinCondition) :
    q.attempt (.join kind table on) = q.pushed kind table
      (((on.test ⟨table, q.scope.oracle⟩).map fun t => [.test .and t]).mapError .query) := by
  simp only [attempt, step, Query.join]
  cases on.test ⟨table, q.scope.oracle⟩ <;> rfl

theorem attempt_joinGroup (q : Query) (kind : JoinKind) (table : String) (tolerant : Bool)
    (body : List ClauseStep) :
    q.attempt (.joinGroup kind table tolerant body) = q.pushed kind table
      (ClauseStep.bodyConditions ⟨table, q.scope.oracle⟩ tolerant body) := by
  simp only [attempt, step, joinGroup]
  cases ClauseStep.bodyConditions ⟨table, q.scope.oracle⟩ tolerant body <;> rfl

theorem pushed_alike (h : q.Alike on on' wheres wheres' q') (kind : JoinKind) (table : String)
    {x y : Except StepFailure (List Condition)} (outcome : ClauseStep.Outcomes ops ops' x y)
    (room : ops.length = ops'.length) :
    (q.pushed kind table x).1.map StepFailure.hideActual =
        (q'.pushed kind table y).1.map StepFailure.hideActual ∧
      Query.Alike (on ++ ops) (on' ++ ops') wheres wheres' (q.pushed kind table x).2
        (q'.pushed kind table y).2 := by
  cases outcome with
  | ok conditions => exact ⟨rfl, h.join kind table conditions⟩
  | error kinds =>
    exact ⟨congrArg some kinds, ⟨h.parts, h.faces, h.joins.append_room room, h.wheres⟩⟩

theorem isSome_pushed (q : Query) (kind : JoinKind) (table : String)
    (x : Except StepFailure (List Condition)) : (q.pushed kind table x).1.isSome = !x.isOk := by
  cases x <;> rfl

theorem attempt_filter (q : Query) (s : ClauseStep) :
    q.attempt (.filter s) =
      (s.failure? q.scope, { q with wheres := q.wheres ++ s.added q.scope }) := by
  simp only [attempt, step, Clause.step, whereClause, ClauseStep.failure?, ClauseStep.added]
  cases s.conditions q.scope with
  | ok added => rfl
  | error e => simp [Except.map]

theorem trail_eq {α : Type} (see : Option StepFailure → α) (scope : Scope) (s : ClauseStep) :
    s.trail see scope = .node (see (s.failure? scope)) (s.trail see scope).inner := by
  cases s <;> simp only [ClauseStep.trail, Trail.inner]

/-- A step of both queries that differs in values alone fails alike, or leaves queries with the same
text. -/
theorem attempt_alike (h : q.Alike on on' wheres wheres' q') {s s' : QueryStep}
    (alike : s.Alike q.scope.oracle s')
    (outer : (q.attempt s).1.isSome = (q'.attempt s').1.isSome)
    (inner : s.innerTrails Option.isSome q.scope = s'.innerTrails Option.isSome q'.scope) :
    ((q.attempt s).1.map StepFailure.hideActual = (q'.attempt s').1.map StepFailure.hideActual ∧
      s.innerTrails (Option.map StepFailure.hideActual) q.scope =
        s'.innerTrails (Option.map StepFailure.hideActual) q'.scope) ∧
    Query.Alike (on ++ s.joinOperands) (on' ++ s'.joinOperands) (wheres ++ s.whereOperands)
      (wheres' ++ s'.whereOperands) (q.attempt s).2 (q'.attempt s').2 := by
  have scope := h.scope
  cases alike with
  | @join kind table c c' conditions =>
    rw [attempt_join, attempt_join, isSome_pushed, isSome_pushed, ← scope, Scope.isOk_mapError,
      Scope.isOk_mapError, Scope.isOk_map, Scope.isOk_map] at outer
    rw [attempt_join, attempt_join, ← scope]
    have tests := Scope.joinTest_alike (s := ⟨table, q.scope.oracle⟩) conditions
      (Bool.not_inj outer)
    have added := (tests.map fun {t t'} (h : t.Alike _ _ t') => Condition.AllAlike.test .and h).lift
    have pushed := pushed_alike h kind table added (Scope.length_joinOperands conditions)
    simp only [QueryStep.joinOperands, QueryStep.whereOperands, List.append_nil]
    exact ⟨⟨pushed.1, rfl⟩, pushed.2⟩
  | @joinGroup kind table tolerant body body' bodies =>
    rw [← scope] at inner
    obtain ⟨trails, outcome⟩ :=
      @ClauseStep.bodyConditions_alike ⟨table, q.scope.oracle⟩ tolerant body _ bodies inner
    have room := ClauseStep.length_allOperands body bodies
    have pushed := pushed_alike h kind table outcome room
    rw [attempt_joinGroup, attempt_joinGroup, ← scope]
    simp only [QueryStep.joinOperands, QueryStep.whereOperands, List.append_nil]
    exact ⟨⟨pushed.1, trails⟩, pushed.2⟩
  | @filter step step' steps =>
    rw [attempt_filter, attempt_filter, ← scope] at outer ⊢
    rw [← scope] at inner
    have same : step.trail Option.isSome q.scope = step'.trail Option.isSome q.scope := by
      rw [trail_eq, trail_eq Option.isSome _ step']
      exact Trail.node.injEq .. ▸ ⟨outer, inner⟩
    obtain ⟨trails, outcome⟩ := ClauseStep.conditions_alike step steps same
    simp only [QueryStep.joinOperands, QueryStep.whereOperands, List.append_nil]
    refine ⟨⟨ClauseStep.failure?_alike outcome, congrArg Trail.inner trails⟩, ?_⟩
    have whole := h.filter (ClauseStep.added_alike outcome (ClauseStep.length_operands step steps))
    rw [← scope] at whole
    exact whole
  | @other s no_join no_filter =>
    have outcome : (q.attempt s).1 = (q'.attempt s).1 := by rw [fst_attempt, fst_attempt q', scope]
    have nothing : s.joinOperands = [] ∧ s.whereOperands = [] := by
      cases s <;> first | exact ⟨rfl, rfl⟩ | exact absurd rfl no_join | exact absurd rfl no_filter
    -- The joins and WHERE stay, and what is left in another part depends on this part alone.
    have joins (q : Query) : (q.attempt s).2.joins = q.joins := by
      have kept := congrArg Query.joins (only_attempt_of_other no_join q)
      exact kept
    have conditions (q : Query) : (q.attempt s).2.wheres = q.wheres := by
      have kept := congrArg Query.wheres (only_attempt_of_other no_filter q)
      exact kept
    rw [nothing.1, nothing.2, List.append_nil, List.append_nil, List.append_nil, List.append_nil]
    refine ⟨⟨congrArg _ outcome, by rw [scope]⟩, ⟨?_, ?_, ?_, ?_⟩⟩
    · intro p other other'
      rw [only_attempt, h.parts p other other', ← only_attempt]
    · rw [joins, joins, h.faces]
    · rw [joins, joins]
      exact h.joins
    · rw [conditions, conditions]
      exact h.wheres

theorem build_alike {script script' : List QueryStep} (h : q.Alike on on' wheres wheres' q')
    (alike : List.Forall₂ (QueryStep.Alike q.scope.oracle) script script')
    (same : q.trails Option.isSome script = q'.trails Option.isSome script') :
    q.trails (Option.map StepFailure.hideActual) script =
        q'.trails (Option.map StepFailure.hideActual) script' ∧
      Query.Alike (on ++ script.flatMap QueryStep.joinOperands)
        (on' ++ script'.flatMap QueryStep.joinOperands)
        (wheres ++ script.flatMap QueryStep.whereOperands)
        (wheres' ++ script'.flatMap QueryStep.whereOperands) (q.build script) (q'.build script') := by
  induction script generalizing q q' on on' wheres wheres' script' with
  | nil =>
    cases alike
    simp only [List.flatMap_nil, List.append_nil]
    exact ⟨rfl, h⟩
  | cons s rest ih =>
    obtain ⟨s', rest', first, later, rfl⟩ := List.forall₂_cons_left_iff.1 alike
    simp only [trails, List.cons.injEq, Trail.node.injEq] at same ⊢
    obtain ⟨⟨outer, inner⟩, same⟩ := same
    obtain ⟨here, step⟩ := attempt_alike h first outer inner
    rw [← scope_attempt q s] at later
    obtain ⟨there, whole⟩ := ih step later same
    simp only [List.append_assoc, ← List.flatMap_cons] at whole
    exact ⟨⟨here, there⟩, whole⟩

/-- Two runs of a script that differ in values alone, of which a comparison with a column keeps its
value, leave the same text as long as the same steps succeed, at any depth. The other steps fail
alike. Each place of the script binds the value that the run itself has there. -/
theorem text_of_alike (scope : Scope) {script script' : List QueryStep}
    (alike : List.Forall₂ (QueryStep.Alike scope.oracle) script script')
    (same : trails Option.isSome { scope } script = trails Option.isSome { scope } script') :
    (build { scope } script).text = (build { scope } script').text ∧
      trails (Option.map StepFailure.hideActual) { scope } script =
        trails (Option.map StepFailure.hideActual) { scope } script' ∧
      Bound (build { scope } script).args (build { scope } script').args
        (QueryStep.operands script) (QueryStep.operands script') := by
  have start : Query.Alike [] [] [] [] { scope } { scope } :=
    ⟨fun _ _ _ => rfl, rfl, .none rfl, .nil rfl⟩
  obtain ⟨trails, whole⟩ := build_alike start alike same
  exact ⟨whole.text, trails, whole.values⟩

/-- A strict scope of a table with two columns. -/
def strictUsers : Scope where
  table := "users"
  oracle := some (.ofSchema (Schema.empty.table "users" [("id", .number), ("name", .string)]))

/-- Texts that look like columns or like syntax stay out of the text of a strict query, and a value
that is refused is named in the error alone. -/
theorem text_of_hostile_values :
    let script (name item refused : Value) (level : Int64) : List QueryStep :=
      [.filter (.add .and (.compare "name" .eq name)),
        .filter (.group .or true [.add .and (.oneOf "name" false [item, name]),
          .add .or (.between "id" true refused refused)]),
        .join .left "users" (.value "id" .ge (.int level)), .limit (some 5)]
    let tame := script (.text "Ann") (.text "Bob") (.bool true) 3
    let hostile := script (.text "' OR users.id = ? --") (.text "users.id") (.text "users.id") 4
    (build { scope := strictUsers } hostile).text = (build { scope := strictUsers } tame).text ∧
      (build { scope := strictUsers } hostile).args =
        [.int 4, .text "' OR users.id = ? --", .text "users.id", .text "' OR users.id = ? --"] := by
  intro script tame hostile
  have name : (Value.text "' OR users.id = ? --").Alike strictUsers.oracle (.text "Ann") := .inr ⟨rfl, rfl⟩
  have level : (Value.int 4).Alike strictUsers.oracle (.int 3) := .inr ⟨rfl, rfl⟩
  have alike : List.Forall₂ (QueryStep.Alike strictUsers.oracle) hostile tame :=
    .cons (.filter (.add (.compare name))) <|
    .cons (.filter (.group (.cons (.add (.oneOf rfl)) (.cons (.add .between) .nil)))) <|
    .cons (.join (.value level)) <|
    .cons (.other (by decide) (by decide)) .nil
  constructor
  · exact (text_of_alike strictUsers alike rfl).1
  · rfl

end Query

end SelectQuery
