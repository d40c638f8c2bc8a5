import InterfaceSchema.Report

/-!
Computations that record what they find in one report. Such a computation records its diagnostics
if it leaves those of others as they are, puts its own behind them, and gives the same value and
the same diagnostics whatever was recorded before. All of this holds of a sequence of computations
and of a loop if it holds of their steps.
-/

namespace InterfaceSchema

set_option autoImplicit false

abbrev Recorder (Value : Type) : Type := StateM Report Value

namespace Recorder

variable {Value Result Item : Type}

def tell (diagnostic : Diagnostic) : Recorder Unit := modify fun report => report.record diagnostic

def error (problem : Problem) : Recorder Unit := tell (.error problem)

def warning (problem : Problem) : Recorder Unit := tell (.warning problem)

/-- The computation gives the value and adds the diagnostics, whatever is recorded already. -/
def Records (action : Recorder Value) (value : Value) (told : List Diagnostic) : Prop :=
  ∀ report : Report, action.run report = (value, ⟨report.diagnostics ++ told⟩)

theorem records_pure (value : Value) : Records (pure value) value [] := by
  intro report
  rw [List.append_nil]
  rfl

theorem records_tell (diagnostic : Diagnostic) : Records (tell diagnostic) () [diagnostic] :=
  fun _ => rfl

theorem Records.bind {action : Recorder Value} {next : Value → Recorder Result} {value : Value}
    {result : Result} {told more : List Diagnostic} (first : Records action value told)
    (second : Records (next value) result more) :
    Records (action >>= next) result (told ++ more) := by
  intro report
  calc (action >>= next).run report
      = (next (action.run report).1).run (action.run report).2 := rfl
    _ = (next value).run ⟨report.diagnostics ++ told⟩ := by rw [first report]
    _ = (result, ⟨report.diagnostics ++ told ++ more⟩) := second _
    _ = (result, ⟨report.diagnostics ++ (told ++ more)⟩) := by rw [List.append_assoc]

/-- What comes after a computation without a value of its own. -/
theorem Records.after {action : Recorder Unit} {next : Recorder Result} {result : Result}
    {told more : List Diagnostic} (first : Records action () told)
    (second : Records next result more) :
    Records (do action; next) result (told ++ more) :=
  first.bind second

theorem records_error_then (problem : Problem) {next : Recorder Result} {result : Result}
    {more : List Diagnostic} (records : Records next result more) :
    Records (do error problem; next) result (.error problem :: more) :=
  (records_tell (.error problem)).after records

theorem Records.map_value {action : Recorder Value} {value : Value} {told : List Diagnostic}
    (records : Records action value told) (view : Value → Result) :
    Records (do return view (← action)) (view value) told := by
  have ended : Records (action >>= fun given => pure (view given)) (view value) (told ++ []) :=
    records.bind (records_pure (view value))
  rwa [List.append_nil] at ended

/-- A value handed on after all is recorded. -/
theorem Records.giving {action : Recorder Unit} {told : List Diagnostic}
    (records : Records action () told) (value : Value) :
    Records (do action; return value) value told := by
  have ended := records.after (records_pure value)
  rwa [List.append_nil] at ended

/-- A visit of every item records the diagnostics of the items in their order. -/
theorem records_for_each {visit : Item → Recorder Unit} {told : Item → List Diagnostic}
    {items : List Item} (each : ∀ item ∈ items, Records (visit item) () (told item)) :
    Records (items.forM visit) () (items.flatMap told) := by
  induction items with
  | nil => exact records_pure ()
  | cons item rest ih =>
      have first := each item List.mem_cons_self
      exact first.after (ih fun later member => each later (List.mem_cons_of_mem _ member))

/-- Records problems as errors, one after the other. -/
def errors (problems : List Problem) : Recorder Unit := problems.forM error

theorem records_errors (problems : List Problem) :
    Records (errors problems) () (problems.map .error) := by
  rw [List.map_eq_flatMap]
  exact records_for_each fun problem _ => records_tell (.error problem)

theorem records_map {visit : Item → Recorder Result} {value : Item → Result}
    {told : Item → List Diagnostic} {items : List Item}
    (each : ∀ item ∈ items, Records (visit item) (value item) (told item)) :
    Records (items.mapM visit) (items.map value) (items.flatMap told) := by
  induction items with
  | nil => exact records_pure []
  | cons item rest ih =>
      rw [List.mapM_cons]
      have first := each item List.mem_cons_self
      have later := ih fun other member => each other (List.mem_cons_of_mem _ member)
      exact first.bind (later.map_value _)

theorem Records.of_empty {action : Recorder Value} {value : Value} {told : List Diagnostic}
    (records : Records action value told) : (action.run {}).2.diagnostics = told := by
  rw [records {}]
  rfl

end Recorder

end InterfaceSchema
