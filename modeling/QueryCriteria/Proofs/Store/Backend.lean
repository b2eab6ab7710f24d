import QueryCriteria.Dynamo.Source
import QueryCriteria.KeyValue.Memory
import QueryCriteria.Proofs.Success
import QueryCriteria.Redis.Source
import QueryCriteria.Sql.Source

/-!
The backends that errors name. A guard writes the name of the source into every error that leaves it, so
a source whose calls end under the guard always names itself. The rows of a database are read behind the
guard, and an error of a row bears no name.
-/
namespace QueryCriteria

variable {ω κ α : Type}

namespace CallGuard

variable {guard : CallGuard} {backend : String} {operation : StoreOperation} {e : StoreError}

theorem backend_of_settle {seen : Observation α}
    (h : guard.settle backend operation seen = some (.error e)) : e.backend = some backend := by
  obtain ⟨cancelled, ready, elapsed⟩ := seen
  cases cancelled with
  | true =>
    obtain rfl := Except.error.inj (Option.some.inj h)
    rfl
  | false =>
    cases ready with
    | some result =>
      cases result with
      | ok a => cases h
      | error e' =>
        obtain rfl := Except.error.inj (Option.some.inj h)
        rfl
    | none =>
      cases elapsed with
      | true =>
        obtain rfl := Except.error.inj (Option.some.inj h)
        rfl
      | false => cases h

/-- An error of a guarded call names the backend, wherever in the call it arose. -/
theorem backend_of_run {call : Call ω (Except StoreError α)} {w : World ω}
    (h : (guard.run backend operation call w).1 = .error e) : e.backend = some backend := by
  unfold run at h
  split at h
  · rename_i outcome hstart
    exact backend_of_settle (hstart.trans (congrArg some h))
  · -- The call has run; what can be seen at its end decides.
    split at h
    split at h
    · rename_i outcome hend
      exact backend_of_settle (hend.trans (congrArg some h))
    · obtain rfl := Except.error.inj h
      rfl

end CallGuard

/-- Whatever the source returns as an error names the source. -/
structure DataSource.NamesItself (source : DataSource (StateM (World ω)) κ) : Prop where
  execute : ∀ command w e, (source.execute command w).1 = .error e → e.backend = some source.backend
  fetchOne : ∀ command w e, (source.fetchOne command w).1 = .error e → e.backend = some source.backend
  fetch : ∀ command w e, (source.fetch command w).1 = .error e → e.backend = some source.backend

theorem KeyValue.Memory.source_namesItself (guard : CallGuard) : (source guard).NamesItself where
  execute _ _ _ := CallGuard.backend_of_run
  fetchOne _ _ _ := CallGuard.backend_of_run
  fetch _ _ _ := CallGuard.backend_of_run

theorem Redis.Source.toDataSource_namesItself {σ : Type} (source : Redis.Source σ) :
    source.toDataSource.NamesItself where
  execute _ _ _ := CallGuard.backend_of_run
  fetchOne _ _ _ := CallGuard.backend_of_run
  fetch _ _ _ := CallGuard.backend_of_run

theorem Dynamo.Source.toDataSource_namesItself {σ : Type} (source : Dynamo.Source σ) :
    source.toDataSource.NamesItself where
  execute _ _ _ := CallGuard.backend_of_run
  fetchOne _ _ _ := CallGuard.backend_of_run
  fetch _ _ _ := CallGuard.backend_of_run

namespace Sql

/-- The first row that is no record, and the error of reading it. -/
def FirstUnreadable (rows : List Row) (e : StoreError) : Prop :=
  ∃ before row after, rows = before ++ row :: after ∧
    (∀ r ∈ before, ∃ record, r.record = .ok record) ∧ row.record = .error e

theorem Row.backend_of_record {row : Row} {e : StoreError} (h : row.record = .error e) :
    e.backend = none := by
  unfold record at h
  cases hvalue : row.value with
  | error fault =>
    rw [hvalue] at h
    obtain rfl := Except.error.inj h
    rfl
  | ok value =>
    rw [hvalue] at h
    cases value with
    | object record => cases h
    | _ =>
      obtain rfl := Except.error.inj h
      rfl

theorem FirstUnreadable.backend {rows : List Row} {e : StoreError} (h : FirstUnreadable rows e) :
    e.backend = none := by
  obtain ⟨_, _, _, _, _, hrow⟩ := h
  exact Row.backend_of_record hrow

namespace Source

variable {σ : Type} {source : Source σ} {statement : Statement} {w : World (Linked Unit σ)}
  {e : StoreError}

theorem backend_of_guarded {operation : StoreOperation}
    (h : (source.guarded operation statement w).1 = .error e) : e.backend = some backendName :=
  CallGuard.backend_of_run h

theorem execute_eq_error_iff :
    (source.toDataSource.execute statement w).1 = .error e ↔
      (source.guarded .execute statement w).1 = .error e :=
  map_eq_error_iff

theorem fetchOne_eq_error_iff :
    (source.toDataSource.fetchOne statement w).1 = .error e ↔
      (source.guarded .fetchOne statement w).1 = .error e ∨
        ∃ rows, (source.guarded .fetchOne statement w).1 = .ok rows ∧
          ∃ row ∈ rows.head?, row.record = .error e := by
  refine bind_eq_error_iff.trans (or_congr_right (exists_congr fun rows => and_congr_right fun _ => ?_))
  cases rows with
  | nil =>
    change Except.ok none = .error e ↔ ∃ row ∈ (none : Option Row), row.record = .error e
    simp
  | cons row rest =>
    change (row.record >>= fun record => pure (some record)) = .error e ↔ _
    have hrow : (∃ r ∈ (row :: rest).head?, r.record = .error e) ↔ row.record = .error e := by simp
    rw [hrow]
    cases row.record <;> simp [pure, Except.pure, bind, Except.bind]

theorem fetch_eq_error_iff :
    (source.toDataSource.fetch statement w).1 = .error e ↔
      (source.guarded .fetch statement w).1 = .error e ∨
        ∃ rows, (source.guarded .fetch statement w).1 = .ok rows ∧ FirstUnreadable rows e :=
  bind_eq_error_iff.trans
    (or_congr_right (exists_congr fun _ => and_congr_right fun _ => mapM_eq_error_iff))

end Source

end Sql

/--
Sources in memory, over Redis and over DynamoDB name themselves in every error, and so does a database
where a statement is executed. Where rows are fetched, an error names the database exactly if running the
statement failed; otherwise it is the error of the first row that is no record, and names nothing.
-/
theorem errors_name_backend {ρ δ σ : Type} (guard : CallGuard) (redis : Redis.Source ρ)
    (dynamo : Dynamo.Source δ) (source : Sql.Source σ) (statement : Sql.Statement)
    (w : World (Linked Unit σ)) (e : StoreError) :
    (KeyValue.Memory.source guard).NamesItself ∧ redis.toDataSource.NamesItself ∧
      dynamo.toDataSource.NamesItself ∧
      ((source.toDataSource.execute statement w).1 = .error e →
        e.backend = some source.toDataSource.backend) ∧
      ((source.toDataSource.fetchOne statement w).1 = .error e ↔
        ((source.guarded .fetchOne statement w).1 = .error e ∧
          e.backend = some source.toDataSource.backend) ∨
        (e.backend = none ∧ ∃ rows, (source.guarded .fetchOne statement w).1 = .ok rows ∧
          ∃ row ∈ rows.head?, row.record = .error e)) ∧
      ((source.toDataSource.fetch statement w).1 = .error e ↔
        ((source.guarded .fetch statement w).1 = .error e ∧
          e.backend = some source.toDataSource.backend) ∨
        (e.backend = none ∧ ∃ rows, (source.guarded .fetch statement w).1 = .ok rows ∧
          Sql.FirstUnreadable rows e)) := by
  refine ⟨KeyValue.Memory.source_namesItself guard, redis.toDataSource_namesItself,
    dynamo.toDataSource_namesItself, ?_, ?_, ?_⟩
  · intro h
    exact Sql.Source.backend_of_guarded (Sql.Source.execute_eq_error_iff.mp h)
  · rw [Sql.Source.fetchOne_eq_error_iff]
    refine or_congr (iff_self_and.mpr Sql.Source.backend_of_guarded) (iff_and_self.mpr ?_)
    rintro ⟨rows, _, row, _, hrow⟩
    exact Sql.Row.backend_of_record hrow
  · rw [Sql.Source.fetch_eq_error_iff]
    refine or_congr (iff_self_and.mpr Sql.Source.backend_of_guarded) (iff_and_self.mpr ?_)
    rintro ⟨rows, _, hrows⟩
    exact hrows.backend

/-- A database that answers every statement with one row, which holds NULL for the record. -/
def Sql.nullClient : Sql.Client Unit where
  makePool _ := return .ok ()
  run _ := return .ok [[(Sql.recordColumn, .null)]]

/-- An error that does not name its backend: the row of the answer is no record. -/
theorem errors_name_backend_not_in_rows :
    ¬ ∀ (source : Sql.Source Unit) (statement : Sql.Statement) (w : World (Linked Unit Unit))
      (e : StoreError), (source.toDataSource.fetch statement w).1 = .error e →
        e.backend = some source.toDataSource.backend := by
  intro h
  have hfetch := h (.new Sql.nullClient .default .default) ⟨"SELECT NULL::jsonb AS record", []⟩
    (.start ⟨.empty, ()⟩) _ rfl
  cases hfetch

end QueryCriteria
