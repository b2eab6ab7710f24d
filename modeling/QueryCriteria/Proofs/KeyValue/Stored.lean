import QueryCriteria.KeyValue.Memory
import QueryCriteria.Proofs.Entries
import QueryCriteria.Proofs.Store.Run
import QueryCriteria.Proofs.Success
import QueryCriteria.Store.Repository

/-!
Runs of a repository over a store in memory. Whatever is saved and deleted, every record of the
collection stands under its identifier, and the keys ascend.
-/
namespace QueryCriteria.KeyValue

/-- Every record stands under its identifier. -/
structure Stored (idField : String) (records : Entries Record) : Prop where
  ascending : records.Ascending
  keys : ∀ e ∈ records, recordId idField e.2 = .ok e.1

namespace Stored

variable {idField : String} {records : Entries Record}

theorem nil (idField : String) : Stored idField [] :=
  ⟨.nil, nofun⟩

theorem insert (h : Stored idField records) {id : String} {record : Record}
    (hid : recordId idField record = .ok id) : Stored idField (records.insert id record) where
  ascending := Entries.ascending_insert h.ascending id record
  keys e he := by
    rcases Entries.mem_insert he with rfl | he
    · exact hid
    · exact h.keys e he

theorem erase (h : Stored idField records) (id : String) : Stored idField (records.erase id) where
  ascending := Entries.ascending_erase h.ascending id
  keys e he := h.keys e (Entries.mem_of_mem_erase he)

end Stored

namespace Memory

theorem collection_put (memory : Memory) (name id : String) (record : Record) :
    (memory.put name id record).collection name = (memory.collection name).insert id record := by
  rw [put, collection, Entries.get?_insert, if_pos rfl, Option.getD_some]

theorem collection_remove (memory : Memory) (name id : String) :
    (memory.remove name id).collection name = (memory.collection name).erase id := by
  rw [remove]
  cases hm : Entries.get? memory name with
  | none => simp [collection, hm, Entries.erase]
  | some records => simp [collection, hm, Entries.get?_insert]

theorem collection_put_of_ne (memory : Memory) {name other : String} (h : name ≠ other) (id : String)
    (record : Record) : (memory.put name id record).collection other = memory.collection other := by
  rw [put, collection, Entries.get?_insert, if_neg h, collection]

theorem collection_remove_of_ne (memory : Memory) {name other : String} (h : name ≠ other)
    {id : String} : (memory.remove name id).collection other = memory.collection other := by
  rw [remove]
  split
  · rw [collection, Entries.get?_insert, if_neg h, collection]
  · rfl

/-- Writing to a collection keeps the keys of every collection ascending. -/
theorem ascending_put {memory : Memory} (h : ∀ name, (memory.collection name).Ascending)
    (name id : String) (record : Record) (other : String) :
    ((memory.put name id record).collection other).Ascending := by
  by_cases hn : name = other
  · subst hn
    rw [collection_put]
    exact Entries.ascending_insert (h name) id record
  · rw [collection_put_of_ne memory hn]
    exact h other

theorem ascending_remove {memory : Memory} (h : ∀ name, (memory.collection name).Ascending)
    (name id other : String) : ((memory.remove name id).collection other).Ascending := by
  by_cases hn : name = other
  · subst hn
    rw [collection_remove]
    exact Entries.ascending_erase (h name) id
  · rw [collection_remove_of_ne memory hn]
    exact h other

/-- A record that is put is found; everything else is found as before. -/
theorem get?_put (memory : Memory) (name id other x : String) (record : Record) :
    (memory.put name id record).get? other x =
      if name = other ∧ id = x then some record else memory.get? other x := by
  by_cases hn : name = other
  · subst hn
    rw [get?, collection_put, Entries.get?_insert, get?]
    simp
  · rw [if_neg fun h => hn h.1, get?, get?, collection_put_of_ne memory hn]

/-- A record that is removed is not found; everything else is found as before. -/
theorem get?_remove (memory : Memory) (name id other x : String) :
    (memory.remove name id).get? other x =
      if name = other ∧ id = x then none else memory.get? other x := by
  by_cases hn : name = other
  · subst hn
    rw [get?, collection_remove, Entries.get?_erase, get?]
    simp
  · rw [if_neg fun h => hn h.1, get?, get?, collection_remove_of_ne memory hn]

theorem source_execute (guard : CallGuard) (command : Command) (w : World Memory) :
    (source guard).execute command w =
      if w.cancelled then (.error (CallGuard.cancelledError backendName .execute), w)
      else ((w.server.execute command).1.mapError (·.withBackend backendName),
        { w with server := (w.server.execute command).2 }) := by
  simp only [source]
  rw [CallGuard.run_onServer]

theorem source_fetchOne (guard : CallGuard) (command : Command) (w : World Memory) :
    (source guard).fetchOne command w =
      if w.cancelled then (.error (CallGuard.cancelledError backendName .fetchOne), w)
      else (((w.server.fetch .fetchOne command).map List.head?).mapError (·.withBackend backendName),
        w) := by
  simp only [source]
  rw [CallGuard.run_onServer]

theorem source_fetch (guard : CallGuard) (command : Command) (w : World Memory) :
    (source guard).fetch command w =
      if w.cancelled then (.error (CallGuard.cancelledError backendName .fetch), w)
      else ((w.server.fetch .fetch command).mapError (·.withBackend backendName), w) := by
  simp only [source]
  rw [CallGuard.run_onServer]

end Memory

namespace Collection

variable {α : Type} (collection : Collection) (guard : CallGuard) (mapper : Mapper α)
  (retry : RetryPolicy)

/-- The repository of a collection in memory. -/
def repository : Repository (StateM (World Memory)) Command α where
  source := Memory.source guard
  commands := collection.commands
  mapper := mapper
  retry := retry
  sleep := World.sleep

/-- The worlds that calls lead to when the collection is empty at first; time may pass between them. -/
inductive Reachable : World Memory → Prop where
  | start (w : World Memory) (h : w.server.collection collection.name = []) : Reachable w
  | save {w : World Memory} (h : Reachable w) (aggregate : α) :
      Reachable ((collection.repository guard mapper retry).save aggregate w).2
  | delete {w : World Memory} (h : Reachable w) (id : String) :
      Reachable ((collection.repository guard mapper retry).delete id w).2
  | wait {w : World Memory} (h : Reachable w) (d : Duration) : Reachable (World.sleep d w).2

variable {collection guard mapper retry}

/-- The records of the collection stand under their identifiers. -/
def Sound (collection : Collection) (w : World Memory) : Prop :=
  Stored collection.idField (w.server.collection collection.name)

theorem sound_sleep {w : World Memory} (hw : collection.Sound w) (d : Duration) :
    collection.Sound (World.sleep d w).2 := by
  rw [Sound, World.sleep_server]
  exact hw

/-- A command that keeps the collection sound may be attempted any number of times. -/
private theorem sound_attempt {command : Command}
    (hcommand : ∀ memory : Memory, Stored collection.idField (memory.collection collection.name) →
      Stored collection.idField ((memory.execute command).2.collection collection.name))
    {operation : StoreOperation} {id : Option String} {w : World Memory} (hw : collection.Sound w) :
    collection.Sound ((collection.repository guard mapper retry).attempt operation id
      ((Memory.source guard).execute command) w).2 := by
  rw [Repository.attempt_eq]
  have hattempt : ∀ w, collection.Sound w →
      collection.Sound ((Memory.source guard).execute command w).2 := by
    intro w hw
    rw [Memory.source_execute]
    split
    · exact hw
    · exact hcommand w.server hw
  exact retry.run_keeps (P := collection.Sound) hattempt (fun d w hw => sound_sleep hw d) hw

theorem sound_save {w : World Memory} (hw : collection.Sound w) (aggregate : α) :
    collection.Sound ((collection.repository guard mapper retry).save aggregate w).2 := by
  rw [Repository.save]
  cases hc : (collection.repository guard mapper retry).saveCommand aggregate with
  | error e => exact hw
  | ok made =>
    obtain ⟨id, command⟩ := made
    obtain ⟨record, -, hc⟩ := exists_of_bind_ok hc
    obtain ⟨id', hid, hc⟩ := exists_of_bind_ok hc
    obtain ⟨put, hput, hc⟩ := exists_of_bind_ok hc
    cases hput
    cases hc
    refine sound_attempt (fun memory hm => ?_) hw
    change Stored collection.idField ((memory.put collection.name id record).collection collection.name)
    rw [Memory.collection_put]
    exact hm.insert hid

theorem sound_delete {w : World Memory} (hw : collection.Sound w) (id : String) :
    collection.Sound ((collection.repository guard mapper retry).delete id w).2 := by
  refine sound_attempt (fun memory hm => ?_) hw
  change Stored collection.idField ((memory.remove collection.name id).collection collection.name)
  rw [Memory.collection_remove]
  exact hm.erase id

/-- Every reachable world is sound. -/
theorem Reachable.sound {w : World Memory} (h : Reachable collection guard mapper retry w) :
    collection.Sound w := by
  induction h with
  | start w h =>
    rw [Sound, h]
    exact .nil collection.idField
  | save _ aggregate ih => exact sound_save ih aggregate
  | delete _ id ih => exact sound_delete ih id
  | wait _ d ih => exact sound_sleep ih d

end Collection

end QueryCriteria.KeyValue
