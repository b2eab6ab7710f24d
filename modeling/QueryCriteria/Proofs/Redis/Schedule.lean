import QueryCriteria.Proofs.Entries
import QueryCriteria.Proofs.Redis.Server

/-!
A server that keeps its texts for good, and whose scans follow a schedule: it says into which pages the
matching keys are split. Whatever the schedule, the server is one that a source may rely on, as long as
no key is left out.
-/
namespace QueryCriteria.Redis

/-- The pages for the matching keys; they may be others for every request. -/
abbrev Schedule := Nat → List String → List (List String)

/-- No key is left out and none is added, and the pages fit into the time of a call. -/
structure Schedule.Legal (schedule : Schedule) (patience : Nat) : Prop where
  mem_iff : ∀ n keys key, key ∈ (schedule n keys).flatten ↔ key ∈ keys
  ne_nil : ∀ n keys, schedule n keys ≠ []
  length_le : ∀ n keys, (schedule n keys).length ≤ patience

/-- What is in the server, and how far it has come with a scan. -/
structure Shelves where
  texts : Entries String
  requests : Nat
  pending : List (List String)

namespace Shelves

def empty : Shelves := ⟨[], 0, []⟩

/-- The reply to a request; a cursor other than zero goes on with the pages of the latest scan. -/
def serve (schedule : Schedule) (shelves : Shelves) : Request → Reply × Shelves
  | .set _ _ (some 0) => (.failure "ERR invalid expire time in 'set' command", shelves)
  | .set key payload _ => (.status "OK", { shelves with texts := shelves.texts.insert key payload })
  | .get key => (.ofStored (Entries.get? shelves.texts key), shelves)
  | .del key =>
    (.integer (if (Entries.get? shelves.texts key).isSome then 1 else 0),
      { shelves with texts := shelves.texts.erase key })
  | .getAll [] => (.failure "ERR wrong number of arguments for 'mget' command", shelves)
  | .getAll keys => (.array (keys.map fun key => .ofStored (Entries.get? shelves.texts key)), shelves)
  | .scan cursor glob =>
    let pages :=
      if cursor = 0 then schedule shelves.requests ((Entries.keys shelves.texts).filter (globMatches glob))
      else shelves.pending
    match pages with
    | [] => (.failure "ERR invalid cursor", shelves)
    | page :: rest =>
      (.ofPage (if rest = [] then 0 else 1) page,
        { shelves with requests := shelves.requests + 1, pending := rest })

/-- A client of the server; nothing takes any time. -/
def client (schedule : Schedule) (patience : Nat) : Client Shelves where
  makePool _ := pure (.ok ())
  connect := pure (.ok ())
  ask request := Call.onServer fun shelves => (shelves.serve schedule request).map .ok id
  patience

/-- The texts in the server, by their keys. -/
def stored (shelves : Shelves) (key : String) : Option String :=
  Entries.get? shelves.texts key

variable {schedule : Schedule} {patience : Nat}

theorem serves (config : RedisConfig) : Serves (client schedule patience) config stored where
  makePool _ := Returns.pure fun _ hs => ⟨rfl, hs⟩
  connect _ := Returns.pure fun _ hs => ⟨rfl, hs⟩
  set texts key payload seconds hseconds := by
    refine Returns.onServer fun shelves hs => ?_
    subst hs
    rw [serve]
    · refine ⟨rfl, funext fun other => ?_⟩
      change Entries.get? (shelves.texts.insert key payload) other = _
      rw [Entries.get?_insert, Function.update_apply]
      simp only [eq_comm (a := key)]
      rfl
    · exact hseconds
  get texts key := Returns.onServer fun shelves hs => by
    subst hs
    exact ⟨rfl, rfl⟩
  del texts key := by
    refine Returns.onServer fun shelves hs => ?_
    subst hs
    refine ⟨rfl, funext fun other => ?_⟩
    change Entries.get? (shelves.texts.erase key) other = _
    rw [Entries.get?_erase, Function.update_apply]
    simp only [eq_comm (a := key)]
    rfl
  getAll texts keys hkeys := by
    refine Returns.onServer fun shelves hs => ?_
    subst hs
    cases keys with
    | nil => exact absurd rfl hkeys
    | cons key rest => exact ⟨rfl, rfl⟩

/-- A request that is answered with the first of some pages leaves the others pending. -/
private theorem iterates_of_serve {glob : String} {cursor : UInt64} {page : List String}
    {rest : List (List String)} {shelves : Shelves}
    (hserve : shelves.serve schedule (.scan cursor glob) = (.ofPage (if rest = [] then 0 else 1) page,
      { shelves with requests := shelves.requests + 1, pending := rest }))
    (hrest : ∀ left : Shelves, left.pending = rest → rest ≠ [] →
      Iterates (client schedule patience) stored glob rest 1 left) :
    Iterates (client schedule patience) stored glob (page :: rest) cursor shelves := by
  refine Returns.onServer fun s hs => ?_
  subst hs
  rw [hserve]
  refine ⟨if rest = [] then 0 else 1, rfl, rfl, ?_⟩
  by_cases hnil : rest = []
  · rw [if_pos hnil, if_pos rfl]
    exact hnil
  · rw [if_neg hnil, if_neg (by decide)]
    exact hrest _ rfl hnil

/-- The pages that are left come one after the other. -/
private theorem iterates_pending (glob : String) {pages : List (List String)} (hne : pages ≠ [])
    {shelves : Shelves} (h : shelves.pending = pages) :
    Iterates (client schedule patience) stored glob pages 1 shelves := by
  induction pages generalizing shelves with
  | nil => exact absurd rfl hne
  | cons page rest ih =>
    refine iterates_of_serve ?_ fun left hleft hrest => ih hrest hleft
    rw [serve, if_neg (by decide), h]

theorem scansInTime (h : schedule.Legal patience) (texts : String → Option String) :
    ScansInTime (client schedule patience) stored texts := by
  rintro shelves glob rfl
  refine ⟨schedule shelves.requests ((Entries.keys shelves.texts).filter (globMatches glob)),
    h.length_le _ _, ?_, fun key => ?_⟩
  · cases hpages : schedule shelves.requests ((Entries.keys shelves.texts).filter (globMatches glob)) with
    | nil => exact absurd hpages (h.ne_nil _ _)
    | cons page rest =>
      refine iterates_of_serve ?_ fun left hleft hrest => iterates_pending glob hrest hleft
      rw [serve, if_pos rfl, hpages]
  · rw [h.mem_iff, List.mem_filter, stored, Entries.mem_keys_iff]

end Shelves

end QueryCriteria.Redis
