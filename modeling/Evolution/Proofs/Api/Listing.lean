import Evolution.Proofs.Api.Exchange
import Evolution.Proofs.Database.Hosting
import Evolution.Proofs.Store.Listing

/-! What is answered to whoever asks for the list of the changesets, where they are kept in memory,
with or without a database to run them on. -/
namespace Evolution

open Evolution.Action Http

theorem Database.split_listsFrom {φ δ : Type} (server : Server φ δ) :
    (split server).ListsFrom Split.store := by
  intro f w
  exact ends_inStore.mpr ⟨w.store, w.store.ends_listAction f, rfl⟩

/-- The JSON in a body, be it compressed or not. -/
def Http.Body.json? : Body → Option Json.Value
  | .json v | .compressed v => some v
  | .empty | .text _ => none

theorem Http.json?_compress (r : Response) : r.compress.body.json? = r.body.json? := by
  unfold Response.compress
  split
  · rename_i v hv
    rw [hv]
    rfl
  · rfl

namespace Api

variable {σ : Type} {s : Service σ} {view : σ → MemoryStore} {stamp : Stamp} {q : Http.Request}
  {m : Manager σ} {f : Filter}

/-- What is said of a list. -/
def listJson (found : List Record) : Json.Value :=
  success s!"{found.length} changeset(s) found." (.array (found.map Record.json))

/-- Whoever asks for more than the head gets the JSON that was answered. -/
theorem Service.json?_serve (h : q.method ≠ "OPTIONS") (hh : q.method ≠ "HEAD") :
    (s.serve stamp q m).1.body.json? = (s.respond stamp q m).1.body.json? := by
  have hm : ¬ (q.method == "OPTIONS") = true := fun hm => h (beq_iff_eq.mp hm)
  have hn : ¬ (q.method == "HEAD") = true := fun hm => hh (beq_iff_eq.mp hm)
  rw [serve, if_neg hm, respond]
  dsimp only [Response.withHeaders]
  rw [if_neg hn]
  split
  · exact json?_compress _
  · rfl

/-- The records that a filter lists, at most five hundred of them. -/
theorem Service.respond_list (stamp : Stamp) (m : Manager σ) (hl : s.backend.ListsFrom view)
    (hm : q.method = "GET") (hp : q.target.path = "/api/changesets")
    (hf : filter? (q.target.query.getD "") = some f) :
    s.respond stamp q m =
      (.ofJson 200 (listJson ((view m.world).list (cappedFilter f))), m) := by
  have hpath : Resource.ofPath? q.target.path = some .changesets := by
    rw [hp]
    decide +kernel
  have hmethod : Resource.changesets.operation? q.method = some .list := by
    rw [hm]
    decide +kernel
  have hread : Command.read q .list = .ok (.list (cappedFilter f)) := by
    rw [Command.read, readFilter, hf]
    rfl
  have hlist : Ends (Manager.list s.backend (cappedFilter f)) m
      (.ok ((view m.world).list (cappedFilter f))) m :=
    Manager.ends_inWorld.mpr ⟨m.world, hl _ _, rfl⟩
  have hrun : Ends ((Command.list (cappedFilter f)).run s stamp) m _ m :=
    ends_bind_pure.mpr ⟨_, hlist, rfl⟩
  rw [respond, hpath]
  simp only [answerResource, hmethod, hread]
  rw [hrun]
  rfl

/-- The store in memory lists exactly the newest of the records that match a filter, each once and
as many as the limit allows: by the time of their creation and then by their identifiers, the
greater first. The order in which the records are kept makes no difference, a smaller limit gives a
front of what a greater one gives, and all that is left out comes after all that is listed. Whoever
asks the service for the list gets the same with a limit of five hundred, or the smaller one of the
query. -/
theorem Service.lists_newest_first (hl : s.backend.ListsFrom view)
    (hb : (view m.world).Built) :
    let store := view m.world
    (∀ f, store.Lists f (store.list f) ∧ (store.list f).Nodup ∧
      (∀ found, store.Lists f found → found = store.list f) ∧
      (∀ t : MemoryStore, t.records.Perm store.records → t.list f = store.list f) ∧
      ∀ limit limit' : Option Nat, (∀ n ∈ limit', ∃ k ∈ limit, k ≤ n) →
        store.list { f with limit := limit } <+: store.list { f with limit := limit' }) ∧
    ∀ stamp q f, q.method = "GET" → q.target.path = "/api/changesets" →
      filter? (q.target.query.getD "") = some f →
      (s.serve stamp q m).1.status = 200 ∧ (s.serve stamp q m).1.body.json? =
        some (listJson (store.list { f with limit := some (min (f.limit.getD 500) 500) })) := by
  intro store
  refine ⟨fun f => ?_, fun stamp q f hm hp hf => ?_⟩
  · have hlists := MemoryStore.lists_list f hb
    refine ⟨hlists, Record.nodup_of_newestFirst hlists.newestFirst, ?_, ?_, ?_⟩
    · intro found h
      exact h.eq_list hb
    · intro t h
      exact MemoryStore.list_eq_of_perm f hb h
    · intro limit limit' h
      exact MemoryStore.list_prefix f h
  · have hoptions : q.method ≠ "OPTIONS" := by
      rw [hm]
      decide
    have hhead : q.method ≠ "HEAD" := by
      rw [hm]
      decide
    have hrespond := respond_list stamp m hl hm hp hf
    rw [json?_serve hoptions hhead, (s.serve_eq_respond stamp q m hoptions).1, hrespond]
    exact ⟨rfl, rfl⟩

/-- A draft of a module for notes. -/
def noted (id : Uuid) : Record :=
  { id, moduleName := "notes" }

/-- Two such drafts that were created at one instant, and a later one of another module. -/
def threeDrafts : MemoryStore where
  records := [noted ⟨1⟩, { id := ⟨3⟩, moduleName := "files", createdAt := ⟨9, 0⟩ }, noted ⟨2⟩]

/-- The newest draft for notes is asked for. -/
def newestAsked : Http.Request :=
  { method := "GET", target := ⟨"/api/changesets", some "module=notes&limit=1"⟩ }

def newestNoted : Filter :=
  { moduleName := some "notes", limit := some 1 }

/-- The changesets are kept in memory, and run on a database. -/
def Service.pooled {φ δ : Type} (server : Database.Server φ δ) (cors : CorsPolicy) :
    Service (Database.Split φ δ) :=
  ⟨Database.split server, "memory", cors⟩

/-- Of two drafts from one instant, the one with the greater identifier is listed, whether the
changesets in memory are run on a database or not. -/
theorem Service.lists_newest_first_threeDrafts :
    (Service.inMemory .anyone).backend.ListsFrom (fun s => s) ∧ threeDrafts.Built ∧
    filter? "module=notes&limit=1" = some newestNoted ∧
    ((Service.inMemory .anyone).serve ⟨⟨4⟩, ⟨10, 0⟩⟩ newestAsked ⟨threeDrafts, []⟩).1.status = 200 ∧
    ((Service.inMemory .anyone).serve ⟨⟨4⟩, ⟨10, 0⟩⟩ newestAsked ⟨threeDrafts, []⟩).1.body.json? =
      some (listJson [noted ⟨2⟩]) ∧
    (Service.pooled Database.scripted .anyone).backend.ListsFrom Database.Split.store ∧
    ((Service.pooled Database.scripted .anyone).serve ⟨⟨4⟩, ⟨10, 0⟩⟩ newestAsked
      ⟨⟨threeDrafts, { others := [], failures := [] }⟩, []⟩).1.body.json? =
        some (listJson [noted ⟨2⟩]) := by
  have hbuilt : threeDrafts.Built := MemoryStore.built_iff.mpr (by decide)
  have hfilter : filter? "module=notes&limit=1" = some newestNoted := by decide +kernel
  have hpooled := Database.split_listsFrom Database.scripted
  obtain ⟨hlists, hserve⟩ := lists_newest_first (s := .inMemory .anyone) (m := ⟨threeDrafts, []⟩)
    Backend.detached_listsFrom hbuilt
  obtain ⟨-, hserve'⟩ := lists_newest_first (s := .pooled Database.scripted .anyone)
    (m := ⟨⟨threeDrafts, { others := [], failures := [] }⟩, []⟩) hpooled hbuilt
  have hfound : threeDrafts.Lists newestNoted [noted ⟨2⟩] := by
    refine ⟨?_, List.pairwise_singleton _ _, ?_, ?_⟩
    · intro r hr
      cases List.mem_singleton.mp hr
      exact ⟨.tail _ (.tail _ (.head _)), Filter.admits_iff.mp rfl⟩
    · rintro n ⟨⟩
      exact Nat.le_refl 1
    · rintro r (_ | ⟨_, _ | ⟨_, _ | ⟨_, ⟨⟩⟩⟩⟩) ha hn
      · refine ⟨rfl, fun x hx => ?_⟩
        cases List.mem_singleton.mp hx
        exact Record.newer_iff.mp rfl
      · exact absurd (ha.moduleName "notes" rfl) (by decide)
      · exact absurd (.head _) hn
  have hlist : [noted ⟨2⟩] = threeDrafts.list newestNoted := (hlists newestNoted).2.2.1 _ hfound
  obtain ⟨hstatus, hbody⟩ := hserve ⟨⟨4⟩, ⟨10, 0⟩⟩ newestAsked newestNoted rfl rfl hfilter
  obtain ⟨-, hbody'⟩ := hserve' ⟨⟨4⟩, ⟨10, 0⟩⟩ newestAsked newestNoted rfl rfl hfilter
  rw [hlist]
  exact ⟨Backend.detached_listsFrom, hbuilt, hfilter, hstatus, hbody, hpooled, hbody'⟩

end Api
end Evolution
