import Robumba.Browser.Announces
import Robumba.Cache.Queues

/-!
# Refreshing one node's cache

`api_refresh_node_cache` in `routes.py` names the node with `_resolve_node_name` and puts
its default page on `cache_queue` with `enqueue_cache`.  The name is that of the first
entry of `nomadnet_nodes` whose `hash` is the requested one, else the stripped text of the
node's `node_name.txt`, else `Unknown`.

Every key of the registry is `<` and `>` around the hash its entry stores
(`RegistryTracks.key_wraps_hash`), so at most one entry can match and the loop is the
lookup of `<node_hash>` (`resolveNodeName_eq_get?`).  Along every sequence of announces
from a fresh browser the route therefore names the node after the last accepted announce
whose destination's hex is the requested hash, and queues the default page under that
name (`apiRefreshNodeCache_names_last_announce`).
-/

namespace Robumba.Browser

open Robumba.Search (TextRules strip)
open Robumba.Cache (CacheQueues queueStep)

/-! ## The route -/

/-- `_resolve_node_name` after its loop, from what `node_name.txt` gives: nothing when it
does not exist, its text read with `errors="ignore"`, or the error the read raised. -/
def nameFromFile (rules : TextRules) : Option (Except String String) → Except String String
  | some (.ok text) => .ok (strip rules text)
  | some (.error message) => .error message
  | none => .ok "Unknown"

/-- `_resolve_node_name(browser, node_hash)`: the name of the first entry whose `hash` is
`node_hash`, else what `node_name.txt` gives. -/
def resolveNodeName (rules : TextRules) (r : Registry)
    (name_file : Option (Except String String)) (node_hash : String) : Except String String :=
  match r.nodes.items.find? fun item => item.2.hash == node_hash with
  | some item => .ok item.2.name
  | none => nameFromFile rules name_file

/-- What `api_refresh_node_cache` answers. -/
inductive RefreshResponse
  /-- `{"status": "success", "message": ..., "node_name": ..., "node_hash": ...}`. -/
  | success (message node_name node_hash : String)
  /-- `{"status": "error", "message": str(exc)}`, with status 500. -/
  | error (message : String)
  deriving DecidableEq, Repr

/-- `api_refresh_node_cache(node_hash)`: the queues after it, and its answer.  `HOME` is
`home`, which the default `page_path` of `enqueue_cache` reads. -/
def apiRefreshNodeCache (rules : TextRules) (home : String) (r : Registry) (q : CacheQueues)
    (name_file : Option (Except String String)) (node_hash : String) :
    CacheQueues × RefreshResponse :=
  match resolveNodeName rules r name_file node_hash with
  | .ok node_name =>
    (Cache.enqueueCache q node_hash node_name (Cache.defaultPagePath home),
      .success ("Queued " ++ node_name ++ " for cache refresh") node_name node_hash)
  | .error message => (q, .error message)

/-! ## Keys and hashes -/

theorem wrap_inj {a b : String} : "<" ++ a ++ ">" = "<" ++ b ++ ">" ↔ a = b := by
  constructor
  · intro h
    have hdata := congrArg String.data h
    simp only [String.data_append] at hdata
    exact String.ext (List.append_cancel_left (List.append_cancel_right hdata))
  · rintro rfl
    rfl

/-- The keys of a registry are `<` and `>` around the hashes their entries store. -/
def KeysWrapHashes (r : Registry) : Prop :=
  ∀ k e, (k, e) ∈ r.nodes.items → e.hash = cleanHash k ∧ k = "<" ++ e.hash ++ ">"

/-- In such a registry, the loop of `_resolve_node_name` looks up `<node_hash>`. -/
theorem resolveNodeName_eq_get? (rules : TextRules) {r : Registry} (hkeys : KeysWrapHashes r)
    (name_file : Option (Except String String)) (node_hash : String) :
    resolveNodeName rules r name_file node_hash =
      match r.nodes.get? ("<" ++ node_hash ++ ">") with
      | some e => .ok e.name
      | none => nameFromFile rules name_file := by
  have hmatch : ∀ item ∈ r.nodes.items,
      (item.2.hash == node_hash) = true ↔ item.1 = "<" ++ node_hash ++ ">" := by
    rintro ⟨k, e⟩ hmem
    obtain ⟨-, hk⟩ := hkeys k e hmem
    rw [beq_iff_eq, hk, wrap_inj]
  have hfind := find?_eq_lookup_of_key _ _ _ hmatch
  unfold resolveNodeName
  cases hfound : r.nodes.items.find? fun item => item.2.hash == node_hash <;>
    simp only [hfound, Option.map_none', Option.map_some'] at hfind <;>
    simp only [PyDict.get?, ← hfind]

/-- An entry that tracks the announces of its key was made by the last of them, whose key
is a `prettyhexrep`. -/
theorem EntryTracks.wraps_hash {key : String} {seen : List Announce} {e : NodeEntry}
    (h : EntryTracks key seen (some e)) :
    e.hash = cleanHash key ∧ key = "<" ++ e.hash ++ ">" := by
  unfold EntryTracks at h
  cases hlast : (acceptedFor key seen).getLast? with
  | none => simp [hlast] at h
  | some last =>
    obtain ⟨e', he', hhash, -⟩ := hlast ▸ h
    cases he'
    have hkey : last.key = key := by
      have hcounts := (List.mem_filter.mp (List.mem_of_getLast?_eq_some hlast)).2
      simp only [Announce.counts, Bool.and_eq_true, beq_iff_eq] at hcounts
      exact hcounts.2
    rw [← hkey, Announce.key, cleanHash_prettyhexrep] at hhash ⊢
    exact ⟨hhash, by rw [hhash]; rfl⟩

theorem RegistryTracks.key_wraps_hash {initial_state : String} {seen : List Announce}
    {r : Registry} (h : RegistryTracks initial_state seen r) : KeysWrapHashes r :=
  fun k _ hmem => (PyDict.get?_of_mem hmem ▸ h.entries k).wraps_hash

/-! ## From a fresh browser -/

/-- The accepted announces whose destination's hex is `node_hash` are those of the key
`<node_hash>`. -/
theorem acceptedFor_wrap (seen : List Announce) (node_hash : String) :
    acceptedFor ("<" ++ node_hash ++ ">") seen =
      seen.filter fun a => a.accepted && Calls.bytesHex a.destinationHash == node_hash := by
  refine List.filter_congr fun a _ => ?_
  have hkey :
      (a.key == "<" ++ node_hash ++ ">") = (Calls.bytesHex a.destinationHash == node_hash) :=
    Bool.eq_iff_iff.mpr (by simp only [beq_iff_eq, Announce.key, prettyhexrep, wrap_inj])
  rw [Announce.counts, hkey]

/-- Along every sequence of announces from a fresh browser, `api_refresh_node_cache` names
the node after the last accepted announce whose destination's hex is the requested hash,
and queues the default page under that name; when no accepted announce has that hex, the
name comes from `node_name.txt`, and is `Unknown` when there is none. -/
theorem apiRefreshNodeCache_names_last_announce (rules : TextRules)
    (home connection_state : String) (announces : List Announce) (q : CacheQueues)
    (name_file : Option (Except String String)) (node_hash : String) :
    let r := (processAnnounces (.init connection_state) announces).1
    let resolved : Except String String :=
      match (announces.filter fun a =>
          a.accepted && Calls.bytesHex a.destinationHash == node_hash).getLast? with
      | some a => .ok a.nodeName
      | none => nameFromFile rules name_file
    resolveNodeName rules r name_file node_hash = resolved ∧
      apiRefreshNodeCache rules home r q name_file node_hash =
        match resolved with
        | .ok node_name =>
          (queueStep rules home q (.refresh node_hash node_name),
            .success ("Queued " ++ node_name ++ " for cache refresh") node_name node_hash)
        | .error message => (q, .error message) := by
  intro r resolved
  have htracks : RegistryTracks connection_state announces r :=
    (RegistryTracks.run (registryTracks_init connection_state) announces).1
  have hresolve : resolveNodeName rules r name_file node_hash = resolved := by
    have hentry := htracks.entries ("<" ++ node_hash ++ ">")
    rw [resolveNodeName_eq_get? rules htracks.key_wraps_hash]
    unfold EntryTracks at hentry
    simp only [resolved, ← acceptedFor_wrap]
    cases hlast : (acceptedFor ("<" ++ node_hash ++ ">") announces).getLast? with
    | none => rw [hlast] at hentry; simp only [r, hentry]
    | some last =>
      obtain ⟨e, he, -, -, -, hname, -⟩ := hlast ▸ hentry
      simp only [r, he, hname]
  refine ⟨hresolve, ?_⟩
  unfold apiRefreshNodeCache
  rw [hresolve]
  cases resolved <;> rfl

/-- A node announced as `Alpha` and then as `Beta` is refreshed as `Beta`. -/
example :
    (apiRefreshNodeCache Search.asciiText "/root"
        (processAnnounces (.init "connected")
          [alphaAnnounce, ⟨[171], some ⟨[66, 101, 116, 97], .utf8 "Beta"⟩, 2⟩]).1
        (.init ⟨true, true⟩) none "ab").2 =
      .success "Queued Beta for cache refresh" "Beta" "ab" := by
  decide

end Robumba.Browser
