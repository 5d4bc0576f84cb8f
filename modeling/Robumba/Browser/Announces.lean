import Robumba.Browser.PyDict
import Robumba.Calls.CallChecks
import Robumba.Downloads.Handlers

/-!
# The node registry

`NomadNetWebBrowser.process_nomadnet_announce` in `web_browser.py` handles every
NomadNet announce.  It counts the announce, names the node with `_decode_node_name`,
drops test nodes (`EmptyNode_...`, `BinaryNode_...`, `UNKNOWN`), and otherwise creates or
refreshes the node's entry in `nomadnet_nodes`, keyed by `RNS.prettyhexrep` of the
destination, moves the connection state from `connected` to `active`, and calls
`schedule_node` with the hash stripped of `<`, `>` and `:`.

Along every sequence of announces from a fresh browser (`RegistryTracks.run`):

* `announce_count` counts every announce, test nodes included;
* `schedule_node` is called once per accepted announce, in order;
* the entry of a key exists exactly when an accepted announce carried that key, its
  `node_announce_count` is the number of such announces, and its name, time and
  `app_data` length are those of the last one.

The stripped hash is the plain hex of the destination, so `_clean_hash` reads it back as
the announced destination (`cleanHashBytes_cleanHash_prettyhexrep`).
-/

namespace Robumba.Browser


/-! ## Naming a node -/

/-- How `_decode_node_name` reads non-empty `app_data`: as UTF-8 text, as a msgpack `str`
when UTF-8 decoding raises, as a msgpack value of another type, or not at all. -/
inductive Decoding
  | utf8 (text : String)
  | msgpackStr (text : String)
  | msgpackOther
  | undecodable
  deriving DecidableEq, Repr

/-- The `app_data` of an announce: its bytes and how they decode. -/
structure AppData where
  bytes : List UInt8
  decoding : Decoding
  deriving DecidableEq, Repr

/-- `RNS.prettyhexrep(data)`: the lowercase hex of the bytes between `<` and `>`. -/
def prettyhexrep (data : List UInt8) : String := "<" ++ Calls.bytesHex data ++ ">"

/-- `hash_str.replace("<", "").replace(">", "").replace(":", "")`. -/
def cleanHash (hash_str : String) : String :=
  ⟨hash_str.data.filter fun c => c != '<' && c != '>' && c != ':'⟩

/-- `_clean_hash` of `nomadnet.py`: the stripped hash read by `bytes.fromhex`. -/
def cleanHashBytes (destination_hash : String) : Except ℕ (List UInt8) :=
  Calls.fromhex (cleanHash destination_hash)

/-- `len(app_data) if app_data else 0`. -/
def appDataLength : Option AppData → ℕ
  | some app_data => app_data.bytes.length
  | none => 0

/-- `_decode_node_name(app_data, hash_str)`; `None` and `b""` are both false. -/
def decodeNodeName (app_data : Option AppData) (hash_str : String) : String :=
  let short : String := ⟨hash_str.data.take 8⟩
  match app_data with
  | some ⟨_ :: _, decoding⟩ =>
    match decoding with
    | .utf8 text => text
    | .msgpackStr text => text
    | .msgpackOther => "Node_" ++ short
    | .undecodable => "BinaryNode_" ++ short
  | _ => "EmptyNode_" ++ short

/-- The names `process_nomadnet_announce` filters out as test nodes. -/
def isTestNode (node_name : String) : Bool :=
  Downloads.startswith node_name "EmptyNode_" || Downloads.startswith node_name "BinaryNode_" ||
    node_name == "UNKNOWN"

/-! ## The registry -/

/-- An entry of `nomadnet_nodes`; `last_seen` is the time of the announce, and
`last_seen_relative`, which every announce resets to `Just now`, is left out. -/
structure NodeEntry where
  hash : String
  name : String
  lastSeen : ℚ
  announceCount : ℕ
  nodeAnnounceCount : ℕ
  appDataLength : ℕ
  deriving DecidableEq, Repr

/-- The fields of `NomadNetWebBrowser` that announces read and write. -/
structure Registry where
  announceCount : ℕ
  lastAnnounceTime : Option ℚ
  connectionState : String
  nodes : PyDict NodeEntry

/-- The registry of a browser whose Reticulum start left it in `connection_state`. -/
def Registry.init (connection_state : String) : Registry := ⟨0, none, connection_state, .empty⟩

/-- One announce: the destination, its `app_data` and the time it arrives. -/
structure Announce where
  destinationHash : List UInt8
  appData : Option AppData
  now : ℚ
  deriving DecidableEq, Repr

/-- The key of an announce in `nomadnet_nodes`. -/
def Announce.key (a : Announce) : String := prettyhexrep a.destinationHash

/-- The node name an announce gives. -/
def Announce.nodeName (a : Announce) : String := decodeNodeName a.appData a.key

/-- Whether an announce survives the test-node filter. -/
def Announce.accepted (a : Announce) : Bool := !isTestNode a.nodeName

/-- `process_nomadnet_announce`: the new registry, and the arguments of its
`schedule_node` call, if it makes one. -/
def processAnnounce (r : Registry) (a : Announce) : Registry × Option (String × String) :=
  let r := { r with announceCount := r.announceCount + 1, lastAnnounceTime := some a.now }
  let clean_hash_str := cleanHash a.key
  if isTestNode a.nodeName then (r, none)
  else
    let entry := (r.nodes.get? a.key).getD
      ⟨clean_hash_str, a.nodeName, a.now, r.announceCount, 0, appDataLength a.appData⟩
    let entry := { entry with
      nodeAnnounceCount := entry.nodeAnnounceCount + 1
      name := a.nodeName
      lastSeen := a.now
      appDataLength := appDataLength a.appData }
    ({ r with
        nodes := r.nodes.setItem a.key entry
        connectionState := if r.connectionState = "connected" then "active" else r.connectionState },
      some (clean_hash_str, a.nodeName))

/-- The registry after a sequence of announces, and the `schedule_node` calls in order. -/
def processAnnounces (r : Registry) : List Announce → Registry × List (String × String)
  | [] => (r, [])
  | a :: rest =>
    let step := processAnnounce r a
    let after := processAnnounces step.1 rest
    (after.1, step.2.toList ++ after.2)

/-- An announce calls `schedule_node` exactly when it passes the filter. -/
theorem processAnnounce_snd (r : Registry) (a : Announce) :
    (processAnnounce r a).2 = if a.accepted then some (cleanHash a.key, a.nodeName) else none := by
  unfold processAnnounce Announce.accepted
  split <;> simp_all

/-- An announce that the filter drops leaves the nodes and the connection state. -/
theorem processAnnounce_of_rejected (r : Registry) {a : Announce} (h : a.accepted = false) :
    (processAnnounce r a).1.nodes = r.nodes ∧
      (processAnnounce r a).1.connectionState = r.connectionState := by
  have htest : isTestNode a.nodeName = true := by simpa [Announce.accepted] using h
  simp [processAnnounce, htest]

/-- An accepted announce leaves an entry under its key, and moves `connected` to
`active`. -/
theorem processAnnounce_of_accepted (r : Registry) {a : Announce} (h : a.accepted = true) :
    (processAnnounce r a).1.nodes.get? a.key ≠ none ∧
      (processAnnounce r a).1.connectionState =
        if r.connectionState = "connected" then "active" else r.connectionState := by
  have htest : isTestNode a.nodeName = false := by simpa [Announce.accepted] using h
  simp [processAnnounce, htest]

/-! ## One key over a run -/

/-- Whether an announce is an accepted announce of `key`. -/
def Announce.counts (key : String) (a : Announce) : Bool := a.accepted && a.key == key

/-- The accepted announces of `key` among `seen`. -/
def acceptedFor (key : String) (seen : List Announce) : List Announce :=
  seen.filter (Announce.counts key)

/-- The entry of `key` is what the accepted announces of `key` seen so far made it: its
`announce_count` is the global count at the first of them, its `node_announce_count`
their number, and its name, time and length those of the last. -/
def EntryTracks (key : String) (seen : List Announce) (entry : Option NodeEntry) : Prop :=
  match (acceptedFor key seen).getLast? with
  | none => entry = none
  | some last => ∃ e, entry = some e ∧ e.hash = cleanHash key ∧
      e.announceCount = seen.findIdx (Announce.counts key) + 1 ∧
      e.nodeAnnounceCount = (acceptedFor key seen).length ∧ e.name = last.nodeName ∧
      e.lastSeen = last.now ∧ e.appDataLength = appDataLength last.appData

/-- What the registry records after the announces `seen`, from a fresh browser in
`initial_state`. -/
structure RegistryTracks (initial_state : String) (seen : List Announce) (r : Registry) :
    Prop where
  announce_count : r.announceCount = seen.length
  entries : ∀ key, EntryTracks key seen (r.nodes.get? key)
  connection_state : r.connectionState =
    if initial_state = "connected" ∧ seen.any Announce.accepted then "active"
    else initial_state

theorem registryTracks_init (connection_state : String) :
    RegistryTracks connection_state [] (.init connection_state) :=
  ⟨rfl, fun _ => rfl, by simp [Registry.init]⟩

variable {initial_state : String} {seen : List Announce} {r : Registry} {n : ℕ}

theorem acceptedFor_append_singleton (key : String) (a : Announce) :
    acceptedFor key (seen ++ [a]) =
      acceptedFor key seen ++ if a.counts key then [a] else [] := by
  simp only [acceptedFor, List.filter_append, List.filter_cons, List.filter_nil]

/-- Once `key` has an accepted announce, later announces leave the first one's place. -/
theorem findIdx_counts_append {key : String} (hseen : acceptedFor key seen ≠ []) (a : Announce) :
    (seen ++ [a]).findIdx (Announce.counts key) = seen.findIdx (Announce.counts key) := by
  have hlt : seen.findIdx (Announce.counts key) < seen.length := by
    obtain ⟨x, hx⟩ := List.exists_mem_of_ne_nil _ hseen
    exact List.findIdx_lt_length.mpr ⟨x, List.mem_filter.mp hx⟩
  rw [List.findIdx_append, if_pos hlt]

/-- The first accepted announce of `key` sits at the end of the announces so far. -/
theorem findIdx_counts_of_nil {key : String} (hseen : acceptedFor key seen = [])
    {a : Announce} (ha : a.counts key = true) :
    (seen ++ [a]).findIdx (Announce.counts key) = seen.length := by
  have hnone : ∀ x ∈ seen, x.counts key = false := by
    simpa [acceptedFor] using hseen
  rw [List.findIdx_append, List.findIdx_eq_length_of_false hnone, if_neg (Nat.lt_irrefl _),
    List.findIdx_cons, ha, cond_true, Nat.zero_add]

theorem acceptedFor_ne_nil {key : String} {last : Announce}
    (h : (acceptedFor key seen).getLast? = some last) : acceptedFor key seen ≠ [] :=
  fun hnil => by simp [hnil] at h

/-- An announce that is not an accepted announce of `key` leaves its entry. -/
theorem EntryTracks.skip {key : String} {entry : Option NodeEntry}
    (h : EntryTracks key seen entry) {a : Announce}
    (hskip : a.counts key = false) : EntryTracks key (seen ++ [a]) entry := by
  unfold EntryTracks at h ⊢
  rw [acceptedFor_append_singleton, hskip, if_neg Bool.false_ne_true, List.append_nil]
  split at h
  · exact h
  · rename_i hlast
    rwa [findIdx_counts_append (acceptedFor_ne_nil hlast)]

/-- An accepted announce of `key` creates or refreshes its entry. -/
theorem EntryTracks.refresh {key : String} {entry : Option NodeEntry}
    (h : EntryTracks key seen entry) {a : Announce} (hcounts : a.counts key = true)
    (hcount : seen.length + 1 = n) :
    EntryTracks key (seen ++ [a]) (some
      { (entry.getD ⟨cleanHash key, a.nodeName, a.now, n, 0, appDataLength a.appData⟩) with
        nodeAnnounceCount :=
          (entry.getD ⟨cleanHash key, a.nodeName, a.now, n, 0, appDataLength a.appData⟩).nodeAnnounceCount + 1
        name := a.nodeName
        lastSeen := a.now
        appDataLength := appDataLength a.appData }) := by
  unfold EntryTracks at h ⊢
  rw [acceptedFor_append_singleton, if_pos hcounts, List.getLast?_concat]
  split at h
  · rename_i hnone
    have hempty := List.getLast?_eq_none_iff.mp hnone
    simp [h, hempty, findIdx_counts_of_nil hempty hcounts, hcount]
  · rename_i hlast
    obtain ⟨e, rfl, hhash, hfirst, hnodes, -⟩ := h
    simp [hhash, hfirst, hnodes, findIdx_counts_append (acceptedFor_ne_nil hlast)]

/-- One announce keeps what the registry records. -/
theorem RegistryTracks.step (h : RegistryTracks initial_state seen r) (a : Announce) :
    RegistryTracks initial_state (seen ++ [a]) (processAnnounce r a).1 := by
  unfold processAnnounce
  split
  · rename_i htest
    have hrejected : a.accepted = false := by simp [Announce.accepted, htest]
    refine ⟨by simp [h.announce_count],
      fun key => (h.entries key).skip (by simp [Announce.counts, hrejected]),
      by simp [h.connection_state, hrejected]⟩
  · rename_i htest
    have haccepted : a.accepted = true := by simp [Announce.accepted, htest]
    refine ⟨by simp [h.announce_count], fun key => ?_, ?_⟩
    · by_cases hkey : a.key = key
      · subst hkey
        simpa using (h.entries a.key).refresh (by simp [Announce.counts, haccepted])
          (by rw [h.announce_count])
      · simpa [Ne.symm hkey] using (h.entries key).skip (by simp [Announce.counts, hkey])
    · have := h.connection_state
      split <;> simp_all [List.any_append]

/-- A whole sequence of announces keeps what the registry records, and makes one
`schedule_node` call per accepted announce. -/
theorem RegistryTracks.run (h : RegistryTracks initial_state seen r)
    (announces : List Announce) :
    RegistryTracks initial_state (seen ++ announces) (processAnnounces r announces).1 ∧
      (processAnnounces r announces).2 =
        (announces.filter Announce.accepted).map fun a => (cleanHash a.key, a.nodeName) := by
  induction announces generalizing seen r with
  | nil => simpa [processAnnounces] using h
  | cons a announces ih =>
    obtain ⟨htracks, hcalls⟩ := ih (h.step a)
    refine ⟨by simpa using htracks, ?_⟩
    simp only [processAnnounces, hcalls, List.filter_cons, processAnnounce_snd]
    cases a.accepted <;> rfl

/-! ## The hash passed on -/

/-- `bytes.hex()` writes none of the characters the stripping removes. -/
theorem cleanHash_bytesHex (data : List UInt8) :
    cleanHash (Calls.bytesHex data) = Calls.bytesHex data ∧
      cleanHash (prettyhexrep data) = Calls.bytesHex data := by
  have hchar : ∀ d < 16, (Calls.hexChar d != '<' && Calls.hexChar d != '>' &&
      Calls.hexChar d != ':') = true := by decide
  have hkeep : ∀ c ∈ (Calls.bytesHex data).data,
      (c != '<' && c != '>' && c != ':') = true := by
    intro c hc
    simp only [Calls.bytesHex, List.mem_flatMap, Calls.hexPair, List.mem_cons,
      List.mem_singleton, List.not_mem_nil, or_false] at hc
    obtain ⟨byte, -, rfl | rfl⟩ := hc
    · exact hchar _ (by have := byte.toNat_lt_size; simp only [UInt8.size] at this; omega)
    · exact hchar _ (Nat.mod_lt _ (by decide))
  simp [cleanHash, prettyhexrep, List.filter_eq_self.mpr hkeep]

theorem cleanHash_prettyhexrep (data : List UInt8) :
    cleanHash (prettyhexrep data) = Calls.bytesHex data :=
  (cleanHash_bytesHex data).2

/-- `_clean_hash` reads `bytes.hex()` back. -/
theorem cleanHashBytes_bytesHex (data : List UInt8) :
    cleanHashBytes (Calls.bytesHex data) = .ok data := by
  rw [cleanHashBytes, (cleanHash_bytesHex data).1,
    Calls.fromhex_of_ascii (Calls.bytesHex_ascii data)]
  exact Calls.fromhexFrom_hexPairs data 0

/-- The hash that `process_nomadnet_announce` passes to `schedule_node`, and that the
cache later hands to `NomadNetBrowser`, is read back by `_clean_hash` as the announced
destination. -/
theorem cleanHashBytes_cleanHash_prettyhexrep (data : List UInt8) :
    cleanHash (prettyhexrep data) = Calls.bytesHex data ∧
      cleanHashBytes (cleanHash (prettyhexrep data)) = .ok data := by
  rw [cleanHash_prettyhexrep]
  exact ⟨rfl, cleanHashBytes_bytesHex data⟩

/-! ## From a fresh browser -/

/-- Along every sequence of announces from a fresh browser, `announce_count` counts them
all, each node's entry follows its accepted announces, the connection state turns from
`connected` to `active` at the first accepted one, and `schedule_node` is called once per
accepted announce with its stripped hash and name. -/
theorem processAnnounces_tracks (connection_state : String) (announces : List Announce) :
    RegistryTracks connection_state announces
        (processAnnounces (.init connection_state) announces).1 ∧
      (processAnnounces (.init connection_state) announces).2 =
        (announces.filter Announce.accepted).map fun a => (cleanHash a.key, a.nodeName) :=
  RegistryTracks.run (registryTracks_init connection_state) announces

/-- Along every sequence of announces from a fresh browser, each `schedule_node` call names
an accepted announce by the hex of its destination, which `_clean_hash` reads back as that
destination. -/
theorem scheduleNode_hash_reads_back (connection_state : String) (announces : List Announce)
    (call : String × String) :
    call ∈ (processAnnounces (.init connection_state) announces).2 →
      ∃ a ∈ announces, a.accepted ∧ call = (Calls.bytesHex a.destinationHash, a.nodeName) ∧
        cleanHashBytes call.1 = .ok a.destinationHash := by
  intro hcall
  rw [(RegistryTracks.run (registryTracks_init connection_state) announces).2] at hcall
  obtain ⟨a, ha, rfl⟩ := List.mem_map.mp hcall
  obtain ⟨hmem, haccepted⟩ := List.mem_filter.mp ha
  obtain ⟨hclean, hreads⟩ := cleanHashBytes_cleanHash_prettyhexrep a.destinationHash
  exact ⟨a, hmem, haccepted, by rw [Announce.key, hclean], hreads⟩

/-- An announce of `<ab>` named `Alpha` in UTF-8. -/
def alphaAnnounce : Announce := ⟨[171], some ⟨[65, 108, 112, 104, 97], .utf8 "Alpha"⟩, 1⟩

theorem scheduleNode_hash_reads_back_alpha :
    ("ab", "Alpha") ∈ (processAnnounces (.init "connected") [alphaAnnounce]).2 ∧
      ∃ a ∈ [alphaAnnounce], a.accepted ∧
        ("ab", "Alpha") = (Calls.bytesHex a.destinationHash, a.nodeName) ∧
        cleanHashBytes ("ab", "Alpha").1 = .ok a.destinationHash :=
  have hcall : ("ab", "Alpha") ∈ (processAnnounces (.init "connected") [alphaAnnounce]).2 := by
    decide
  ⟨hcall, scheduleNode_hash_reads_back "connected" [alphaAnnounce] ("ab", "Alpha") hcall⟩

/-- A test node leaves no entry and no `schedule_node` call, but is counted. -/
example :
    let run := processAnnounces (.init "connected") [⟨[171], none, 1⟩]
    run.1.announceCount = 1 ∧ run.1.nodes.get? "<ab>" = none ∧ run.1.connectionState = "connected" ∧
      run.2 = [] := by
  decide

end Robumba.Browser
