import Robumba.Downloads.Handlers

/-!
# Download bookkeeping over every interleaving

The invariant `ResultsMirrorWorkers` says that `download_results` holds exactly the
outcomes of the workers that have finished and have not had a complete outcome served:
`download_results[id]` is the outcome of the worker phase of `id`, and the key `None`
never holds a result.  `api_start_download` finds its fresh id without a result, and
only `do_download` writes one.  Only a served complete outcome removes one, so every
interleaving of handler steps keeps the invariant (`Reachable.resultsMirrorWorkers`).
A second invariant, `NamesFollowPaths`, ties the file name of a complete outcome to the
path the download was started with (`Reachable.namesFollowPaths`).

From them:

* `apiDownloadResult_of_finished_complete`: serving a finished complete download answers
  with the file, named after the last segment of its start path, and leaves the id in
  neither dictionary;
* `apiDownloadResult_of_finished_error`: a finished failed download is answered with a
  500 and both its entries stay;
* `results_error_persist`: such an entry then stays in `download_results` in every
  later state, whatever the interleaving.
-/

namespace Robumba.Downloads

open Function (update)

/-- `download_results` mirrors the ghost worker phases. -/
structure ResultsMirrorWorkers (s : DownloadState) : Prop where
  none_key : s.downloadResults none = none
  mirror : ∀ id, s.downloadResults (some id) = (s.workers id).outcome

theorem resultsMirrorWorkers_init : ResultsMirrorWorkers DownloadState.init :=
  ⟨rfl, fun _ => rfl⟩

variable {s : DownloadState}

/-! ## One step keeps the mirror -/

/-- Writing the outcome of a phase change at one id keeps the mirror. -/
private theorem ResultsMirrorWorkers.update (h : ResultsMirrorWorkers s) (id : String)
    (phase : WorkerPhase) (progress : DownloadKey → Option Progress)
    (paths : String → Option String) :
    ResultsMirrorWorkers
      ⟨progress, update s.downloadResults (some id) phase.outcome, update s.workers id phase,
        paths⟩ := by
  refine ⟨by simp [h.none_key], fun id' => ?_⟩
  by_cases hid : id' = id
  · subst hid; simp
  · have hkey : some id' ≠ some id := by simpa using hid
    simp [Function.update_noteq hkey, Function.update_noteq hid, h.mirror]

theorem ResultsMirrorWorkers.apiStartDownload (h : ResultsMirrorWorkers s)
    {node_hash file_path download_id : String} (hidle : s.workers download_id = .idle) :
    ResultsMirrorWorkers (apiStartDownload s node_hash file_path download_id).1 := by
  unfold Downloads.apiStartDownload
  split
  · have hnone : s.downloadResults (some download_id) = none := by simp [h.mirror, hidle]
    simpa [← hnone, Function.update_eq_self] using
      h.update download_id (.running node_hash file_path) _ _
  · exact h

theorem ResultsMirrorWorkers.doDownload (h : ResultsMirrorWorkers s) (download_id : String)
    (response : FetchResponse) : ResultsMirrorWorkers (doDownload s download_id response) := by
  unfold Downloads.doDownload
  split
  · exact h.update download_id (.finished _) _ _
  · exact h

theorem ResultsMirrorWorkers.apiDownloadResult (h : ResultsMirrorWorkers s)
    (download_id : String) : ResultsMirrorWorkers (apiDownloadResult s download_id).1 := by
  unfold Downloads.apiDownloadResult
  split
  · exact h
  · exact h
  · exact h.update download_id .served _ _

/-- Every enabled step keeps the mirror. -/
theorem ResultsMirrorWorkers.step (h : ResultsMirrorWorkers s) {e : DownloadEvent}
    (he : Enabled s e) : ResultsMirrorWorkers (step s e).1 := by
  cases e with
  | start node_hash file_path download_id => exact h.apiStartDownload he
  | callback download_id progress => exact ⟨h.none_key, h.mirror⟩
  | finish download_id response => exact h.doDownload download_id response
  | queryProgress download_id => exact h
  | queryResult download_id => exact h.apiDownloadResult download_id
  | stream node_hash file_path download_id response =>
    exact ⟨by simpa [Downloads.step] using h.none_key, by simpa [Downloads.step] using h.mirror⟩

theorem ResultsMirrorWorkers.next {s' : DownloadState} (h : ResultsMirrorWorkers s)
    (hnext : Next s s') : ResultsMirrorWorkers s' := by
  obtain ⟨e, he, rfl⟩ := hnext
  exact h.step he

/-- The mirror holds in every state that any interleaving of the handlers reaches. -/
theorem Reachable.resultsMirrorWorkers (hs : Reachable s) : ResultsMirrorWorkers s := by
  induction hs with
  | refl => exact resultsMirrorWorkers_init
  | tail _ hnext ih => exact ih.next hnext

/-! ## File names follow start paths -/

/-- What the ghost start path of one id says of its worker: a running worker fetches the
path it was started with, and a complete outcome is named after that path. -/
def PathFits : WorkerPhase → Option String → Prop
  | .running _ file_path, path => path = some file_path
  | .finished (.complete _ filename), path =>
    ∃ file_path, path = some file_path ∧ filename = downloadName file_path
  | _, _ => True

/-- Every worker fits its start path. -/
def NamesFollowPaths (s : DownloadState) : Prop :=
  ∀ id, PathFits (s.workers id) (s.paths id)

/-- Writing a fitting phase and path at one id keeps every id fitting. -/
private theorem pathFits_update {workers : String → WorkerPhase} {paths : String → Option String}
    (h : ∀ id, PathFits (workers id) (paths id)) {download_id : String} {phase : WorkerPhase}
    {path : Option String} (hfits : PathFits phase path) (id : String) :
    PathFits (update workers download_id phase id) (update paths download_id path id) := by
  by_cases hid : id = download_id
  · subst hid; simpa using hfits
  · simpa [Function.update_noteq hid] using h id

/-- Writing a phase that fits the unchanged start path keeps every id fitting. -/
private theorem pathFits_update_phase {workers : String → WorkerPhase}
    {paths : String → Option String} (h : ∀ id, PathFits (workers id) (paths id))
    {download_id : String} {phase : WorkerPhase} (hfits : PathFits phase (paths download_id))
    (id : String) : PathFits (update workers download_id phase id) (paths id) := by
  have hfit := @pathFits_update workers paths h download_id phase _ hfits id
  rwa [Function.update_eq_self] at hfit

theorem NamesFollowPaths.step (h : NamesFollowPaths s) {e : DownloadEvent} (he : Enabled s e) :
    NamesFollowPaths (step s e).1 := by
  cases e with
  | start node_hash file_path download_id =>
    simp only [Downloads.step, Downloads.apiStartDownload]
    split
    · exact pathFits_update h (rfl : PathFits (.running node_hash file_path) _)
    · exact h
  | callback download_id progress => exact h
  | finish download_id response =>
    obtain ⟨node_hash, file_path, hrun⟩ := he
    have hpath : s.paths download_id = some file_path := by
      simpa [hrun, PathFits] using h download_id
    simp only [Downloads.step, Downloads.doDownload, hrun]
    refine pathFits_update_phase h ?_
    unfold downloadOutcome
    split
    · exact ⟨file_path, hpath, rfl⟩
    · trivial
  | queryProgress download_id => exact h
  | queryResult download_id =>
    simp only [Downloads.step, Downloads.apiDownloadResult]
    split
    · exact h
    · exact h
    · exact pathFits_update_phase h trivial
  | stream node_hash file_path download_id response =>
    simpa [Downloads.step, NamesFollowPaths] using h

/-- In every reachable state each worker fits its start path. -/
theorem Reachable.namesFollowPaths (hs : Reachable s) : NamesFollowPaths s := by
  induction hs with
  | refl => exact fun _ => trivial
  | tail _ hnext ih =>
    obtain ⟨e, he, rfl⟩ := hnext
    exact ih.step he

/-! ## What one step does to a worker phase -/

/-- The moves one step can make on the phase of a single worker. -/
inductive PhaseMove : WorkerPhase → WorkerPhase → Prop
  | stay (phase : WorkerPhase) : PhaseMove phase phase
  | start (node_hash file_path : String) : PhaseMove .idle (.running node_hash file_path)
  | finish (node_hash file_path : String) (result : DownloadResult) :
      PhaseMove (.running node_hash file_path) (.finished result)
  | serve (content : List UInt8) (filename : String) :
      PhaseMove (.finished (.complete content filename)) .served

private theorem phaseMove_update {workers : String → WorkerPhase} {id id' : String}
    {phase : WorkerPhase} (hmove : PhaseMove (workers id) phase) :
    PhaseMove (workers id') (update workers id phase id') := by
  by_cases hid : id' = id
  · subst hid; simpa using hmove
  · simpa [Function.update_noteq hid] using PhaseMove.stay (workers id')

theorem ResultsMirrorWorkers.phaseMove (h : ResultsMirrorWorkers s) {e : DownloadEvent}
    (he : Enabled s e) (id : String) :
    PhaseMove (s.workers id) ((Downloads.step s e).1.workers id) := by
  cases e with
  | start node_hash file_path download_id =>
    simp only [Downloads.step, Downloads.apiStartDownload]
    split
    · exact phaseMove_update (by rw [show s.workers download_id = .idle from he]; exact .start _ _)
    · exact .stay _
  | callback download_id progress => exact .stay _
  | finish download_id response =>
    obtain ⟨node_hash, file_path, hrun⟩ := he
    simp only [Downloads.step, Downloads.doDownload, hrun]
    exact phaseMove_update (by rw [hrun]; exact .finish _ _ _)
  | queryProgress download_id => exact .stay _
  | queryResult download_id =>
    simp only [Downloads.step, Downloads.apiDownloadResult]
    split
    · exact .stay _
    · exact .stay _
    · rename_i content filename hresult
      rw [h.mirror] at hresult
      exact phaseMove_update (by rw [WorkerPhase.outcome_eq_some.mp hresult]; exact .serve _ _)
  | stream node_hash file_path download_id response =>
    simpa [Downloads.step] using PhaseMove.stay (s.workers id)

theorem PhaseMove.eq_of_finished_error {error : String} {phase : WorkerPhase}
    (hmove : PhaseMove (.finished (.error error)) phase) : phase = .finished (.error error) := by
  cases hmove; rfl

theorem PhaseMove.eq_of_served {phase : WorkerPhase} (hmove : PhaseMove .served phase) :
    phase = .served := by
  cases hmove; rfl

/-- A set of phases that no step leaves keeps a worker along every later interleaving. -/
theorem workers_persist {P : WorkerPhase → Prop}
    (hclosed : ∀ phase phase', P phase → PhaseMove phase phase' → P phase')
    {s' : DownloadState} {id : String} (hs : Reachable s) (hw : P (s.workers id))
    (hrun : Relation.ReflTransGen Next s s') : P (s'.workers id) ∧ Reachable s' := by
  induction hrun with
  | refl => exact ⟨hw, hs⟩
  | tail _ hnext ih =>
    obtain ⟨e, he, rfl⟩ := hnext
    exact ⟨hclosed _ _ ih.1 (ih.2.resultsMirrorWorkers.phaseMove he id), ih.2.tail ⟨e, he, rfl⟩⟩

/-- A phase that no step leaves stays along every later interleaving. -/
private theorem phase_persist {phase : WorkerPhase} (hstuck : ∀ p, PhaseMove phase p → p = phase)
    {s' : DownloadState} {id : String} (hs : Reachable s) (hw : s.workers id = phase)
    (hrun : Relation.ReflTransGen Next s s') : s'.workers id = phase ∧ Reachable s' :=
  workers_persist (fun (p p' : WorkerPhase) (hphase : p = phase) (hmove : PhaseMove p p') =>
    hstuck p' (hphase ▸ hmove)) hs hw hrun

/-! ## Serving an outcome -/

variable {id : String}

/-- Serving a finished complete download answers with the file, named
`file_path.split("/")[-1] or "download"` for the path the download was started with, and
leaves its id in neither dictionary. -/
theorem apiDownloadResult_of_finished_complete {content : List UInt8} {filename file_path : String}
    (hs : Reachable s) (hw : s.workers id = .finished (.complete content filename))
    (hpath : s.paths id = some file_path) :
    (apiDownloadResult s id).2 = .file content (downloadName file_path) ∧
      (apiDownloadResult s id).1.downloadProgress (some id) = none ∧
      (apiDownloadResult s id).1.downloadResults (some id) = none := by
  have hresult : s.downloadResults (some id) = some (.complete content filename) := by
    rw [hs.resultsMirrorWorkers.mirror, hw]; rfl
  obtain ⟨file_path', hpath', rfl⟩ : ∃ file_path', s.paths id = some file_path' ∧
      filename = downloadName file_path' := by
    simpa [hw, PathFits] using hs.namesFollowPaths id
  obtain rfl : file_path' = file_path := Option.some.inj (hpath'.symm.trans hpath)
  simp [apiDownloadResult, hresult, clearDownload]

/-- A download of `/file/notes.txt` whose transfer succeeds. -/
def finishedDownload : List DownloadEvent :=
  [.start "node" "/file/notes.txt" "d1", .finish "d1" ⟨"success", [104, 105], none⟩]

theorem finishedDownload_reachable : Reachable (run .init finishedDownload) :=
  .tail (.single ⟨.start "node" "/file/notes.txt" "d1", rfl, rfl⟩)
    ⟨.finish "d1" ⟨"success", [104, 105], none⟩, ⟨"node", "/file/notes.txt", rfl⟩, rfl⟩

theorem apiDownloadResult_of_finished_complete_notes :
    Reachable (run .init finishedDownload) ∧
      (run .init finishedDownload).workers "d1" = .finished (.complete [104, 105] "notes.txt") ∧
      (run .init finishedDownload).paths "d1" = some "/file/notes.txt" ∧
      (apiDownloadResult (run .init finishedDownload) "d1").2 =
        .file [104, 105] (downloadName "/file/notes.txt") ∧
      (apiDownloadResult (run .init finishedDownload) "d1").1.downloadProgress (some "d1") = none ∧
      (apiDownloadResult (run .init finishedDownload) "d1").1.downloadResults (some "d1") = none :=
  ⟨finishedDownload_reachable, by decide, by decide,
    @apiDownloadResult_of_finished_complete _ _ _ "notes.txt" _ finishedDownload_reachable
      (by decide) (by decide)⟩

/-- A finished failed download is answered with a 500, and the handler returns before its
cleanup: the state is left as it was, the error result included. -/
theorem apiDownloadResult_of_finished_error {error : String} (hs : Reachable s)
    (hw : s.workers id = .finished (.error error)) :
    apiDownloadResult s id = (s, .failed error) ∧
      s.downloadResults (some id) = some (.error error) := by
  have hresult : s.downloadResults (some id) = some (.error error) := by
    rw [hs.resultsMirrorWorkers.mirror, hw]; rfl
  simp [apiDownloadResult, hresult]

/-- A download of `/file/notes.txt` whose transfer times out. -/
def failedDownload : List DownloadEvent :=
  [.start "node" "/file/notes.txt" "d1", .finish "d1" ⟨"error", [], some "Timeout"⟩]

theorem failedDownload_reachable : Reachable (run .init failedDownload) :=
  .tail (.single ⟨.start "node" "/file/notes.txt" "d1", rfl, rfl⟩)
    ⟨.finish "d1" ⟨"error", [], some "Timeout"⟩, ⟨"node", "/file/notes.txt", rfl⟩, rfl⟩

theorem apiDownloadResult_of_finished_error_timeout :
    Reachable (run .init failedDownload) ∧
      (run .init failedDownload).workers "d1" = .finished (.error "Timeout") ∧
      apiDownloadResult (run .init failedDownload) "d1" =
        (run .init failedDownload, .failed "Timeout") ∧
      (run .init failedDownload).downloadResults (some "d1") = some (.error "Timeout") :=
  ⟨failedDownload_reachable, by decide,
    apiDownloadResult_of_finished_error failedDownload_reachable (by decide)⟩

/-- Once a failed download's result is stored, it stays in `download_results` along every
later interleaving of the handlers. -/
theorem results_error_persist {error : String} {s' : DownloadState} (hs : Reachable s)
    (hresult : s.downloadResults (some id) = some (.error error))
    (hrun : Relation.ReflTransGen Next s s') :
    s'.downloadResults (some id) = some (.error error) := by
  rw [hs.resultsMirrorWorkers.mirror, WorkerPhase.outcome_eq_some] at hresult
  obtain ⟨hw, hs'⟩ := phase_persist (fun _ => PhaseMove.eq_of_finished_error) hs hresult hrun
  rw [hs'.resultsMirrorWorkers.mirror, hw]; rfl

/-- `failedDownload`, then its result asked for and a second download started. -/
def failedThenMore : List DownloadEvent :=
  failedDownload ++ [.queryResult "d1", .start "node" "/file/b.txt" "d2"]

theorem failedDownload_then_more :
    Relation.ReflTransGen Next (run .init failedDownload) (run .init failedThenMore) :=
  .tail (.single ⟨.queryResult "d1", trivial, rfl⟩)
    ⟨.start "node" "/file/b.txt" "d2", rfl, rfl⟩

theorem results_error_persist_timeout :
    Reachable (run .init failedDownload) ∧
      (run .init failedDownload).downloadResults (some "d1") = some (.error "Timeout") ∧
      Relation.ReflTransGen Next (run .init failedDownload) (run .init failedThenMore) ∧
      (run .init failedThenMore).downloadResults (some "d1") = some (.error "Timeout") :=
  ⟨failedDownload_reachable, by decide, failedDownload_then_more,
    results_error_persist failedDownload_reachable (by decide) failedDownload_then_more⟩

/-- A served download is served once: every later `api_download_result` for it is a 404. -/
theorem apiDownloadResult_after_served {s' : DownloadState} (hs : Reachable s)
    (hw : s.workers id = .served) (hrun : Relation.ReflTransGen Next s s') :
    (apiDownloadResult s' id).2 = .notFound := by
  obtain ⟨hw', hs'⟩ := phase_persist (fun _ => PhaseMove.eq_of_served) hs hw hrun
  have hresult : s'.downloadResults (some id) = none := by
    rw [hs'.resultsMirrorWorkers.mirror, hw']; rfl
  simp [apiDownloadResult, hresult]

/-- `finishedDownload` with its file served. -/
def servedDownload : List DownloadEvent :=
  finishedDownload ++ [.queryResult "d1"]

theorem servedDownload_reachable : Reachable (run .init servedDownload) :=
  finishedDownload_reachable.tail ⟨.queryResult "d1", trivial, rfl⟩

theorem apiDownloadResult_after_served_notes :
    Reachable (run .init servedDownload) ∧ (run .init servedDownload).workers "d1" = .served ∧
      Relation.ReflTransGen Next (run .init servedDownload)
        (run .init (servedDownload ++ [.start "node" "/file/b.txt" "d2"])) ∧
      (apiDownloadResult (run .init (servedDownload ++ [.start "node" "/file/b.txt" "d2"]))
        "d1").2 = .notFound :=
  have hmore : Relation.ReflTransGen Next (run .init servedDownload)
      (run .init (servedDownload ++ [.start "node" "/file/b.txt" "d2"])) :=
    .single ⟨.start "node" "/file/b.txt" "d2", rfl, rfl⟩
  ⟨servedDownload_reachable, by decide, hmore,
    apiDownloadResult_after_served servedDownload_reachable (by decide) hmore⟩

/-! ## A failed download -/

/-- `failedDownload` asked for its result, and a stream whose transfer times out. -/
def timedOutDownload : List DownloadEvent :=
  failedDownload ++
    [.queryResult "d1", .stream "node" "/file/notes.txt" (some "d2") ⟨"error", [], some "Timeout"⟩]

theorem timedOutDownload_reachable : Reachable (run .init timedOutDownload) :=
  .tail (.tail failedDownload_reachable ⟨.queryResult "d1", trivial, rfl⟩)
    ⟨.stream "node" "/file/notes.txt" (some "d2") ⟨"error", [], some "Timeout"⟩, trivial, rfl⟩

/-- Along a reachable run, the result of the failed download is answered with a 500, and
both dictionaries keep entries for both ids afterwards. -/
theorem timedOutDownload_bookkeeping_remains :
    Reachable (run .init timedOutDownload) ∧
      (step (run .init failedDownload) (.queryResult "d1")).2 = .failed "Timeout" ∧
      (run .init timedOutDownload).downloadProgress (some "d1") = some ⟨0, "error"⟩ ∧
      (run .init timedOutDownload).downloadResults (some "d1") = some (.error "Timeout") ∧
      (run .init timedOutDownload).downloadProgress (some "d2") = some ⟨0, "downloading"⟩ :=
  ⟨timedOutDownload_reachable, by decide⟩

end Robumba.Downloads
