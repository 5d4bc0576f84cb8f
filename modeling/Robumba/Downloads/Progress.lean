import Robumba.Downloads.Bookkeeping

/-!
# What `api_download_progress` reports

`download_progress[id]` follows the worker of `id` (`ProgressFits`): nothing before
`api_start_download` registers the id, `starting` and then `downloading` while the
worker runs, `complete` once `do_download` has finished with the file, and nothing once
`api_download_result` has served it.  After a failed transfer the entry is `error`, or
`downloading` again: `fetch_file` gives up waiting with `Timeout` without cancelling its
request, whose later progress callbacks still write the entry.  Every step keeps this for `id`
(`ProgressFits.step`), except a run of the stream generator that names `id`: the
generator writes and deletes `download_progress[download_id]` for whatever id the client
passes, so a stream opened with the id of a running download deletes that download's
entry, and `api_download_progress` answers `unknown` while the worker still runs.

`apiDownloadProgress_of_reachableWithout` states what the route answers in every state of
an interleaving in which no stream names `id`.
-/

namespace Robumba.Downloads

open Function (update)

/-- What `download_progress[id]` holds in each phase of the worker of `id`. -/
def ProgressFits : WorkerPhase → Option Progress → Prop
  | .idle, entry => entry = none
  | .running _ _, entry => entry = some ⟨0, "starting"⟩ ∨ ∃ p, entry = some ⟨p, "downloading"⟩
  | .finished (.complete _ _), entry => entry = some ⟨100, "complete"⟩
  | .finished (.error _), entry => entry = some ⟨0, "error"⟩ ∨ ∃ p, entry = some ⟨p, "downloading"⟩
  | .served, entry => entry = none

/-- The key a stream event writes, for a stream event. -/
def DownloadEvent.streamKey : DownloadEvent → Option DownloadKey
  | .stream _ _ download_id _ => some download_id
  | _ => none

/-- One enabled step that is not a stream naming `id`. -/
def NextWithout (id : String) (s s' : DownloadState) : Prop :=
  ∃ e, Enabled s e ∧ e.streamKey ≠ some (some id) ∧ (step s e).1 = s'

/-- The states of every interleaving in which no stream names `id`. -/
def ReachableWithout (id : String) (s : DownloadState) : Prop :=
  Relation.ReflTransGen (NextWithout id) DownloadState.init s

/-! ## One step -/

variable {s : DownloadState} {id : String}

/-- Writing the phase and the entry of one id keeps the fit of every other id. -/
private theorem ProgressFits.update {workers : String → WorkerPhase}
    {progress : DownloadKey → Option Progress} (h : ProgressFits (workers id) (progress (some id)))
    (id' : String) (phase : WorkerPhase) (entry : Option Progress)
    (hnew : id' = id → ProgressFits phase entry) :
    ProgressFits (update workers id' phase id) (update progress (some id') entry (some id)) := by
  by_cases hid : id' = id
  · subst hid
    simpa using hnew rfl
  · have hkey : some id ≠ some id' := by simpa [eq_comm] using hid
    rwa [Function.update_noteq (Ne.symm hid), Function.update_noteq hkey]

/-- Every enabled step other than a stream naming `id` keeps the fit of `id`. -/
theorem ProgressFits.step (h : ProgressFits (s.workers id) (s.downloadProgress (some id)))
    {e : DownloadEvent} (he : Enabled s e)
    (hkey : e.streamKey ≠ some (some id)) :
    ProgressFits ((step s e).1.workers id) ((step s e).1.downloadProgress (some id)) := by
  cases e with
  | start node_hash file_path download_id =>
    simp only [Downloads.step, apiStartDownload]
    split
    · exact ProgressFits.update h _ _ _ fun _ => .inl rfl
    · exact h
  | callback download_id progress =>
    have hfit := ProgressFits.update h download_id (s.workers download_id)
      (some ⟨progress * 100, "downloading"⟩) fun _ => by
        rcases he with ⟨node_hash, file_path, hphase⟩ | ⟨error, hphase⟩ <;>
          (rw [hphase]; exact .inr ⟨_, rfl⟩)
    simpa [Downloads.step, progressCallback] using hfit
  | finish download_id response =>
    obtain ⟨node_hash, file_path, hrun⟩ := he
    simp only [Downloads.step, doDownload, hrun]
    refine ProgressFits.update h _ _ _ fun _ => ?_
    unfold downloadOutcome
    split
    · rfl
    · exact .inl rfl
  | queryProgress download_id => exact h
  | queryResult download_id =>
    simp only [Downloads.step, apiDownloadResult]
    split
    · exact h
    · exact h
    · exact ProgressFits.update h _ _ _ fun _ => rfl
  | stream node_hash file_path download_id response =>
    have hne : download_id ≠ some id := fun heq => hkey (by rw [heq]; rfl)
    simp only [Downloads.step, apiDownloadFileStream]
    split
    · split <;> simpa [Function.update_noteq (Ne.symm hne)] using h
    · exact h

/-- In every interleaving in which no stream names `id`, `download_progress[id]` fits the
phase of the worker of `id`. -/
theorem progressFits_of_reachableWithout (hs : ReachableWithout id s) :
    ProgressFits (s.workers id) (s.downloadProgress (some id)) := by
  induction hs with
  | refl => rfl
  | tail _ hnext ih =>
    obtain ⟨e, he, hkey, rfl⟩ := hnext
    exact ih.step he hkey

/-! ## What the route answers -/

/-- In every interleaving in which no stream names `id`, `api_download_progress(id)`
answers `unknown` before the download starts and after its file is served, `starting` or
`downloading` while its worker runs, `complete` once it has finished with the file, and
`error` or `downloading` once it has failed. -/
theorem apiDownloadProgress_of_reachableWithout (hs : ReachableWithout id s) :
    ((s.workers id = .idle ∨ s.workers id = .served) →
        apiDownloadProgress s id = ⟨0, "unknown"⟩) ∧
      (∀ node_hash file_path, s.workers id = .running node_hash file_path →
        (apiDownloadProgress s id).status = "starting" ∨
          (apiDownloadProgress s id).status = "downloading") ∧
      (∀ content filename, s.workers id = .finished (.complete content filename) →
        apiDownloadProgress s id = ⟨100, "complete"⟩) ∧
      (∀ error, s.workers id = .finished (.error error) →
        apiDownloadProgress s id = ⟨0, "error"⟩ ∨
          (apiDownloadProgress s id).status = "downloading") := by
  have hfit := progressFits_of_reachableWithout hs
  refine ⟨fun hphase => ?_, fun node_hash file_path hphase => ?_,
    fun content filename hphase => ?_, fun error hphase => ?_⟩
  · rcases hphase with hphase | hphase <;>
      simp_all [ProgressFits, apiDownloadProgress]
  · rw [hphase] at hfit
    rcases hfit with hentry | ⟨p, hentry⟩ <;> simp [apiDownloadProgress, hentry]
  · rw [hphase, ProgressFits] at hfit
    simp [apiDownloadProgress, hfit]
  · rw [hphase] at hfit
    rcases hfit with hentry | ⟨p, hentry⟩ <;> simp [apiDownloadProgress, hentry]

/-- A download of `/file/notes.txt` just started. -/
def startedDownload : List DownloadEvent := [.start "node" "/file/notes.txt" "d1"]

theorem apiDownloadProgress_of_reachableWithout_started :
    ReachableWithout "d1" (run .init startedDownload) ∧
      (((run .init startedDownload).workers "d1" = .idle ∨
          (run .init startedDownload).workers "d1" = .served) →
        apiDownloadProgress (run .init startedDownload) "d1" = ⟨0, "unknown"⟩) ∧
      (∀ node_hash file_path,
        (run .init startedDownload).workers "d1" = .running node_hash file_path →
        (apiDownloadProgress (run .init startedDownload) "d1").status = "starting" ∨
          (apiDownloadProgress (run .init startedDownload) "d1").status = "downloading") ∧
      (∀ content filename,
        (run .init startedDownload).workers "d1" = .finished (.complete content filename) →
        apiDownloadProgress (run .init startedDownload) "d1" = ⟨100, "complete"⟩) ∧
      (∀ error, (run .init startedDownload).workers "d1" = .finished (.error error) →
        apiDownloadProgress (run .init startedDownload) "d1" = ⟨0, "error"⟩ ∨
          (apiDownloadProgress (run .init startedDownload) "d1").status = "downloading") :=
  have hs : ReachableWithout "d1" (run .init startedDownload) :=
    .single ⟨.start "node" "/file/notes.txt" "d1", rfl, nofun, rfl⟩
  ⟨hs, apiDownloadProgress_of_reachableWithout hs⟩

/-- Without the restriction the answers change: a stream that names a running download's
id and completes deletes the download's entry, and the route answers `unknown` while the
worker runs. -/
example :
    (run .init [.start "node" "/file/notes.txt" "d1",
        .stream "node" "/file/notes.txt" (some "d1") ⟨"success", [104], none⟩]).workers "d1" =
      .running "node" "/file/notes.txt" ∧
    apiDownloadProgress (run .init [.start "node" "/file/notes.txt" "d1",
        .stream "node" "/file/notes.txt" (some "d1") ⟨"success", [104], none⟩]) "d1" =
      ⟨0, "unknown"⟩ := by
  decide

/-- A transfer that outlives the `Timeout` of its download reports progress after the
failure, and the route answers `downloading` for a failed download. -/
example :
    (run .init [.start "node" "/file/notes.txt" "d1", .finish "d1" ⟨"error", [], some "Timeout"⟩,
        .callback "d1" (1 / 2)]).workers "d1" = .finished (.error "Timeout") ∧
    (apiDownloadProgress (run .init [.start "node" "/file/notes.txt" "d1",
        .finish "d1" ⟨"error", [], some "Timeout"⟩, .callback "d1" (1 / 2)]) "d1").status =
      "downloading" := by
  decide

end Robumba.Downloads
