import Mathlib.Data.Rat.Defs
import Mathlib.Logic.Function.Basic
import Mathlib.Logic.Relation

/-!
# The download handlers of the web browser

`routes.py` keeps two module-level dictionaries, `download_progress` and
`download_results`, and four routes share them: `api_start_download` (which spawns a
`do_download` worker thread), `api_download_progress`, `api_download_result` and the
server-sent-event generator of `api_download_file_stream`.

Each handler, and the end of each worker, is one atomic step of `DownloadState`; the
worker's progress callbacks are steps of their own.  They come while the worker runs,
and also after it ended in an error: `fetch_file` returns `Timeout` when its wait runs
out without cancelling the request, whose transfer may go on calling `on_progress`.  A
dictionary is a total map into `Option`, keyed by `DownloadKey`: a download id string,
or the `None` that `request.args.get("download_id")` gives to a stream opened without
one.  The fields `workers` and `paths` are ghost state.  `workers` records, for each id,
whether `do_download` has not been started, is running, has finished with an outcome, or
has had a complete outcome served by `api_download_result`; `paths` records the file
path `api_start_download` was given for the id.  No handler reads them except to find the
worker's file path.

`browser.fetch_file` is an oracle: every event that runs it carries its response.
-/

namespace Robumba.Downloads

/-- A dictionary key: `some id` for a download id, `none` for Python's `None`. -/
abbrev DownloadKey := Option String

/-- An entry of `download_progress`: `{"progress": ..., "status": ...}`, the progress in
percent (`progress * 100` of the fraction the transport reports). -/
structure Progress where
  progress : ℚ
  status : String
  deriving DecidableEq, Repr

/-- An entry of `download_results`, written by `do_download`. -/
inductive DownloadResult
  | complete (content : List UInt8) (filename : String)
  | error (error : String)
  deriving DecidableEq, Repr

/-- The dictionary `browser.fetch_file` returns; `error = none` when it has no `"error"`
key. -/
structure FetchResponse where
  status : String
  content : List UInt8
  error : Option String
  deriving DecidableEq, Repr

/-- One server-sent event of `api_download_file_stream`.  The file travels base64-encoded
in the code; here it is the bytes themselves. -/
inductive StreamEvent
  | error (error : Option String)
  | complete (filename : String) (file_data : List UInt8)
  deriving DecidableEq, Repr

/-- What a step answers: the JSON body or file of a route, or nothing for a worker step. -/
inductive DownloadResponse
  | invalidPath
  | started (download_id : String)
  | progress (data : Progress)
  | notFound
  | failed (error : String)
  | file (content : List UInt8) (filename : String)
  | events (events : List StreamEvent)
  | silent
  deriving DecidableEq, Repr

/-- The ghost life cycle of the `do_download` thread of one download id. -/
inductive WorkerPhase
  | idle
  | running (node_hash file_path : String)
  | finished (result : DownloadResult)
  | served
  deriving DecidableEq, Repr

/-- The outcome a worker phase holds: the result of a finished worker. -/
def WorkerPhase.outcome : WorkerPhase → Option DownloadResult
  | .finished result => some result
  | _ => none

@[simp] theorem WorkerPhase.outcome_idle : WorkerPhase.idle.outcome = none := rfl

@[simp] theorem WorkerPhase.outcome_running (node_hash file_path : String) :
    (WorkerPhase.running node_hash file_path).outcome = none := rfl

@[simp] theorem WorkerPhase.outcome_finished (result : DownloadResult) :
    (WorkerPhase.finished result).outcome = some result := rfl

@[simp] theorem WorkerPhase.outcome_served : WorkerPhase.served.outcome = none := rfl

theorem WorkerPhase.outcome_eq_some {phase : WorkerPhase} {result : DownloadResult} :
    phase.outcome = some result ↔ phase = .finished result := by
  cases phase <;> simp [WorkerPhase.outcome, eq_comm]

/-- The two dictionaries of `routes.py`, with the ghost worker phases and start paths. -/
structure DownloadState where
  downloadProgress : DownloadKey → Option Progress
  downloadResults : DownloadKey → Option DownloadResult
  workers : String → WorkerPhase
  paths : String → Option String

/-- Both dictionaries empty and no worker started. -/
def DownloadState.init : DownloadState where
  downloadProgress := fun _ => none
  downloadResults := fun _ => none
  workers := fun _ => .idle
  paths := fun _ => none

open Function (update)

/-! ## The handlers -/

/-- Python's `s.startswith(prefix)`. -/
def startswith (s pre : String) : Bool :=
  pre.data.isPrefixOf s.data

/-- Python's `s.split("/")[-1]`: the text after the last slash. -/
def lastSegment (s : String) : String :=
  ⟨(s.data.reverse.takeWhile (· ≠ '/')).reverse⟩

/-- `file_path.split("/")[-1] or "download"`. -/
def downloadName (file_path : String) : String :=
  if lastSegment file_path = "" then "download" else lastSegment file_path

/-- `api_start_download`: reject a path outside `/file/`, else register the fresh id
`download_id` (the code's `uuid.uuid4()`) as starting and spawn its worker. -/
def apiStartDownload (s : DownloadState) (node_hash file_path download_id : String) :
    DownloadState × DownloadResponse :=
  if startswith file_path "/file/" then
    ({ s with
        downloadProgress := update s.downloadProgress (some download_id) (some ⟨0, "starting"⟩)
        workers := update s.workers download_id (.running node_hash file_path)
        paths := update s.paths download_id (some file_path) },
      .started download_id)
  else (s, .invalidPath)

@[simp] theorem apiStartDownload_downloadResults (s : DownloadState)
    (node_hash file_path download_id : String) :
    (apiStartDownload s node_hash file_path download_id).1.downloadResults = s.downloadResults := by
  unfold apiStartDownload; split <;> rfl

/-- The `progress_callback` of `do_download`, called by the transport with a fraction. -/
def progressCallback (s : DownloadState) (download_id : String) (progress : ℚ) :
    DownloadState :=
  { s with
    downloadProgress :=
      update s.downloadProgress (some download_id) (some ⟨progress * 100, "downloading"⟩) }

@[simp] theorem progressCallback_downloadResults (s : DownloadState) (download_id : String)
    (progress : ℚ) :
    (progressCallback s download_id progress).downloadResults = s.downloadResults :=
  rfl

@[simp] theorem progressCallback_workers (s : DownloadState) (download_id : String)
    (progress : ℚ) : (progressCallback s download_id progress).workers = s.workers :=
  rfl

/-- What `do_download` stores once `fetch_file` has answered `response`. -/
def downloadOutcome (file_path : String) (response : FetchResponse) :
    DownloadResult × Progress :=
  if response.status = "success" then
    (.complete response.content (downloadName file_path), ⟨100, "complete"⟩)
  else
    (.error (response.error.getD "Unknown error"), ⟨0, "error"⟩)

/-- The end of the `do_download` worker of `download_id`. -/
def doDownload (s : DownloadState) (download_id : String) (response : FetchResponse) :
    DownloadState :=
  match s.workers download_id with
  | .running _ file_path =>
    let outcome := downloadOutcome file_path response
    { s with
      downloadResults := update s.downloadResults (some download_id) (some outcome.1)
      downloadProgress := update s.downloadProgress (some download_id) (some outcome.2)
      workers := update s.workers download_id (.finished outcome.1) }
  | _ => s

/-- `api_download_progress`: a read, with the default `{"progress": 0, "status": "unknown"}`. -/
def apiDownloadProgress (s : DownloadState) (download_id : String) : Progress :=
  (s.downloadProgress (some download_id)).getD ⟨0, "unknown"⟩

/-- The `# Cleanup` of `api_download_result`: both entries of the id go. -/
def clearDownload (s : DownloadState) (download_id : String) : DownloadState :=
  { s with
    downloadProgress := update s.downloadProgress (some download_id) none
    downloadResults := update s.downloadResults (some download_id) none
    workers := update s.workers download_id .served }

/-- `api_download_result`: 404 without a result, 500 with an error result (returned
before the cleanup), and the file after the cleanup otherwise. -/
def apiDownloadResult (s : DownloadState) (download_id : String) :
    DownloadState × DownloadResponse :=
  match s.downloadResults (some download_id) with
  | none => (s, .notFound)
  | some (.error error) => (s, .failed error)
  | some (.complete content filename) => (clearDownload s download_id, .file content filename)

/-- One run of the generator of `api_download_file_stream`.  Its `progress_callback`
contains a `yield`, so calling it only builds a generator: the transport's progress
never reaches `download_progress`.  On an error the generator returns before its
cleanup. -/
def apiDownloadFileStream (s : DownloadState) (file_path : String) (download_id : DownloadKey)
    (response : FetchResponse) : DownloadState × DownloadResponse :=
  if startswith file_path "/file/" then
    let tracked := update s.downloadProgress download_id (some ⟨0, "downloading"⟩)
    if response.status = "error" then
      ({ s with downloadProgress := tracked }, .events [.error response.error])
    else
      ({ s with downloadProgress := update tracked download_id none },
        .events [.complete (downloadName file_path) response.content])
  else (s, .invalidPath)

@[simp] theorem apiDownloadFileStream_downloadResults (s : DownloadState) (file_path : String)
    (download_id : DownloadKey) (response : FetchResponse) :
    (apiDownloadFileStream s file_path download_id response).1.downloadResults =
      s.downloadResults := by
  unfold apiDownloadFileStream; split <;> (try split) <;> rfl

@[simp] theorem apiDownloadFileStream_workers (s : DownloadState) (file_path : String)
    (download_id : DownloadKey) (response : FetchResponse) :
    (apiDownloadFileStream s file_path download_id response).1.workers = s.workers := by
  unfold apiDownloadFileStream; split <;> (try split) <;> rfl

@[simp] theorem apiDownloadFileStream_paths (s : DownloadState) (file_path : String)
    (download_id : DownloadKey) (response : FetchResponse) :
    (apiDownloadFileStream s file_path download_id response).1.paths = s.paths := by
  unfold apiDownloadFileStream; split <;> (try split) <;> rfl

/-! ## Steps and runs -/

/-- One atomic step of the handlers; the oracle's answers travel in the event. -/
inductive DownloadEvent
  | start (node_hash file_path download_id : String)
  | callback (download_id : String) (progress : ℚ)
  | finish (download_id : String) (response : FetchResponse)
  | queryProgress (download_id : String)
  | queryResult (download_id : String)
  | stream (node_hash file_path : String) (download_id : DownloadKey) (response : FetchResponse)
  deriving DecidableEq, Repr

/-- The effect of one event on the state, and the route's answer. -/
def step (s : DownloadState) : DownloadEvent → DownloadState × DownloadResponse
  | .start node_hash file_path download_id => apiStartDownload s node_hash file_path download_id
  | .callback download_id progress => (progressCallback s download_id progress, .silent)
  | .finish download_id response => (doDownload s download_id response, .silent)
  | .queryProgress download_id => (s, .progress (apiDownloadProgress s download_id))
  | .queryResult download_id => apiDownloadResult s download_id
  | .stream _ file_path download_id response =>
    apiDownloadFileStream s file_path download_id response

/-- When an event can happen: `uuid4` never repeats an id, a worker's end comes only while
it runs, and its progress callbacks while it runs or after it ended in an error, when the
request `fetch_file` gave up waiting for may still be transferring. -/
def Enabled (s : DownloadState) : DownloadEvent → Prop
  | .start _ _ download_id => s.workers download_id = .idle
  | .callback download_id _ =>
    (∃ node_hash file_path, s.workers download_id = .running node_hash file_path) ∨
      ∃ error, s.workers download_id = .finished (.error error)
  | .finish download_id _ =>
    ∃ node_hash file_path, s.workers download_id = .running node_hash file_path
  | _ => True

/-- One enabled step. -/
def Next (s s' : DownloadState) : Prop :=
  ∃ e, Enabled s e ∧ (step s e).1 = s'

/-- The states of every interleaving of handler steps from empty dictionaries. -/
def Reachable (s : DownloadState) : Prop :=
  Relation.ReflTransGen Next DownloadState.init s

/-- The states a run of steps leads to, in order. -/
def run (s : DownloadState) : List DownloadEvent → DownloadState
  | [] => s
  | e :: es => run (step s e).1 es

end Robumba.Downloads
