import ModuleLint.Editor.Server
import ModuleLint.Proofs.Editor.Foreign
import ModuleLint.Proofs.Worker.Client

/-
  Changes of files that are dealt with at the same time.

  For each change the worker of a folder is asked first, and
  its responses are taken into the store later.  Between the
  two, files change further, and other calls ask or are done
  with.  The store is up to date in the end if responses are
  taken in in the order in which they were given.  In another
  order, an old response may undo a newer one.

  Main declarations:
    * `Desk`, `Desk.Action`, `Desk.run`
    * `Desk.UpToDate`, `Desk.Pending`
    * `Client.Synced.taken_fullStore`
    * `Desk.Pending.run`, `Desk.run_upToDate`
-/

namespace ModuleLint

------------------------------------------------------------
-- Calls
------------------------------------------------------------

/- A call whose responses have not been taken in. -/
structure Call where
  path : RawText
  replies : List Response

/- The files, a folder and the calls that are under way. -/
structure Desk where
  disk : Disk
  folder : Folder
  calls : List Call

namespace Desk

/-
  What happens: files change, the worker is asked about a
  file, or the responses of a call are taken in.
-/
inductive Action where
  | edit (d : Disk)
  | ask (path : RawText)
  | fold (n : Nat)

/- One thing happens.  A call without responses is over. -/
def act
    (root : RawText)
    (s : Desk) : Action → Desk
  | .edit d => { s with disk := d }
  | .ask path =>
      match s.folder.withClient root s.disk
          (Client.syncPath .separate path) with
      | (.ok replies, folder) =>
          { s with
            folder
            calls := s.calls ++ [⟨path, replies⟩] }
      | (.error _, folder) => { s with folder }
  | .fold n =>
      match s.calls[n]? with
      | none => s
      | some c =>
          { s with
            folder :=
              (s.folder.apply root (some c.path) c.replies).2
            calls := s.calls.eraseIdx n }

/- One thing happens after another. -/
def run
    (root : RawText)
    (s : Desk)
    (log : List Action) : Desk :=
  log.foldl (act root) s

/- A call that nothing comes between is a change dealt with. -/
theorem folder_run_call
    (root : RawText)
    {s : Desk}
    (hCalls : s.calls = [])
    (path : RawText) :
    (s.run root [.ask path, .fold 0]).folder =
      (s.folder.fileChanged root s.disk path).2 := by
  unfold run Folder.fileChanged
  rcases hAsk :
      s.folder.withClient root s.disk
        (Client.syncPath .separate path) with
    ⟨result, folder⟩
  cases result with
  | ok replies => simp [act, hAsk, hCalls]
  | error e => simp [act, hAsk, hCalls]

/- The worker of the folder waits, with its project. -/
def Waits
    (a : Analyzer)
    (p : Project)
    (s : Desk) : Prop :=
  p.sources.root = a.root ∧
    ∃ k : Client.Attended,
      s.folder.client = some (k.client (.holding a p))

/- The store is that of a full scan of the worker's project. -/
def UpToDate
    (a : Analyzer)
    (s : Desk) : Prop :=
  ∃ p, s.Waits a p ∧ s.folder.store = a.fullStore p

end Desk

------------------------------------------------------------
-- Taking In Responses
------------------------------------------------------------

/- The store after the responses of a call. -/
def Call.taken
    (root : RawText)
    (s : Store)
    (c : Call) : Store :=
  (Folder.absorb root (some c.path) c.replies s).2.2

/-
  The file belongs to the scan, and editor and worker have the
  same name for it.
-/
structure Analyzer.Heeds
    (a : Analyzer)
    (path : RawText) : Prop where
  accepted : a.accepts (Path.join a.root path.toText) = true
  named :
    Path.relative a.root (Path.join a.root path.toText) =
      Path.relative a.root path

/- A response about a file that is there. -/
theorem Coordinator.Told.taken_fullStore
    {a : Analyzer}
    {p q : Project}
    {d : Disk}
    {path : RawText}
    {r : Response}
    (hTold : Told a p d path.toText r q)
    (hThere : d.isFile (Path.join a.root path.toText) = true)
    (hHeeds : a.Heeds path)
    (hRoot : p.sources.root = a.root) :
    Call.taken a.root (a.fullStore p) ⟨path, [r]⟩ =
      a.fullStore q := by
  cases hTold with
  | gone hGone =>
      rw [hThere] at hGone
      cases hGone
  | foreign _ _ hRefused =>
      rw [hHeeds.accepted] at hRefused
      cases hRefused
  | unreadable => rfl
  | @read _ u _ _ _ hUnit =>
      -- The store looks for the file under the unit's path.
      have hPath :
          u.relativePath = Path.relative a.root path := by
        rw [hUnit, ← hHeeds.named, ← hRoot]
        rfl
      calc
        Call.taken a.root (a.fullStore p)
            ⟨path, [respond (a.analyzeOne (p.edit u) u)
              .incremental]⟩
            = ((a.fullStore p).merge (Path.relative a.root path)
                (a.analyzeOne (p.edit u) u).diagnostics).2 :=
              rfl
        _ = a.fullStore (p.edit u) := by
            rw [← hPath]
            exact a.merge_analyzeOne p u

/-
  Responses about a file of the scan lead from the store of a
  full scan to that of a full scan after the change.
-/
theorem Client.Synced.taken_fullStore
    {a : Analyzer}
    {p q : Project}
    {d : Disk}
    {path : RawText}
    {replies : List Response}
    (hSynced : Client.Synced a p d path.toText replies q)
    (hHeeds : a.Heeds path)
    (hRoot : p.sources.root = a.root)
    (hLoads : ∃ l, a.loadProject d = .ok l) :
    Call.taken a.root (a.fullStore p) ⟨path, replies⟩ =
        a.fullStore q ∧
      q.sources.root = a.root := by
  cases hSynced with
  | told hThere hTold =>
      exact ⟨hTold.taken_fullStore hThere hHeeds hRoot,
        hTold.root_eq.trans hRoot⟩
  | rescanned _ hLoad =>
      exact ⟨rfl, Analyzer.root_of_loadProject hLoad⟩
  | failed _ hFault =>
      rcases hLoads with ⟨l, hLoad⟩
      rw [hLoad] at hFault
      cases hFault

------------------------------------------------------------
-- In Order
------------------------------------------------------------

namespace Desk

/-
  Files can be scanned, and the calls under way lead to the
  store of a full scan if they are taken in in their order.
-/
structure Pending
    (a : Analyzer)
    (s : Desk) : Prop where
  loads : ∃ l, a.loadProject s.disk = .ok l
  leads :
    ∃ p,
      s.Waits a p ∧
        s.calls.foldl (Call.taken a.root) s.folder.store =
          a.fullStore p

section

variable {a : Analyzer}
variable {s : Desk}

/- The worker is asked about a file of the scan. -/
theorem Waits.ask
    {p : Project}
    (hWaits : s.Waits a p)
    (root path : RawText) :
    ∃ replies q k,
      s.act root (.ask path) =
          { s with
            folder :=
              { s.folder with
                client :=
                  some (Client.Attended.client k
                    (.holding a q)) }
            calls := s.calls ++ [⟨path, replies⟩] } ∧
        Client.Synced a p s.disk path.toText replies q := by
  rcases hWaits with ⟨_, k, hClient⟩
  rcases Client.run_syncPath k a p s.disk path with
    ⟨replies, q, hRun, hSynced⟩
  refine ⟨replies, q, k, ?_, hSynced⟩
  have hAsk :
      s.folder.withClient root s.disk
          (Client.syncPath .separate path) =
        ( .ok replies,
          { s.folder with
            client := some (k.client (.holding a q)) } ) := by
    simp only [Folder.withClient, hClient, hRun]
  simp only [act, hAsk]

theorem Pending.edit
    (hPending : s.Pending a)
    {d : Disk}
    (hLoads : ∃ l, a.loadProject d = .ok l)
    (root : RawText) :
    (s.act root (.edit d)).Pending a :=
  ⟨hLoads, hPending.leads⟩

theorem Pending.ask
    (hPending : s.Pending a)
    {path : RawText}
    (hHeeds : a.Heeds path) :
    (s.act a.root (.ask path)).Pending a := by
  rcases hPending.leads with ⟨p, hWaits, hLeads⟩
  rcases hWaits.ask a.root path with
    ⟨replies, q, k, hAct, hSynced⟩
  rcases hSynced.taken_fullStore hHeeds hWaits.1
      hPending.loads with
    ⟨hTaken, hRoot⟩
  rw [hAct]
  refine ⟨hPending.loads, q, ⟨hRoot, k, rfl⟩, ?_⟩
  -- The new call comes last, so it meets the store of a full
  -- scan of the project as it was before.
  rw [List.foldl_append, hLeads]
  exact hTaken

/- The responses of the oldest call are taken in. -/
theorem Pending.fold
    (hPending : s.Pending a) :
    (s.act a.root (.fold 0)).Pending a := by
  rcases s with ⟨d, folder, calls⟩
  cases calls with
  | nil => exact hPending
  | cons c cs =>
      -- The oldest call is the first one of the fold.
      exact ⟨hPending.loads, hPending.leads⟩

/- What may happen: all in order, with files of the scan. -/
inductive Fair
    (a : Analyzer) : Action → Prop
| edit
    {d : Disk}
    (hLoads : ∃ l, a.loadProject d = .ok l) :
    Fair a (.edit d)
| ask
    {path : RawText}
    (hHeeds : a.Heeds path) :
    Fair a (.ask path)
| fold :
    Fair a (.fold 0)

theorem Pending.act
    (hPending : s.Pending a)
    {e : Action}
    (hFair : Fair a e) :
    (s.act a.root e).Pending a := by
  cases hFair with
  | edit hLoads => exact hPending.edit hLoads a.root
  | ask hHeeds => exact hPending.ask hHeeds
  | fold => exact hPending.fold

theorem Pending.run
    {log : List Action}
    (hPending : s.Pending a)
    (hFair : ∀ e ∈ log, Fair a e) :
    (s.run a.root log).Pending a := by
  induction log generalizing s with
  | nil => exact hPending
  | cons e log ih =>
      rcases List.forall_mem_cons.mp hFair with
        ⟨hFirst, hRest⟩
      exact ih (hPending.act hFirst) hRest

/-
  Calls may overlap in any way.  If their responses are taken
  in in the order in which they were given, the store is up to
  date once all calls are done with.
-/
theorem run_upToDate
    {log : List Action}
    (hLoads : ∃ l, a.loadProject s.disk = .ok l)
    (hStart : s.UpToDate a)
    (hNone : s.calls = [])
    (hFair : ∀ e ∈ log, Fair a e)
    (hDone : (s.run a.root log).calls = []) :
    (s.run a.root log).UpToDate a := by
  rcases hStart with ⟨p, hWaits, hStore⟩
  have hPending : s.Pending a := by
    refine ⟨hLoads, p, hWaits, ?_⟩
    rw [hNone]
    exact hStore
  rcases (hPending.run hFair).leads with ⟨q, hEnd, hLeads⟩
  rw [hDone] at hLeads
  exact ⟨q, hEnd, hLeads⟩

end

------------------------------------------------------------
-- A File Saved Twice
------------------------------------------------------------

/- A folder with one file and no alarm. -/
def calm : Desk :=
  { disk := .single "x"
    folder :=
      { client :=
          some
            (Client.Attended.client ⟨"/r", 0, .outputClosed⟩
              (.holding .alarmed (.single "x")))
        store := Analyzer.alarmed.fullStore (.single "x") }
    calls := [] }

theorem calm_upToDate :
    calm.UpToDate .alarmed :=
  ⟨.single "x", ⟨rfl, _, rfl⟩, rfl⟩

/- The responses about both saves are taken in in order. -/
theorem run_in_order_upToDate :
    let log : List Action :=
      [ .ask "/r/a.ts", .edit (.single "y"), .ask "/r/a.ts",
        .fold 0, .fold 0 ]
    (calm.run "/r" log).calls = [] ∧
      (calm.run "/r" log).UpToDate .alarmed := by
  intro log
  have hHeeds : Analyzer.alarmed.Heeds "/r/a.ts" :=
    ⟨by decide +kernel, by decide +kernel⟩
  have hLoads :
      ∀ text, ∃ l,
        Analyzer.alarmed.loadProject (.single text) = .ok l :=
    fun text => ⟨_, Analyzer.loadProject_single text⟩
  have hFair : ∀ e ∈ log, Fair .alarmed e := by
    simp only [log, List.forall_mem_cons]
    exact ⟨.ask hHeeds, .edit (hLoads "y"), .ask hHeeds, .fold,
      .fold, by simp⟩
  have hDone : (calm.run "/r" log).calls = [] :=
    List.isEmpty_iff.mp (by decide +kernel)
  exact ⟨hDone,
    run_upToDate (hLoads "x") calm_upToDate rfl hFair hDone⟩

/- The project of the worker of the folder. -/
def project?
    (s : Desk) : Option Project := do
  let client ← s.folder.client
  let worker ← client.worker
  let service ← worker.service
  service.coordinator.project

theorem Waits.project?_eq
    {a : Analyzer}
    {p : Project}
    {s : Desk}
    (hWaits : s.Waits a p) :
    s.project? = some p := by
  rcases hWaits with ⟨_, k, hClient⟩
  unfold project?
  rw [hClient]
  rfl

/-
  The response about the first save is taken in after that
  about the second one.  The alarm of the second is lost.
-/
theorem run_out_of_order_not_upToDate :
    let log : List Action :=
      [ .ask "/r/a.ts", .edit (.single "y"), .ask "/r/a.ts",
        .fold 1, .fold 0 ]
    calm.UpToDate .alarmed ∧
      (calm.run "/r" log).calls = [] ∧
      (calm.run "/r" log).folder.store.get "a.ts" = [] ∧
      ¬ (calm.run "/r" log).UpToDate .alarmed := by
  intro log
  have hLost :
      (calm.run "/r" log).folder.store.get "a.ts" = [] := by
    decide +kernel
  have hAlarm :
      (calm.run "/r" log).project?.map
          (fun p =>
            ((Analyzer.alarmed.fullStore p).get
              "a.ts").length) =
        some 1 := by
    decide +kernel
  refine ⟨calm_upToDate,
    List.isEmpty_iff.mp (by decide +kernel), hLost, ?_⟩
  rintro ⟨p, hWaits, hStore⟩
  rw [hWaits.project?_eq, Option.map_some, ← hStore, hLost]
    at hAlarm
  cases hAlarm

end Desk

end ModuleLint
