/-
# The open run

An insertion opens the run and the session of its set when they come up for the first
time, and closes all others every time. It does not look at which set is newer. So the
open run is that of the newest manifest only as long as sets come in order: each set that
is inserted is of the newest run, or newer than all manifests and of a new run, and the
same holds for its session. A set of an older run whose archive finishes late closes the
newer run, and a session that comes back stays closed.
-/

import ImageStream.Sync.Eligibility

namespace ImageStream

open Base

/-- The runs that are open. -/
def Database.openRuns (db : Database) : List String :=
  (db.captureRuns.rows.filter fun run => run.state = .opened).map (·.id)

/-- The sessions that are open. -/
def Database.openSessions (db : Database) : List String :=
  (db.captureSessions.rows.filter fun session => session.state = .opened).map (·.id)

/-- The manifest that was synchronized last, in the order in which manifests are offered. -/
def Database.newest? (db : Database) : Option FrameSetManifest :=
  db.manifests.rows.argmax FrameSetManifest.order

/-- No more than one run and one session are open, those of the newest manifest. -/
structure OpenIsCurrent (db : Database) : Prop where
  runs : db.openRuns = (db.newest?.map (·.captureRunId)).toList
  sessions : db.openSessions = (db.newest?.map (·.captureSessionId)).toList

/-- One call with the databases before and after it. -/
abbrev PersistExchange (emitted : List SynchronizedFrameSet) :=
  Exchange Database (PersistCall emitted) (Except ManifestError Bool)

/-- Persisting a set closes neither the run nor the session of a newer manifest. -/
structure ClosesNoNewer {emitted : List SynchronizedFrameSet} (e : PersistExchange emitted) :
    Prop where
  run : ∀ manifest ∈ e.before.manifests.rows,
    e.input.frameSet.synchronizedAtMs < manifest.synchronizedAtMs →
      manifest.captureRunId ∈ e.before.openRuns → manifest.captureRunId ∈ e.after.openRuns
  session : ∀ manifest ∈ e.before.manifests.rows,
    e.input.frameSet.synchronizedAtMs < manifest.synchronizedAtMs →
      manifest.captureSessionId ∈ e.before.openSessions →
        manifest.captureSessionId ∈ e.after.openSessions

/-- Whether a set is of the newest group, or newer than all manifests and of a new one. -/
def FollowsGroup (db : Database) (group : FrameSetManifest → String)
    (frameSet : SynchronizedFrameSet) (of : Option String) : Prop :=
  ∀ newest, db.newest? = some newest →
    of = some (group newest) ∨
      (newest.synchronizedAtMs < frameSet.synchronizedAtMs ∧
        ∀ manifest ∈ db.manifests.rows, of ≠ some (group manifest))

/-- Whether a set, if it is inserted, comes in the order of its run and its session. -/
def KeepsCurrent (db : Database) (frameSet : SynchronizedFrameSet) : Prop :=
  db.Inserts frameSet →
    FollowsGroup db (·.captureRunId) frameSet frameSet.captureRunId ∧
      FollowsGroup db (·.captureSessionId) frameSet frameSet.captureSessionId

/-! ## As sets -/

/-- The newest manifest is the latest one, as long as the times are distinct. -/
theorem newest?_eq_some_iff {db : Database}
    (hinj : Set.InjOn FrameSetManifest.synchronizedAtMs db.manifestSet)
    {manifest : FrameSetManifest} :
    db.newest? = some manifest ↔
      IsLatest FrameSetManifest.synchronizedAtMs db.manifestSet manifest := by
  have hlatest : ∀ found, db.newest? = some found →
      IsLatest FrameSetManifest.synchronizedAtMs db.manifestSet found := by
    intro found h
    refine ⟨List.argmax_mem h, fun other hother => ?_⟩
    have hle : other.order ≤ found.order := List.le_of_mem_argmax hother h
    rcases Prod.Lex.le_iff.mp hle with hlt | ⟨heq, -⟩
    · exact le_of_lt hlt
    · exact le_of_eq heq
  refine ⟨hlatest manifest, fun h => ?_⟩
  cases hnewest : db.newest? with
  | none =>
      have hmem : manifest ∈ db.manifests.rows := h.1
      rw [List.argmax_eq_none.mp hnewest] at hmem
      cases hmem
  | some found => rw [(hlatest found hnewest).unique hinj h]

section Lists

variable {ρ : Type} {key : ρ → String}

theorem mem_openKeys_iff (table : Table key) (p : ρ → Bool) (id : String) :
    id ∈ (table.rows.filter p).map key ↔ id ∈ openKeys (fun row => p row = true) table := by
  constructor
  · intro hmem
    obtain ⟨row, hrow, rfl⟩ := List.mem_map.mp hmem
    obtain ⟨hrow, hp⟩ := List.mem_filter.mp hrow
    exact ⟨row, table.find_of_mem hrow, hp⟩
  · rintro ⟨row, hrow, hp⟩
    rw [← table.key_of_find hrow]
    exact List.mem_map_of_mem (List.mem_filter.mpr ⟨table.mem_of_find hrow, hp⟩)

/-- The open rows of a table are those of the newest manifest, as a list and as a set. -/
theorem openIsLatest_iff {db : Database} (table : Table key) (p : ρ → Bool)
    (group : FrameSetManifest → String)
    (hinj : Set.InjOn FrameSetManifest.synchronizedAtMs db.manifestSet) :
    (table.rows.filter p).map key = (db.newest?.map group).toList ↔
      OpenIsLatest FrameSetManifest.synchronizedAtMs group db.manifestSet
        (openKeys (fun row => p row = true) table) := by
  have hnodup : ((table.rows.filter p).map key).Nodup :=
    table.keys_nodup.sublist (List.filter_sublist.map key)
  rw [eq_toList_iff hnodup]
  refine forall_congr' fun id => ?_
  rw [mem_openKeys_iff, Option.map_eq_some_iff]
  simp only [newest?_eq_some_iff hinj]

end Lists

/-- The order in which a set comes in, as it is read off the newest manifest. -/
theorem comesInOrder_iff {db : Database} {group : FrameSetManifest → String}
    (hinj : Set.InjOn FrameSetManifest.synchronizedAtMs db.manifestSet)
    {frameSet : SynchronizedFrameSet} {manifest : FrameSetManifest} {of : Option String}
    (hof : of = some (group manifest))
    (htime : manifest.synchronizedAtMs = frameSet.synchronizedAtMs) :
    ComesInOrder FrameSetManifest.synchronizedAtMs group db.manifestSet manifest ↔
      FollowsGroup db group frameSet of := by
  unfold FollowsGroup
  rw [hof, ← htime]
  constructor
  · rintro (⟨x, hx, hgroup⟩ | hlater) newest hnewest
    · rw [newest?_eq_some_iff hinj] at hnewest
      rw [hnewest.unique hinj hx, hgroup]
      exact Or.inl rfl
    · right
      rw [newest?_eq_some_iff hinj] at hnewest
      exact ⟨(hlater newest hnewest.1).1, fun other hother heq =>
        (hlater other hother).2 (Option.some.inj heq)⟩
  · intro h
    cases hnewest : db.newest? with
    | none =>
        right
        intro x hx
        have hmem : x ∈ db.manifests.rows := hx
        rw [List.argmax_eq_none.mp hnewest] at hmem
        cases hmem
    | some newest =>
        have hlatest := (newest?_eq_some_iff hinj).mp hnewest
        rcases h newest hnewest with hgroup | ⟨hlt, hnew⟩
        · exact Or.inl ⟨newest, hlatest, Option.some.inj hgroup⟩
        · right
          intro x hx
          exact ⟨lt_of_le_of_lt (hlatest.2 x hx) hlt, fun heq => hnew x hx (congrArg some heq)⟩

/-! ## One call -/

section Call

variable {db : Database} {frameSet : SynchronizedFrameSet}

/-- The open rows after an insertion are those of the newest manifest exactly when the set
follows. -/
theorem open_insert_iff {ρ : Type} {key : ρ → String} {origin : SynchronizedFrameSet → Prop}
    (h : db.Records origin) (hdistinct : TimesDistinct origin) (horigin : origin frameSet)
    (hinserts : db.Inserts frameSet) (timestampMs : ℤ) (group : FrameSetManifest → String)
    (table table' : Table key) (p : ρ → Bool)
    (hknown : knownKeys table = group '' db.manifestSet)
    (hopen : openKeys (fun row => p row = true) table' =
      openAfter (openKeys (fun row => p row = true) table) (knownKeys table)
        (group (newManifest frameSet timestampMs)))
    (hcurrent : (table.rows.filter p).map key = (db.newest?.map group).toList) {of : Option String}
    (hof : of = some (group (newManifest frameSet timestampMs))) :
    let after := (planInsert db frameSet timestampMs).apply db
    ((table'.rows.filter p).map key = (after.newest?.map group).toList ↔
        FollowsGroup db group frameSet of) ∧
      (FollowsGroup db group frameSet of → ∀ manifest ∈ db.manifests.rows,
        frameSet.synchronizedAtMs < manifest.synchronizedAtMs →
          group manifest ∈ (table.rows.filter p).map key →
            group manifest ∈ (table'.rows.filter p).map key) := by
  intro after
  have hinj := injOn_manifestSet h hdistinct
  have hrecords := h.insert horigin hinserts timestampMs
  have hinj' := injOn_manifestSet hrecords hdistinct
  have hset : after.manifestSet = insert (newManifest frameSet timestampMs) db.manifestSet :=
    manifests_insert timestampMs hinserts.absent
  have hnew : newManifest frameSet timestampMs ∉ db.manifestSet := fun hmem =>
    (Table.find_eq_none_iff _).mp hinserts.absent _ hmem rfl
  have hlatest := (openIsLatest_iff table p group hinj).mp hcurrent
  have horder : ComesInOrder FrameSetManifest.synchronizedAtMs group db.manifestSet
      (newManifest frameSet timestampMs) ↔ FollowsGroup db group frameSet of :=
    comesInOrder_iff hinj hof rfl
  rw [hset] at hinj'
  constructor
  · rw [openIsLatest_iff table' p group (by rwa [hset]), hset, hopen, hknown,
      openIsLatest_insert_iff hinj' hnew db.finite_manifestSet hlatest]
    exact horder
  · intro hfollows manifest hmanifest hlt hmem
    rw [mem_openKeys_iff] at hmem ⊢
    rw [hopen, hknown]
    exact mem_openAfter_of_later hinj hlatest (horder.mpr hfollows) hmanifest hlt hmem

/-- **One call.** From a state in which the open run is current, a call leaves it current
and closes nothing newer exactly when its set, if it is inserted, follows. -/
theorem keepsCurrent_iff {emitted : List SynchronizedFrameSet}
    {origin : SynchronizedFrameSet → Prop} (h : db.Records origin)
    (hdistinct : TimesDistinct origin) (hcurrent : OpenIsCurrent db) (call : PersistCall emitted)
    (horigin : origin call.frameSet) :
    OpenIsCurrent (persistStep db call).1 ∧ ClosesNoNewer (Machine.exchange persistStep db call) ↔
      KeepsCurrent db call.frameSet := by
  rcases h.persist call.frameSet call.createdAtMs call.nowMs with
    ⟨hinserts, heq⟩ | ⟨hnot, result, -, heq⟩
  · have hafter : (persistStep db call).1 =
        (planInsert db call.frameSet call.timestampMs).apply db := congrArg Prod.fst heq
    obtain ⟨hsession, hrun, -⟩ :=
      truthy_of_missingFields (missingFields_of_valid hinserts.takes.valid)
    obtain ⟨captureSessionId, hsession, -⟩ := truthy_eq_true_iff.mp hsession
    obtain ⟨captureRunId, hrun, -⟩ := truthy_eq_true_iff.mp hrun
    have hofRun : call.frameSet.captureRunId =
        some (newManifest call.frameSet call.timestampMs).captureRunId := by
      simp [newManifest, hrun]
    have hofSession : call.frameSet.captureSessionId =
        some (newManifest call.frameSet call.timestampMs).captureSessionId := by
      simp [newManifest, hsession]
    obtain ⟨hruns, hclosesRun⟩ := open_insert_iff h hdistinct horigin hinserts call.timestampMs
      FrameSetManifest.captureRunId db.captureRuns
      ((planInsert db call.frameSet call.timestampMs).apply db).captureRuns
      (fun run => decide (run.state = .opened)) h.runs
      (by simpa using (captureRuns_insert call.timestampMs hofRun).1) hcurrent.runs hofRun
    obtain ⟨hsessions, hclosesSession⟩ := open_insert_iff h hdistinct horigin hinserts
      call.timestampMs FrameSetManifest.captureSessionId db.captureSessions
      ((planInsert db call.frameSet call.timestampMs).apply db).captureSessions
      (fun session => decide (session.state = .opened)) h.sessions
      (by simpa using (captureSessions_insert call.timestampMs hofSession).1) hcurrent.sessions
      hofSession
    rw [hafter]
    constructor
    · rintro ⟨hopen, -⟩ -
      exact ⟨hruns.mp hopen.runs, hsessions.mp hopen.sessions⟩
    · intro hkeeps
      obtain ⟨hfollowsRun, hfollowsSession⟩ := hkeeps hinserts
      refine ⟨⟨hruns.mpr hfollowsRun, hsessions.mpr hfollowsSession⟩, ?_, ?_⟩
      · show ∀ manifest ∈ db.manifests.rows, _ → _ → _ ∈ (persistStep db call).1.openRuns
        rw [hafter]
        exact hclosesRun hfollowsRun
      · show ∀ manifest ∈ db.manifests.rows, _ → _ → _ ∈ (persistStep db call).1.openSessions
        rw [hafter]
        exact hclosesSession hfollowsSession
  · have hafter : (persistStep db call).1 = db := congrArg Prod.fst heq
    rw [hafter]
    refine ⟨fun _ hinserts => absurd hinserts hnot, fun _ => ⟨hcurrent, ?_, ?_⟩⟩
    · show ∀ manifest ∈ db.manifests.rows, _ → _ → _ ∈ (persistStep db call).1.openRuns
      rw [hafter]
      exact fun _ _ _ hmem => hmem
    · show ∀ manifest ∈ db.manifests.rows, _ → _ → _ ∈ (persistStep db call).1.openSessions
      rw [hafter]
      exact fun _ _ _ hmem => hmem

end Call

/-! ## Every run -/

theorem openIsCurrent_empty : OpenIsCurrent {} := ⟨rfl, rfl⟩

/-- **The open run is the current run exactly when sets come in order.** Along every run of
persisting sets of one matcher, each call leaves open the run and the session of the newest
manifest only, and closes nothing newer, if and only if each set that is inserted is of the
newest run or newer than all manifests and of a new run, and so for its session. -/
theorem open_is_current_iff (expectedCameras : List String) (windowMs : ℤ) (recentLimit : ℕ)
    (runId : String) (ops : List MatcherOp)
    (calls : List (PersistCall
      (emittedSets (newMatcher expectedCameras windowMs recentLimit runId) ops))) :
    (∀ e ∈ Machine.history persistStep {} calls, OpenIsCurrent e.after ∧ ClosesNoNewer e) ↔
      Machine.EachStep persistStep (fun _ db call => KeepsCurrent db call.frameSet) {} calls := by
  have hdistinct := timesDistinct_emitted expectedCameras windowMs recentLimit runId ops
  have hrecords : ∀ e ∈ Machine.history persistStep {} calls, e.after.Records
      (IsCompleted (emittedSets (newMatcher expectedCameras windowMs recentLimit runId) ops)) := by
    intro e he
    obtain ⟨first, call, -, -, rfl⟩ := Machine.exists_split_of_mem_history persistStep he
    exact (records_after first).persistStep call call.isEmitted
  have hiff := Machine.forall_history_iff persistStep
    (P := fun db => db.Records (IsCompleted _) ∧ OpenIsCurrent db) (Q := ClosesNoNewer)
    (C := fun db call => KeepsCurrent db call.frameSet)
    (fun db call h => by
      rw [← keepsCurrent_iff h.1 hdistinct h.2 call call.isEmitted, and_assoc]
      exact and_iff_right (h.1.persistStep call call.isEmitted))
    ⟨Database.Records.empty _, openIsCurrent_empty⟩ calls
  rw [← hiff]
  refine forall₂_congr fun e he => ?_
  rw [and_assoc, and_iff_right (hrecords e he)]

/-! ### A set that is archived late -/

/-- The store once the set of the second session is persisted. -/
def afterSecond : Database :=
  (planInsert {} secondCall.frameSet secondCall.timestampMs).apply {}

/-- The store once that of the first session is persisted as well. -/
def afterFirst : Database :=
  (planInsert afterSecond firstCall.frameSet firstCall.timestampMs).apply afterSecond

theorem after_lateCalls :
    Machine.after persistStep {} lateCalls = afterFirst ∧
      afterSecond.manifests.find firstCall.frameSet.uid = none := by
  have hcompleted := isCompleted_of_calls lateCalls
  have hdrawn : (drawnRuns "run-1" rotatingOps).Nodup ∧
      ∀ drawn ∈ drawnRuns "run-1" rotatingOps, drawn ≠ "" := by decide
  have hsecond : secondCall.frameSet ∈ lateCalls.map (·.frameSet) :=
    List.mem_map_of_mem List.mem_cons_self
  have hfirst : firstCall.frameSet ∈ lateCalls.map (·.frameSet) :=
    List.mem_map_of_mem (List.mem_cons_of_mem _ List.mem_cons_self)
  have hstep : (persistStep {} secondCall).1 = afterSecond :=
    congrArg Prod.fst (persist_of_inserts ((persistable_lateCalls.persistStep hdrawn.1 hdrawn.2
      hcompleted (Database.Records.empty _) secondCall hsecond).1 rfl) secondCall.createdAtMs
      secondCall.nowMs)
  have harrived : ArrivedInto (lateCalls.map (·.frameSet)) [secondCall.frameSet]
      (Machine.after persistStep {} [secondCall]) :=
    persistable_lateCalls.arrivedInto hdrawn.1 hdrawn.2 hcompleted [secondCall]
      fun call hcall => List.mem_singleton.mp hcall ▸ hsecond
  rw [Machine.after_cons, hstep, Machine.after_nil] at harrived
  have hne : firstCall.frameSet.uid ≠ secondCall.frameSet.uid := by
    intro huid
    have hsame := persistable_lateCalls.sameContent hcompleted hfirst hsecond huid
    have htime := hsame.field (·.synchronizedAtMs) fun _ => rfl
    exact absurd htime (by decide +kernel)
  have habsent : afterSecond.manifests.find firstCall.frameSet.uid = none := by
    refine not_not.mp fun hstored => hne ?_
    simpa using (harrived.manifestsOf.find_ne_none_iff _).mp hstored
  refine ⟨?_, habsent⟩
  unfold lateCalls
  rw [Machine.after_cons, hstep, Machine.after_cons, Machine.after_nil]
  exact congrArg Prod.fst (persist_of_inserts ((persistable_lateCalls.persistStep hdrawn.1 hdrawn.2
    hcompleted harrived.records firstCall hfirst).1 habsent) firstCall.createdAtMs firstCall.nowMs)

theorem late_set_closes_current :
    (Machine.after persistStep {} lateCalls).openRuns = ["run-1"] ∧
      (Machine.after persistStep {} lateCalls).newest?.map (·.captureRunId) = some "run-3" ∧
      ¬∀ e ∈ Machine.history persistStep {} lateCalls,
        OpenIsCurrent e.after ∧ ClosesNoNewer e := by
  obtain ⟨hafter, habsent⟩ := after_lateCalls
  have hopen : (Machine.after persistStep {} lateCalls).openRuns = ["run-1"] := by
    rw [hafter]
    decide +kernel
  have hnewest : (Machine.after persistStep {} lateCalls).newest?.map (·.captureRunId) =
      some "run-3" := by
    rw [hafter]
    unfold Database.newest? afterFirst
    rw [rows_manifests_insert _ habsent]
    decide +kernel
  refine ⟨hopen, hnewest, fun h => ?_⟩
  have hcurrent := (Machine.after_of_forall_history persistStep (P := OpenIsCurrent)
    openIsCurrent_empty fun e he => (h e he).1).runs
  rw [hopen, hnewest] at hcurrent
  revert hcurrent
  decide

end ImageStream
