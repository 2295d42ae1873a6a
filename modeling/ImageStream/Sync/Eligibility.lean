/-
# The newest manifest waits

An insertion looks at what is eligible at that moment: if a newer manifest waits for an
offer the new one is superseded at once, otherwise it supersedes all that wait. Along any
run the one that waits is the newest manifest, so the order of arrival does not matter.
Together with the acceptance of distinct sets this settles what is in the store after
every prefix of a run.
-/

import ImageStream.Sync.DistinctSets

namespace ImageStream

open Base

/-- The manifests that wait for an offer. -/
def Database.waiting (db : Database) : Set FrameSetManifest :=
  {manifest | manifest ∈ db.manifests.rows ∧
    db.liveState? manifest.frameSetUid = some .eligible}

/-- The newest manifest waits, and all others are superseded. -/
structure NewestWaits (db : Database) : Prop where
  waiting : ∀ manifest, manifest ∈ db.waiting ↔
    IsLatest FrameSetManifest.synchronizedAtMs db.manifestSet manifest
  live : ∀ manifest ∈ db.manifests.rows,
    db.liveState? manifest.frameSetUid = some .eligible ∨
      db.liveState? manifest.frameSetUid = some .supersededBeforeOffer

theorem newestWaits_empty : NewestWaits {} where
  waiting manifest := by
    constructor
    · rintro ⟨hmem, -⟩
      cases hmem
    · rintro ⟨hmem, -⟩
      cases hmem
  live manifest hmem := by cases hmem

section Insertion

variable {db : Database} {frameSet : SynchronizedFrameSet} {timestampMs : ℤ}

theorem mem_eligibleRows_iff {row : FrameSetDeliveryProjection × FrameSetManifest} :
    row ∈ eligibleRows db ↔
      row.1 ∈ db.projections.rows ∧ row.1.liveState = .eligible ∧
        db.manifests.find row.1.frameSetUid = some row.2 := by
  obtain ⟨projection, manifest⟩ := row
  simp only [eligibleRows, List.mem_filterMap, List.mem_filter, decide_eq_true_eq,
    Option.map_eq_some_iff, Prod.mk.injEq]
  constructor
  · rintro ⟨found, ⟨hmem, hlive⟩, other, hfind, rfl, rfl⟩
    exact ⟨hmem, hlive, hfind⟩
  · rintro ⟨hmem, hlive, hfind⟩
    exact ⟨projection, ⟨hmem, hlive⟩, manifest, hfind, rfl, rfl⟩

/-- The eligible rows are those of the waiting manifests. -/
theorem mem_waiting_iff {manifest : FrameSetManifest} :
    manifest ∈ db.waiting ↔ ∃ projection, (projection, manifest) ∈ eligibleRows db ∧
      projection.frameSetUid = manifest.frameSetUid := by
  constructor
  · rintro ⟨hmem, hlive⟩
    obtain ⟨projection, hfind, hstate⟩ := Option.map_eq_some_iff.mp hlive
    have huid := db.projections.key_of_find hfind
    refine ⟨projection, mem_eligibleRows_iff.mpr ⟨db.projections.mem_of_find hfind, hstate, ?_⟩,
      huid⟩
    rw [huid]
    exact db.manifests.find_of_mem hmem
  · rintro ⟨projection, hrow, huid⟩
    obtain ⟨hmem, hlive, hfind⟩ := mem_eligibleRows_iff.mp hrow
    refine ⟨db.manifests.mem_of_find hfind, ?_⟩
    rw [← huid]
    unfold Database.liveState?
    rw [db.projections.find_of_mem hmem, Option.map_some, hlive]

theorem newerEligibleExists_iff :
    newerEligibleExists db frameSet ↔
      ∃ manifest ∈ db.waiting, frameSet.synchronizedAtMs < manifest.synchronizedAtMs := by
  unfold newerEligibleExists
  simp only [List.any_eq_true, decide_eq_true_eq]
  constructor
  · rintro ⟨⟨projection, manifest⟩, hrow, hlt⟩
    have hfind := (mem_eligibleRows_iff.mp hrow).2.2
    exact ⟨manifest, mem_waiting_iff.mpr ⟨projection, hrow, (db.manifests.key_of_find hfind).symm⟩,
      hlt⟩
  · rintro ⟨manifest, hmem, hlt⟩
    obtain ⟨projection, hrow, -⟩ := mem_waiting_iff.mp hmem
    exact ⟨(projection, manifest), hrow, hlt⟩

/-- What the insertion supersedes, as uids of waiting manifests. -/
theorem mem_superseded_iff {uid : String} :
    uid ∈ (planInsert db frameSet timestampMs).superseded ↔
      ¬newerEligibleExists db frameSet ∧ ∃ manifest ∈ db.waiting, manifest.frameSetUid = uid := by
  dsimp only [planInsert]
  by_cases hnewer : newerEligibleExists db frameSet
  · simp [hnewer]
  · rw [if_neg hnewer]
    simp only [hnewer, Bool.false_eq_true, not_false_eq_true, true_and, List.mem_map]
    constructor
    · rintro ⟨⟨projection, manifest⟩, hrow, rfl⟩
      have huid := db.manifests.key_of_find (mem_eligibleRows_iff.mp hrow).2.2
      exact ⟨manifest, mem_waiting_iff.mpr ⟨projection, hrow, huid.symm⟩, huid⟩
    · rintro ⟨manifest, hmem, rfl⟩
      obtain ⟨projection, hrow, huid⟩ := mem_waiting_iff.mp hmem
      exact ⟨(projection, manifest), hrow, huid⟩

/-- The live state of a manifest after an insertion. -/
theorem liveState?_insert (habsent : db.manifests.find frameSet.uid = none)
    {manifest : FrameSetManifest} (hmem : manifest ∈ db.manifests.rows) :
    ((planInsert db frameSet timestampMs).apply db).liveState? manifest.frameSetUid =
      if db.liveState? manifest.frameSetUid = some .eligible ∧ ¬newerEligibleExists db frameSet then
        some .supersededBeforeOffer
      else db.liveState? manifest.frameSetUid := by
  have hne : manifest.frameSetUid ≠ frameSet.uid :=
    (Table.find_eq_none_iff _).mp habsent manifest hmem
  rw [liveState?_apply, uid_projection_planInsert, if_neg hne]
  have hiff : manifest.frameSetUid ∈ (planInsert db frameSet timestampMs).superseded ↔
      db.liveState? manifest.frameSetUid = some .eligible ∧ ¬newerEligibleExists db frameSet := by
    rw [mem_superseded_iff, and_comm, and_congr_left_iff]
    intro _
    constructor
    · rintro ⟨other, hother, huid⟩
      rw [← huid]
      exact hother.2
    · exact fun h => ⟨manifest, ⟨hmem, h⟩, rfl⟩
  split
  · rename_i hsuperseded
    rw [if_pos (hiff.mp hsuperseded), (hiff.mp hsuperseded).1]
    rfl
  · rename_i hkept
    rw [if_neg fun h => hkept (hiff.mpr h)]

theorem liveState?_insert_self :
    ((planInsert db frameSet timestampMs).apply db).liveState? frameSet.uid =
      some (if newerEligibleExists db frameSet then .supersededBeforeOffer else .eligible) := by
  rw [liveState?_apply, uid_projection_planInsert, if_pos rfl]
  dsimp only [planInsert]
  by_cases hnewer : newerEligibleExists db frameSet
  · rw [if_pos hnewer, if_pos hnewer]
    rfl
  · rw [if_neg hnewer, if_neg hnewer]
    rfl

/-- An insertion lets wait what the rule of the latest item lets wait. -/
theorem waiting_insert (habsent : db.manifests.find frameSet.uid = none) :
    ((planInsert db frameSet timestampMs).apply db).waiting =
      waitingAfter FrameSetManifest.synchronizedAtMs db.waiting
        (newManifest frameSet timestampMs) := by
  ext manifest
  show manifest ∈ ((planInsert db frameSet timestampMs).apply db).manifests.rows ∧ _ ↔ _
  rw [rows_manifests_insert timestampMs habsent, List.mem_append, List.mem_singleton]
  have hnewer : newerEligibleExists db frameSet ↔ _ := newerEligibleExists_iff
  constructor
  · rintro ⟨hold | rfl, hlive⟩
    · rw [liveState?_insert habsent hold] at hlive
      split at hlive
      · cases hlive
      · rename_i hkept
        have hwaits : manifest ∈ db.waiting := ⟨hold, hlive⟩
        exact Or.inl ⟨hwaits, hnewer.mp (not_not.mp fun hnone => hkept ⟨hlive, hnone⟩)⟩
    · change _ = some LiveState.eligible at hlive
      rw [show (newManifest frameSet timestampMs).frameSetUid = frameSet.uid from rfl,
        liveState?_insert_self] at hlive
      split at hlive
      · cases hlive
      · rename_i hnone
        exact Or.inr ⟨rfl, fun other hother => not_lt.mp fun hlt =>
          hnone (hnewer.mpr ⟨other, hother, hlt⟩)⟩
  · rintro (⟨hwaits, hlater⟩ | ⟨rfl, hlatest⟩)
    · refine ⟨Or.inl hwaits.1, ?_⟩
      rw [liveState?_insert habsent hwaits.1,
        if_neg fun hboth => hboth.2 (hnewer.mpr hlater)]
      exact hwaits.2
    · refine ⟨Or.inr rfl, ?_⟩
      rw [show (newManifest frameSet timestampMs).frameSetUid = frameSet.uid from rfl,
        liveState?_insert_self, if_neg]
      rintro h
      obtain ⟨other, hother, hlt⟩ := hnewer.mp h
      exact absurd (hlatest other hother) (not_le.mpr hlt)

end Insertion

/-! ## Every run -/

namespace NewestWaits

variable {origin : SynchronizedFrameSet → Prop} {db : Database} {frameSet : SynchronizedFrameSet}

theorem insert (h : NewestWaits db) (hrecords : db.Records origin)
    (hdistinct : TimesDistinct origin) (horigin : origin frameSet) (hinserts : db.Inserts frameSet)
    (timestampMs : ℤ) : NewestWaits ((planInsert db frameSet timestampMs).apply db) := by
  have habsent := hinserts.absent
  have hset : ((planInsert db frameSet timestampMs).apply db).manifestSet =
      Insert.insert (newManifest frameSet timestampMs) db.manifestSet :=
    manifests_insert timestampMs habsent
  have hinj := injOn_manifestSet (hrecords.insert horigin hinserts timestampMs) hdistinct
  have hnew : newManifest frameSet timestampMs ∉ db.manifestSet := fun hmem =>
    (Table.find_eq_none_iff _).mp habsent _ hmem rfl
  constructor
  · intro manifest
    rw [hset] at hinj ⊢
    rw [waiting_insert habsent]
    exact waitingAfter_eq_latest hinj hnew db.finite_manifestSet h.waiting manifest
  · intro manifest hmem
    rw [rows_manifests_insert timestampMs habsent, List.mem_append, List.mem_singleton] at hmem
    rcases hmem with hold | rfl
    · rw [liveState?_insert habsent hold]
      split
      · exact Or.inr rfl
      · exact h.live manifest hold
    · rw [show (newManifest frameSet timestampMs).frameSetUid = frameSet.uid from rfl,
        liveState?_insert_self]
      split
      · exact Or.inr rfl
      · exact Or.inl rfl

theorem persistStep {emitted : List SynchronizedFrameSet} (h : NewestWaits db)
    (hrecords : db.Records origin) (hdistinct : TimesDistinct origin) (call : PersistCall emitted)
    (horigin : origin call.frameSet) : NewestWaits (ImageStream.persistStep db call).1 := by
  unfold ImageStream.persistStep
  rcases hrecords.persist call.frameSet call.createdAtMs call.nowMs with
    ⟨hinserts, heq⟩ | ⟨-, result, -, heq⟩
  · rw [heq]
    exact h.insert hrecords hdistinct horigin hinserts _
  · rw [heq]
    exact h

end NewestWaits

/-! ## Distinct sets of one matcher -/

/-- What is in the store once these sets have been persisted: a manifest and a projection
for each, one of them eligible, that of the newest, and all others superseded. -/
structure Standing (db : Database) (frameSets : List SynchronizedFrameSet) : Prop where
  manifests : (db.manifests.rows.map fun manifest =>
    (manifest.frameSetUid, manifest.synchronizedAtMs)).Perm
      (frameSets.map fun frameSet => (frameSet.uid, frameSet.synchronizedAtMs)).dedup
  projections : db.projections.rows.map (·.frameSetUid) =
    db.manifests.rows.map (·.frameSetUid)
  eligible : (db.projections.rows.filter fun projection =>
    projection.liveState = .eligible).length = if frameSets = [] then 0 else 1
  newest : ∀ frameSet ∈ frameSets, db.liveState? frameSet.uid =
    some (if ∀ other ∈ frameSets, other.synchronizedAtMs ≤ frameSet.synchronizedAtMs
      then .eligible else .supersededBeforeOffer)

/-- The manifests of a store are those of the sets that have been persisted. -/
def ManifestsOf (db : Database) (frameSets : List SynchronizedFrameSet) : Prop :=
  ∀ entry, entry ∈ db.manifests.rows.map (fun manifest =>
      (manifest.frameSetUid, manifest.synchronizedAtMs)) ↔
    entry ∈ frameSets.map fun frameSet => (frameSet.uid, frameSet.synchronizedAtMs)

namespace NewestWaits

variable {db : Database} {frameSets : List SynchronizedFrameSet}
  {origin : SynchronizedFrameSet → Prop}

/-- One projection is eligible as soon as there is a manifest. -/
theorem length_eligible (h : NewestWaits db) (hrecords : db.Records origin)
    (hdistinct : TimesDistinct origin) (hne : db.manifests.rows ≠ []) :
    (db.projections.rows.filter fun projection => projection.liveState = .eligible).length = 1 := by
  have hinj := injOn_manifestSet hrecords hdistinct
  obtain ⟨newest, hnewest⟩ := exists_isLatest FrameSetManifest.synchronizedAtMs
    db.finite_manifestSet (List.exists_mem_of_ne_nil _ hne)
  have hwaits := (h.waiting newest).mpr hnewest
  obtain ⟨projection, hfind, hlive⟩ := Option.map_eq_some_iff.mp hwaits.2
  have hkeys : (db.projections.rows.filter fun projection => projection.liveState = .eligible).map
      (·.frameSetUid) = [newest.frameSetUid] := by
    refine (eq_toList_iff (db.projections.keys_nodup.sublist (List.filter_sublist.map _))
      (some newest.frameSetUid)).mpr fun uid => ?_
    constructor
    · intro hmem
      obtain ⟨found, hfound, rfl⟩ := List.mem_map.mp hmem
      obtain ⟨hrow, hstate⟩ := List.mem_filter.mp hfound
      have hstored : db.manifests.find found.frameSetUid ≠ none :=
        (hrecords.find_projections_iff _).mp (db.projections.find_ne_none_of_mem hrow)
      obtain ⟨manifest, hmanifest⟩ := Option.ne_none_iff_exists'.mp hstored
      have hmem : manifest ∈ db.waiting := mem_waiting_iff.mpr ⟨found,
        mem_eligibleRows_iff.mpr ⟨hrow, of_decide_eq_true hstate, hmanifest⟩,
        (db.manifests.key_of_find hmanifest).symm⟩
      rw [hnewest.unique hinj ((h.waiting manifest).mp hmem), db.manifests.key_of_find hmanifest]
    · rintro ⟨⟩
      refine List.mem_map.mpr ⟨projection, List.mem_filter.mpr
        ⟨db.projections.mem_of_find hfind, decide_eq_true hlive⟩, db.projections.key_of_find hfind⟩
  rw [← List.length_map (·.frameSetUid), hkeys]
  rfl

theorem standing (h : NewestWaits db) (hrecords : db.Records origin)
    (hdistinct : TimesDistinct origin) (hof : ManifestsOf db frameSets) :
    Standing db frameSets := by
  have hmanifest : ∀ frameSet ∈ frameSets, ∃ manifest ∈ db.manifests.rows,
      manifest.frameSetUid = frameSet.uid ∧
        manifest.synchronizedAtMs = frameSet.synchronizedAtMs := by
    intro frameSet hmem
    obtain ⟨manifest, hrow, heq⟩ := List.mem_map.mp ((hof _).mpr (List.mem_map_of_mem hmem))
    exact ⟨manifest, hrow, Prod.ext_iff.mp heq⟩
  have hset : ∀ manifest ∈ db.manifests.rows, ∃ frameSet ∈ frameSets,
      frameSet.synchronizedAtMs = manifest.synchronizedAtMs := by
    intro manifest hrow
    obtain ⟨frameSet, hmem, heq⟩ := List.mem_map.mp ((hof _).mp (List.mem_map_of_mem hrow))
    exact ⟨frameSet, hmem, (Prod.ext_iff.mp heq).2⟩
  constructor
  case manifests =>
    refine (List.perm_ext_iff_of_nodup ?_ (List.nodup_dedup _)).mpr fun entry => ?_
    · refine List.Nodup.of_map Prod.fst ?_
      rw [List.map_map]
      exact db.manifests.keys_nodup
    · rw [List.mem_dedup]
      exact hof entry
  case projections => exact hrecords.projections
  case eligible =>
    by_cases hnil : frameSets = []
    · have hrows : db.manifests.rows = [] := List.eq_nil_iff_forall_not_mem.mpr fun manifest hrow => by
        obtain ⟨frameSet, hmem, -⟩ := hset manifest hrow
        rw [hnil] at hmem
        cases hmem
      have hprojections := hrecords.projections
      rw [hrows, List.map_nil, List.map_eq_nil_iff] at hprojections
      rw [if_pos hnil, hprojections]
      rfl
    · rw [if_neg hnil]
      refine h.length_eligible hrecords hdistinct fun hrows => ?_
      obtain ⟨frameSet, hmem⟩ := List.exists_mem_of_ne_nil _ hnil
      obtain ⟨manifest, hrow, -⟩ := hmanifest frameSet hmem
      rw [hrows] at hrow
      cases hrow
  case newest =>
    intro frameSet hmem
    obtain ⟨manifest, hrow, huid, htime⟩ := hmanifest frameSet hmem
    have hlatest : IsLatest FrameSetManifest.synchronizedAtMs db.manifestSet manifest ↔
        ∀ other ∈ frameSets, other.synchronizedAtMs ≤ frameSet.synchronizedAtMs := by
      rw [← htime]
      constructor
      · rintro ⟨-, hle⟩ other hother
        obtain ⟨found, hfound, -, hsame⟩ := hmanifest other hother
        rw [← hsame]
        exact hle found hfound
      · refine fun hle => ⟨hrow, fun found hfound => ?_⟩
        obtain ⟨other, hother, hsame⟩ := hset found hfound
        rw [← hsame]
        exact hle other hother
    rw [← h.waiting manifest] at hlatest
    rw [← huid]
    split
    · rename_i hle
      exact (hlatest.mpr hle).2
    · rename_i hle
      exact (h.live manifest hrow).resolve_left fun hlive => hle (hlatest.mp ⟨hrow, hlive⟩)

end NewestWaits

/-! ## Every order of arrival -/

section Calls

variable {expectedCameras : List String} {windowMs : ℤ} {recentLimit : ℕ} {runId : String}
  {ops : List MatcherOp}

/-- **One call.** Among sets that can be persisted together a call inserts its set the
first time and leaves the store alone afterwards. -/
theorem Persistable.persistStep {frameSets : List SynchronizedFrameSet}
    (h : Persistable frameSets) (hfresh : (drawnRuns runId ops).Nodup)
    (hdrawn : ∀ drawn ∈ drawnRuns runId ops, drawn ≠ "")
    (hcompleted : ∀ frameSet ∈ frameSets, IsCompleted
      (emittedSets (newMatcher expectedCameras windowMs recentLimit runId) ops) frameSet)
    {db : Database} (hrecords : db.Records (· ∈ frameSets))
    (call : PersistCall
      (emittedSets (newMatcher expectedCameras windowMs recentLimit runId) ops))
    (hmem : call.frameSet ∈ frameSets) :
    (db.manifests.find call.frameSet.uid = none → db.Inserts call.frameSet) ∧
      (db.manifests.find call.frameSet.uid ≠ none →
        ImageStream.persistStep db call = (db, .ok false)) := by
  have hmode := h.mode _ hmem
  have hvalid := h.valid hdrawn hcompleted hmem
  constructor
  · intro habsent
    refine hrecords.inserts hmode hvalid (h.ownMembers hcompleted hmem) habsent ?_
    intro other hother hstored
    exact h.apart hfresh hcompleted hmem hother fun huid => hstored (huid ▸ habsent)
  · intro hstored
    obtain ⟨existing, hexisting⟩ := Option.ne_none_iff_exists'.mp hstored
    obtain ⟨other, timestampMs, hother, hvalid', rfl⟩ :=
      hrecords.manifests existing (db.manifests.mem_of_find hexisting)
    have hsame := h.sameContent hcompleted hother hmem (db.manifests.key_of_find hexisting)
    have hverified : verifyExistingManifest (newManifest other timestampMs) call.frameSet = .ok () := by
      rw [hsame.field (verifyExistingManifest (newManifest other timestampMs)) fun _ => rfl]
      exact verify_newManifest hvalid' timestampMs
    exact persist_of_projected hmode hvalid hexisting hverified
      ((hrecords.find_projections_iff _).mpr hstored) call.createdAtMs call.nowMs

/-- What holds after each prefix of a run. -/
structure ArrivedInto (frameSets : List SynchronizedFrameSet) (arrived : List SynchronizedFrameSet)
    (db : Database) : Prop where
  records : db.Records (· ∈ frameSets)
  newestWaits : NewestWaits db
  manifestsOf : ManifestsOf db arrived

theorem ManifestsOf.find_ne_none_iff {db : Database} {frameSets : List SynchronizedFrameSet}
    (h : ManifestsOf db frameSets) (uid : String) :
    db.manifests.find uid ≠ none ↔ uid ∈ frameSets.map (·.uid) := by
  have hfst : ∀ entries entries' : List (String × ℤ),
      (∀ entry, entry ∈ entries ↔ entry ∈ entries') →
        (uid ∈ entries.map Prod.fst ↔ uid ∈ entries'.map Prod.fst) := by
    intro entries entries' hiff
    simp only [List.mem_map, hiff]
  have huids := hfst _ _ h
  rw [List.map_map, List.map_map] at huids
  rw [ne_eq, Table.find_eq_none_iff]
  refine Iff.trans ?_ huids
  simp

theorem Persistable.arrivedInto {frameSets : List SynchronizedFrameSet}
    (h : Persistable frameSets) (hfresh : (drawnRuns runId ops).Nodup)
    (hdrawn : ∀ drawn ∈ drawnRuns runId ops, drawn ≠ "")
    (hcompleted : ∀ frameSet ∈ frameSets, IsCompleted
      (emittedSets (newMatcher expectedCameras windowMs recentLimit runId) ops) frameSet)
    (calls : List (PersistCall
      (emittedSets (newMatcher expectedCameras windowMs recentLimit runId) ops)))
    (hmem : ∀ call ∈ calls, call.frameSet ∈ frameSets) :
    ArrivedInto frameSets (calls.map (·.frameSet))
      (Machine.after ImageStream.persistStep {} calls) := by
  have hdistinct : TimesDistinct (· ∈ frameSets) := fun first second hfirst hsecond =>
    timesDistinct_emitted expectedCameras windowMs recentLimit runId ops first second
      (hcompleted first hfirst) (hcompleted second hsecond)
  induction calls using List.reverseRecOn with
  | nil => exact ⟨Database.Records.empty _, newestWaits_empty, fun entry => Iff.rfl⟩
  | append_singleton calls call ih =>
      have hbefore := ih fun earlier hearlier => hmem earlier (List.mem_append_left _ hearlier)
      have hcall := hmem call (List.mem_append_right _ List.mem_cons_self)
      rw [Machine.after_snoc, List.map_append, List.map_singleton]
      generalize Machine.after ImageStream.persistStep {} calls = db at hbefore ⊢
      refine ⟨hbefore.records.persistStep call hcall,
        hbefore.newestWaits.persistStep hbefore.records hdistinct call hcall, ?_⟩
      obtain ⟨hinserts, hkept⟩ :=
        h.persistStep hfresh hdrawn hcompleted hbefore.records call hcall
      intro entry
      rw [List.map_append, List.mem_append, ← hbefore.manifestsOf entry, List.map_singleton,
        List.mem_singleton]
      by_cases habsent : db.manifests.find call.frameSet.uid = none
      · have hafter : (ImageStream.persistStep db call).1 =
            (planInsert db call.frameSet call.timestampMs).apply db :=
          congrArg Prod.fst (persist_of_inserts (hinserts habsent) call.createdAtMs call.nowMs)
        rw [hafter, rows_manifests_insert call.timestampMs habsent, List.map_append,
          List.mem_append, List.map_singleton, List.mem_singleton]
        rfl
      · rw [hkept habsent]
        refine ⟨Or.inl, fun hentry => hentry.elim id ?_⟩
        rintro rfl
        -- The manifest with this uid is that of the set.
        obtain ⟨existing, hexisting⟩ := Option.ne_none_iff_exists'.mp habsent
        obtain ⟨other, timestampMs, hother, -, rfl⟩ :=
          hbefore.records.manifests existing (db.manifests.mem_of_find hexisting)
        have huid := db.manifests.key_of_find hexisting
        have hsame := h.sameContent hcompleted hother hcall huid
        refine List.mem_map.mpr ⟨_, db.manifests.mem_of_find hexisting, ?_⟩
        rw [huid, hsame.field (·.synchronizedAtMs) fun _ => rfl]
        rfl

end Calls

/-- **Manifest order does not matter for eligibility.** Let sets of one matcher that can be
persisted together be persisted in any order, with repetitions. After every prefix each
has one manifest and one projection, only the newest is eligible, and all others are
superseded. A set that is persisted again changes nothing. -/
theorem newest_is_eligible (expectedCameras : List String) (windowMs : ℤ) (recentLimit : ℕ)
    (runId : String) {ops : List MatcherOp} (hfresh : (drawnRuns runId ops).Nodup)
    (hdrawn : ∀ drawn ∈ drawnRuns runId ops, drawn ≠ "")
    (calls : List (PersistCall
      (emittedSets (newMatcher expectedCameras windowMs recentLimit runId) ops)))
    (hpersistable : Persistable (calls.map (·.frameSet))) :
    (∀ first, first <+: calls →
      Standing (Machine.after persistStep {} first) (first.map (·.frameSet))) ∧
    ∀ first call rest, calls = first ++ call :: rest →
      let db := Machine.after persistStep {} first
      (call.frameSet.uid ∈ first.map (·.frameSet.uid) → persistStep db call = (db, .ok false)) ∧
      (call.frameSet.uid ∉ first.map (·.frameSet.uid) → (persistStep db call).2 = .ok true) := by
  have hcompleted := isCompleted_of_calls calls
  have hdistinct : TimesDistinct (· ∈ calls.map (·.frameSet)) := fun first second hfirst hsecond =>
    timesDistinct_emitted expectedCameras windowMs recentLimit runId ops first second
      (hcompleted first hfirst) (hcompleted second hsecond)
  have harrived : ∀ first, first <+: calls → ArrivedInto (calls.map (·.frameSet))
      (first.map (·.frameSet)) (Machine.after persistStep {} first) := fun first hfirst =>
    hpersistable.arrivedInto hfresh hdrawn hcompleted first fun call hcall =>
      List.mem_map_of_mem (hfirst.subset hcall)
  constructor
  · intro first hleads
    have hfirst := harrived first hleads
    exact hfirst.newestWaits.standing hfirst.records hdistinct hfirst.manifestsOf
  · rintro first call rest rfl
    have hfirst := harrived first (List.prefix_append first _)
    obtain ⟨hinserts, hkept⟩ := hpersistable.persistStep hfresh hdrawn hcompleted hfirst.records
      call (List.mem_map_of_mem (by simp))
    have hstored := hfirst.manifestsOf.find_ne_none_iff call.frameSet.uid
    rw [List.map_map] at hstored
    refine ⟨fun hmem => hkept (hstored.mpr hmem), fun hnot => ?_⟩
    have habsent := not_not.mp fun hne => hnot (hstored.mp hne)
    exact congrArg Prod.snd (persist_of_inserts (hinserts habsent) call.createdAtMs call.nowMs)

/-- After the set of the second session the one of the first session does not become
eligible. -/
theorem newest_is_eligible_late :
    Standing (Machine.after persistStep {} lateCalls) (lateCalls.map (·.frameSet)) ∧
      (lateCalls.map (·.frameSet.synchronizedAtMs)) = [2001, 1001] :=
  ⟨(newest_is_eligible ["left"] 50 20 "run-1"
    (show (drawnRuns "run-1" rotatingOps).Nodup by decide) (by decide) lateCalls
    persistable_lateCalls).1 lateCalls (List.prefix_refl _), by decide +kernel⟩

/-! ### Two cameras of one stream -/

/-- A frame of a device whose camera is named in its stream. -/
def streamFrame (deviceId : String) (cameraId : Option String) (sequence : ℤ) :
    SyncInputFrame where
  frameId := none
  deviceId := deviceId
  timestampMs := 1000
  sequence := some sequence
  contentType := "image/jpeg"
  imageBytes := [1]
  filePath := none
  sourceSessionId := some "a"
  cameraStreamId := (canonicalCameraStreamId deviceId cameraId).toOption
  sourceFrameUid := (canonicalCameraStreamId deviceId cameraId >>= fun cameraStreamId =>
    buildSourceFrameUid "a" cameraStreamId sequence).toOption
  contentDigest := some (sha256Bytes [1])
  identityMode := .v2

/-- The set of two devices whose cameras come out as one stream. -/
def sharedSets : List SynchronizedFrameSet :=
  emittedSets (newMatcher ["a/b", "a"] 50 20 "run-1")
    [.tryMatch
      ((SyncFrameBufferManager.addFrame
        { bufferSize := 120, bufferSize_pos := defaultBufferSize_pos }
        (streamFrame "a/b" none 1)).1.addFrame (streamFrame "a" (some "b") 2)).1
      (streamFrame "a" (some "b") 2).stored 1001 "run-2"]

/-- Persist that set once both members are archived. -/
def sharedCall : PersistCall sharedSets where
  frameSet := ((sharedSets.get ⟨0, by decide +kernel⟩).archived
    (buildBufferKey (streamFrame "a/b" none 1)) 1 "/archive/1.jpg").archived
      (buildBufferKey (streamFrame "a" (some "b") 2)) 2 "/archive/2.jpg"
  createdAtMs := none
  nowMs := 3000
  isEmitted := ⟨_, List.get_mem sharedSets _,
    (SynchronizedFrameSet.sameContent_archived _ _ _ _).trans
      (SynchronizedFrameSet.sameContent_archived _ _ _ _)⟩

/-- A set is refused if two of its members are of one camera stream. -/
theorem not_takes_of_shared_stream {db : Database} {frameSet : SynchronizedFrameSet}
    (habsent : db.manifests.find frameSet.uid = none)
    (h : ¬((sortedMembers frameSet).map fun frame => frame.cameraStreamId.getD "").Nodup) :
    ¬db.Takes frameSet := by
  intro htakes
  have hnodup := (htakes.fits habsent).cameras_nodup
  dsimp only [planInsert] at hnodup
  rw [List.map_map] at hnodup
  refine h (List.Nodup.of_map (fun cameraStreamId => (frameSet.uid, cameraStreamId)) ?_)
  rw [List.map_map]
  exact hnodup

theorem shared_stream_is_refused :
    sharedCall.frameSet.identityMode = .v2 ∧ sharedCall.frameSet.Durable ∧
      (sharedCall.frameSet.members.map (·.sourceFrameUid)).Nodup ∧
      ¬Standing (Machine.after persistStep {} [sharedCall]) [sharedCall.frameSet] := by
  have hdata : sharedCall.frameSet.identityMode = .v2 ∧ sharedCall.frameSet.Durable ∧
      (sharedCall.frameSet.members.map (·.sourceFrameUid)).Nodup ∧
      ¬((sortedMembers sharedCall.frameSet).map fun frame =>
        frame.cameraStreamId.getD "").Nodup := by
    decide +kernel
  obtain ⟨hmode, hdurable, hsources, hstreams⟩ := hdata
  refine ⟨hmode, hdurable, hsources, fun hstanding => ?_⟩
  obtain ⟨e, herror⟩ := persist_of_not_takes hmode
    (show ¬({} : Database).Takes sharedCall.frameSet from not_takes_of_shared_stream rfl hstreams)
    sharedCall.createdAtMs sharedCall.nowMs
  have hstep : (persistStep {} sharedCall).1 = {} := congrArg Prod.fst herror
  rw [Machine.after_cons, hstep, Machine.after_nil] at hstanding
  have hlength := hstanding.manifests.length_eq
  simp at hlength

end ImageStream
