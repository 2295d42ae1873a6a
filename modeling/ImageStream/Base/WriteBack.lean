/-
# A shared record completed by snapshots

Several parties complete one shared record. A party registers: it adds its own part and
takes a snapshot of the whole. Some time later it writes this snapshot back, and with it
takes away whatever others have added in between.

A party's snapshot lacks everyone who registered after it, so a write by anyone but the
last party to register leaves the record incomplete, and from an incomplete record no
later party takes a complete snapshot. Hence the record is complete exactly when, at
every registration and at the end, the party that registered last was the last to write.
-/

import Mathlib.Data.Finset.Insert

namespace ImageStream.Base.WriteBack

universe u

/-- Who is in the record, and who was in it when each party registered. -/
structure Shared (ι : Type u) where
  content : Finset ι := ∅
  snapshot : ι → Option (Finset ι) := fun _ => none

inductive Event (ι : Type u)
  | register (party : ι)
  | writeBack (party : ι)
  | other

namespace Event

variable {ι : Type u}

def registers? : Event ι → Option ι
  | .register party => some party
  | _ => none

/-- A registration writes the record, too. -/
def writes? : Event ι → Option ι
  | .register party => some party
  | .writeBack party => some party
  | .other => none

end Event

variable {ι : Type u}

/-- The record after a party has added itself and taken its snapshot. -/
def Shared.register [DecidableEq ι] (s : Shared ι) (party : ι) : Shared ι where
  content := insert party s.content
  snapshot := Function.update s.snapshot party (some (insert party s.content))

@[simp]
theorem Shared.content_register [DecidableEq ι] (s : Shared ι) (party : ι) :
    (s.register party).content = insert party s.content := rfl

@[simp]
theorem Shared.snapshot_register_self [DecidableEq ι] (s : Shared ι) (party : ι) :
    (s.register party).snapshot party = some (insert party s.content) :=
  Function.update_self ..

theorem Shared.snapshot_register_of_ne [DecidableEq ι] (s : Shared ι) {party other : ι}
    (h : other ≠ party) : (s.register party).snapshot other = s.snapshot other :=
  Function.update_of_ne h ..

/-- What may happen to a shared record. A party registers once, and writes back what it
has taken. -/
inductive Step [DecidableEq ι] (s : Shared ι) : Event ι → Shared ι → Prop
  | register (party : ι) (fresh : s.snapshot party = none) :
      Step s (.register party) (s.register party)
  | writeBack (party : ι) (taken : Finset ι) (registered : s.snapshot party = some taken) :
      Step s (.writeBack party) { s with content := taken }
  | other : Step s .other s

/-- A run from an empty record. -/
inductive Run [DecidableEq ι] : List (Event ι) → Shared ι → Prop
  | start : Run [] {}
  | snoc {past : List (Event ι)} {event : Event ι} {s s' : Shared ι}
      (before : Run past s) (step : Step s event s') : Run (past ++ [event]) s'

/-! ## The last party -/

/-- The party that has registered last. -/
def lastRegistered (past : List (Event ι)) : Option ι :=
  (past.filterMap Event.registers?).getLast?

/-- The party that has written last. -/
def lastWriter (past : List (Event ι)) : Option ι :=
  (past.filterMap Event.writes?).getLast?

/-- Whether the party that has registered last has also written last. -/
def UpToDate (past : List (Event ι)) : Prop := lastWriter past = lastRegistered past

/-- Whether every registration has found the record up to date. -/
def Intact (past : List (Event ι)) : Prop :=
  ∀ before party since, past = before ++ .register party :: since → UpToDate before

/-- Whether the record has been up to date at every registration, and is so now. -/
def NothingLost (past : List (Event ι)) : Prop := Intact past ∧ UpToDate past

section Decide

instance upToDateDecidable [DecidableEq ι] (past : List (Event ι)) : Decidable (UpToDate past) :=
  inferInstanceAs (Decidable (lastWriter past = lastRegistered past))

/-- A registration by its place in the past. -/
theorem intact_iff_forall_lt {past : List (Event ι)} :
    Intact past ↔ ∀ n < past.length,
      (past[n]?.bind Event.registers?).isSome → UpToDate (past.take n) := by
  constructor
  · intro h n hlt hregisters
    have hget : past[n]? = some past[n] := List.getElem?_eq_getElem hlt
    rw [hget, Option.bind_some] at hregisters
    cases hevent : past[n] with
    | register party =>
        apply h (past.take n) party (past.drop (n + 1))
        rw [← hevent, List.getElem_cons_drop, List.take_append_drop]
    | writeBack party => rw [hevent] at hregisters; cases hregisters
    | other => rw [hevent] at hregisters; cases hregisters
  · rintro h before party since rfl
    have hlast := h before.length (by simp) (by simp [Event.registers?])
    rwa [List.take_left] at hlast

instance intactDecidable [DecidableEq ι] (past : List (Event ι)) : Decidable (Intact past) :=
  decidable_of_iff _ intact_iff_forall_lt.symm

instance nothingLostDecidable [DecidableEq ι] (past : List (Event ι)) :
    Decidable (NothingLost past) :=
  inferInstanceAs (Decidable (Intact past ∧ UpToDate past))

end Decide

section Snoc

variable (past : List (Event ι)) (party : ι)

@[simp]
theorem lastRegistered_register : lastRegistered (past ++ [.register party]) = some party := by
  simp [lastRegistered, Event.registers?]

@[simp]
theorem lastRegistered_writeBack :
    lastRegistered (past ++ [.writeBack party]) = lastRegistered past := by
  simp [lastRegistered, Event.registers?]

@[simp]
theorem lastRegistered_other : lastRegistered (past ++ [.other]) = lastRegistered past := by
  simp [lastRegistered, Event.registers?]

@[simp]
theorem lastWriter_register : lastWriter (past ++ [.register party]) = some party := by
  simp [lastWriter, Event.writes?]

@[simp]
theorem lastWriter_writeBack : lastWriter (past ++ [.writeBack party]) = some party := by
  simp [lastWriter, Event.writes?]

@[simp]
theorem lastWriter_other : lastWriter (past ++ [.other]) = lastWriter past := by
  simp [lastWriter, Event.writes?]

theorem intact_snoc {past : List (Event ι)} {event : Event ι} :
    Intact (past ++ [event]) ↔ Intact past ∧ ∀ party, event = .register party → UpToDate past := by
  constructor
  · intro h
    refine ⟨fun before party since hsplit => ?_, fun party hevent => ?_⟩
    · exact h before party (since ++ [event]) (by rw [hsplit]; simp)
    · exact h past party [] (by rw [hevent])
  · rintro ⟨hpast, hlast⟩ before party since hsplit
    rcases List.eq_nil_or_concat since with rfl | ⟨since, last, rfl⟩
    · obtain ⟨rfl, hevent⟩ := List.append_inj' hsplit rfl
      cases hevent
      exact hlast party rfl
    · rw [List.concat_eq_append, ← List.cons_append, ← List.append_assoc] at hsplit
      obtain ⟨rfl, -⟩ := List.append_inj' hsplit rfl
      exact hpast before party since rfl

/-- Before anyone registers nothing can have been lost. -/
theorem intact_of_lastRegistered_none {past : List (Event ι)} (h : lastRegistered past = none) :
    Intact past := by
  rintro before party since rfl
  simp [lastRegistered, Event.registers?] at h

end Snoc

/-! ## The invariant -/

/-- Whether everyone who has registered is there. -/
def Shared.Covers (s : Shared ι) (taken : Finset ι) : Prop :=
  ∀ party, s.snapshot party ≠ none → party ∈ taken

/-- What every run keeps. -/
structure Sound (past : List (Event ι)) (s : Shared ι) : Prop where
  idle : lastRegistered past = none → s = {} ∧ lastWriter past = none
  wrote : ∀ last, lastRegistered past = some last → ∃ writer, lastWriter past = some writer
  written : ∀ writer, lastWriter past = some writer → s.snapshot writer = some s.content
  known : ∀ party taken, s.snapshot party = some taken → ∀ other ∈ taken, s.snapshot other ≠ none
  latest : ∀ last, lastRegistered past = some last →
    ∃ taken, s.snapshot last = some taken ∧ (s.Covers taken ↔ Intact past)
  earlier : ∀ last, lastRegistered past = some last →
    ∀ party ≠ last, ∀ taken, s.snapshot party = some taken → last ∉ taken

variable {past : List (Event ι)} {s s' : Shared ι}

theorem sound_start : Sound [] ({} : Shared ι) where
  idle _ := ⟨rfl, rfl⟩
  wrote _ h := by cases h
  written _ h := by cases h
  known _ _ h := by cases h
  latest _ h := by cases h
  earlier _ h := by cases h

/-- The record is complete exactly when nothing has been lost. -/
theorem Sound.covers_content_iff (h : Sound past s) :
    s.Covers s.content ↔ NothingLost past := by
  cases hlast : lastRegistered past with
  | none =>
      obtain ⟨rfl, hwriter⟩ := h.idle hlast
      have hintact := intact_of_lastRegistered_none hlast
      exact ⟨fun _ => ⟨hintact, hwriter.trans hlast.symm⟩, fun _ party hparty => absurd rfl hparty⟩
  | some last =>
      obtain ⟨writer, hwriter⟩ := h.wrote last hlast
      obtain ⟨taken, htaken, hcovers⟩ := h.latest last hlast
      have hcontent := h.written writer hwriter
      by_cases hsame : writer = last
      · rw [hsame, htaken] at hcontent
        cases hcontent
        rw [hcovers]
        exact ⟨fun hintact => ⟨hintact, by rw [UpToDate, hwriter, hlast, hsame]⟩, And.left⟩
      · -- The last writer does not know the party that has registered last.
        have hmissing := h.earlier last hlast writer hsame s.content hcontent
        refine ⟨fun hall => absurd (hall last (by rw [htaken]; simp)) hmissing, fun hlost => ?_⟩
        have huptodate : lastWriter past = lastRegistered past := hlost.2
        rw [hwriter, hlast] at huptodate
        exact absurd (Option.some.inj huptodate) hsame

theorem Sound.content_known (h : Sound past s) {party : ι} (hparty : party ∈ s.content) :
    s.snapshot party ≠ none := by
  cases hlast : lastRegistered past with
  | none =>
      obtain ⟨rfl, -⟩ := h.idle hlast
      simp at hparty
  | some last =>
      obtain ⟨writer, hwriter⟩ := h.wrote last hlast
      exact h.known writer s.content (h.written writer hwriter) party hparty

theorem Sound.register [DecidableEq ι] (h : Sound past s) {party : ι}
    (fresh : s.snapshot party = none) :
    Sound (past ++ [.register party]) (s.register party) where
  idle hlast := by simp at hlast
  wrote _ _ := ⟨party, lastWriter_register past party⟩
  written writer hwriter := by
    rw [lastWriter_register] at hwriter
    cases hwriter
    exact s.snapshot_register_self party
  known other taken htaken member hmember := by
    have hkept : ∀ {x}, s.snapshot x ≠ none → (s.register party).snapshot x ≠ none := by
      intro x hx
      have hne : x ≠ party := fun heq => hx (heq ▸ fresh)
      rwa [s.snapshot_register_of_ne hne]
    by_cases hother : other = party
    · rw [hother, s.snapshot_register_self] at htaken
      cases htaken
      rcases Finset.mem_insert.mp hmember with rfl | hmember
      · simp
      · exact hkept (h.content_known hmember)
    · rw [s.snapshot_register_of_ne hother] at htaken
      exact hkept (h.known other taken htaken member hmember)
  latest last hlast := by
    rw [lastRegistered_register] at hlast
    cases hlast
    refine ⟨insert party s.content, s.snapshot_register_self party, ?_⟩
    have hcovers : (s.register party).Covers (insert party s.content) ↔ s.Covers s.content := by
      constructor
      · intro hall other hother
        have hne : other ≠ party := fun heq => hother (heq ▸ fresh)
        have hmember := hall other (by rwa [s.snapshot_register_of_ne hne])
        exact Finset.mem_of_mem_insert_of_ne hmember hne
      · intro hall other hother
        by_cases heq : other = party
        · exact heq ▸ Finset.mem_insert_self ..
        · rw [s.snapshot_register_of_ne heq] at hother
          exact Finset.mem_insert_of_mem (hall other hother)
    rw [hcovers, h.covers_content_iff, intact_snoc]
    exact and_congr_right fun _ => ⟨fun huptodate _ _ => huptodate, fun hall => hall party rfl⟩
  earlier last hlast other hother taken htaken := by
    rw [lastRegistered_register] at hlast
    cases hlast
    rw [s.snapshot_register_of_ne hother] at htaken
    exact fun hmember => h.known other taken htaken party hmember fresh

theorem Sound.writeBack (h : Sound past s) {party : ι} {taken : Finset ι}
    (registered : s.snapshot party = some taken) :
    Sound (past ++ [.writeBack party]) { s with content := taken } where
  idle hlast := by
    rw [lastRegistered_writeBack] at hlast
    obtain ⟨rfl, -⟩ := h.idle hlast
    cases registered
  wrote _ _ := ⟨party, lastWriter_writeBack past party⟩
  written writer hwriter := by
    rw [lastWriter_writeBack] at hwriter
    cases hwriter
    exact registered
  known := h.known
  latest last hlast := by
    rw [lastRegistered_writeBack] at hlast
    obtain ⟨snapshot, hsnapshot, hcovers⟩ := h.latest last hlast
    refine ⟨snapshot, hsnapshot, hcovers.trans ?_⟩
    rw [intact_snoc]
    exact ⟨fun hintact => ⟨hintact, fun _ heq => by cases heq⟩, And.left⟩
  earlier last hlast := by
    rw [lastRegistered_writeBack] at hlast
    exact h.earlier last hlast

theorem Sound.other (h : Sound past s) : Sound (past ++ [.other]) s where
  idle hlast := by
    rw [lastRegistered_other] at hlast
    rw [lastWriter_other]
    exact h.idle hlast
  wrote last hlast := by
    rw [lastRegistered_other] at hlast
    rw [lastWriter_other]
    exact h.wrote last hlast
  written writer hwriter := by
    rw [lastWriter_other] at hwriter
    exact h.written writer hwriter
  known := h.known
  latest last hlast := by
    rw [lastRegistered_other] at hlast
    obtain ⟨snapshot, hsnapshot, hcovers⟩ := h.latest last hlast
    refine ⟨snapshot, hsnapshot, hcovers.trans ?_⟩
    rw [intact_snoc]
    exact ⟨fun hintact => ⟨hintact, fun _ heq => by cases heq⟩, And.left⟩
  earlier last hlast := by
    rw [lastRegistered_other] at hlast
    exact h.earlier last hlast

theorem Sound.step [DecidableEq ι] (h : Sound past s) {event : Event ι} (hstep : Step s event s') :
    Sound (past ++ [event]) s' := by
  cases hstep with
  | register party fresh => exact h.register fresh
  | writeBack party taken registered => exact h.writeBack registered
  | other => exact h.other

/-! ## Every run -/

variable [DecidableEq ι]

theorem Run.sound (h : Run past s) : Sound past s := by
  induction h with
  | start => exact sound_start
  | snoc before step ih => exact ih.step step

/-- **Completeness of a shared record.** After every run everyone who has registered is
in the record if and only if nothing has been lost. -/
theorem Run.covers_content_iff (h : Run past s) : s.Covers s.content ↔ NothingLost past :=
  h.sound.covers_content_iff

/-- Only the party that has registered last has taken everyone. -/
theorem Run.unique_of_covers (h : Run past s) {party party' : ι} {taken taken' : Finset ι}
    (htaken : s.snapshot party = some taken) (htaken' : s.snapshot party' = some taken')
    (hcovers : s.Covers taken) (hcovers' : s.Covers taken') : party = party' := by
  cases hlast : lastRegistered past with
  | none =>
      obtain ⟨rfl, -⟩ := h.sound.idle hlast
      cases htaken
  | some last =>
      obtain ⟨snapshot, hsnapshot, -⟩ := h.sound.latest last hlast
      have hpresent : s.snapshot last ≠ none := by
        rw [hsnapshot]
        simp
      have hof : ∀ {x : ι} {content : Finset ι}, s.snapshot x = some content →
          s.Covers content → x = last := by
        intro x content hx hall
        by_contra hne
        exact h.sound.earlier last hlast x hne content hx (hall last hpresent)
      exact (hof htaken hcovers).trans (hof htaken' hcovers').symm

/-- What the record holds is the snapshot of some party, once someone has registered. -/
theorem Run.content_taken (h : Run past s) {party : ι} (hparty : s.snapshot party ≠ none) :
    ∃ writer, s.snapshot writer = some s.content := by
  cases hlast : lastRegistered past with
  | none =>
      obtain ⟨rfl, -⟩ := h.sound.idle hlast
      exact absurd rfl hparty
  | some last =>
      obtain ⟨writer, hwriter⟩ := h.sound.wrote last hlast
      exact ⟨writer, h.sound.written writer hwriter⟩

end ImageStream.Base.WriteBack
