/-
# What a connection answers

Responses come in any order and number. A credit that comes before the hello is accepted, or
before what was in flight is reconciled, ends the connection. Every other credit is answered
once: with the set that it has put in flight, or with the word that there is none.

The law is about the messages of one connection, response by response, and about its whole
queue.
-/

import ImageStream.Relay.Openings

namespace ImageStream

open Base LatestLive

namespace RelayClient

/-! ## Messages -/

/-- One response, with the state of the connection before and after it. -/
abbrev LoopExchange : Type := Exchange Connection ProcessorEnvelope Handling

/-- The messages that are put into the queue for a response. -/
def enqueued (e : LoopExchange) : List ProducerEnvelope :=
  e.after.relaying.outgoing.drop e.before.relaying.outgoing.length

theorem enqueued_eq {e : LoopExchange} {messages : List ProducerEnvelope}
    (h : e.after.relaying.outgoing = e.before.relaying.outgoing ++ messages) :
    enqueued e = messages := by
  unfold enqueued
  rw [h, List.drop_left]

/-! ## The hello before a credit -/

/-- A session comes of an acceptance in the past. If the connection is reconciled, then
nothing was in flight when the hello was accepted, or a complete reconciliation has come
since. -/
def AcceptedIn (past : List LoopExchange) (session : NegotiatedSession) (reconciled : Bool) :
    Prop :=
  ∃ before acceptance since accepted,
    past = before ++ acceptance :: since ∧
      acceptance.input = .helloAccepted accepted ∧ acceptance.output = .continued ∧
      session.processorInstanceId = accepted.processorInstanceId ∧
      session.streamEpoch = accepted.streamEpoch ∧
      (reconciled = true → acceptance.after.relaying.db.inFlight? = none ∨
        ∃ e ∈ since, ∃ response, e.input = .reconciliation response ∧
          response.complete = true ∧ e.output = .continued)

theorem AcceptedIn.snoc {past : List LoopExchange} {session : NegotiatedSession}
    {reconciled : Bool} (h : AcceptedIn past session reconciled) (e : LoopExchange) :
    AcceptedIn (past ++ [e]) session reconciled := by
  obtain ⟨before, acceptance, since, accepted, rfl, hinput, houtput, hinstance, hepoch, hcleared⟩ := h
  refine ⟨before, acceptance, since ++ [e], accepted, by simp, hinput, houtput, hinstance, hepoch,
    fun hreconciled => (hcleared hreconciled).imp_right ?_⟩
  rintro ⟨e', he', hreconciliation⟩
  exact ⟨e', List.mem_append_left _ he', hreconciliation⟩

/-- A reconciliation settles whether the connection is reconciled. -/
theorem AcceptedIn.reconciled {past : List LoopExchange} {session : NegotiatedSession}
    {reconciled : Bool} (h : AcceptedIn past session reconciled) {e : LoopExchange}
    {response : ReconciliationResponse} (hinput : e.input = .reconciliation response)
    (houtput : e.output = .continued) :
    AcceptedIn (past ++ [e]) session response.complete := by
  obtain ⟨before, acceptance, since, accepted, rfl, haccepted, hcontinued, hinstance, hepoch, -⟩ := h
  refine ⟨before, acceptance, since ++ [e], accepted, by simp, haccepted, hcontinued, hinstance,
    hepoch, fun hcomplete => Or.inr ?_⟩
  exact ⟨e, List.mem_append_right _ (List.mem_singleton_self e), response, hinput, hcomplete,
    houtput⟩

/-- Whether a credit is for the processor and the epoch of an accepted hello, and comes after
the reconciliation that the acceptance has asked for. -/
def Admitted (past : List LoopExchange) (credit : ProcessorCredit) : Prop :=
  ∃ session, AcceptedIn past session true ∧ Negotiated credit session

/-- The session of a connection comes of its past. -/
def Follows (past : List LoopExchange) (connection : Connection) : Prop :=
  ∀ session, connection.loop.session = some session →
    AcceptedIn past session connection.loop.reconciled

/-! ## Answers -/

section Answers

variable (env : Surroundings) (client : RelayClient)

/-- What may be put into the queue for a response. -/
inductive Answered (past : List LoopExchange) (e : LoopExchange) : List ProducerEnvelope → Prop
  | frameSet (credit : ProcessorCredit) (frameSet : CreditedFrameSet)
      (received : e.input = .credit credit) (handled : e.output = .continued)
      (scope : frameSet.creditScope = credit.scope) (admitted : Admitted past credit)
      (inFlight : InFlightKey e.after.relaying.db frameSet.key) :
      Answered past e [.frameSet frameSet]
  | noData (credit : ProcessorCredit) (noData : NoData) (received : e.input = .credit credit)
      (handled : e.output = .continued) (scope : noData.scope = credit.scope)
      (kept : e.after.relaying.db.inFlight? = e.before.relaying.db.inFlight?) :
      Answered past e [.noData noData]
  /-- The stop event is set, and what has been claimed for the credit is not sent. -/
  | shutdown (credit : ProcessorCredit) (received : e.input = .credit credit)
      (handled : e.output = .continued)
      (stopped : ShutdownBetween env e.before.relaying e.after.relaying) : Answered past e []
  /-- The handling raises. A credit that is rejected leaves no claim. -/
  | raised (error : RelayError) (ended : e.output = .raised error)
      (released : ∀ credit message, e.input = .credit credit → error = .creditRejected message →
        e.after.relaying.db.inFlight? = e.before.relaying.db.inFlight?) : Answered past e []
  /-- The loop is left, or has been left. -/
  | left (ended : e.output = .stopped ∨ e.output = .unread) : Answered past e []
  | silent (received : ∀ credit, e.input ≠ .credit credit) : Answered past e []
  | reconciliation (request : ReconciliationRequest)
      (received : ∀ credit, e.input ≠ .credit credit) :
      Answered past e [.reconciliation request]

/-- A credit does not make a connection retire what it has announced. -/
theorem envelopeStep_credit_ne_retired (opened : Opened) (connection : Connection)
    (credit : ProcessorCredit) :
    (envelopeStep env client opened connection (.credit credit)).2 ≠ .retired := by
  have hturn : Ensures (handleEnvelope env client opened connection.loop (.credit credit))
      connection.relaying (fun turned _ => turned ≠ .retired) fun _ _ => True := by
    unfold handleEnvelope
    apply Ensures.bind_iff.mpr
    apply observe_iff.mpr
    apply Ensures.ite
    · intro _ heq
      cases heq
    intro _
    cases connection.loop.session with
    | none =>
        apply Ensures.bind_iff.mpr
        exact Ensures.ofExcept_iff.mpr ⟨fun _ heq => (by cases heq), fun _ _ => trivial⟩
    | some session =>
        apply Ensures.ite
        · exact fun _ => trivial
        intro _
        apply Ensures.bind_iff.mpr
        unfold Ensures
        split
        · intro heq
          cases heq
        · trivial
  unfold envelopeStep
  cases connection.left with
  | some handling =>
      intro heq
      cases heq
  | none =>
      dsimp only
      split
      · intro heq
        cases heq
      · intro heq
        cases heq
      · rename_i hretired
        exact absurd rfl (hturn.ok hretired)
      · intro heq
        cases heq

variable {env client} {opened : Opened} {P : FrameSetKey → Prop} {past : List LoopExchange}
  {e : LoopExchange}

/-- The session of a connection keeps coming of its past. -/
theorem Follows.step (h : Follows past e.before)
    (heffect : EnvelopeEffect env opened P e.before e.input e.after e.output) :
    Follows (past ++ [e]) e.after := by
  obtain ⟨before, input, output, after⟩ := e
  dsimp only at h heffect ⊢
  cases heffect with
  | unread was => exact fun session hsession => (h session hsession).snoc _
  | stopped was effect => exact fun session hsession => (h session hsession).snoc _
  | retired was effect => exact fun session hsession => (h session hsession).snoc _
  | raised was failure => exact fun session hsession => (h session hsession).snoc _
  | continued was effect =>
      intro session hsession
      cases effect with
      | accepted first accepts =>
          obtain ⟨accepted, hinput, hinstance, hepoch⟩ := acceptHello_eq_ok accepts.accepted
          obtain rfl := Option.some.inj (accepts.session.symm.trans hsession)
          exact ⟨past, _, [], accepted, rfl, hinput, rfl, hinstance, hepoch,
            fun hreconciled => Or.inl (accepts.reconciled hreconciled)⟩
      | reconciled started response received quiets =>
          exact (h session hsession).reconciled received rfl
      | reported started received quiets => exact (h session hsession).snoc _
      | credited started ready credit received answer => exact (h session hsession).snoc _

/-- What a response does to a connection, it answers. -/
theorem answered_of_effect (hfollows : Follows past e.before)
    (heffect : EnvelopeEffect env opened P e.before e.input e.after e.output)
    (hretired : ∀ credit, e.input = .credit credit → e.output ≠ .retired) :
    ∃ messages, e.after.relaying.outgoing = e.before.relaying.outgoing ++ messages ∧
      Answered env past e messages := by
  obtain ⟨before, input, output, after⟩ := e
  dsimp only at hfollows heffect hretired ⊢
  cases heffect with
  | unread was => exact ⟨[], (List.append_nil _).symm, .left (Or.inr rfl)⟩
  | stopped was effect =>
      cases effect with
      | stopped idles => exact ⟨[], idles.advances.outgoing, .left (Or.inl rfl)⟩
  | retired was effect =>
      cases effect with
      | retired first idles =>
          exact ⟨[], idles.advances.outgoing, .silent fun credit hcredit =>
            hretired credit hcredit rfl⟩
  | raised was failure =>
      cases failure with
      | idle idles =>
          exact ⟨[], idles.advances.outgoing, .raised _ rfl fun _ _ _ _ => idles.inFlight⟩
      | quiet received quiets =>
          exact ⟨[], quiets.advances.outgoing, .silent received⟩
      | credit failure =>
          exact ⟨[], failure.advances.outgoing, .raised _ rfl fun _ message _ =>
            failure.released message⟩
  | continued was effect =>
      cases effect with
      | accepted first accepts =>
          obtain ⟨accepted, hinput, -⟩ := acceptHello_eq_ok accepts.accepted
          have hreceived : ∀ credit, input ≠ .credit credit := by
            intro credit hcredit
            cases hinput.symm.trans hcredit
          rcases accepts.advances with hadvances | ⟨request, hadvances⟩
          · exact ⟨_, hadvances.outgoing, .silent hreceived⟩
          · exact ⟨_, hadvances.outgoing, .reconciliation request hreceived⟩
      | reconciled started response received quiets =>
          refine ⟨[], quiets.advances.outgoing, .silent fun credit hcredit => ?_⟩
          cases received.symm.trans hcredit
      | reported started received quiets =>
          exact ⟨[], quiets.advances.outgoing, .silent received⟩
      | credited started ready credit received answer =>
          cases answer with
          | frameSet frameSet advances scope negotiated picked inFlight =>
              have hadmitted : Admitted past credit :=
                ⟨_, ready ▸ hfollows _ started, negotiated⟩
              exact ⟨_, advances.outgoing,
                .frameSet credit frameSet received rfl scope hadmitted inFlight⟩
          | noData noData advances scope kept =>
              exact ⟨_, advances.outgoing, .noData credit noData received rfl scope kept⟩
          | shutdown advances stopped key picked inFlight =>
              exact ⟨_, advances.outgoing, .shutdown credit received rfl stopped⟩

end Answers

/-! ## The connection -/

section Connections

variable (env : Surroundings) (client : RelayClient)

/-- The responses that the loop of a connection takes, which are none if it is not reached. -/
def loopHistory (s : Relaying) (envelopes : List ProcessorEnvelope) : List LoopExchange :=
  match openConnection env client s with
  | .ok (.opened opened) s' =>
      Machine.history (envelopeStep env client opened) (opened.start s') envelopes
  | _ => []

theorem loopHistory_of_opened {opened : Opened} {s s' : Relaying}
    (hopened : openConnection env client s = .ok (.opened opened) s')
    (envelopes : List ProcessorEnvelope) : loopHistory env client s envelopes =
      Machine.history (envelopeStep env client opened) (opened.start s') envelopes := by
  unfold loopHistory
  rw [hopened]

theorem follows_start (opened : Opened) (s : Relaying) : Follows [] (opened.start s) := by
  intro session hsession
  cases hsession

theorem answered_envelopeStep (opened : Opened) {past : List LoopExchange} {t : Connection}
    (envelope : ProcessorEnvelope) (h : Follows past t) :
    ∃ messages, (envelopeStep env client opened t envelope).1.relaying.outgoing =
        t.relaying.outgoing ++ messages ∧
      Answered env past (Machine.exchange (envelopeStep env client opened) t envelope) messages := by
  apply answered_of_effect (e := Machine.exchange (envelopeStep env client opened) t envelope) h
    (envelopeStep_cases env client opened t envelope)
  rintro credit hcredit
  obtain rfl : envelope = .credit credit := hcredit
  exact envelopeStep_credit_ne_retired env client opened t credit

/-- The queue after responses is the queue before, and what has been put for each of them. -/
theorem outgoing_after (opened : Opened) (start : Relaying) (envelopes : List ProcessorEnvelope) :
    (Machine.after (envelopeStep env client opened) (opened.start start) envelopes).relaying.outgoing
      = start.outgoing ++
        (Machine.history (envelopeStep env client opened) (opened.start start) envelopes).flatMap
          enqueued := by
  have hrun := Machine.history_invariant (envelopeStep env client opened)
    (I := fun past t => Follows past t ∧
      t.relaying.outgoing = start.outgoing ++ past.flatMap enqueued)
    (s := opened.start start) ⟨follows_start opened start, (List.append_nil _).symm⟩ ?_ envelopes
  · exact hrun.2
  rintro past t envelope ⟨hfollows, houtgoing⟩
  obtain ⟨messages, hmessages, -⟩ := answered_envelopeStep env client opened envelope hfollows
  have henqueued := enqueued_eq (e := Machine.exchange (envelopeStep env client opened) t envelope)
    hmessages
  refine ⟨hfollows.step (envelopeStep_cases env client opened t envelope), ?_⟩
  rw [List.flatMap_append, List.flatMap_singleton, henqueued, hmessages, houtgoing,
    List.append_assoc]

/-- The second state has at most a hello more in its queue, and the same set in flight. -/
structure Greets (s s' : Relaying) : Prop where
  queue : ∃ hello : Option ProducerHello,
    s'.outgoing = s.outgoing ++ hello.toList.map ProducerEnvelope.hello
  inFlight : s'.db.inFlight? = s.db.inFlight?

theorem Idles.greets {s s' : Relaying} (h : Idles s s') : Greets s s' :=
  ⟨⟨none, h.advances.outgoing⟩, h.inFlight⟩

theorem Announced.greets {snapshot : ClaimedFrameSet} {s s' : Relaying} {hello : ProducerHello}
    (h : Announced snapshot s s' hello) : Greets s s' :=
  ⟨⟨some hello, h.advances.outgoing⟩, h.inFlight⟩

theorem openConnection_greets : Action.Within Greets (openConnection env client) := by
  intro s
  apply (openConnection_spec env client s).imp
  · intro opening s' heffect
    cases heffect with
    | nothingEligible idles => exact idles.greets
    | sessionInactive idles => exact idles.greets
    | stopped snapshot hello announced => exact announced.greets
    | opened connection hello announced => exact announced.greets
  · intro _ s' hfailure
    cases hfailure with
    | idle idles => exact idles.greets
    | announced snapshot hello announced => exact announced.greets

/-- What a connection leaves comes of its loop without a change of what is in flight. -/
theorem closes_runConnection {s s' : Relaying} {opened : Opened} (responses : Responses)
    (hopened : openConnection env client s = .ok (.opened opened) s') :
    Idles (Machine.after (envelopeStep env client opened) (opened.start s')
      responses.envelopes).relaying (runConnection env client s responses).1 := by
  have hclosing := closeConnection_idles env (Machine.after (envelopeStep env client opened)
    (opened.start s') responses.envelopes).relaying
  unfold runConnection
  rw [hopened]
  dsimp only
  cases hclosed : closeConnection env (Machine.after (envelopeStep env client opened)
      (opened.start s') responses.envelopes).relaying with
  | ok _ s'' => exact hclosing.ok hclosed
  | error e s'' => exact hclosing.error hclosed

/-- The queue of a connection: at most a hello, and what has been put for the responses. -/
theorem outgoing_runConnection (s : Relaying) (responses : Responses) :
    ∃ hello : Option ProducerHello,
      (runConnection env client s responses).1.outgoing = s.outgoing ++
        hello.toList.map ProducerEnvelope.hello ++
        (loopHistory env client s responses.envelopes).flatMap enqueued := by
  have hopening := openConnection_greets env client s
  cases hopened : openConnection env client s with
  | error e s' =>
      obtain ⟨hello, hput⟩ := (hopening.error hopened).queue
      unfold runConnection loopHistory
      rw [hopened]
      exact ⟨hello, hput.trans (List.append_nil _).symm⟩
  | ok opening s' =>
      obtain ⟨hello, hput⟩ := (hopening.ok hopened).queue
      refine ⟨hello, ?_⟩
      cases opening with
      | opened opened =>
          rw [← hput, (closes_runConnection env client responses hopened).outgoing,
            outgoing_after env client opened s' responses.envelopes,
            loopHistory_of_opened env client hopened]
      | _ =>
          unfold runConnection loopHistory
          rw [hopened]
          exact hput.trans (List.append_nil _).symm

/-- The law of one connection: apart from its hello, its queue holds what it has put for the
responses, and each of them is answered as it may be. -/
structure AnswersCredits (s : Relaying) (responses : Responses) : Prop where
  queue : ∃ hello : Option ProducerHello,
    (runConnection env client s responses).1.outgoing = s.outgoing ++
      hello.toList.map ProducerEnvelope.hello ++
      (loopHistory env client s responses.envelopes).flatMap enqueued
  answers : ∀ past e rest, loopHistory env client s responses.envelopes = past ++ e :: rest →
    Answered env past e (enqueued e)

/-- **Every credit is answered once.** For every state, surroundings and responses, a frame
set in the queue of a connection answers one credit of the negotiated processor and epoch,
after the reconciliation, and is what is in flight. Every other credit that is handled is
answered by one `NoData`, and neither it nor a rejected credit leaves a claim in flight. -/
theorem answersCredits (s : Relaying) (responses : Responses) :
    AnswersCredits env client s responses := by
  constructor
  case queue => exact outgoing_runConnection env client s responses
  case answers =>
    intro past e rest hsplit
    unfold loopHistory at hsplit
    cases hopened : openConnection env client s with
    | error raised s' =>
        rw [hopened] at hsplit
        cases past <;> cases hsplit
    | ok opening s' =>
        rw [hopened] at hsplit
        cases opening with
        | opened opened =>
            refine Machine.law_of_invariant (envelopeStep env client opened)
              (L := fun past e => Answered env past e (enqueued e))
              (follows_start opened s') ?_ hsplit
            intro past t envelope hfollows
            obtain ⟨messages, hmessages, hanswered⟩ :=
              answered_envelopeStep env client opened envelope hfollows
            have henqueued := enqueued_eq
              (e := Machine.exchange (envelopeStep env client opened) t envelope) hmessages
            rw [henqueued]
            exact ⟨hanswered,
              hfollows.step (envelopeStep_cases env client opened t envelope)⟩
        | _ => cases past <;> cases hsplit

end Connections

end RelayClient

end ImageStream
