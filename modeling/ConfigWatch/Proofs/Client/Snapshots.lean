import ConfigWatch.Proofs.Client.Answers
import ConfigWatch.Proofs.Client.Sittings

/-!
# What a session keeps

A read of a session repeats what the session holds, or fails, or adds one content to what it holds
and pins the version if none was pinned. So a session holds every content that it told, and a
content that it holds was the answer to a read at the version that it is pinned to.
-/

set_option autoImplicit false

namespace ConfigWatch

namespace Session

/-- Whether a read came to a good answer. -/
def isGood : Except Error Reply → Bool
  | .ok reply => reply.status.isOk
  | .error _ => false

/-- Whether a read came to a good answer without the server. -/
def Step.isGood : Step → Bool
  | .done outcome => Session.isGood outcome
  | .ask _ _ => false

/-- A document that was read before is answered by the session, and the client is left alone. -/
theorem beginRead_held {session : Session} {key : DocumentKey} {content : Content}
    (held : session.contents.get? key = some content) (client : Client) :
    session.beginRead client key = (.done (.ok ⟨.ok, some content⟩), session, client) := by
  rw [beginRead, held]

theorem conclude_steady {session : Session} {key : DocumentKey} {outcome : Except Error ReadReply}
    (bad : isGood (session.conclude key outcome).1 = false) :
    (session.conclude key outcome).2 = session := by
  cases outcome with
  | error cause => rfl
  | ok reply =>
    simp only [conclude, isGood] at bad
    simp only [conclude, absorb, bad, Bool.false_eq_true, if_false]

theorem beginRead_steady {session : Session} {client : Client} {key : DocumentKey}
    (bad : (session.beginRead client key).1.isGood = false) :
    (session.beginRead client key).2.1 = session := by
  unfold beginRead at bad ⊢
  split at bad
  · cases bad
  · split at bad
    · rfl
    · exact conclude_steady bad

theorem finishRead_steady {session : Session} {client : Client} {pending : PendingRead}
    {response : Except Error ReadResponse}
    (bad : isGood (session.finishRead client pending response).1 = false) :
    (session.finishRead client pending response).2.1 = session :=
  conclude_steady bad

/-- A later session with whatever an earlier one held. -/
structure Extends (before after : Session) : Prop where
  place : after.space = before.space
  pinned : ∀ version, before.pinned = some version → after.pinned = some version
  contents : ∀ key content, before.contents.get? key = some content →
    after.contents.get? key = some content

/-- How a session answers a read of a document: with what it holds, badly, or with a content that
it keeps from then on. -/
inductive Answers (known : Version → Content → Prop) (session : Session) (key : DocumentKey) :
    Except Error Reply → Session → Prop where
  | repeats {content : Content} : session.contents.get? key = some content →
      Answers known session key (.ok ⟨.ok, some content⟩) session
  | fails {cause : Error} : session.contents.get? key = none →
      Answers known session key (.error cause) session
  | refuses {status : ReplyStatus} : status.isOk = false → session.contents.get? key = none →
      Answers known session key (.ok ⟨status, none⟩) session
  | keeps {version : Version} {content : Content} : session.contents.get? key = none →
      (∀ pin, session.pinned = some pin → version = pin) → known version content →
      Answers known session key (.ok ⟨.ok, some content⟩)
        { session with
          pinned := some version
          contents := session.contents.insert key content }

theorem Answers.extends {known : Version → Content → Prop} {before after : Session}
    {key : DocumentKey} {outcome : Except Error Reply}
    (answers : before.Answers known key outcome after) : before.Extends after := by
  cases answers with
  | repeats | fails | refuses => exact ⟨rfl, fun _ => id, fun _ _ => id⟩
  | keeps absent pinned =>
    refine ⟨rfl, fun pin same => congrArg some (pinned pin same), fun other content held => ?_⟩
    rw [Table.get?_insert, if_neg]
    · exact held
    · rintro rfl
      rw [absent] at held
      cases held

/-- An answer that the client gave is kept by the session if it is good. -/
theorem conclude_answers {known : Version → Content → Prop} {session : Session}
    {key : DocumentKey} {outcome : Except Error ReadReply}
    (absent : session.contents.get? key = none)
    (given : ∀ reply, outcome = .ok reply → ∃ occurrence : Occurrence,
      occurrence.answer? = some (⟨session.space, key, session.pinned⟩, reply) ∧
        ∀ content, reply.content = some content → known reply.version content) :
    session.Answers known key (session.conclude key outcome).1
      (session.conclude key outcome).2 := by
  cases outcome with
  | error cause => exact .fails absent
  | ok reply =>
    obtain ⟨occurrence, answered, knows⟩ := given reply rfl
    have origin := Occurrence.origin answered
    obtain ⟨status, version, content, logs, sources⟩ := reply
    cases status with
    | ok =>
      obtain ⟨content, rfl⟩ := Option.isSome_iff_exists.mp (origin.complete.mp rfl)
      have pinned (pin : Version) (same : session.pinned = some pin) : version = pin :=
        origin.pinned same rfl
      have pin : session.pinned.getD version = version := by
        cases same : session.pinned with
        | none => rfl
        | some pin => exact (pinned pin same).symm
      simp only [conclude, absorb, ReplyStatus.isOk, if_true, pin]
      exact .keeps absent pinned (knows content rfl)
    | _ =>
      have untold : content = none := by
        cases content with
        | none => rfl
        | some content => cases origin.complete.mpr rfl
      subst untold
      exact .refuses rfl absent

/-- What a session has to say for a result: it holds what a good answer told, and is pinned to
the version that it was pinned to then. -/
inductive Accounts (session : Session) (result : Result) : Prop where
  | failed {cause : Error} : result.outcome = .error cause → Accounts session result
  | refused {status : ReplyStatus} : result.outcome = .ok ⟨status, none⟩ → status.isOk = false →
      Accounts session result
  | told {version : Version} {content : Content} : result.outcome = .ok ⟨.ok, some content⟩ →
      result.pinned = some version → session.pinned = some version →
      session.contents.get? result.key = some content → Accounts session result

theorem Extends.accounts {before after : Session} (extends_ : before.Extends after)
    {result : Result} (accounts : before.Accounts result) : after.Accounts result := by
  cases accounts with
  | failed outcome => exact .failed outcome
  | refused outcome bad => exact .refused outcome bad
  | told outcome then_ pinned held =>
    exact .told outcome then_ (extends_.pinned _ pinned) (extends_.contents _ _ held)

end Session

/-- A later result does not contradict an earlier one: a good one fixed the version, and the
answer to reads of its document. -/
def Session.Result.Follows (earlier later : Session.Result) : Prop :=
  Session.isGood earlier.outcome = true →
    later.pinned = earlier.pinned ∧ (later.key = earlier.key → later.outcome = earlier.outcome)

/-- What is known of a session that keeps what it was answered. -/
structure Sitting.Steady (known : NamespaceKey → DocumentKey → Version → Content → Prop)
    (space : NamespaceKey) (sitting : Sitting) : Prop where
  place : sitting.session.space = space
  waiting : ∀ pending, sitting.waiting = some pending → pending.space = space ∧
    pending.pinned = sitting.session.pinned ∧ sitting.session.contents.get? pending.key = none
  contents : ∀ key content, sitting.session.contents.get? key = some content →
    ∃ version, sitting.session.pinned = some version ∧ known space key version content
  results : ∀ result ∈ sitting.results, sitting.session.Accounts result
  sequence : sitting.results.Pairwise Session.Result.Follows

namespace Sitting.Steady

variable {known : NamespaceKey → DocumentKey → Version → Content → Prop} {space : NamespaceKey}
  {sitting : Sitting}

private theorem accounts {session after : Session} {key : DocumentKey}
    {outcome : Except Error Session.Reply}
    (contents : ∀ key content, session.contents.get? key = some content →
      ∃ version, session.pinned = some version ∧ known space key version content)
    (answers : session.Answers (known space key) key outcome after) :
    after.Accounts ⟨key, outcome, after.pinned⟩ := by
  cases answers with
  | fails _ => exact .failed rfl
  | refuses bad _ => exact .refused rfl bad
  | repeats held =>
    obtain ⟨version, pinned, _⟩ := contents key _ held
    exact .told rfl pinned pinned held
  | keeps _ _ _ =>
    refine .told rfl rfl rfl ?_
    rw [Table.get?_insert, if_pos rfl]

private theorem follows {session after : Session} {key : DocumentKey}
    {outcome : Except Error Session.Reply} {earlier : Session.Result}
    (accounts : session.Accounts earlier)
    (answers : session.Answers (known space key) key outcome after) :
    earlier.Follows ⟨key, outcome, after.pinned⟩ := by
  intro good
  cases accounts with
  | failed failed => rw [failed] at good; cases good
  | refused refused bad =>
    rw [refused, Session.isGood, bad] at good
    cases good
  | told told then_ pinned held =>
    refine ⟨(answers.extends.pinned _ pinned).trans then_.symm, ?_⟩
    rintro rfl
    cases answers with
    | repeats same =>
      rw [held] at same
      cases same
      exact told.symm
    | fails absent | refuses _ absent | keeps absent _ _ =>
      rw [held] at absent
      cases absent

theorem conclude (steady : sitting.Steady known space) {key : DocumentKey}
    {outcome : Except Error Session.Reply} {after : Session}
    (answers : sitting.session.Answers (known space key) key outcome after) :
    (sitting.conclude key outcome after).Steady known space where
  place := answers.extends.place.trans steady.place
  waiting _ waits := by cases waits
  contents other found here := by
    cases answers with
    | repeats | fails | refuses => exact steady.contents other found here
    | @keeps version _ _ pinned knows =>
      simp only [Sitting.conclude, Table.get?_insert] at here
      split at here
      · next same =>
        cases here
        exact ⟨version, rfl, same ▸ knows⟩
      · obtain ⟨pin, same, kept⟩ := steady.contents other found here
        exact ⟨version, rfl, (pinned pin same).symm ▸ kept⟩
  results result member := by
    rcases List.mem_append.mp member with old | new
    · exact answers.extends.accounts (steady.results result old)
    · obtain rfl := List.mem_singleton.mp new
      exact accounts steady.contents answers
  sequence := by
    refine List.pairwise_append.mpr ⟨steady.sequence, List.pairwise_singleton _ _, ?_⟩
    intro earlier old later new
    obtain rfl := List.mem_singleton.mp new
    exact follows (steady.results earlier old) answers

theorem begin (steady : sitting.Steady known space) {client : Client} {key : DocumentKey}
    (given : ∀ reply, sitting.session.contents.get? key = none →
      (client.beginRead space key sitting.session.pinned).1 = .done (.ok reply) →
      ∃ occurrence : Occurrence,
        occurrence.answer? = some (⟨space, key, sitting.session.pinned⟩, reply) ∧
          ∀ content, reply.content = some content → known space key reply.version content) :
    (sitting.begin client key).Steady known space := by
  unfold Sitting.begin Session.beginRead
  cases here : sitting.session.contents.get? key with
  | some content => exact steady.conclude (.repeats here)
  | none =>
    rw [steady.place]
    cases read : client.beginRead space key sitting.session.pinned with
    | mk step after =>
      cases step with
      | done outcome =>
        refine steady.conclude (Session.conclude_answers here (fun reply told => ?_))
        rw [steady.place]
        exact given reply here (by rw [read, told])
      | ask request pending =>
        refine ⟨steady.place, ?_, steady.contents, steady.results, steady.sequence⟩
        rintro other ⟨⟩
        simp only [Client.beginRead] at read
        split at read
        · cases read
        · split at read
          · cases read
          · cases read
            exact ⟨rfl, rfl, here⟩

theorem finish (steady : sitting.Steady known space) {pending : PendingRead}
    (waits : sitting.waiting = some pending) {client : Client}
    {response : Except Error ReadResponse}
    (given : ∀ reply, (client.finishRead pending response).1 = .ok reply →
      ∃ occurrence : Occurrence, occurrence.answer? = some (pending, reply) ∧
        ∀ content, reply.content = some content →
          known pending.space pending.key reply.version content) :
    (sitting.finish client pending response).Steady known space := by
  obtain ⟨rfl, pinned, absent⟩ := steady.waiting pending waits
  refine steady.conclude (Session.conclude_answers absent (fun reply told => ?_))
  rw [steady.place, ← pinned]
  exact given reply told

end Sitting.Steady

/-- Whatever is known of the answers that a client gives to reads is known of what a session of it
holds. -/
theorem Sits.steady {known : NamespaceKey → DocumentKey → Version → Content → Prop}
    {start client : Client} {space : NamespaceKey} {history : List Occurrence}
    {sitting : Sitting} (sits : Sits start space history client sitting)
    (knows : ∀ occurrence ∈ history, ∀ asked reply content,
      occurrence.answer? = some (asked, reply) → reply.content = some content →
        known asked.space asked.key reply.version content) :
    sitting.Steady known space := by
  induction sits with
  | opens =>
    exact ⟨rfl, fun _ waits => (by cases waits), fun _ _ here => (by cases here),
      fun _ member => (by cases member), .nil⟩
  | elsewhere act _ ih => exact ih (fun before member => knows before (by simp [member]))
  | @alone history client sitting key settled idle _ ih =>
    refine (ih knows).begin (fun reply absent read => ?_)
    rcases settled with held | closed
    · rw [absent] at held
      cases held
    · simp only [Client.beginRead, Client.ensureOpen, closed, if_true] at read
      cases read
  | @begins history client sitting key absent idle _ ih =>
    have steady := ih (fun before member => knows before (by simp [member]))
    refine steady.begin (fun reply _ read => ⟨⟨client, sitting.beginning key⟩, ?_⟩)
    have answered : Occurrence.answer? ⟨client, sitting.beginning key⟩ =
        some (⟨space, key, sitting.session.pinned⟩, reply) := by
      simp only [Sitting.beginning, Occurrence.answer?, steady.place, read]
    exact ⟨answered, fun content told => knows _ (by simp) _ _ content answered told⟩
  | @ends history client sitting pending response waits _ ih =>
    have steady := ih (fun before member => knows before (by simp [member]))
    refine steady.finish waits (fun reply read => ⟨⟨client, .finishRead pending response⟩, ?_⟩)
    have answered : Occurrence.answer? ⟨client, .finishRead pending response⟩ =
        some (pending, reply) := by
      simp only [Occurrence.answer?, read]
    exact ⟨answered, fun content told => knows _ (by simp) _ _ content answered told⟩
  | abandons _ ih =>
    obtain ⟨place, _, contents, results, sequence⟩ := ih knows
    exact ⟨place, fun _ waits => (by cases waits), contents, results, sequence⟩

end ConfigWatch
